import UcosProxy.ControlRequire

/-!
# Replies that come in time

`ctrl_wait_dyb_reply` clears `wait_sem` behind the sending of the request, so a
post that the reply made in between is forgotten and the wait runs its second out.
`inTime` is the history of the requests whose own reply was captured between their
sending and the end of their wait; a request may not stand there and return -1.

`ll_access_mtx` is what keeps the post of one request from the clear and the pend
of another caller. That it admits one caller at a time is proved here and not
assumed. Posts that earlier requests left behind only wake a waiter early.
-/

namespace UcosProxy.ControlTimeout

open Runs Semaphore ControlRequire

section model
variable {callers : Nat}

/-- The request that a caller has sent and may still be answered. -/
def Phase.asks : Phase → Option Nat
  | .sent _ request => some request
  | .waiting _ request => some request
  | _ => none

/-- The callers and the link, with the requests whose reply came in time. What came in time
is history. The law compares it with what the callers returned. -/
structure Watched (callers : Nat) where
  control : Control callers
  inTime : List Nat

/-- The request that a captured frame answers in time. -/
def answeredInTime (control : Control callers) : Event callers → List Nat
  | .capture answers frame =>
    if matchesWeb frame.hdr ∧ ∃ caller, Phase.asks (control.phase caller) = some answers then
      [answers]
    else []
  | _ => []

/-- A step of the callers or the link, watched. -/
def watchedStep (watched : Watched callers) (event : Event callers) : Option (Watched callers) :=
  (requireStep watched.control event).map fun after =>
    { control := after, inTime := watched.inTime ++ answeredInTime watched.control event }

/-- The callers behind `ctrl_web_control_comm_init`. -/
def watchedInit (callers room : Nat) : Watched callers where
  control := ctrlWebControlCommInit callers room
  inTime := []

/-- No request whose reply was captured in time returned the timeout. In time means before
the caller's second is over; the reply of another request is no loss. -/
def NoLostReply (watched : Watched callers) : Prop :=
  ∀ entry ∈ watched.control.returned, entry.2 = -1 → entry.1 ∉ watched.inTime

instance (watched : Watched callers) : Decidable (NoLostReply watched) :=
  inferInstanceAs (Decidable (∀ entry ∈ watched.control.returned,
    entry.2 = -1 → entry.1 ∉ watched.inTime))

/-- The request of a caller between its sending and the clear of `wait_sem`. -/
def Phase.unclear : Phase → Option Nat
  | .sent _ request => some request
  | _ => none

/-- No reply is captured while its caller stands between the sending of the request
and the clear of `wait_sem`. -/
def CapturesBehindClear (watched : Watched callers) : Event callers → Prop
  | .capture answers frame =>
    matchesWeb frame.hdr →
      ∀ caller, Phase.unclear (watched.control.phase caller) ≠ some answers
  | _ => True

instance (watched : Watched callers) : ∀ event, Decidable (CapturesBehindClear watched event)
  | .call _ _ => isTrue trivial
  | .advance _ => isTrue trivial
  | .timeout _ => isTrue trivial
  | .capture answers frame =>
    inferInstanceAs (Decidable (matchesWeb frame.hdr →
      ∀ caller, Phase.unclear (watched.control.phase caller) ≠ some answers))

/-- Whether a phase lies between the pend and the post of `ll_access_mtx`. -/
def Phase.holds : Phase → Bool
  | .locked _ | .sent _ _ | .waiting _ _ | .woken _ _ | .releasing _ _ _ => true
  | _ => false

/-- What a caller inside `ctrl_require` can rely on. Once its reply is counted as
in time, a post is there until the caller takes it. -/
def Phase.Listens (watched : Watched callers) : Phase → Prop
  | .sent _ request =>
    (request < watched.control.outbox.length ∧
      ∀ entry ∈ watched.control.returned, entry.1 ≠ request) ∧ request ∉ watched.inTime
  | .waiting _ request =>
    (request < watched.control.outbox.length ∧
      ∀ entry ∈ watched.control.returned, entry.1 ≠ request) ∧
      (request ∈ watched.inTime → 0 < watched.control.waitSem)
  | .woken _ request => request < watched.control.outbox.length
  | .releasing request ret _ =>
    request < watched.control.outbox.length ∧ (ret = -1 → request ∉ watched.inTime)
  | _ => True

/-- What holds between any two steps. The mutex enters because a caller that waits for it
may see the post of the one that holds it. -/
structure Listening (watched : Watched callers) : Prop where
  lost : NoLostReply watched
  mutex : watched.control.llAccessMtx ≤ 1
  alone : ∀ caller, Phase.holds (watched.control.phase caller) →
    watched.control.llAccessMtx = 0 ∧
      ∀ other, Phase.holds (watched.control.phase other) → other = caller
  returned : ∀ entry ∈ watched.control.returned, entry.1 < watched.control.outbox.length
  counted : ∀ request ∈ watched.inTime, request < watched.control.outbox.length
  phase : ∀ caller, Phase.Listens watched (watched.control.phase caller)

/-- A caller outside the mutex relies on nothing. -/
theorem listens_outside (watched : Watched callers) (phase : Phase)
    (outside : Phase.holds phase = false) : Phase.Listens watched phase := by
  cases phase with
  | idle => trivial
  | entering require => trivial
  | inspecting request => trivial
  | locked require => trivial
  | _ => cases outside

/-- A step of one caller while no other holds the mutex asks only for the caller's new
phase. -/
theorem listening_of_move {watched : Watched callers} (caller : Fin callers) (phase : Phase)
    (after : Watched callers)
    (only : ∀ other, Phase.holds (watched.control.phase other) → other = caller)
    (moved : after.control.phase = (watched.control.to caller phase).phase)
    (lost : NoLostReply after)
    (mutex : after.control.llAccessMtx ≤ 1)
    (held : Phase.holds phase → after.control.llAccessMtx = 0)
    (returned : ∀ entry ∈ after.control.returned, entry.1 < after.control.outbox.length)
    (counted : ∀ request ∈ after.inTime, request < after.control.outbox.length)
    (listens : Phase.Listens after phase) : Listening after where
  lost := lost
  mutex := mutex
  alone := by
    have here : ∀ other, Phase.holds (after.control.phase other) → other = caller := by
      intro other holds
      by_cases same : other = caller
      · exact same
      · rw [moved, to_phase_other same] at holds
        exact only other holds
    intro holder holds
    obtain rfl := here holder holds
    rw [moved, to_phase_same] at holds
    exact ⟨held holds, here⟩
  returned := returned
  counted := counted
  phase := by
    intro other
    rw [moved]
    by_cases same : other = caller
    · rw [same, to_phase_same]
      exact listens
    · rw [to_phase_other same]
      apply listens_outside
      apply Bool.eq_false_iff.mpr
      intro holds
      exact same (only other holds)

/-- A caller that moves outside the mutex disturbs nobody. -/
theorem Listening.passes {watched : Watched callers} (listening : Listening watched)
    (caller : Fin callers) (phase : Phase) (after : Control callers)
    (moved : after.phase = (watched.control.to caller phase).phase)
    (mutex : after.llAccessMtx = watched.control.llAccessMtx)
    (waitSem : after.waitSem = watched.control.waitSem)
    (outbox : after.outbox = watched.control.outbox)
    (returned : after.returned = watched.control.returned)
    (outside : Phase.holds phase = false) : Listening { watched with control := after } where
  lost := by
    intro entry member
    rw [returned] at member
    exact listening.lost entry member
  mutex := mutex ▸ listening.mutex
  alone := by
    have before : ∀ other, Phase.holds (after.phase other) →
        Phase.holds (watched.control.phase other) := by
      intro other holds
      rw [moved] at holds
      by_cases same : other = caller
      · rw [same, to_phase_same, outside] at holds
        cases holds
      · rwa [to_phase_other same] at holds
    intro holder holds
    obtain ⟨taken, only⟩ := listening.alone holder (before holder holds)
    exact ⟨mutex.trans taken, fun other held => only other (before other held)⟩
  returned := by
    change ∀ entry ∈ after.returned, entry.1 < after.outbox.length
    rw [returned, outbox]
    exact listening.returned
  counted := by
    change ∀ request ∈ watched.inTime, request < after.outbox.length
    rw [outbox]
    exact listening.counted
  phase := by
    intro other
    change Phase.Listens _ (after.phase other)
    rw [moved]
    by_cases same : other = caller
    · rw [same, to_phase_same]
      exact listens_outside _ _ outside
    · rw [to_phase_other same]
      have before := listening.phase other
      cases held : watched.control.phase other with
      | sent require request =>
        rw [held] at before
        simpa only [Phase.Listens, outbox, returned] using before
      | waiting require request =>
        rw [held] at before
        simpa only [Phase.Listens, outbox, returned, waitSem] using before
      | woken require request =>
        rw [held] at before
        simpa only [Phase.Listens, outbox] using before
      | releasing request ret inspects =>
        rw [held] at before
        simpa only [Phase.Listens, outbox] using before
      | _ => trivial

/-- The holder of the mutex is alone with it. -/
theorem Listening.only {watched : Watched callers} (listening : Listening watched)
    {caller : Fin callers} (holds : Phase.holds (watched.control.phase caller)) :
    ∀ other, Phase.holds (watched.control.phase other) → other = caller :=
  (listening.alone caller holds).2

/-- The holder of the mutex that goes on inside it, without a request or a result,
disturbs nobody. -/
theorem Listening.within {watched : Watched callers} (listening : Listening watched)
    (caller : Fin callers) (phase : Phase) (after : Control callers)
    (holds : Phase.holds (watched.control.phase caller))
    (moved : after.phase = (watched.control.to caller phase).phase)
    (mutex : after.llAccessMtx = watched.control.llAccessMtx)
    (outbox : after.outbox = watched.control.outbox)
    (returned : after.returned = watched.control.returned)
    (listens : Phase.Listens { watched with control := after } phase) :
    Listening { watched with control := after } := by
  have held := (listening.alone caller holds).1
  refine listening_of_move caller phase _ (listening.only holds) moved ?_ (mutex ▸ listening.mutex)
    (fun _ => mutex.trans held) ?_ ?_ listens
  · intro entry member
    exact listening.lost entry (returned ▸ member)
  · intro entry member
    change entry.1 < after.outbox.length
    rw [outbox]
    exact listening.returned entry (returned ▸ member)
  · intro request member
    change request < after.outbox.length
    rw [outbox]
    exact listening.counted request member

/-- A caller's own step loses no reply. -/
theorem Listening.advances {watched : Watched callers} (listening : Listening watched)
    (caller : Fin callers) (after : Control callers)
    (taken : advance watched.control caller = some after) :
    Listening { watched with control := after } := by
  have relies := listening.phase caller
  cases ControlRequire.advances taken with
  | enter require left phase pended =>
    have mutex := listening.mutex
    have empty : left = 0 := by omega
    have nobody : ∀ other, Phase.holds (watched.control.phase other) → other = caller := by
      intro other holds
      have held := (listening.alone other holds).1
      omega
    refine listening_of_move caller (.locked require) _ nobody rfl listening.lost ?_ ?_
      listening.returned listening.counted trivial
    · simp [Control.to, empty]
    · simp [Control.to, empty]
  | send require phase =>
    have holds : Phase.holds (watched.control.phase caller) = true := by rw [phase]; rfl
    have grown : ∀ request, request < watched.control.outbox.length →
        request < (watched.control.outbox ++ [ctrlSendDybFrame require.arg]).length := by
      intro request before
      rw [List.length_append]
      omega
    refine listening_of_move caller (.sent require watched.control.outbox.length) _
      (listening.only holds) rfl listening.lost listening.mutex
      (fun _ => (listening.alone caller holds).1)
      (fun entry member => grown _ (listening.returned entry member))
      (fun request member => grown _ (listening.counted request member)) ?_
    -- The number of the new request is larger than all that were counted or returned.
    refine ⟨⟨?_, ?_⟩, ?_⟩
    · simp [Control.to]
    · intro entry member
      exact Nat.ne_of_lt (listening.returned entry member)
    · intro member
      exact absurd (listening.counted _ member) (Nat.lt_irrefl _)
  | clear require request phase =>
    have holds : Phase.holds (watched.control.phase caller) = true := by rw [phase]; rfl
    rw [phase] at relies
    obtain ⟨own, unheard⟩ := relies
    refine listening.within caller (.waiting require request) _ holds rfl rfl rfl rfl ?_
    -- The clear forgets every post; none of them was the reply to this request.
    exact ⟨own, fun heard => absurd heard unheard⟩
  | wake require request left phase pended =>
    have holds : Phase.holds (watched.control.phase caller) = true := by rw [phase]; rfl
    rw [phase] at relies
    exact listening.within caller (.woken require request) _ holds rfl rfl rfl rfl relies.1.1
  | copy require request size phase reads =>
    have holds : Phase.holds (watched.control.phase caller) = true := by rw [phase]; rfl
    rw [phase] at relies
    refine listening.within caller (.releasing request 0 false) _ holds rfl rfl rfl rfl ?_
    exact ⟨relies, by simp⟩
  | keep require request phase reads =>
    have holds : Phase.holds (watched.control.phase caller) = true := by rw [phase]; rfl
    rw [phase] at relies
    refine listening.within caller (.releasing request 0 true) _ holds rfl rfl rfl rfl ?_
    exact ⟨relies, by simp⟩
  | release request ret inspects phase =>
    have holds : Phase.holds (watched.control.phase caller) = true := by rw [phase]; rfl
    have held := (listening.alone caller holds).1
    rw [phase] at relies
    obtain ⟨known, unheard⟩ := relies
    have outside : Phase.holds (if inspects then .inspecting request else .idle) = false := by
      cases inspects <;> rfl
    refine listening_of_move caller _ _ (listening.only holds) rfl ?_ ?_ ?_ ?_ listening.counted
      (listens_outside _ _ outside)
    · intro entry member
      rcases List.mem_append.mp member with earlier | new
      · exact listening.lost entry earlier
      · obtain rfl := List.mem_singleton.mp new
        exact unheard
    · simp [Control.to, held, osSemPost]
    · intro holding
      rw [outside] at holding
      cases holding
    · intro entry member
      rcases List.mem_append.mp member with earlier | new
      · exact listening.returned entry earlier
      · obtain rfl := List.mem_singleton.mp new
        exact known
  | inspect request phase => exact listening.passes caller .idle _ rfl rfl rfl rfl rfl rfl

/-- A wait that runs out was not answered in time: its post would still be there. -/
theorem Listening.expires {watched : Watched callers} (listening : Listening watched)
    (caller : Fin callers) (require : Require) (request : Nat)
    (phase : watched.control.phase caller = .waiting require request)
    (nothing : watched.control.waitSem = 0) :
    Listening { watched with control := watched.control.to caller (.releasing request (-1) false) } := by
  have holds : Phase.holds (watched.control.phase caller) = true := by rw [phase]; rfl
  have relies := listening.phase caller
  rw [phase] at relies
  obtain ⟨⟨known, _⟩, posted⟩ := relies
  refine listening.within caller (.releasing request (-1) false) _ holds rfl rfl rfl rfl ?_
  refine ⟨known, fun _ heard => ?_⟩
  exact Nat.ne_of_gt (posted heard) nothing

/-- A captured frame posts and adds at most the request that is being waited for. -/
theorem Listening.captures {watched : Watched callers} (listening : Listening watched)
    (answers : Nat) (frame : DybFrame) (sent : answers < watched.control.outbox.length)
    (behind : CapturesBehindClear watched (.capture answers frame)) :
    Listening
      { control := ctrlDybFrameCapture watched.control answers frame
        inTime := watched.inTime ++ answeredInTime watched.control (.capture answers frame) } := by
  by_cases matching : matchesWeb frame.hdr = true
  case neg => simpa [ctrlDybFrameCapture, answeredInTime, matching] using listening
  case pos =>
    simp only [ctrlDybFrameCapture, matching, if_true]
    have asked : ∀ request ∈ answeredInTime watched.control (.capture answers frame),
        request = answers ∧
          ∃ caller, Phase.asks (watched.control.phase caller) = some answers := by
      intro request member
      simp only [answeredInTime] at member
      split at member
      case isTrue found =>
        exact ⟨List.mem_singleton.mp member, found.2⟩
      case isFalse => cases member
    -- Whoever asks for the frame's request holds the mutex and waits.
    have waits : ∀ caller, Phase.asks (watched.control.phase caller) = some answers →
        ∃ require, watched.control.phase caller = .waiting require answers := by
      intro caller asks
      cases phase : watched.control.phase caller with
      | sent require request =>
        have cleared := behind matching caller
        rw [phase] at asks cleared
        exact absurd asks cleared
      | waiting require request =>
        rw [phase] at asks
        obtain rfl := Option.some.inj asks
        exact ⟨require, rfl⟩
      | _ =>
        rw [phase] at asks
        cases asks
    have elsewhere : ∀ holder request, Phase.holds (watched.control.phase holder) →
        (∀ require, watched.control.phase holder ≠ .waiting require answers) →
        request ∉ answeredInTime watched.control (.capture answers frame) := by
      intro holder request holds busy new
      obtain ⟨_, asker, asks⟩ := asked request new
      obtain ⟨require, waiting⟩ := waits asker asks
      have alone : asker = holder := listening.only holds asker (by rw [waiting]; rfl)
      exact busy require (alone ▸ waiting)
    refine ⟨?_, listening.mutex, listening.alone, listening.returned, ?_, ?_⟩
    · intro entry member expired counted
      rcases List.mem_append.mp counted with earlier | new
      · exact listening.lost entry member expired earlier
      · obtain ⟨same, caller, asks⟩ := asked _ new
        obtain ⟨require, phase⟩ := waits caller asks
        have relies := listening.phase caller
        rw [phase] at relies
        exact relies.1.2 entry member same
    · intro request counted
      rcases List.mem_append.mp counted with earlier | new
      · exact listening.counted request earlier
      · rw [(asked request new).1]
        exact sent
    · intro caller
      have relies := listening.phase caller
      change Phase.Listens _ (watched.control.phase caller)
      cases phase : watched.control.phase caller with
      | sent require request =>
        rw [phase] at relies
        refine ⟨relies.1, fun counted => ?_⟩
        rcases List.mem_append.mp counted with earlier | new
        · exact relies.2 earlier
        · exact elsewhere caller request (by rw [phase]; rfl) (by simp [phase]) new
      | waiting require request =>
        rw [phase] at relies
        exact ⟨relies.1, fun _ => osSemPost_pos _⟩
      | woken require request =>
        rw [phase] at relies
        exact relies
      | releasing request ret inspects =>
        rw [phase] at relies
        refine ⟨relies.1, fun expired counted => ?_⟩
        rcases List.mem_append.mp counted with earlier | new
        · exact relies.2 expired earlier
        · exact elsewhere caller request (by rw [phase]; rfl) (by simp [phase]) new
      | _ => trivial

/-- Every event keeps the callers listening under the guard. -/
theorem Listening.keeps (watched : Watched callers) (event : Event callers)
    (after : Watched callers) (listening : Listening watched)
    (behind : CapturesBehindClear watched event) (taken : watchedStep watched event = some after) :
    Listening after := by
  obtain ⟨control, stepped, rfl⟩ := Option.map_eq_some_iff.mp taken
  cases event with
  | call caller require =>
    obtain ⟨_, rfl⟩ := call_eq_some stepped
    simpa only [answeredInTime, List.append_nil] using
      listening.passes caller (.entering require) _ rfl rfl rfl rfl rfl rfl
  | advance caller =>
    simpa only [answeredInTime, List.append_nil] using listening.advances caller control stepped
  | timeout caller =>
    obtain ⟨require, request, phase, nothing, rfl⟩ := timeout_eq_some stepped
    simpa only [answeredInTime, List.append_nil] using
      listening.expires caller require request phase nothing
  | capture answers frame =>
    obtain ⟨sent, captured⟩ := Option.ite_none_right_eq_some.mp stepped
    obtain rfl := Option.some.inj captured
    exact listening.captures answers frame sent behind

theorem listening_init (room : Nat) : Listening (watchedInit callers room) := by
  constructor <;> simp [watchedInit, ctrlWebControlCommInit, NoLostReply, Phase.holds, Phase.Listens]

/-- No request returns the timeout once its reply was captured in time, in every run in
which no reply is captured between the sending of its request and the clear of `wait_sem`:
whatever was posted before, and whoever else calls. The excluded window is short, but it is
there: the request is on the wire before the semaphore is cleared. -/
theorem timely_reply_is_heard (room : Nat) (events : List (Event callers))
    (behind : Guarded watchedStep CapturesBehindClear (watchedInit callers room) events) :
    Always watchedStep NoLostReply (watchedInit callers room) events :=
  always_of_guarded Listening NoLostReply (fun _ listening => listening.lost) Listening.keeps
    (listening_init room) events behind

/-- One caller's request runs out while the other waits for the mutex; the late reply
wakes the other's write early, and the write's own reply comes behind its wait. -/
def lateReplies : List (Event 2) :=
  upToWait 0 sampleRead ++ [.call 1 sampleWrite, .timeout 0, .advance 0] ++
    [.advance 1, .advance 1, .advance 1, .capture 0 (sampleReply sampleRead 0 [1, 2, 3, 4]),
      .advance 1, .advance 1, .capture 1 (sampleReply sampleWrite 0 []), .advance 1, .advance 1] ++
    upToWait 0 sampleRead ++ [.capture 2 (sampleReply sampleRead 0 [1, 2, 3, 4]),
      .advance 0, .advance 0, .advance 0]

/-- The run rule on a run with a timeout, a late reply and a reply in time. -/
theorem lateReplies_are_heard :
    Always watchedStep NoLostReply (watchedInit 2 256) lateReplies ∧
      (run watchedStep (watchedInit 2 256) lateReplies).map
        (fun watched => (watched.control.returned, watched.inTime)) =
        some ([(0, -1), (1, 0), (2, 0)], [2]) :=
  ⟨timely_reply_is_heard 256 lateReplies (by decide), by decide⟩

/-- The guard cannot be dropped in any state: a reply that comes between the sending
and the clear is erased, and its request can time out. -/
theorem early_reply_can_be_lost (watched : Watched callers) (caller : Fin callers)
    (require : Require) (request : Nat) (frame : DybFrame)
    (phase : watched.control.phase caller = .sent require request)
    (sent : request < watched.control.outbox.length) (matching : matchesWeb frame.hdr = true) :
    ∃ after, run watchedStep watched [.capture request frame, .advance caller, .timeout caller,
        .advance caller] = some after ∧ ¬ NoLostReply after := by
  have asked : ∃ asker, Phase.asks (watched.control.phase asker) = some request :=
    ⟨caller, by rw [phase]; rfl⟩
  simp only [run, watchedStep, requireStep, sent, if_true, ctrlDybFrameCapture, matching, advance,
    phase, Option.map_some, osSemSet, Control.to, answeredInTime, asked, and_self]
  refine ⟨_, rfl, ?_⟩
  intro kept
  apply kept (request, -1)
  · simp
  · rfl
  · simp

/-- The board answers before the caller gets to clear `wait_sem`. -/
def earlyReply : List (Event 1) :=
  [.call soleCaller sampleRead, .advance soleCaller, .advance soleCaller,
    .capture 0 (sampleReply sampleRead 0 [1, 2, 3, 4]), .advance soleCaller, .timeout soleCaller,
    .advance soleCaller]

theorem earlyReply_lost :
    (run watchedStep (watchedInit 1 256) earlyReply).map
      (fun watched => (watched.control.returned, watched.inTime)) = some ([(0, -1)], [0]) := by
  decide

/-- Some run answers a request in time and lets it time out. -/
theorem timely_reply_is_not_always_heard :
    ¬ ∀ events : List (Event 1), Always watchedStep NoLostReply (watchedInit 1 256) events := by
  intro heard
  obtain ⟨final, completed, seen⟩ := Option.map_eq_some_iff.mp earlyReply_lost
  have holds : NoLostReply final := always_final (heard earlyReply) completed
  obtain ⟨returned, inTime⟩ := Prod.mk.inj seen
  apply holds (0, -1)
  · rw [returned]
    exact List.mem_singleton.mpr rfl
  · rfl
  · rw [inTime]
    exact List.mem_singleton.mpr rfl

end model

end UcosProxy.ControlTimeout
