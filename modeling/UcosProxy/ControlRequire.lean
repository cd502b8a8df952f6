import UcosProxy.Bytes
import UcosProxy.Runs
import UcosProxy.Semaphore

/-!
# Requests to the control board

`ctrl_require` sends one request over the serial link and waits a second for the
reply; `ctrl_dyb_frame_capture` runs in the link's own task and puts a matching
frame into the one slot `web_control->frame`. Both are taken apart at the points
where the other can run, so a run may hold any number of callers, timeouts, and
replies that come back in any order and any number of times.

Every request carries the same sequence number and the same thread id. The slot
therefore does not say which request its frame answers; that is the history
`answers`, which the code has no way to read. A reply answers a request that was
sent before it, and nothing else is asked of the link.

`hj_nm.h` is not part of the repository. Its header fields are kept as the
integers that the code stores and compares, apart from `cmdLen`, which is a
sixteen-bit count of payload bytes.
-/

namespace UcosProxy.ControlRequire

open Bytes Runs Semaphore

/-- `WEB_SEQ_FIELD` -/
def webSeqField : Nat := 0x33

/-- `WEB_THREADID_FIELD` -/
def webThreadidField : Nat := 0x333

/-- `struct web_dyb_arg`. It says what is asked of which board, and what is sent along with
the request. -/
structure WebDybArg where
  devId : BitVec 16
  board : BitVec 8
  intf : BitVec 8
  cmdId : BitVec 8
  cmdExt : BitVec 16
  buf : Option (List Byte)
  len : BitVec 16
deriving DecidableEq

/-- `struct hj_dyb_dump_frame_head`. A reply is recognised by two of its fields, which are
the same in every request, so nothing in it says which request it answers. -/
structure DybHead where
  dstDeviceid : Nat
  srcDeviceid : Nat
  protocolVer : Nat
  threadNetid : Nat
  boardIndex : Nat
  interfaceIndex : Nat
  serverSeq : Nat
  cmdExt : Nat
  cmdId : Nat
  cmdStatus : Nat
  cmdLen : BitVec 16
deriving DecidableEq

/-- A header and the `cmdLen` bytes behind it. A reply is one frame, however long its body
says that it is. -/
structure DybFrame where
  hdr : DybHead
  body : List Byte
deriving DecidableEq

/-- The frame that `ctrl_send_dyb_frame` hands to the link. -/
def ctrlSendDybFrame (arg : WebDybArg) : DybFrame where
  hdr :=
    { dstDeviceid := arg.devId.toNat
      srcDeviceid := 0
      protocolVer := 1
      threadNetid := webThreadidField
      boardIndex := arg.board.toNat
      interfaceIndex := arg.intf.toNat
      serverSeq := webSeqField
      cmdExt := arg.cmdExt.toNat % 256
      cmdId := arg.cmdId.toNat * 16 ||| arg.cmdExt.toNat % 4096 / 256
      cmdStatus := 0
      cmdLen := arg.len }
  body := (arg.buf.getD []).take arg.len.toNat

/-- One call of `ctrl_require`: a read copies `cp_size` bytes to its `cp_dst`, a
write passes NULL and looks at `cmdStatus` after the call. -/
structure Require where
  arg : WebDybArg
  cpSize : Option Nat
deriving DecidableEq

/-- Where a caller stands between two steps. They are cut at the semaphores, where another
caller or the link may come in between. -/
inductive Phase
  | idle
  | entering (require : Require)
  | locked (require : Require)
  | sent (require : Require) (request : Nat)
  | waiting (require : Require) (request : Nat)
  | woken (require : Require) (request : Nat)
  | releasing (request : Nat) (ret : Int) (inspects : Bool)
  | inspecting (request : Nat)
deriving DecidableEq

/-- What a caller takes out of the slot. A reply is either copied out or looked at for its
status, and the law is about both. -/
inductive Seen
  | copied (bytes : List Byte)
  | status (cmdStatus : Nat)
deriving DecidableEq

/-- A look into the slot: whose call it was, and which request the frame in the
slot answered. -/
structure Use where
  request : Nat
  answers : Option Nat
  seen : Seen
deriving DecidableEq

/-- `struct web_ctrl_comm` as far as requests touch it, with its callers.

`memory` is the memory from `frame.body` on. `outbox`, `answers`, `uses` and
`returned` are histories: the frames sent, a request's number being its place
there; the request that the frame in the slot answers; every use of the slot; and
the value each request's `ctrl_require` returned. -/
structure Control (callers : Nat) where
  llAccessMtx : Nat
  waitSem : Nat
  hdr : DybHead
  memory : List Byte
  phase : Fin callers → Phase
  outbox : List DybFrame
  answers : Option Nat
  uses : List Use
  returned : List (Nat × Int)

/-- What can happen between two steps of a caller: it starts a call or moves on,
its second runs out, or the link delivers a frame that answers a request. -/
inductive Event (callers : Nat)
  | call (caller : Fin callers) (require : Require)
  | advance (caller : Fin callers)
  | timeout (caller : Fin callers)
  | capture (answers : Nat) (frame : DybFrame)
deriving DecidableEq

section model
variable {callers : Nat}

/-- A header of zeros. -/
def zeroHead : DybHead := ⟨0, 0, 0, 0, 0, 0, 0, 0, 0, 0, 0⟩

/-- `ctrl_web_control_comm_init`, with `room` bytes from the frame's body on. -/
def ctrlWebControlCommInit (callers room : Nat) : Control callers where
  llAccessMtx := 1
  waitSem := 0
  hdr := zeroHead
  memory := List.replicate room 0
  phase := fun _ => .idle
  outbox := []
  answers := none
  uses := []
  returned := []

/-- Move one caller to another phase. -/
def Control.to (control : Control callers) (caller : Fin callers) (phase : Phase) :
    Control callers :=
  { control with phase := fun other => if other = caller then phase else control.phase other }

/-- Take something out of the slot for a request. -/
def Control.take (control : Control callers) (request : Nat) (seen : Seen) : Control callers :=
  { control with uses := control.uses ++ [⟨request, control.answers, seen⟩] }

/-- The filter of `ctrl_dyb_frame_capture`. -/
def matchesWeb (hdr : DybHead) : Bool :=
  webSeqField = hdr.serverSeq && webThreadidField = hdr.threadNetid

/-- `ctrl_dyb_frame_capture`: a matching frame overwrites the slot and posts. The
copy is as long as the frame says, whatever stands behind the body. -/
def ctrlDybFrameCapture (control : Control callers) (answers : Nat) (frame : DybFrame) :
    Control callers :=
  if matchesWeb frame.hdr then
    { control with
      hdr := frame.hdr
      memory := overwrite control.memory 0 (frame.body.take frame.hdr.cmdLen.toNat)
      answers := some answers
      waitSem := osSemPost control.waitSem }
  else control

/-- The next step of a caller inside `ctrl_require`, or of `web_write_*` behind it. -/
def advance (control : Control callers) (caller : Fin callers) : Option (Control callers) :=
  match control.phase caller with
  | .idle => none
  | .entering require =>
    (osSemPend control.llAccessMtx).map fun left =>
      { control with llAccessMtx := left }.to caller (.locked require)
  | .locked require =>
    some <| { control with outbox := control.outbox ++ [ctrlSendDybFrame require.arg] }.to caller
      (.sent require control.outbox.length)
  | .sent require request =>
    some <| { control with waitSem := osSemSet control.waitSem 0 }.to caller
      (.waiting require request)
  | .waiting require request =>
    (osSemPend control.waitSem).map fun left =>
      { control with waitSem := left }.to caller (.woken require request)
  | .woken require request =>
    match require.cpSize with
    | some size =>
      some <| (control.take request (.copied (control.memory.take size))).to caller
        (.releasing request 0 false)
    | none => some <| control.to caller (.releasing request 0 true)
  | .releasing request ret inspects =>
    some <|
      { control with
        llAccessMtx := osSemPost control.llAccessMtx
        returned := control.returned ++ [(request, ret)] }.to caller
      (if inspects then .inspecting request else .idle)
  | .inspecting request =>
    some <| (control.take request (.status control.hdr.cmdStatus)).to caller .idle

/-- One event. A wait ends in a timeout only while nothing was posted, and a frame
answers a request that was sent. -/
def requireStep (control : Control callers) : Event callers → Option (Control callers)
  | .call caller require =>
    match control.phase caller with
    | .idle => some (control.to caller (.entering require))
    | _ => none
  | .advance caller => advance control caller
  | .timeout caller =>
    match control.phase caller with
    | .waiting _ request =>
      if control.waitSem = 0 then some (control.to caller (.releasing request (-1) false)) else none
    | _ => none
  | .capture answers frame =>
    if answers < control.outbox.length then some (ctrlDybFrameCapture control answers frame)
    else none

@[simp] theorem to_phase_same (control : Control callers) (caller : Fin callers) (phase : Phase) :
    (control.to caller phase).phase caller = phase := if_pos rfl

theorem to_phase_other {control : Control callers} {caller other : Fin callers} {phase : Phase}
    (others : other ≠ caller) : (control.to caller phase).phase other = control.phase other :=
  if_neg others

/-! ## What a step can do -/

/-- The steps of a caller inside `ctrl_require` or behind it: where it stood, and the
state behind. -/
inductive Advances (control : Control callers) (caller : Fin callers) : Control callers → Prop
  | enter (require : Require) (left : Nat) (phase : control.phase caller = .entering require)
      (pended : control.llAccessMtx = left + 1) :
      Advances control caller ({ control with llAccessMtx := left }.to caller (.locked require))
  | send (require : Require) (phase : control.phase caller = .locked require) :
      Advances control caller
        ({ control with outbox := control.outbox ++ [ctrlSendDybFrame require.arg] }.to caller
          (.sent require control.outbox.length))
  | clear (require : Require) (request : Nat)
      (phase : control.phase caller = .sent require request) :
      Advances control caller
        ({ control with waitSem := osSemSet control.waitSem 0 }.to caller
          (.waiting require request))
  | wake (require : Require) (request left : Nat)
      (phase : control.phase caller = .waiting require request)
      (pended : control.waitSem = left + 1) :
      Advances control caller ({ control with waitSem := left }.to caller (.woken require request))
  | copy (require : Require) (request size : Nat)
      (phase : control.phase caller = .woken require request)
      (reads : require.cpSize = some size) :
      Advances control caller
        ((control.take request (.copied (control.memory.take size))).to caller
          (.releasing request 0 false))
  | keep (require : Require) (request : Nat)
      (phase : control.phase caller = .woken require request) (reads : require.cpSize = none) :
      Advances control caller (control.to caller (.releasing request 0 true))
  | release (request : Nat) (ret : Int) (inspects : Bool)
      (phase : control.phase caller = .releasing request ret inspects) :
      Advances control caller
        ({ control with
            llAccessMtx := osSemPost control.llAccessMtx
            returned := control.returned ++ [(request, ret)] }.to caller
          (if inspects then .inspecting request else .idle))
  | inspect (request : Nat) (phase : control.phase caller = .inspecting request) :
      Advances control caller
        ((control.take request (.status control.hdr.cmdStatus)).to caller .idle)

/-- A caller's step that was taken is one of these. -/
theorem advances {control after : Control callers} {caller : Fin callers}
    (taken : advance control caller = some after) : Advances control caller after := by
  unfold advance at taken
  cases phase : control.phase caller with
  | idle => simp [phase] at taken
  | entering require =>
    simp only [phase] at taken
    obtain ⟨left, pended, rfl⟩ := Option.map_eq_some_iff.mp taken
    exact .enter require left phase ((osSemPend_eq_some_iff _ _).mp pended)
  | locked require =>
    simp only [phase] at taken
    obtain rfl := Option.some.inj taken
    exact .send require phase
  | sent require request =>
    simp only [phase] at taken
    obtain rfl := Option.some.inj taken
    exact .clear require request phase
  | waiting require request =>
    simp only [phase] at taken
    obtain ⟨left, pended, rfl⟩ := Option.map_eq_some_iff.mp taken
    exact .wake require request left phase ((osSemPend_eq_some_iff _ _).mp pended)
  | woken require request =>
    simp only [phase] at taken
    cases reads : require.cpSize with
    | some size =>
      simp only [reads] at taken
      obtain rfl := Option.some.inj taken
      exact .copy require request size phase reads
    | none =>
      simp only [reads] at taken
      obtain rfl := Option.some.inj taken
      exact .keep require request phase reads
  | releasing request ret inspects =>
    simp only [phase] at taken
    obtain rfl := Option.some.inj taken
    exact .release request ret inspects phase
  | inspecting request =>
    simp only [phase] at taken
    obtain rfl := Option.some.inj taken
    exact .inspect request phase

/-- Only an idle caller begins a call. -/
theorem call_eq_some {control after : Control callers} {caller : Fin callers} {require : Require}
    (taken : requireStep control (.call caller require) = some after) :
    control.phase caller = .idle ∧ after = control.to caller (.entering require) := by
  simp only [requireStep] at taken
  split at taken
  case h_1 idle => exact ⟨idle, (Option.some.inj taken).symm⟩
  case h_2 => cases taken

/-- Only a waiting caller's second runs out, and only while nothing is posted. -/
theorem timeout_eq_some {control after : Control callers} {caller : Fin callers}
    (taken : requireStep control (.timeout caller) = some after) :
    ∃ require request, control.phase caller = .waiting require request ∧ control.waitSem = 0 ∧
      after = control.to caller (.releasing request (-1) false) := by
  simp only [requireStep] at taken
  split at taken
  case h_1 require request phase =>
    obtain ⟨nothing, expired⟩ := Option.ite_none_right_eq_some.mp taken
    exact ⟨require, request, phase, nothing, (Option.some.inj expired).symm⟩
  case h_2 => cases taken

/-! ## Whose reply is used -/

/-- Every use of the slot saw the reply to the request it was for. `uses` is a history, so
it is asked of every look that was ever taken, and not of the last one. -/
def OwnReplies (control : Control callers) : Prop :=
  ∀ use ∈ control.uses, use.answers = some use.request

instance (control : Control callers) : Decidable (OwnReplies control) :=
  inferInstanceAs (Decidable (∀ use ∈ control.uses, use.answers = some use.request))

/-- The request whose reply a caller still has to take out of the slot. -/
def Phase.awaits : Phase → Option Nat
  | .waiting _ request => some request
  | .woken _ request => some request
  | .releasing request _ inspects => if inspects then some request else none
  | .inspecting request => some request
  | _ => none

/-- A matching frame is captured only as the reply to the request that a caller
awaits, if a caller awaits one. -/
def CapturesOwn (control : Control callers) : Event callers → Prop
  | .capture answers frame =>
    matchesWeb frame.hdr → ∀ caller, ∀ request ∈ (control.phase caller).awaits, answers = request
  | _ => True

instance (control : Control callers) : ∀ event, Decidable (CapturesOwn control event)
  | .call _ _ => isTrue trivial
  | .advance _ => isTrue trivial
  | .timeout _ => isTrue trivial
  | .capture answers frame =>
    inferInstanceAs (Decidable (matchesWeb frame.hdr →
      ∀ caller, ∀ request ∈ (control.phase caller).awaits, answers = request))

/-- The slot holds the awaited reply from the moment on that its waiter can see it:
while it still waits, that is once something was posted. -/
def Phase.Answered (waitSem : Nat) (answers : Option Nat) : Phase → Prop
  | .waiting _ request => 0 < waitSem → answers = some request
  | phase => ∀ request ∈ phase.awaits, answers = some request

/-- What holds between any two steps. Beside the uses it follows each caller: behind a post
of its own reply the slot holds that reply until the caller has looked. -/
structure Owned (control : Control callers) : Prop where
  uses : OwnReplies control
  slot : ∀ caller, (control.phase caller).Answered control.waitSem control.answers

/-- A waiter's post is only forgotten or taken, so a smaller count asks less. -/
theorem Phase.Answered.fewer {phase : Phase} {waitSem left : Nat} {answers : Option Nat}
    (answered : phase.Answered waitSem answers) (fewer : left ≤ waitSem) :
    phase.Answered left answers := by
  cases phase with
  | waiting require request =>
    intro posted
    exact answered (Nat.lt_of_lt_of_le posted fewer)
  | _ => exact answered

/-- A step of one caller that uses nothing and leaves the slot alone asks only for
the caller's new phase. -/
theorem Owned.moves {control after : Control callers} (owned : Owned control)
    (caller : Fin callers) (phase : Phase)
    (moved : after.phase = (control.to caller phase).phase) (uses : after.uses = control.uses)
    (answers : after.answers = control.answers) (fewer : after.waitSem ≤ control.waitSem)
    (answered : phase.Answered after.waitSem control.answers) : Owned after where
  uses := by
    intro use member
    rw [uses] at member
    exact owned.uses use member
  slot := by
    intro other
    rw [moved, answers]
    by_cases same : other = caller
    · rw [same, to_phase_same]
      exact answered
    · rw [to_phase_other same]
      exact (owned.slot other).fewer fewer

/-- A step of one caller into a phase that awaits nothing. -/
theorem Owned.rests {control after : Control callers} (owned : Owned control)
    (caller : Fin callers) (phase : Phase)
    (moved : after.phase = (control.to caller phase).phase) (uses : after.uses = control.uses)
    (answers : after.answers = control.answers) (fewer : after.waitSem ≤ control.waitSem)
    (nothing : phase.awaits = none) : Owned after := by
  refine owned.moves caller phase moved uses answers fewer ?_
  cases phase with
  | waiting require request => cases nothing
  | _ =>
    intro request awaited
    rw [nothing] at awaited
    cases awaited

/-- Taking the awaited reply out of the slot. -/
theorem Owned.takes {control : Control callers} (owned : Owned control) (request : Nat) (seen : Seen)
    (answers : control.answers = some request) : Owned (control.take request seen) where
  uses := by
    intro use member
    rcases List.mem_append.mp member with earlier | new
    · exact owned.uses use earlier
    · obtain rfl := List.mem_singleton.mp new
      exact answers
  slot := owned.slot

/-- A caller's own step keeps the slot answered. -/
theorem Owned.advances {control after : Control callers} (owned : Owned control)
    (caller : Fin callers) (taken : advance control caller = some after) : Owned after := by
  have slot := owned.slot caller
  cases ControlRequire.advances taken with
  | enter require left phase pended => exact owned.rests caller _ rfl rfl rfl (Nat.le_refl _) rfl
  | send require phase => exact owned.rests caller _ rfl rfl rfl (Nat.le_refl _) rfl
  | clear require request phase =>
    -- The clear forgets every post, so the waiter has seen nothing yet.
    refine owned.moves caller _ rfl rfl rfl (Nat.zero_le _) ?_
    intro posted
    exact absurd posted (Nat.lt_irrefl 0)
  | wake require request left phase pended =>
    have answers : control.answers = some request := by
      rw [phase] at slot
      apply slot
      omega
    refine owned.moves caller _ rfl rfl rfl (by simp [Control.to, pended]) ?_
    simpa [Phase.Answered, Phase.awaits] using answers
  | copy require request size phase reads =>
    have answers : control.answers = some request := by
      rw [phase] at slot
      exact slot request rfl
    exact (owned.takes request _ answers).rests caller _ rfl rfl rfl (Nat.le_refl _) rfl
  | keep require request phase reads =>
    have answers : control.answers = some request := by
      rw [phase] at slot
      exact slot request rfl
    refine owned.moves caller _ rfl rfl rfl (Nat.le_refl _) ?_
    simpa [Phase.Answered, Phase.awaits] using answers
  | release request ret inspects phase =>
    refine owned.moves caller _ rfl rfl rfl (Nat.le_refl _) ?_
    rw [phase] at slot
    cases inspects with
    | false => simp [Phase.Answered, Phase.awaits]
    | true => exact slot
  | inspect request phase =>
    have answers : control.answers = some request := by
      rw [phase] at slot
      exact slot request rfl
    exact (owned.takes request _ answers).rests caller _ rfl rfl rfl (Nat.le_refl _) rfl

/-- A captured frame keeps the slot answered when it answers what is awaited. -/
theorem Owned.captures {control : Control callers} (owned : Owned control) (answers : Nat)
    (frame : DybFrame) (own : CapturesOwn control (.capture answers frame)) :
    Owned (ctrlDybFrameCapture control answers frame) := by
  unfold ctrlDybFrameCapture
  split
  case isFalse => exact owned
  case isTrue matching =>
    refine ⟨owned.uses, ?_⟩
    intro caller
    have awaited := own matching caller
    change (control.phase caller).Answered _ (some answers)
    cases phase : control.phase caller with
    | waiting require request =>
      rw [phase] at awaited
      intro _
      rw [awaited request rfl]
    | _ =>
      rw [phase] at awaited
      intro request member
      rw [awaited request member]

/-- Every event keeps the slot answered under the guard. -/
theorem Owned.keeps (control : Control callers) (event : Event callers) (after : Control callers)
    (owned : Owned control) (own : CapturesOwn control event)
    (taken : requireStep control event = some after) : Owned after := by
  cases event with
  | call caller require =>
    obtain ⟨_, rfl⟩ := call_eq_some taken
    exact owned.rests caller _ rfl rfl rfl (Nat.le_refl _) rfl
  | advance caller => exact owned.advances caller taken
  | timeout caller =>
    obtain ⟨require, request, _, _, rfl⟩ := timeout_eq_some taken
    exact owned.rests caller _ rfl rfl rfl (Nat.le_refl _) rfl
  | capture answers frame =>
    obtain ⟨_, captured⟩ := Option.ite_none_right_eq_some.mp taken
    obtain rfl := Option.some.inj captured
    exact owned.captures answers frame own

theorem owned_init (room : Nat) : Owned (ctrlWebControlCommInit callers room) where
  uses := by simp [OwnReplies, ctrlWebControlCommInit]
  slot := by simp [ctrlWebControlCommInit, Phase.Answered, Phase.awaits]

/-- A reply is used by its own request alone, in every run in which no frame that answers
another request is captured between a caller's clear of `wait_sem` and its last look into
the slot. Late replies at any other time do no harm. The clear of `wait_sem` is the point
that counts, because a post from before it is thrown away with everything that led to it. -/
theorem replies_are_own (room : Nat) (events : List (Event callers))
    (own : Guarded requireStep CapturesOwn (ctrlWebControlCommInit callers room) events) :
    Always requireStep OwnReplies (ctrlWebControlCommInit callers room) events :=
  always_of_guarded Owned OwnReplies (fun _ owned => owned.uses) Owned.keeps (owned_init room)
    events own

/-- A call up to the pend on `wait_sem`. -/
def upToWait (caller : Fin callers) (require : Require) : List (Event callers) :=
  [.call caller require, .advance caller, .advance caller, .advance caller]

/-- An undisturbed read whose reply comes while it waits returns 0 and copies the head
of the slot behind that reply. -/
theorem answered_read (control : Control callers) (caller : Fin callers) (require : Require)
    (size : Nat) (frame : DybFrame) (idle : control.phase caller = .idle)
    (free : 0 < control.llAccessMtx) (reads : require.cpSize = some size)
    (matching : matchesWeb frame.hdr = true) :
    ∃ after, run requireStep control (upToWait caller require ++
        [.capture control.outbox.length frame, .advance caller, .advance caller, .advance caller]) =
        some after ∧
      after.returned = control.returned ++ [(control.outbox.length, 0)] ∧
      after.uses = control.uses ++ [⟨control.outbox.length, some control.outbox.length,
        .copied ((overwrite control.memory 0 (frame.body.take frame.hdr.cmdLen.toNat)).take size)⟩] := by
  obtain ⟨left, count⟩ := Nat.exists_eq_succ_of_ne_zero (Nat.ne_of_gt free)
  have pended : osSemPend control.llAccessMtx = some left := (osSemPend_eq_some_iff _ _).mpr count
  have posted : osSemPend (osSemPost (osSemSet control.waitSem 0)) = some 0 := rfl
  simp [upToWait, run, requireStep, advance, idle, pended, Control.to, Control.take,
    ctrlDybFrameCapture, matching, posted, reads]

/-- An undisturbed call without a reply returns -1, takes nothing out of the slot and
leaves it as it was. -/
theorem unanswered_call (control : Control callers) (caller : Fin callers) (require : Require)
    (idle : control.phase caller = .idle) (free : 0 < control.llAccessMtx) :
    ∃ after, run requireStep control (upToWait caller require ++ [.timeout caller, .advance caller]) =
        some after ∧
      after.returned = control.returned ++ [(control.outbox.length, -1)] ∧
      after.uses = control.uses ∧ after.memory = control.memory := by
  obtain ⟨left, count⟩ := Nat.exists_eq_succ_of_ne_zero (Nat.ne_of_gt free)
  have pended : osSemPend control.llAccessMtx = some left := (osSemPend_eq_some_iff _ _).mpr count
  simp [upToWait, run, requireStep, advance, idle, pended, Control.to, osSemSet]

/-- The guard cannot be dropped in any state: a matching frame that reaches a
waiting read is what the read copies, whichever request it answers. -/
theorem any_reply_is_taken (control : Control callers) (caller : Fin callers) (require : Require)
    (request answers size : Nat) (frame : DybFrame)
    (waits : control.phase caller = .waiting require request) (reads : require.cpSize = some size)
    (sent : answers < control.outbox.length) (matching : matchesWeb frame.hdr = true) :
    ∃ after, run requireStep control [.capture answers frame, .advance caller, .advance caller] =
        some after ∧
      ∃ use ∈ after.uses, use.request = request ∧ use.answers = some answers := by
  have posted : osSemPend (osSemPost control.waitSem) = some (osSemPost control.waitSem - 1) := by
    rw [osSemPend_eq_some_iff]
    have positive := osSemPost_pos control.waitSem
    omega
  simp only [run, requireStep, sent, if_true, ctrlDybFrameCapture, matching, advance, waits, posted,
    Option.map_some, to_phase_same, reads]
  refine ⟨_, rfl, ?_⟩
  simp [Control.take, Control.to]

/-- A read of four bytes. -/
def sampleRead : Require :=
  ⟨{ devId := 7, board := 0xff, intf := 0xff, cmdId := 1, cmdExt := 2, buf := none, len := 0 }, some 4⟩

/-- A write of one byte. -/
def sampleWrite : Require :=
  ⟨{ devId := 7, board := 0, intf := 0xff, cmdId := 2, cmdExt := 3, buf := some [0x80], len := 1 },
    none⟩

/-- The board's reply to a request: its header with a status, over a body. -/
def sampleReply (require : Require) (status : Nat) (body : List Byte) : DybFrame where
  hdr :=
    { (ctrlSendDybFrame require.arg).hdr with
      cmdStatus := status
      cmdLen := BitVec.ofNat 16 body.length }
  body := body

/-- The caller of a run with one caller. -/
def soleCaller : Fin 1 := ⟨0, Nat.one_pos⟩

/-- The first read runs out of time, the write behind it waits, and only now the
board answers the read. -/
def lateReply : List (Event 1) :=
  upToWait 0 sampleRead ++ [.timeout 0, .advance 0] ++ upToWait 0 sampleWrite ++
    [.capture 0 (sampleReply sampleRead 0 [1, 2, 3, 4]),
      .advance 0, .advance 0, .advance 0, .advance 0]

/-- The write takes the read's reply for its own, status and all. -/
theorem lateReply_uses :
    (run requireStep (ctrlWebControlCommInit 1 256) lateReply).map (·.uses) =
      some [⟨1, some 0, .status 0⟩] := by
  decide

/-- Some run uses the reply to an earlier request. -/
theorem replies_are_not_always_own :
    ¬ ∀ events : List (Event 1),
      Always requireStep OwnReplies (ctrlWebControlCommInit 1 256) events := by
  intro own
  obtain ⟨final, completed, uses⟩ := Option.map_eq_some_iff.mp lateReply_uses
  have holds : OwnReplies final := always_final (own lateReply) completed
  unfold OwnReplies at holds
  rw [uses] at holds
  exact absurd (holds _ (List.mem_singleton.mpr rfl)) (by decide)

/-- Both requests are answered in time, and the reply to the read comes once more
after the write was done. -/
def timelyReplies : List (Event 1) :=
  upToWait 0 sampleRead ++ [.capture 0 (sampleReply sampleRead 0 [1, 2, 3, 4]),
      .advance 0, .advance 0, .advance 0] ++
    upToWait 0 sampleWrite ++ [.capture 1 (sampleReply sampleWrite 0 []),
      .advance 0, .advance 0, .advance 0, .advance 0] ++
    [.capture 0 (sampleReply sampleRead 0 [1, 2, 3, 4])]

/-- The run rule on a run that reads, writes and meets a late reply. -/
theorem timelyReplies_are_own :
    Always requireStep OwnReplies (ctrlWebControlCommInit 1 256) timelyReplies ∧
      (run requireStep (ctrlWebControlCommInit 1 256) timelyReplies).map (·.uses) =
        some [⟨0, some 0, .copied [1, 2, 3, 4]⟩, ⟨1, some 1, .status 0⟩] :=
  ⟨replies_are_own 256 timelyReplies (by decide), by decide⟩

end model

end UcosProxy.ControlRequire
