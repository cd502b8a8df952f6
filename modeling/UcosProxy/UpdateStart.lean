import UcosProxy.UpdateThread

/-!
# Which request starts a transfer

`update_cgi_interface` stores the file name, shows that an update is going on and
posts `start_sem`. The update thread clears `start_sem` before it waits for it, and
on failure clears the file name and shows the failure. Nothing orders these steps.

A post is good for one transfer when it is the first one behind the clear; the ones
behind it and all those before the clear are forgotten. So a transfer is `due` from
that first post until its read request is sent, and a name stored in between
belongs to another request. A post that comes when the outcome of the transfer
before is already shown, and start_sem not yet cleared, leaves its status behind.

`requests_are_served` says that nothing else goes wrong, and
`inOrder_iff_thread_serves` that each of these orders is one step of the web
server away from a run of the update thread alone that goes wrong.
-/

namespace UcosProxy.UpdateStart

open Bytes Runs TftpClient TftpSteps TftpReceive UpdateThread

variable {Flash : Type}

/-- A transfer: the file name of the request whose post woke the thread, and the one that
`tftp_send_readfile_request` was called with. The two are equal in a transfer that was
started for its own request. -/
structure Start where
  asked : List Byte
  file : List Byte
deriving DecidableEq

/-- The system with the names of the requests. The source keeps one name and a count. Whose
name a post belongs to is history, and no step reads it. -/
structure Tracked (Flash : Type) where
  world : World Flash
  /-- History: the name that the last request stored. -/
  named : List Byte
  /-- History: the names of the requests whose posts `start_sem` counts. -/
  postNames : List (List Byte)
  /-- History: the name of the request whose post woke the thread last. -/
  asked : List Byte
  /-- History: the transfers that sent their read request. -/
  starts : List Start

/-- The histories behind a step of a request. -/
def Tracked.requestStepped (tracked : Tracked Flash) (world : World Flash) : Tracked Flash :=
  match tracked.world.web with
  | .sized _ value => { tracked with world := world, named := updateFilenameCrop value }
  | .shown _ => { tracked with
      world := world
      postNames := if tracked.world.posts.length < 65535 then tracked.postNames ++ [tracked.named]
        else tracked.postNames }
  | _ => { tracked with world := world }

/-- The histories behind a step of the update thread. -/
def Tracked.threadStepped (tracked : Tracked Flash) (world : World Flash) : Tracked Flash :=
  match tracked.world.thread with
  | .clearStart => { tracked with world := world, postNames := [] }
  | .waitStart => { tracked with
      world := world
      asked := tracked.postNames.headD []
      postNames := tracked.postNames.tail }
  | .running =>
    match tracked.world.loop.phase with
    | .request => { tracked with
        world := world
        starts := tracked.starts ++ [⟨tracked.asked, tracked.world.loop.tftp.updateFilename⟩] }
    | _ => { tracked with world := world }
  | _ => { tracked with world := world }

/-- One step of the system, with its histories. -/
def trackedStep (platform : Platform Flash) (tracked : Tracked Flash) (event : Event) :
    Option (Tracked Flash) :=
  (step platform tracked.world event).map
    (match event with
      | .updateContinue => tracked.requestStepped
      | .thread => tracked.threadStepped
      | _ => fun world => { tracked with world := world })

/-- The system behind the creation of its threads, with `update_filename` and
`update_ssi_status` as they are initialised. -/
def cold (tftp : Tftp Flash) : Tracked Flash where
  world := boot { tftp with updateFilename := [], updateSsiStatus := .empty }
  named := []
  postNames := []
  asked := []
  starts := []

/-- An update is shown, the thread waits for a request, and none is under way. Nothing but
another request leads out of such a state, and its page shows an update that nobody makes. -/
def Forgotten (world : World Flash) : Prop :=
  world.web = .idle ∧ world.thread = .waitStart ∧ world.posts = [] ∧
    world.loop.tftp.updateSsiStatus = .updateDoing

instance (world : World Flash) : Decidable (Forgotten world) :=
  inferInstanceAs (Decidable (_ ∧ _ ∧ _ ∧ _))

/-- No request is forgotten, and every transfer was started with the file name of the
request whose post started it. The first is about the requests that are lost, the second
about those that are mixed up. -/
structure Served (tracked : Tracked Flash) : Prop where
  remembered : ¬ Forgotten tracked.world
  named : ∀ start ∈ tracked.starts, start.file = start.asked

/-- The name that the next read request is asked for with, once it is known. -/
def Tracked.due (tracked : Tracked Flash) : Option (List Byte) :=
  match tracked.world.thread with
  | .waitStart => tracked.postNames.head?
  | .init => some tracked.asked
  | .running =>
    match tracked.world.loop.phase with
    | .request => some tracked.asked
    | _ => none
  | _ => none

/-- The outcome of the transfer before is shown, and `start_sem` not yet cleared. A post
that comes now is cleared with the old ones. -/
def Reported (world : World Flash) : Prop :=
  world.thread = .clearStart ∨
    world.thread = .running ∧ world.loop.phase = .done .succeeded

instance (world : World Flash) : Decidable (Reported world) :=
  inferInstanceAs (Decidable (_ ∨ _ ∧ _))

/-- A request stores no other name than the one a read request is due with. It does not
post between the outcome of the transfer before and the clear of `start_sem`, if it
has shown its status behind that outcome; nor as the first one behind the clear, if
the failure of the transfer before has cleared its name. -/
def RequestInOrder (tracked : Tracked Flash) : WebPhase → Prop
  | .sized _ value => ∀ name ∈ tracked.due, updateFilenameCrop value = name
  | .shown _ =>
    (Reported tracked.world → tracked.world.loop.tftp.updateSsiStatus ≠ .updateDoing) ∧
      (tracked.world.thread = .waitStart → tracked.world.posts = [] →
        tracked.world.loop.tftp.updateFilename = tracked.named)
  | _ => True

instance (tracked : Tracked Flash) : ∀ web, Decidable (RequestInOrder tracked web)
  | .sized _ _ => inferInstanceAs (Decidable (∀ _ ∈ tracked.due, _))
  | .shown _ => inferInstanceAs (Decidable ((_ → _) ∧ (_ → _ → _)))
  | .idle => isTrue trivial
  | .named _ => isTrue trivial

/-- The steps of the requests are in order. Nothing is asked of the thread, nor of the
receive callback. -/
def InOrder (tracked : Tracked Flash) : Event → Prop
  | .updateContinue => RequestInOrder tracked tracked.world.web
  | _ => True

instance (tracked : Tracked Flash) : ∀ event, Decidable (InOrder tracked event)
  | .updateContinue => inferInstanceAs (Decidable (RequestInOrder tracked tracked.world.web))
  | .accept _ => isTrue trivial
  | .updateRequest _ _ => isTrue trivial
  | .thread => isTrue trivial
  | .timeout => isTrue trivial
  | .callback _ _ => isTrue trivial

/-! ## What a step can do -/

/-- The loop body does not touch the file name. -/
theorem tftpProcess_updateFilename (platform : Platform Flash) (tftp : Tftp Flash) :
    (tftpProcess platform tftp).1.updateFilename = tftp.updateFilename := by
  apply tftpProcess_field (·.updateFilename)
  · intro before port
    rfl
  · intro before after assigned
    cases assigned <;> rfl

/-- Behind a stored block it does not touch it either, and it succeeds only where the
success is shown. -/
theorem tftpAcknowledge_request (platform : Platform Flash) (len : Nat) (tftp : Tftp Flash) :
    (tftpAcknowledge platform len tftp).1.updateFilename = tftp.updateFilename ∧
      ((tftpAcknowledge platform len tftp).2 = some .succeeded →
        (tftpAcknowledge platform len tftp).1.updateSsiStatus = .updateSucceed) := by
  simp only [tftpAcknowledge, tftpFirmwareDownloadFinish]
  split
  · split
    · exact ⟨rfl, fun _ => rfl⟩
    · refine ⟨rfl, fun succeeded => ?_⟩
      simp at succeeded
  · refine ⟨rfl, fun succeeded => ?_⟩
    simp at succeeded

/-- What a step of the receive loop does to a request. A transfer that goes on keeps the
name that it was started with, and does not ask again. -/
structure Advanced (before after : Loop Flash) : Prop where
  updateFilename : after.tftp.updateFilename = before.tftp.updateFilename
  asked : after.phase ≠ .request
  shown : after.phase = .done .succeeded → after.tftp.updateSsiStatus = .updateSucceed

/-- A step of the receive loop keeps the file name, is not back at the read request,
and succeeds only where the success is shown. -/
theorem advanced {platform : Platform Flash} {loop next : Loop Flash}
    (taken : loop.advance platform = some next) : Advanced loop next := by
  cases advances taken with
  | request phase => exact ⟨rfl, by simp, by simp⟩
  | clear phase => exact ⟨rfl, by simp, by simp⟩
  | pend left phase woken => exact ⟨rfl, by simp, by simp⟩
  | process after verdict phase body =>
    have file := tftpProcess_updateFilename platform loop.tftp
    have outcome := processed platform loop.tftp
    rw [body] at file outcome
    cases outcome with
    | again => exact ⟨file, by simp [Loop.follow], by simp [Loop.follow]⟩
    | store => exact ⟨file, by simp [Loop.follow], by simp [Loop.follow]⟩
    | leave => exact ⟨file, by simp [Loop.follow], by simp [Loop.follow]⟩
  | acknowledge len after exit phase body =>
    have request := tftpAcknowledge_request platform len loop.tftp
    rw [body] at request
    cases exit with
    | none => exact ⟨request.1, by simp [Loop.conclude], by simp [Loop.conclude]⟩
    | some exit =>
      refine ⟨request.1, by simp [Loop.conclude], ?_⟩
      intro done
      apply request.2
      simpa [Loop.conclude] using done

/-- What holds between any two steps of runs in order. The name that a read request is due
with is the one in `update_filename`, and a waiting thread that shows an update has a post
to take. -/
structure Kept (tracked : Tracked Flash) : Prop extends Served tracked where
  lengths : tracked.postNames.length = tracked.world.posts.length
  due : ∀ name ∈ tracked.due, tracked.world.loop.tftp.updateFilename = name
  reported : tracked.world.web = .idle → Reported tracked.world →
    tracked.world.loop.tftp.updateSsiStatus ≠ .updateDoing

/-- Nothing was asked behind the creation of the threads. -/
theorem cold_kept (tftp : Tftp Flash) : Kept (cold tftp) where
  remembered := by
    rintro ⟨_, _, _, doing⟩
    cases doing
  named := by
    intro start member
    cases member
  lengths := rfl
  due := by
    intro name member
    cases member
  reported := by
    intro _ _ doing
    cases doing

/-- The next read request is asked for with the oldest name that `start_sem` counts. -/
theorem Kept.due_of_posted {tracked : Tracked Flash} (kept : Kept tracked)
    (waits : tracked.world.thread = .waitStart) (posted : tracked.world.posts ≠ []) :
    ∃ name rest, tracked.postNames = name :: rest ∧
      tracked.world.loop.tftp.updateFilename = name := by
  cases names : tracked.postNames with
  | nil =>
    have none := kept.lengths
    rw [names, List.length_nil] at none
    exact absurd (List.length_eq_zero_iff.mp none.symm) posted
  | cons name rest =>
    refine ⟨name, rest, rfl, kept.due name ?_⟩
    simp only [Tracked.due, waits, names, List.head?_cons, Option.mem_some_iff]

/-- Where the thread does not wait for a post, no request is forgotten. -/
theorem kept_away {tracked : Tracked Flash} (away : tracked.world.thread ≠ .waitStart)
    (named : ∀ start ∈ tracked.starts, start.file = start.asked)
    (lengths : tracked.postNames.length = tracked.world.posts.length)
    (due : ∀ name ∈ tracked.due, tracked.world.loop.tftp.updateFilename = name)
    (reported : Reported tracked.world → tracked.world.loop.tftp.updateSsiStatus ≠ .updateDoing) :
    Kept tracked where
  remembered := by
    rintro ⟨_, waits, _⟩
    exact away waits
  named := named
  lengths := lengths
  due := due
  reported := fun _ => reported

/-- A step of the receive loop inside a transfer keeps the order. -/
theorem Kept.advance {platform : Platform Flash} {tracked : Tracked Flash} {loop : Loop Flash}
    (kept : Kept tracked) (runs : tracked.world.thread = .running)
    (taken : tracked.world.loop.advance platform = some loop) (starts : List Start)
    (named : ∀ start ∈ starts, start.file = start.asked) :
    Kept { tracked with world := { tracked.world with loop := loop }, starts := starts } := by
  have step := advanced taken
  refine kept_away (by simp [runs]) named kept.lengths ?_ ?_
  · intro name member
    simp only [Tracked.due, runs] at member
    split at member
    · rename_i request
      exact absurd request step.asked
    · cases member
  · rintro (clears | ⟨_, done⟩)
    · exact absurd (runs.symm.trans clears) (by simp)
    · simp [step.shown done]

/-- A step of the update thread keeps the order. -/
theorem Kept.thread {platform : Platform Flash} {tracked : Tracked Flash} {world : World Flash}
    (kept : Kept tracked) (taken : threadStep platform tracked.world = some world) :
    Kept (tracked.threadStepped world) := by
  have due := kept.due
  simp only [Tracked.due] at due
  cases threadStepped taken with
  | clearStart thread =>
    simp only [Tracked.threadStepped, thread]
    refine ⟨⟨?_, kept.named⟩, rfl, ?_, ?_⟩
    · rintro ⟨idle, _, _, doing⟩
      exact kept.reported idle (Or.inl thread) doing
    · intro name member
      cases member
    · simp [Reported]
  | waitStart host rest thread posts =>
    obtain ⟨first, names, postNames, file⟩ := kept.due_of_posted thread (by simp [posts])
    have lengths := kept.lengths
    rw [postNames, posts, List.length_cons, List.length_cons] at lengths
    simp only [Tracked.threadStepped, thread, postNames]
    refine kept_away (by simp) kept.named (Nat.succ.inj lengths) ?_ (by simp [Reported])
    intro name member
    obtain rfl := Option.some.inj member
    exact file
  | init thread =>
    simp only [Tracked.threadStepped, thread]
    refine kept_away (by simp) kept.named kept.lengths ?_ (by simp [Reported])
    intro name member
    obtain rfl := Option.some.inj member
    simp only [thread] at due
    exact due tracked.asked rfl
  | failed thread phase =>
    simp only [Tracked.threadStepped, thread, phase]
    exact kept_away (by simp) kept.named kept.lengths (by simp [Tracked.due]) (by simp [Reported])
  | succeeded thread phase =>
    simp only [Tracked.threadStepped, thread, phase]
    refine ⟨⟨?_, kept.named⟩, kept.lengths, ?_, ?_⟩
    · simp [Forgotten]
    · simp [Tracked.due]
    · intro idle _
      exact kept.reported idle (Or.inr ⟨thread, phase⟩)
  | advance loop thread advance =>
    cases phase : tracked.world.loop.phase with
    | request =>
      simp only [Tracked.threadStepped, thread, phase]
      have file : tracked.world.loop.tftp.updateFilename = tracked.asked := by
        simp only [thread, phase] at due
        exact due tracked.asked rfl
      rw [← thread]
      apply kept.advance thread advance
      intro start member
      rcases List.mem_append.mp member with earlier | new
      · exact kept.named start earlier
      · obtain rfl := List.mem_singleton.mp new
        exact file
    | _ =>
      simp only [Tracked.threadStepped, thread, phase]
      rw [← thread]
      exact kept.advance thread advance _ kept.named
  | failName thread =>
    simp only [Tracked.threadStepped, thread]
    exact kept_away (by simp) kept.named kept.lengths (by simp [Tracked.due]) (by simp [Reported])
  | failStatus thread =>
    simp only [Tracked.threadStepped, thread]
    exact kept_away (by simp) kept.named kept.lengths (by simp [Tracked.due])
      (fun _ => by simp [World.modify])

/-- A post that is made in order keeps the order. -/
theorem Kept.post {tracked : Tracked Flash} {host : IpAddr} (kept : Kept tracked)
    (web : tracked.world.web = .shown host) (inOrder : InOrder tracked .updateContinue) :
    Kept (tracked.requestStepped { tracked.world with
      posts := if tracked.world.posts.length < 65535 then tracked.world.posts ++ [host]
        else tracked.world.posts
      web := .idle }) := by
  simp only [InOrder, web] at inOrder
  obtain ⟨unreported, own⟩ := inOrder
  simp only [Tracked.requestStepped, web]
  by_cases room : tracked.world.posts.length < 65535
  · simp only [room, if_true]
    refine ⟨⟨?_, kept.named⟩, ?_, ?_, fun _ => unreported⟩
    · simp [Forgotten]
    · simp [kept.lengths]
    · -- Only a post that is the first one gives the due name.
      intro name member
      by_cases waits : tracked.world.thread = .waitStart
      · cases posts : tracked.world.posts with
        | nil =>
          have none : tracked.postNames = [] := by
            apply List.length_eq_zero_iff.mp
            rw [kept.lengths, posts, List.length_nil]
          simp only [Tracked.due, waits, none, List.nil_append, List.head?_cons,
            Option.mem_some_iff] at member
          exact member ▸ own waits posts
        | cons host rest =>
          obtain ⟨first, names, postNames, file⟩ := kept.due_of_posted waits (by simp [posts])
          simp only [Tracked.due, waits, postNames, List.cons_append, List.head?_cons,
            Option.mem_some_iff] at member
          exact member ▸ file
      · apply kept.due name
        simp only [Tracked.due] at member ⊢
        split at member
        · exact absurd ‹_› waits
        · exact member
        · exact member
        · exact member
  · simp only [room, if_false]
    refine ⟨⟨?_, kept.named⟩, kept.lengths, kept.due, fun _ => unreported⟩
    rintro ⟨_, _, none, _⟩
    change tracked.world.posts = [] at none
    simp [none] at room

/-- Every step keeps the order when it is taken in order. -/
theorem Kept.keeps {platform : Platform Flash} (tracked : Tracked Flash) (event : Event)
    (next : Tracked Flash) (kept : Kept tracked) (inOrder : InOrder tracked event)
    (moved : trackedStep platform tracked event = some next) : Kept next := by
  obtain ⟨world, taken, rfl⟩ := Option.map_eq_some_iff.mp moved
  cases event with
  | accept ip =>
    cases stepped taken
    exact ⟨⟨kept.remembered, kept.named⟩, kept.lengths, kept.due, kept.reported⟩
  | updateRequest connection value =>
    cases stepped taken
    refine ⟨⟨?_, kept.named⟩, kept.lengths, kept.due, ?_⟩
    · rintro ⟨idle, _⟩
      cases idle
    · intro idle
      cases idle
  | updateContinue =>
    cases stepped taken with
    | sized host value web =>
      simp only [InOrder, web] at inOrder
      simp only [Tracked.requestStepped, web]
      refine ⟨⟨?_, kept.named⟩, kept.lengths, inOrder, ?_⟩
      · simp [Forgotten]
      · simp
    | named host web =>
      simp only [Tracked.requestStepped, web]
      refine ⟨⟨?_, kept.named⟩, kept.lengths, kept.due, ?_⟩
      · simp [Forgotten]
      · simp
    | shown host web => exact kept.post web inOrder
  | thread => exact kept.thread taken
  | timeout =>
    cases stepped taken with
    | timeout runs waits =>
      exact kept_away (by simp [runs]) kept.named kept.lengths (by simp [Tracked.due, runs])
        (by simp [Reported, runs])
  | callback bytes port =>
    cases stepped taken
    exact ⟨⟨kept.remembered, kept.named⟩, kept.lengths, kept.due, kept.reported⟩

/-! ## What the thread makes of a state -/

/-- The thread alone goes on without forgetting a request or starting a transfer with the
name of another one. The web server does nothing, so what goes wrong is settled by the state
that the thread starts from. -/
def ThreadServes (platform : Platform Flash) (tracked : Tracked Flash) : Prop :=
  ∀ count, Always (trackedStep platform) Served tracked (threadSteps count)

/-- In an ordered state the thread alone does nothing wrong. -/
theorem Kept.threadServes {platform : Platform Flash} {tracked : Tracked Flash}
    (kept : Kept tracked) : ThreadServes platform tracked := by
  intro count
  apply always_of_guarded Kept Served (fun _ kept => kept.toServed) Kept.keeps kept
  induction count generalizing tracked with
  | zero => trivial
  | succ count inductionHypothesis =>
    simp only [threadSteps, List.replicate_succ, Guarded]
    split
    · trivial
    · rename_i next taken
      exact ⟨trivial, inductionHypothesis (kept.keeps tracked .thread next trivial taken)⟩

/-- What the thread does wrong behind its next step it does wrong at once. -/
theorem ThreadServes.step {platform : Platform Flash} {tracked : Tracked Flash} {world : World Flash}
    (serves : ThreadServes platform tracked)
    (taken : threadStep platform tracked.world = some world) :
    ThreadServes platform (tracked.threadStepped world) := by
  intro count
  have along := serves (count + 1)
  simp only [threadSteps, List.replicate_succ, Always, trackedStep, UpdateThread.step, taken,
    Option.map_some] at along
  exact along.2

/-- A state that the thread goes on from is itself without fault. -/
theorem ThreadServes.served {platform : Platform Flash} {tracked : Tracked Flash}
    (serves : ThreadServes platform tracked) : Served tracked := serves 0

/-- The name that is due is stored, or the thread starts a transfer with another one. -/
theorem ThreadServes.due {platform : Platform Flash} {tracked : Tracked Flash}
    (serves : ThreadServes platform tracked)
    (lengths : tracked.postNames.length = tracked.world.posts.length) :
    ∀ name ∈ tracked.due, tracked.world.loop.tftp.updateFilename = name := by
  have requests (tracked : Tracked Flash) (serves : ThreadServes platform tracked)
      (runs : tracked.world.thread = .running) (request : tracked.world.loop.phase = .request) :
      tracked.world.loop.tftp.updateFilename = tracked.asked := by
    have next := serves.step (by
      simp only [threadStep, runs, request, Loop.advance, Option.map_some]
      rfl)
    apply next.served.named ⟨tracked.asked, tracked.world.loop.tftp.updateFilename⟩
    simp [Tracked.threadStepped, runs, request]
  have inits (tracked : Tracked Flash) (serves : ThreadServes platform tracked)
      (init : tracked.world.thread = .init) :
      tracked.world.loop.tftp.updateFilename = tracked.asked := by
    have next := serves.step (by
      simp only [threadStep, init]
      rfl)
    simp only [Tracked.threadStepped, init] at next
    have file := requests _ next rfl rfl
    exact file
  intro name member
  simp only [Tracked.due] at member
  cases thread : tracked.world.thread with
  | waitStart =>
    simp only [thread] at member
    cases posts : tracked.world.posts with
    | nil =>
      rw [posts, List.length_nil] at lengths
      simp [List.length_eq_zero_iff.mp lengths] at member
    | cons host rest =>
      have next := serves.step (by
        simp only [threadStep, thread, posts]
        rfl)
      simp only [Tracked.threadStepped, thread] at next
      have file := inits _ next rfl
      cases names : tracked.postNames with
      | nil => simp [names] at member
      | cons first names' =>
        simp only [names, List.head?_cons, Option.mem_some_iff] at member
        simp only [names, List.headD_cons] at file
        exact file.trans member
  | init =>
    simp only [thread, Option.mem_some_iff] at member
    exact (inits tracked serves thread).trans member
  | running =>
    cases phase : tracked.world.loop.phase with
    | request =>
      simp only [thread, phase, Option.mem_some_iff] at member
      exact (requests tracked serves thread phase).trans member
    | _ => simp [thread, phase] at member
  | _ => simp [thread] at member

/-- Where an outcome is shown, no later request has left its status, or the thread
forgets it. -/
theorem ThreadServes.reported {platform : Platform Flash} {tracked : Tracked Flash}
    (serves : ThreadServes platform tracked) (idle : tracked.world.web = .idle)
    (reported : Reported tracked.world) :
    tracked.world.loop.tftp.updateSsiStatus ≠ .updateDoing := by
  have clears (tracked : Tracked Flash) (serves : ThreadServes platform tracked)
      (idle : tracked.world.web = .idle) (clear : tracked.world.thread = .clearStart) :
      tracked.world.loop.tftp.updateSsiStatus ≠ .updateDoing := by
    have next := serves.step (by
      simp only [threadStep, clear]
      rfl)
    simp only [Tracked.threadStepped, clear] at next
    intro doing
    exact next.served.remembered ⟨idle, rfl, rfl, doing⟩
  rcases reported with clear | ⟨runs, done⟩
  · exact clears tracked serves idle clear
  · have next := serves.step (by
      simp only [threadStep, runs, done]
      rfl)
    simp only [Tracked.threadStepped, runs, done] at next
    have shown := clears _ next idle rfl
    exact shown

/-- A step out of order is one behind which the thread goes wrong. -/
theorem Kept.needed {platform : Platform Flash} (tracked : Tracked Flash) (event : Event)
    (next : Tracked Flash) (kept : Kept tracked)
    (moved : trackedStep platform tracked event = some next)
    (serves : ThreadServes platform next) : InOrder tracked event := by
  obtain ⟨world, taken, rfl⟩ := Option.map_eq_some_iff.mp moved
  cases event with
  | updateContinue =>
    cases stepped taken with
    | sized host value web =>
      simp only [Tracked.requestStepped, web] at serves
      simp only [InOrder, web]
      exact serves.due kept.lengths
    | named host web =>
      simp only [InOrder, web]
      trivial
    | shown host web =>
      simp only [Tracked.requestStepped, web] at serves
      simp only [InOrder, web]
      constructor
      · exact serves.reported rfl
      · intro waits none
        have names : tracked.postNames = [] := by
          apply List.length_eq_zero_iff.mp
          rw [kept.lengths, none, List.length_nil]
        have due := serves.due (by simp [names, none])
        apply due tracked.named
        simp [Tracked.due, waits, names, none]
  | _ => trivial

/-- For every order of the requests and the update thread: a state with a forgotten request,
or with a transfer that was started with another name, is reached by no run whose requests
store their names and post in order. The requests may overlap, repeat and come in the middle
of a transfer; only the orders of `InOrder` are kept out, and each of these goes wrong by
itself. -/
theorem requests_are_served (platform : Platform Flash) (tftp : Tftp Flash) (events : List Event)
    (inOrder : Guarded (trackedStep platform) InOrder (cold tftp) events) :
    Always (trackedStep platform) Served (cold tftp) events :=
  always_of_guarded Kept Served (fun _ kept => kept.toServed) Kept.keeps (cold_kept tftp) events
    inOrder

/-- Two requests, the second one behind the first one's failure and while the thread
waits again. -/
def patientRequests : List Event :=
  [.thread] ++ requestUpdate 0 (ascii "a") ++ threadSteps 4 ++
    [.timeout] ++ threadSteps 4 ++ requestUpdate 1 (ascii "b") ++ threadSteps 3

/-- Both requests are served. -/
theorem patientRequests_are_served :
    Guarded (trackedStep samplePlatform) InOrder (cold sampleClient) patientRequests ∧
      Always (trackedStep samplePlatform) Served (cold sampleClient) patientRequests :=
  have inOrder : Guarded (trackedStep samplePlatform) InOrder (cold sampleClient)
      patientRequests := by decide
  ⟨inOrder, requests_are_served samplePlatform sampleClient patientRequests inOrder⟩

/-- Both transfers were started, each with its own name. -/
example : (run (trackedStep samplePlatform) (cold sampleClient) patientRequests).map (·.starts) =
    some [⟨ascii "a", ascii "a"⟩, ⟨ascii "b", ascii "b"⟩] := by decide

/-- Those runs are all the runs from whose states the thread, left alone, goes on
without a fault: a step out of order is as bad as the fault itself. -/
theorem inOrder_iff_thread_serves (platform : Platform Flash) (tftp : Tftp Flash)
    (events : List Event) :
    Always (trackedStep platform) (ThreadServes platform) (cold tftp) events ↔
      Guarded (trackedStep platform) InOrder (cold tftp) events :=
  always_iff_guarded Kept (ThreadServes platform) (fun _ kept => kept.threadServes) Kept.keeps
    Kept.needed (cold_kept tftp) events

/-- A transfer that times out, and a request for another file behind its failure. -/
def lateRequest : List Event :=
  [.thread] ++ requestUpdate 0 (ascii "a") ++ threadSteps 4 ++
    [.timeout] ++ threadSteps 3 ++ requestUpdate 1 (ascii "b") ++ [.thread]

/-- The thread waits, and the second request's update is shown for good. -/
theorem lateRequest_forgotten :
    (run (trackedStep samplePlatform) (cold sampleClient) lateRequest).map
      (fun tracked => decide (Forgotten tracked.world)) = some true := by
  decide

/-- Two requests before the thread has sent the first one's read request. -/
def quickRequests : List Event :=
  [.thread] ++ requestUpdate 0 (ascii "a") ++ requestUpdate 1 (ascii "b") ++
    threadSteps 3

/-- The transfer that the first post started asks for the second file. -/
theorem quickRequests_mixed :
    (run (trackedStep samplePlatform) (cold sampleClient) quickRequests).map (·.starts) =
      some [⟨ascii "a", ascii "b"⟩] := by
  decide

/-- Some run forgets a request, and some run starts a transfer with another name. -/
theorem requests_are_not_always_served :
    ¬ (∀ events, Always (trackedStep samplePlatform) (fun tracked => ¬ Forgotten tracked.world)
      (cold sampleClient) events) ∧
    ¬ (∀ events, Always (trackedStep samplePlatform)
      (fun tracked => ∀ start ∈ tracked.starts, start.file = start.asked)
      (cold sampleClient) events) := by
  constructor
  · intro remembers
    obtain ⟨final, completed, forgotten⟩ := Option.map_eq_some_iff.mp lateRequest_forgotten
    exact always_final (remembers lateRequest) completed (of_decide_eq_true forgotten)
  · intro keeps
    obtain ⟨final, completed, starts⟩ := Option.map_eq_some_iff.mp quickRequests_mixed
    have same := always_final (keeps quickRequests) completed ⟨ascii "a", ascii "b"⟩
      (by simp [starts])
    exact absurd same (by decide)

end UcosProxy.UpdateStart
