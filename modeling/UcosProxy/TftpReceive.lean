import UcosProxy.Runs
import UcosProxy.Semaphore
import UcosProxy.TftpSteps

/-!
# The receive loop beside the receive callback

The loop of `tftp_firmware_update` and `tftp_recv_callback` run in two threads and
share a frame buffer and the semaphore `recv_sem`. Here the loop is a machine that
moves from one point where the source can be interrupted to the next: it sends the
read request, clears the semaphore, waits, processes the datagram in the buffer,
and behind a stored block waits for the flash and acknowledges. The callback may
fall between any two of these steps; it copies its datagram over the buffer and
posts. A timeout is taken only where the loop waits and nothing was posted.

`Dialogue` adds a server that speaks only when it is asked: it delivers at most
one datagram for each read request or acknowledgement sent. Two histories say what
was delivered and what was processed. `datagrams_exactly_once` tells for which
orders of the two threads no datagram is lost: those in which every datagram is
delivered while the loop waits, behind the clearing of the semaphore.

The server's datagrams are arbitrary, and a datagram that comes behind the exit of
the loop belongs to no run.
-/

namespace UcosProxy.TftpReceive

open Bytes TftpClient TftpSteps Semaphore Runs

variable {Flash : Type}

/-- Where the loop stands. The loop is cut at its semaphore calls and behind a stored block,
where the callback may come in between. -/
inductive LoopPhase where
  | request
  | clear
  | pend
  | process
  | acknowledge (len : Nat)
  | done (exit : Exit)
deriving DecidableEq

/-- The loop and what it shares with the callback. The semaphore is a count, and the frame
buffer is in the transfer's own state. -/
structure Loop (Flash : Type) where
  tftp : Tftp Flash
  recvSem : Nat
  phase : LoopPhase

/-- The state of the loop behind a call of the loop body's first half. -/
def Loop.follow (loop : Loop Flash) : Tftp Flash × Verdict → Loop Flash
  | (tftp, .again) => { loop with tftp := tftp, phase := .clear }
  | (tftp, .store len) => { loop with tftp := tftp, phase := .acknowledge len }
  | (tftp, .leave exit) => { loop with tftp := tftp, phase := .done exit }

/-- The state of the loop behind a call of the loop body's second half. -/
def Loop.conclude (loop : Loop Flash) : Tftp Flash × Option Exit → Loop Flash
  | (tftp, none) => { loop with tftp := tftp, phase := .clear }
  | (tftp, some exit) => { loop with tftp := tftp, phase := .done exit }

/-- The next step of the loop. It has none where it waits for a post, and none
behind its exit. -/
def Loop.advance (platform : Platform Flash) (loop : Loop Flash) : Option (Loop Flash) :=
  match loop.phase with
  | .request => some { loop with
      tftp := tftpSendReadfileRequest loop.tftp.updateFilename loop.tftp
      phase := .clear }
  | .clear => some { loop with recvSem := osSemSet loop.recvSem 0, phase := .pend }
  | .pend => (osSemPend loop.recvSem).map fun recvSem =>
      { loop with recvSem := recvSem, phase := .process }
  | .process => some (loop.follow (tftpProcess platform loop.tftp))
  | .acknowledge len => some (loop.conclude (tftpAcknowledge platform len loop.tftp))
  | .done _ => none

/-- The five seconds pass where the loop waits and nothing was posted. -/
def Loop.timeout (loop : Loop Flash) : Option (Loop Flash) :=
  if loop.phase = .pend ∧ loop.recvSem = 0 then some { loop with phase := .done .failed } else none

/-- `tftp_recv_callback`, with its post. Nothing keeps it from running while the datagram
before it is still processed. -/
def Loop.callback (bytes : List Byte) (port : Nat) (loop : Loop Flash) : Loop Flash :=
  { loop with
    tftp := tftpRecvCallback bytes port loop.tftp
    recvSem := osSemPost loop.recvSem }

/-- The moves that change the loop. The order of the three is left open in every result. -/
inductive LoopMove where
  | advance
  | timeout
  | callback (bytes : List Byte) (port : Nat)
deriving DecidableEq

/-- One move on the loop, by its own thread or by the callback's. -/
def loopStep (platform : Platform Flash) (loop : Loop Flash) : LoopMove → Option (Loop Flash)
  | .advance => loop.advance platform
  | .timeout => loop.timeout
  | .callback bytes port => some (loop.callback bytes port)

/-- The steps of the loop: where it stood, and the results of its body taken apart. It says
all that a step can do, so what a step keeps is proved by its cases and the loop is not
unfolded again. -/
inductive Advances (platform : Platform Flash) (loop : Loop Flash) : Loop Flash → Prop where
  | request (phase : loop.phase = .request) :
      Advances platform loop { loop with
        tftp := tftpSendReadfileRequest loop.tftp.updateFilename loop.tftp
        phase := .clear }
  | clear (phase : loop.phase = .clear) :
      Advances platform loop { loop with recvSem := osSemSet loop.recvSem 0, phase := .pend }
  | pend (left : Nat) (phase : loop.phase = .pend) (woken : osSemPend loop.recvSem = some left) :
      Advances platform loop { loop with recvSem := left, phase := .process }
  | process (after : Tftp Flash) (verdict : Verdict) (phase : loop.phase = .process)
      (body : tftpProcess platform loop.tftp = (after, verdict)) :
      Advances platform loop (loop.follow (after, verdict))
  | acknowledge (len : Nat) (after : Tftp Flash) (exit : Option Exit)
      (phase : loop.phase = .acknowledge len)
      (body : tftpAcknowledge platform len loop.tftp = (after, exit)) :
      Advances platform loop (loop.conclude (after, exit))

/-- A step that was taken is one of these. -/
theorem advances {platform : Platform Flash} {loop next : Loop Flash}
    (taken : loop.advance platform = some next) : Advances platform loop next := by
  unfold Loop.advance at taken
  cases phase : loop.phase with
  | request =>
    simp only [phase] at taken
    obtain rfl := Option.some.inj taken
    exact .request phase
  | clear =>
    simp only [phase] at taken
    obtain rfl := Option.some.inj taken
    exact .clear phase
  | pend =>
    simp only [phase] at taken
    obtain ⟨left, woken, rfl⟩ := Option.map_eq_some_iff.mp taken
    exact .pend left phase woken
  | process =>
    simp only [phase] at taken
    obtain rfl := Option.some.inj taken
    exact .process _ _ phase rfl
  | acknowledge len =>
    simp only [phase] at taken
    obtain rfl := Option.some.inj taken
    exact .acknowledge len _ _ phase rfl
  | done exit => simp [phase] at taken

/-- A timeout was taken where the loop waits and nothing was posted. -/
theorem timeout_eq_some {loop next : Loop Flash} (left : loop.timeout = some next) :
    (loop.phase = .pend ∧ loop.recvSem = 0) ∧ next = { loop with phase := .done .failed } := by
  simp only [Loop.timeout, Option.ite_none_right_eq_some, Option.some.injEq] at left
  exact ⟨left.1, left.2.symm⟩

@[simp] theorem Loop.follow_tftp (loop : Loop Flash) (after : Tftp Flash) (verdict : Verdict) :
    (loop.follow (after, verdict)).tftp = after := by
  cases verdict <;> rfl

@[simp] theorem Loop.conclude_tftp (loop : Loop Flash) (after : Tftp Flash) (exit : Option Exit) :
    (loop.conclude (after, exit)).tftp = after := by
  cases exit <;> rfl

/-- How the loop stands when its function has this result. -/
def phaseOf : Option Exit → LoopPhase
  | none => .clear
  | some exit => .done exit

/-- The receive loop on a list of arrivals is one order of the moves, in which
every datagram comes while the loop waits. -/
theorem receiveLoop_is_run (platform : Platform Flash) (arrivals : List Arrival)
    (tftp : Tftp Flash) (recvSem : Nat) :
    ∃ moves left, run (loopStep platform) ⟨tftp, recvSem, .clear⟩ moves =
      some ⟨(tftpReceiveLoop platform tftp arrivals).1, left,
        phaseOf (tftpReceiveLoop platform tftp arrivals).2⟩ := by
  induction arrivals generalizing tftp recvSem with
  | nil => exact ⟨[], recvSem, rfl⟩
  | cons arrival rest inductionHypothesis =>
    cases arrival with
    | timeout => exact ⟨[.advance, .timeout], 0, rfl⟩
    | datagram bytes port =>
      let received := tftpRecvCallback bytes port tftp
      have woken (moves : List LoopMove) : run (loopStep platform) ⟨tftp, recvSem, .clear⟩
          ([.advance, .callback bytes port, .advance, .advance] ++ moves) =
            run (loopStep platform)
              (Loop.follow ⟨received, 0, .process⟩ (tftpProcess platform received)) moves := rfl
      rw [tftpReceiveLoop, tftpLoopBody]
      cases processing : tftpProcess platform received with
      | mk between verdict =>
        rw [processing] at woken
        cases verdict with
        | again =>
          obtain ⟨moves, left, further⟩ := inductionHypothesis between 0
          exact ⟨_, left, (woken moves).trans further⟩
        | leave exit => exact ⟨_, 0, woken []⟩
        | store len =>
          dsimp only
          cases concluding : tftpAcknowledge platform len between with
          | mk final exit =>
            have behind (moves : List LoopMove) :
                run (loopStep platform) ⟨between, 0, .acknowledge len⟩ (.advance :: moves) =
                  run (loopStep platform)
                    (Loop.conclude ⟨between, 0, .acknowledge len⟩ (final, exit)) moves := by
              rw [← concluding]
              rfl
            cases exit with
            | none =>
              obtain ⟨moves, left, further⟩ := inductionHypothesis final 0
              exact ⟨_, left, (woken (.advance :: moves)).trans ((behind moves).trans further)⟩
            | some exit => exact ⟨_, 0, (woken [.advance]).trans (behind [])⟩

/-- A datagram of the server. It keeps the port that it came from, which the loop checks
when it processes it. -/
structure Datagram where
  bytes : List Byte
  port : Nat
deriving DecidableEq

/-- The datagram that the frame buffer announces. -/
def announced (tftp : Tftp Flash) : Datagram := ⟨tftp.frameBuffer.take tftp.recvLen, tftp.recvPort⟩

/-- A packet that asks the server for its next datagram. -/
def prompts (packet : Packet) : Bool :=
  wordAt packet.bytes 0 = TftpOpcode.rrq.code || wordAt packet.bytes 0 = TftpOpcode.ack.code

/-- How many datagrams the client has asked for. -/
def asked (tftp : Tftp Flash) : Nat := (tftp.sent.filter prompts).length

/-- The loop, the callback and a server that speaks when asked. The server sends one
datagram for each packet of the client, and may be slow or quick. -/
structure Dialogue (Flash : Type) where
  loop : Loop Flash
  /-- History: what was handed to the callback. -/
  delivered : List Datagram
  /-- History: what the loop body found in the frame buffer. -/
  processed : List Datagram
  /-- History: the loop left through its timeout. -/
  timedOut : Bool

/-- The moves of the two threads. A delivery is the callback with the datagram that is due. -/
inductive Move where
  | advance
  | timeout
  | deliver (datagram : Datagram)
deriving DecidableEq

/-- What the loop has processed behind its next step. -/
def Dialogue.reads (dialogue : Dialogue Flash) : List Datagram :=
  match dialogue.loop.phase with
  | .process => dialogue.processed ++ [announced dialogue.loop.tftp]
  | _ => dialogue.processed

/-- One move. The server delivers when it was asked once more than it answered,
as long as the loop runs. -/
def dialogueStep (platform : Platform Flash) (dialogue : Dialogue Flash) : Move → Option (Dialogue Flash)
  | .advance => (dialogue.loop.advance platform).map fun loop =>
      { dialogue with loop := loop, processed := dialogue.reads }
  | .timeout => dialogue.loop.timeout.map fun loop =>
      { dialogue with loop := loop, timedOut := true }
  | .deliver datagram =>
    match dialogue.loop.phase with
    | .done _ => none
    | _ =>
      if dialogue.delivered.length < asked dialogue.loop.tftp then
        some { dialogue with
          loop := dialogue.loop.callback datagram.bytes datagram.port
          delivered := dialogue.delivered ++ [datagram] }
      else none

/-- A run begins behind `tftp_firmware_update_init`, with any count left over in
the semaphore. -/
def opening (platform : Platform Flash) (tftp : Tftp Flash) (recvSem : Nat) : Dialogue Flash where
  loop := ⟨tftpFirmwareUpdateInit platform tftp, recvSem, .request⟩
  delivered := []
  processed := []
  timedOut := false

/-- The loop will be woken for what the frame buffer announces, or was. The semaphore counts
more than one post, but the buffer has room for one datagram. -/
def Loop.wakes (loop : Loop Flash) : Prop :=
  loop.phase = .pend ∧ 0 < loop.recvSem ∨ loop.phase = .process

/-- Every delivered datagram was processed once and in order, but for one that the loop is
woken for; a timeout finds all of them processed. The processed datagrams are history, each
with the port that it was read under. -/
structure ExactlyOnce (dialogue : Dialogue Flash) : Prop where
  inOrder : dialogue.delivered = dialogue.processed ∨
    dialogue.delivered = dialogue.processed ++ [announced dialogue.loop.tftp] ∧
      dialogue.loop.wakes
  timeout : dialogue.timedOut = true → dialogue.delivered = dialogue.processed

/-- A datagram is delivered while the loop waits for one. -/
def DeliveredWhileWaiting (dialogue : Dialogue Flash) : Move → Prop
  | .deliver _ => dialogue.loop.phase = .pend
  | _ => True

/-! ## What the client has asked for -/

/-- The read request asks for a datagram. -/
theorem asked_request (filename : List Byte) (tftp : Tftp Flash) :
    asked (tftpSendReadfileRequest filename tftp) = asked tftp + 1 := by
  have asks : prompts ⟨readfileRequest filename, tftp.serverIp, tftp.serverPort⟩ = true := by
    simp [prompts, wordAt, readfileRequest, networkWord, TftpOpcode.code]
  simp only [asked, tftpSendReadfileRequest, tftpSendto, overwrite_take, List.filter_append,
    List.length_append, List.filter_cons, asks, if_true, List.filter_nil,
    List.length_singleton]

/-- An acknowledgement asks for a datagram. -/
theorem asked_ack (block : Nat) (tftp : Tftp Flash) :
    asked (tftpSendAckPacket block tftp) = asked tftp + 1 := by
  have packet : (overwrite tftp.frameBuffer 0 (networkWord TftpOpcode.ack.code ++ networkWord block)).take
      4 = networkWord TftpOpcode.ack.code ++ networkWord block := rfl
  have asks : prompts ⟨networkWord TftpOpcode.ack.code ++ networkWord block,
      tftp.serverIp, tftp.serverPort⟩ = true := by
    simp [prompts, wordAt, networkWord, TftpOpcode.code]
  simp only [asked, tftpSendAckPacket, tftpSendto, packet, List.filter_append, List.length_append,
    List.filter_cons, asks, if_true, List.filter_nil, List.length_singleton]

/-- A loop body that goes on to the next datagram has asked for it, and one that
stored a block has not yet. -/
theorem asked_process (platform : Platform Flash) (tftp : Tftp Flash) :
    ((tftpProcess platform tftp).2 = .again →
      asked (tftpProcess platform tftp).1 = asked tftp + 1) ∧
    ∀ len, (tftpProcess platform tftp).2 = .store len →
      asked (tftpProcess platform tftp).1 = asked tftp := by
  have data (len : Nat) (checked : Tftp Flash) :
      ((tftpDataCase platform len checked).2 = .again →
        asked (tftpDataCase platform len checked).1 = asked checked + 1) ∧
      ∀ stored, (tftpDataCase platform len checked).2 = .store stored →
        asked (tftpDataCase platform len checked).1 = asked checked := by
    unfold tftpDataCase
    dsimp only
    split
    · simp
    · split
      · simp
      · split
        · refine ⟨fun _ => asked_ack _ _, ?_⟩
          intro stored stores
          simp at stores
        · split
          · rw [tftpHandleData_eq]
            by_cases large : (checked.fileLen + (len - 2)) % u32Modulus >
                platform.updateFlashMemorySize
            · simp [large]
            · simp [large, handled, asked]
          · simp
  unfold tftpProcess
  cases checking : tftpCheckTid tftp with
  | mk checked accepted =>
    cases accepted with
    | false => simp
    | true =>
      have same : asked checked = asked tftp := by
        unfold tftpCheckTid at checking
        split at checking
        · rw [(Prod.mk.inj checking).1]
        · split at checking
          · simp at checking
          · rw [← (Prod.mk.inj checking).1, asked, asked]
      dsimp only
      split
      · simp
      · split
        · rw [← same]
          exact data _ checked
        · split
          · simp
          · split
            · simp [asked_ack, same]
            · simp

/-! ## The law of the two threads -/

/-- What holds between any two moves when every datagram comes while the loop waits: the
count of packets asked for and delivered at each point of the loop. A client that has asked
once more than it was answered is waiting, and the server owes it a datagram. -/
structure Paced (dialogue : Dialogue Flash) : Prop where
  pace :
    match dialogue.loop.phase with
    | .request => asked dialogue.loop.tftp = dialogue.delivered.length ∧
        dialogue.delivered = dialogue.processed
    | .clear => asked dialogue.loop.tftp = dialogue.delivered.length + 1 ∧
        dialogue.delivered = dialogue.processed
    | .pend => dialogue.loop.recvSem = 0 ∧
          asked dialogue.loop.tftp = dialogue.delivered.length + 1 ∧
          dialogue.delivered = dialogue.processed ∨
        0 < dialogue.loop.recvSem ∧ asked dialogue.loop.tftp = dialogue.delivered.length ∧
          dialogue.delivered = dialogue.processed ++ [announced dialogue.loop.tftp]
    | .process => asked dialogue.loop.tftp = dialogue.delivered.length ∧
        dialogue.delivered = dialogue.processed ++ [announced dialogue.loop.tftp]
    | .acknowledge _ => asked dialogue.loop.tftp = dialogue.delivered.length ∧
        dialogue.delivered = dialogue.processed
    | .done _ => dialogue.delivered = dialogue.processed
  timeout : dialogue.timedOut = true → ∃ exit, dialogue.loop.phase = .done exit

/-- The callback announces exactly the datagram it was handed. -/
theorem announced_callback (datagram : Datagram) (tftp : Tftp Flash) :
    announced (tftpRecvCallback datagram.bytes datagram.port tftp) = datagram := by
  simp [announced, tftpRecvCallback, overwrite]

/-- At every point, paced dialogues have lost nothing. -/
theorem Paced.exactlyOnce {dialogue : Dialogue Flash} (paced : Paced dialogue) :
    ExactlyOnce dialogue := by
  have pace := paced.pace
  constructor
  · cases phase : dialogue.loop.phase with
    | request =>
      simp only [phase] at pace
      exact Or.inl pace.2
    | clear =>
      simp only [phase] at pace
      exact Or.inl pace.2
    | pend =>
      simp only [phase] at pace
      rcases pace with ⟨_, _, same⟩ | ⟨posted, _, one⟩
      · exact Or.inl same
      · exact Or.inr ⟨one, Or.inl ⟨phase, posted⟩⟩
    | process =>
      simp only [phase] at pace
      exact Or.inr ⟨pace.2, Or.inr phase⟩
    | acknowledge len =>
      simp only [phase] at pace
      exact Or.inl pace.2
    | done exit =>
      simp only [phase] at pace
      exact Or.inl pace
  · intro timedOut
    obtain ⟨exit, phase⟩ := paced.timeout timedOut
    simpa only [phase] using pace

/-- A step of the loop keeps the pace. Cases follow the point the loop stands
at. -/
theorem Paced.advance {platform : Platform Flash} {dialogue next : Dialogue Flash}
    (paced : Paced dialogue) (taken : dialogueStep platform dialogue .advance = some next) : Paced next := by
  have pace := paced.pace
  have running (phase : LoopPhase) (here : dialogue.loop.phase = phase)
      (runs : ∀ exit, phase ≠ .done exit) : dialogue.timedOut = false := by
    rw [Bool.eq_false_iff]
    intro timedOut
    obtain ⟨exit, done⟩ := paced.timeout timedOut
    exact runs exit (here.symm.trans done)
  obtain ⟨loop, advanced, rfl⟩ := Option.map_eq_some_iff.mp taken
  cases advances advanced with
  | request phase =>
    simp only [phase] at pace
    have notYet := running _ phase (by simp)
    refine ⟨⟨?_, ?_⟩, fun timedOut => by simp [notYet] at timedOut⟩
    · rw [asked_request, pace.1]
    · simpa only [Dialogue.reads, phase] using pace.2
  | clear phase =>
    simp only [phase] at pace
    have notYet := running _ phase (by simp)
    refine ⟨Or.inl ⟨rfl, pace.1, ?_⟩, fun timedOut => by simp [notYet] at timedOut⟩
    simpa only [Dialogue.reads, phase] using pace.2
  | pend left phase woken =>
    simp only [phase] at pace
    have notYet := running _ phase (by simp)
    rcases pace with ⟨empty, _⟩ | ⟨_, same, one⟩
    · rw [empty] at woken
      simp [osSemPend] at woken
    · refine ⟨⟨same, ?_⟩, fun timedOut => by simp [notYet] at timedOut⟩
      simpa only [Dialogue.reads, phase] using one
  | process after verdict phase body =>
    simp only [phase] at pace
    have notYet := running _ phase (by simp)
    have counts := asked_process platform dialogue.loop.tftp
    have all : dialogue.delivered = dialogue.reads := by
      simp only [Dialogue.reads, phase]
      exact pace.2
    rw [body] at counts
    refine ⟨?_, fun timedOut => by simp [notYet] at timedOut⟩
    cases verdict with
    | again => exact ⟨(counts.1 rfl).trans (by rw [pace.1]), all⟩
    | store len => exact ⟨(counts.2 len rfl).trans pace.1, all⟩
    | leave exit => exact all
  | acknowledge len after exit phase body =>
    simp only [phase] at pace
    have notYet := running _ phase (by simp)
    have all : dialogue.delivered = dialogue.reads := by
      simp only [Dialogue.reads, phase]
      exact pace.2
    refine ⟨?_, fun timedOut => by simp [notYet] at timedOut⟩
    simp only [tftpAcknowledge] at body
    by_cases short : len < tftpBlockSize
    · simp only [short, if_true] at body
      obtain ⟨_, rfl⟩ := Prod.mk.inj body
      exact all
    · simp only [short, if_false] at body
      obtain ⟨rfl, rfl⟩ := Prod.mk.inj body
      exact ⟨(asked_ack _ _).trans (by rw [pace.1]), all⟩

/-- Every move that delivers only to a waiting loop keeps the pace. -/
theorem Paced.keeps {platform : Platform Flash} (dialogue : Dialogue Flash) (move : Move)
    (next : Dialogue Flash) (paced : Paced dialogue) (waiting : DeliveredWhileWaiting dialogue move)
    (taken : dialogueStep platform dialogue move = some next) : Paced next := by
  cases move with
  | advance => exact paced.advance taken
  | timeout =>
    obtain ⟨loop, left, rfl⟩ := Option.map_eq_some_iff.mp taken
    obtain ⟨idle, rfl⟩ := timeout_eq_some left
    have pace := paced.pace
    simp only [idle.1, idle.2, Nat.lt_irrefl, false_and, or_false] at pace
    exact ⟨pace.2.2, fun _ => ⟨_, rfl⟩⟩
  | deliver datagram =>
    have phase : dialogue.loop.phase = .pend := waiting
    have pace := paced.pace
    simp only [dialogueStep, phase] at taken pace
    by_cases owed : dialogue.delivered.length < asked dialogue.loop.tftp
    · rw [if_pos owed] at taken
      obtain rfl := Option.some.inj taken
      rcases pace with ⟨_, count, same⟩ | ⟨_, count, _⟩
      · refine ⟨?_, paced.timeout⟩
        simp only [Loop.callback, phase]
        refine Or.inr ⟨osSemPost_pos _, ?_, ?_⟩
        · rw [List.length_append, List.length_singleton]
          exact count
        · rw [announced_callback, same]
      · omega
    · rw [if_neg owed] at taken
      simp at taken

/-- A datagram delivered anywhere else is not one the loop is woken for. -/
theorem Paced.needed {platform : Platform Flash} (dialogue : Dialogue Flash) (move : Move)
    (next : Dialogue Flash) (paced : Paced dialogue) (taken : dialogueStep platform dialogue move = some next)
    (once : ExactlyOnce next) : DeliveredWhileWaiting dialogue move := by
  cases move with
  | advance => trivial
  | timeout => trivial
  | deliver datagram =>
    change dialogue.loop.phase = .pend
    have pace := paced.pace
    by_cases owed : dialogue.delivered.length < asked dialogue.loop.tftp
    · cases phase : dialogue.loop.phase with
      | pend => rfl
      | request => simp only [phase] at pace; omega
      | process => simp only [phase] at pace; omega
      | acknowledge len => simp only [phase] at pace; omega
      | done exit => simp [dialogueStep, phase] at taken
      | clear =>
        simp only [phase] at pace
        simp only [dialogueStep, phase, owed, if_true] at taken
        obtain rfl := Option.some.inj taken
        rcases once.inOrder with same | ⟨_, wakes⟩
        · have lengths := congrArg List.length same
          rw [List.length_append, List.length_singleton, ← pace.2] at lengths
          omega
        · rcases wakes with ⟨pending, _⟩ | processing
          · exact absurd (phase.symm.trans pending) (by simp)
          · exact absurd (phase.symm.trans processing) (by simp)
    · cases phase : dialogue.loop.phase with
      | pend => rfl
      | _ => simp [dialogueStep, phase, owed] at taken

/-- A run begins paced. -/
theorem opening_paced (platform : Platform Flash) (tftp : Tftp Flash) (recvSem : Nat) :
    Paced (opening platform tftp recvSem) where
  pace := ⟨rfl, rfl⟩
  timeout := by
    intro timedOut
    simp [opening] at timedOut

/-- For every server that speaks when asked and every order of the two threads: each
datagram is processed exactly once and in order, and no timeout passes one over, exactly
when every datagram is delivered while the loop waits for it. What breaks it is a datagram
that comes before the clear of the semaphore: its post is thrown away, and the next one
finds another datagram in the buffer. -/
theorem datagrams_exactly_once (platform : Platform Flash) (tftp : Tftp Flash) (recvSem : Nat)
    (moves : List Move) :
    Always (dialogueStep platform) ExactlyOnce (opening platform tftp recvSem) moves ↔
      Guarded (dialogueStep platform) DeliveredWhileWaiting (opening platform tftp recvSem) moves :=
  always_iff_guarded Paced ExactlyOnce (fun _ => Paced.exactlyOnce) Paced.keeps Paced.needed
    (opening_paced platform tftp recvSem) moves

/-- The server answers the read request before the loop clears its semaphore. -/
def quickReply : List Move :=
  [.advance, .deliver ⟨dataPacket 1 [1], 5000⟩, .advance, .timeout]

/-- The quick reply is cleared away, and the loop times out with the datagram in
its buffer. -/
theorem quick_reply_lost :
    ¬ Always (dialogueStep samplePlatform) ExactlyOnce (opening samplePlatform sampleClient 0)
      quickReply := by
  intro along
  have ends : (run (dialogueStep samplePlatform) (opening samplePlatform sampleClient 0) quickReply).map
      (fun dialogue => (dialogue.timedOut, dialogue.delivered.length, dialogue.processed.length)) =
        some (true, 1, 0) := by decide
  obtain ⟨final, completed, facts⟩ := Option.map_eq_some_iff.mp ends
  simp only [Prod.mk.injEq] at facts
  have same := congrArg List.length ((always_final along completed).timeout facts.1)
  omega

end UcosProxy.TftpReceive
