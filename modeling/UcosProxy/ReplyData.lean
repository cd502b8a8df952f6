import UcosProxy.CaptureBounds

/-!
# What a read makes of its reply

Every function that reads from the control board hands `ctrl_require` a place and a
number of bytes, and returns what that returns. Here one such call runs undisturbed in
any state of the slot and the tables, up to a matching reply or up to its timeout.

The bytes are copied out of the slot whatever the reply's header says. Behind a reply
that reports an error they are not the data that was asked for, and behind a reply
shorter than the copy the last of them are an earlier reply's. In both cases the call
returns 0. `web_write_opt`, `web_write_eth` and `web_write_e1` look at the status.
-/

namespace UcosProxy.ReplyData

open Bytes Runs Semaphore ControlRequire ControlTables ControlMemory CaptureBounds

variable {callers : Nat}

/-- The functions that copy a reply. They differ in what they ask for and in how many bytes
they copy, and have one law. -/
inductive ReadOp
  | deviceId (crRemoteChosen : Bool)
  | boardExist
  | bulbVer (board : Board)
  | optConfig (board : Board)
  | optState (board : Board)
  | ethGe (board : Board)
  | ethFe (board : Board)
  | e1 (board : Board)
deriving DecidableEq

namespace ReadOp

/-- The function, with the value of `ctrl_require` returned. -/
def program (codes : Codes) (headSize : Nat) : ReadOp → Program
  | deviceId crRemoteChosen => webReadDeviceId codes headSize crRemoteChosen (.ret 0) (.ret (-1))
  | boardExist => webReadBoardExist codes headSize (.ret 0) (.ret (-1))
  | bulbVer board => webReadBulbVerOneBoard codes headSize board (.ret 0) (.ret (-1))
  | optConfig board => webReadOptConfigOneBoard codes headSize board (.ret 0) (.ret (-1))
  | optState board => webReadOptStateOneBoard codes headSize board (.ret 0) (.ret (-1))
  | ethGe board => webReadEthGeOneBoard codes headSize board (.ret 0) (.ret (-1))
  | ethFe board => webReadEthFeOneBoard codes headSize board (.ret 0) (.ret (-1))
  | e1 board => webReadE1OneBoard codes headSize board (.ret 0) (.ret (-1))

/-- `cp_dst`. They are offsets from the control structure, the board's entry included. -/
def cpDst (headSize : Nat) : ReadOp → Nat
  | deviceId _ => devIdAt headSize
  | boardExist => boardsExistAt headSize
  | bulbVer board => bulbVerAt headSize + 20 * board
  | optConfig board => optAt headSize + 17 * board
  | optState board => optAt headSize + 17 * board + 8
  | ethGe board => ethAt headSize + 44 * board
  | ethFe board => ethAt headSize + 44 * board + 10
  | e1 board => e1At headSize + 33 * board

/-- `cp_size`. It is the size of what is read into, whatever the reply has. -/
def cpSize : ReadOp → Nat
  | deviceId _ => 2
  | boardExist => 40
  | bulbVer _ => 16
  | optConfig _ => 8
  | optState _ => 8
  | ethGe _ => 8
  | ethFe _ => 32
  | e1 _ => 32

/-- Every function is one call of `ctrl_require` into its place. -/
theorem program_eq (codes : Codes) (headSize : Nat) (read : ReadOp) :
    ∃ arg, read.program codes headSize =
      .require arg (read.cpDst headSize) read.cpSize (.ret 0) (.ret (-1)) := by
  cases read <;> exact ⟨_, rfl⟩

/-- The place lies behind the frame's body and inside the structure. -/
theorem cpDst_inside (headSize : Nat) (read : ReadOp) :
    bodySize ≤ read.cpDst headSize ∧ read.cpDst headSize + read.cpSize ≤ controlEnd headSize := by
  obtain ⟨devId, boardsExist, bulbVer, opt, eth, e1, ends⟩ := inOrder headSize
  cases read with
  | deviceId _ | boardExist =>
    simp only [cpDst, cpSize]
    omega
  | bulbVer board | optConfig board | optState board | ethGe board | ethFe board | e1 board =>
    have few : (board : Nat) < 9 := board.isLt
    simp only [cpDst, cpSize]
    omega

end ReadOp

/-- A frame for the web server, with as many bytes behind its header as this says and no
more than the slot's body has. Its status and its contents are open, and so is whether it
answers this request. -/
structure MatchingReply (frame : DybFrame) : Prop where
  filter : matchesWeb frame.hdr = true
  whole : frame.body.length = frame.hdr.cmdLen.toNat
  short : frame.hdr.cmdLen.toNat ≤ bodySize

/-- A call of `ctrl_require` from its first step to its last: a reply comes while it
waits, or its second runs out. -/
def exchange (caller : Fin callers) (request : Nat) : Option DybFrame →
    List (CaptureBounds.Event callers)
  | some frame => List.replicate 4 (.advance caller) ++ [.capture request frame] ++
      List.replicate 3 (.advance caller)
  | none => List.replicate 4 (.advance caller) ++ [.timeout caller, .advance caller]

/-- Some bytes of the structure. -/
def region (memory : List Byte) (offset size : Nat) : List Byte := (memory.drop offset).take size

/-- A reply without error that is long enough is data. The readers ask for neither:
`ctrl_require` returns 0 as soon as the semaphore is posted, and the copy has the reader's
own size. -/
def Usable (read : ReadOp) (frame : DybFrame) : Prop :=
  frame.hdr.cmdStatus = 0 ∧ read.cpSize ≤ frame.hdr.cmdLen.toNat

instance (read : ReadOp) (frame : DybFrame) : Decidable (Usable read frame) :=
  inferInstanceAs (Decidable (_ ∧ _))

/-- What a read owes its caller: 0 and the reply's own bytes for a usable reply, and for
anything else -1 and the bytes from before. -/
def ReadLaw (headSize : Nat) (read : ReadOp) (before after : List Byte) (ret : Int) :
    Option DybFrame → Prop
  | some frame =>
    if Usable read frame then
      ret = 0 ∧ region after (read.cpDst headSize) read.cpSize = frame.body.take read.cpSize
    else
      ret = -1 ∧ region after (read.cpDst headSize) read.cpSize =
        region before (read.cpDst headSize) read.cpSize
  | none =>
    ret = -1 ∧ region after (read.cpDst headSize) read.cpSize =
      region before (read.cpDst headSize) read.cpSize

/-! ## Regions -/

/-- A region is read back behind a copy into it. -/
theorem region_overwrite (memory source : List Byte) (offset : Nat)
    (inside : offset + source.length ≤ memory.length) :
    region (overwrite memory offset source) offset source.length = source := by
  have front : (memory.take offset).length = offset := by
    rw [List.length_take]
    omega
  rw [region, overwrite, List.append_assoc, List.drop_left' front, List.take_left' rfl]

/-- The head of the slot behind a capture: the reply's bytes, and behind a short reply
the bytes that were there. -/
theorem captured_head (memory source : List Byte) (size : Nat) :
    (overwrite memory 0 source).take size =
      source.take size ++ (memory.drop source.length).take (size - source.length) := by
  simp only [overwrite, List.take_zero, List.nil_append, Nat.zero_add, List.take_append]

/-! ## One call -/

section call
variable {codes : Codes} {headSize : Nat} {readers : Readers callers} {caller : Fin callers}
  {arg : BitVec 16 → WebDybArg} {dst size : Nat} {reply timeout : Program}

/-- A call that is answered goes on with the first of its ways, and the place holds the
head of the slot, whatever the reply's header says. -/
theorem answered_program (frame : DybFrame) (request : Nat)
    (idle : readers.control.phase caller = .idle) (free : 0 < readers.control.llAccessMtx)
    (program : readers.program caller = .require arg dst size reply timeout)
    (filter : matchesWeb frame.hdr = true) :
    ∃ after, run (readersStep codes headSize) readers (exchange caller request (some frame)) =
        some after ∧
      after.program caller = reply ∧
      after.control.memory =
        let captured := overwrite readers.control.memory 0 (frame.body.take frame.hdr.cmdLen.toNat)
        overwrite captured dst (captured.take size) := by
  obtain ⟨left, count⟩ := Nat.exists_eq_succ_of_ne_zero (Nat.ne_of_gt free)
  have pended : osSemPend readers.control.llAccessMtx = some left :=
    (osSemPend_eq_some_iff _ _).mpr count
  have posted : osSemPend (osSemPost (osSemSet readers.control.waitSem 0)) = some 0 := rfl
  simp [exchange, List.replicate, run, readersStep, Readers.advance, idle, program, requireStep,
    ControlRequire.advance, pended, Control.to, Control.take, ctrlDybFrameCapture, filter, posted,
    Readers.goTo, CaptureBounds.stored]

/-- A call without a reply goes on with the other one and leaves the memory as it is. -/
theorem unanswered_program (request : Nat)
    (idle : readers.control.phase caller = .idle) (free : 0 < readers.control.llAccessMtx)
    (program : readers.program caller = .require arg dst size reply timeout) :
    ∃ after, run (readersStep codes headSize) readers (exchange caller request none) = some after ∧
      after.program caller = timeout ∧ after.control.memory = readers.control.memory := by
  obtain ⟨left, count⟩ := Nat.exists_eq_succ_of_ne_zero (Nat.ne_of_gt free)
  have pended : osSemPend readers.control.llAccessMtx = some left :=
    (osSemPend_eq_some_iff _ _).mpr count
  simp [exchange, List.replicate, run, readersStep, Readers.advance, idle, program, requireStep,
    ControlRequire.advance, pended, Control.to, osSemSet, Readers.goTo]

end call

/-- What an answered read returns and leaves in its place: 0 and the reply's bytes, made
up from the slot where the reply is short. -/
theorem read_answered {codes : Codes} {headSize : Nat} {readers : Readers callers}
    {caller : Fin callers} (read : ReadOp) (frame : DybFrame) (request : Nat)
    (idle : readers.control.phase caller = .idle) (free : 0 < readers.control.llAccessMtx)
    (program : readers.program caller = read.program codes headSize)
    (whole : controlEnd headSize ≤ readers.control.memory.length) (matching : MatchingReply frame) :
    ∃ after, run (readersStep codes headSize) readers (exchange caller request (some frame)) =
        some after ∧
      after.program caller = .ret 0 ∧
      region after.control.memory (read.cpDst headSize) read.cpSize =
        frame.body.take read.cpSize ++ (readers.control.memory.drop frame.body.length).take
          (read.cpSize - frame.body.length) := by
  obtain ⟨arg, require⟩ := read.program_eq codes headSize
  obtain ⟨behind, inside⟩ := read.cpDst_inside headSize
  obtain ⟨after, ran, returned, memory⟩ :=
    answered_program frame request idle free (program.trans require) matching.filter
  have body : frame.body.take frame.hdr.cmdLen.toNat = frame.body :=
    List.take_of_length_le (Nat.le_of_eq matching.whole)
  have short : frame.body.length ≤ bodySize := matching.whole ▸ matching.short
  have length : (overwrite readers.control.memory 0 frame.body).length =
      readers.control.memory.length := by
    apply overwrite_length
    omega
  have copied : ((overwrite readers.control.memory 0 frame.body).take read.cpSize).length =
      read.cpSize := by
    rw [List.length_take, length]
    omega
  refine ⟨after, ran, returned, ?_⟩
  have stored := region_overwrite (overwrite readers.control.memory 0 frame.body)
    ((overwrite readers.control.memory 0 frame.body).take read.cpSize) (read.cpDst headSize)
    (by rw [copied, length]; omega)
  rw [copied] at stored
  rw [captured_head] at stored
  simp only [memory, body, captured_head]
  exact stored

/-- A read behaves as it should exactly when no reply comes or a usable one: an error reply
and a short one are both taken for data. One call is followed from its first step to its
last, from a state in which nobody else has the mutex. The other bytes of a short reply are
those that an earlier frame left in the slot. -/
theorem read_law_iff {codes : Codes} {headSize : Nat} {readers : Readers callers}
    {caller : Fin callers} (read : ReadOp) (reply : Option DybFrame) (request : Nat)
    (idle : readers.control.phase caller = .idle) (free : 0 < readers.control.llAccessMtx)
    (program : readers.program caller = read.program codes headSize)
    (whole : controlEnd headSize ≤ readers.control.memory.length)
    (matching : ∀ frame ∈ reply, MatchingReply frame) :
    ∃ after ret, run (readersStep codes headSize) readers (exchange caller request reply) =
        some after ∧
      after.program caller = .ret ret ∧
      (ReadLaw headSize read readers.control.memory after.control.memory ret reply ↔
        ∀ frame ∈ reply, Usable read frame) := by
  cases reply with
  | none =>
    obtain ⟨arg, require⟩ := read.program_eq codes headSize
    obtain ⟨after, ran, returned, memory⟩ :=
      unanswered_program request idle free (program.trans require)
    refine ⟨after, -1, ran, returned, ?_⟩
    simp [ReadLaw, memory]
  | some frame =>
    obtain ⟨after, ran, returned, stored⟩ :=
      read_answered read frame request idle free program whole (matching frame rfl)
    refine ⟨after, 0, ran, returned, ?_⟩
    simp only [ReadLaw, Option.mem_def, Option.some.injEq, forall_eq']
    by_cases usable : Usable read frame
    · have none_left : read.cpSize - frame.body.length = 0 := by
        have enough := usable.2
        rw [(matching frame rfl).whole]
        omega
      rw [if_pos usable]
      rw [none_left, List.take_zero, List.append_nil] at stored
      exact ⟨fun _ => usable, fun _ => ⟨trivial, stored⟩⟩
    · rw [if_neg usable]
      constructor
      · rintro ⟨failed, _⟩
        exact absurd failed (by decide)
      · intro usable'
        exact absurd usable' usable

/-- A structure whose slot holds an earlier reply, and a caller about to read. -/
def afterReply (read : ReadOp) : Readers 1 where
  control := { ctrlWebControlCommInit 1 (controlEnd 24) with
    memory := overwrite (List.replicate (controlEnd 24) 0) 0 (List.replicate bodySize 0xaa) }
  program := fun _ => read.program sampleCodes 24

/-- A matching reply with a status and a body. -/
def replyFrame (cmdStatus : Nat) (body : List Byte) : DybFrame where
  hdr := { zeroHead with
    serverSeq := webSeqField
    threadNetid := webThreadidField
    cmdStatus := cmdStatus
    cmdLen := BitVec.ofNat 16 body.length }
  body := body

/-- The device id is read from a good reply. -/
theorem device_id_read :
    ∃ after ret, run (readersStep sampleCodes 24) (afterReply (.deviceId false))
        (exchange 0 0 (some (replyFrame 0 [7, 0]))) = some after ∧
      after.program 0 = .ret ret ∧
      (ReadLaw 24 (.deviceId false) (afterReply (.deviceId false)).control.memory
          after.control.memory ret (some (replyFrame 0 [7, 0])) ↔
        ∀ frame ∈ some (replyFrame 0 [7, 0]), Usable (.deviceId false) frame) :=
  read_law_iff (.deviceId false) (some (replyFrame 0 [7, 0])) 0 rfl (by decide) rfl
    (by decide +kernel) (by
      intro frame same
      obtain rfl := Option.some.inj same
      exact ⟨by decide, by decide, by decide⟩)

/-- A reply of one byte for the device id, and one that reports an error: the call returns
0 both times, and the first id is made up from the earlier reply. -/
theorem leftovers_are_read :
    (∃ after, run (readersStep sampleCodes 24) (afterReply (.deviceId false))
        (exchange 0 0 (some (replyFrame 0 [7]))) = some after ∧
      after.program 0 = .ret 0 ∧ region after.control.memory (devIdAt 24) 2 = [7, 0xaa] ∧
      ¬ ReadLaw 24 (.deviceId false) (afterReply (.deviceId false)).control.memory
        after.control.memory 0 (some (replyFrame 0 [7]))) ∧
    (∃ after, run (readersStep sampleCodes 24) (afterReply (.deviceId false))
        (exchange 0 0 (some (replyFrame 1 [7, 0]))) = some after ∧
      after.program 0 = .ret 0 ∧ region after.control.memory (devIdAt 24) 2 = [7, 0] ∧
      ¬ ReadLaw 24 (.deviceId false) (afterReply (.deviceId false)).control.memory
        after.control.memory 0 (some (replyFrame 1 [7, 0]))) := by
  have whole : controlEnd 24 ≤ (afterReply (.deviceId false)).control.memory.length := by
    decide +kernel
  have refused (before after : List Byte) (frame : DybFrame)
      (unusable : ¬ Usable (.deviceId false) frame) :
      ¬ ReadLaw 24 (.deviceId false) before after 0 (some frame) := by
    rw [ReadLaw, if_neg unusable]
    rintro ⟨failed, _⟩
    exact absurd failed (by decide)
  have answered (frame : DybFrame) (matching : MatchingReply frame) :=
    @read_answered 1 sampleCodes 24 (afterReply (.deviceId false)) 0 (.deviceId false) frame 0 rfl
      (by decide) rfl whole matching
  constructor
  · obtain ⟨after, ran, returned, stored⟩ :=
      answered (replyFrame 0 [7]) ⟨by decide, by decide, by decide⟩
    exact ⟨after, ran, returned, stored.trans (by decide), refused _ _ _ (by decide)⟩
  · obtain ⟨after, ran, returned, stored⟩ :=
      answered (replyFrame 1 [7, 0]) ⟨by decide, by decide, by decide⟩
    exact ⟨after, ran, returned, stored.trans (by decide), refused _ _ _ (by decide)⟩

end UcosProxy.ReplyData
