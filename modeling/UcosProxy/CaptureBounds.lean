import UcosProxy.ControlMemory

/-!
# Captured frames and the tables behind the slot

`ctrl_dyb_frame_capture` copies as many bytes as the frame's header says. The slot's
body has 256, and the device id, the list of boards and the tables come behind it.
Here frames are captured at any time beside any number of readers, each in the middle
of its program or of a call of `ctrl_require`; the header's contents and the bytes
behind it are arbitrary, and nothing was asked for.

`captures_stay_in_the_frame` is about every such run: as long as the matching frames
are no longer than the body, a capture changes the slot and the semaphore only, and
each amount stays within its array. `capture_in_frame_iff` says that no longer length
is safe for a matching header.

Two frames are never captured at once, and a copy is not cut in two by a capture.
-/

namespace UcosProxy.CaptureBounds

open Bytes Runs Semaphore ControlRequire ControlTables PortArrays ControlMemory

variable {callers : Nat}

/-- The control structure with the readers at work on it. Each caller has the rest of its
reader, which may wait for a reply while others go on. -/
structure Readers (callers : Nat) where
  control : Control callers
  program : Fin callers → Program

/-- What can happen: a reader starts, takes its next step or loses its reply, or a
frame is captured. -/
inductive Event (callers : Nat)
  | read (caller : Fin callers) (reader : Reader) (crRemoteChosen : Bool)
  | advance (caller : Fin callers)
  | timeout (caller : Fin callers)
  | capture (answers : Nat) (frame : DybFrame)

/-- `memcpy` or an assignment into the structure. -/
def stored (control : Control callers) (offset : Nat) (source : List Byte) : Control callers :=
  { control with memory := overwrite control.memory offset source }

/-- The test at the head of every reader's loop, on the list of boards in memory. -/
def boardListed (headSize : Nat) (memory : List Byte) (board : Board) (tab : List (BitVec 32)) : Bool :=
  (word16 memory (boardsExistAt headSize)).getLsbD board &&
    ctrlCheckContainIftype (word32 memory (boardsExistAt headSize + 2 + 4 * board)) tab

/-- One caller goes on with its program. -/
def Readers.goTo (readers : Readers callers) (caller : Fin callers) (program : Program) :
    Readers callers :=
  { readers with program := Function.update readers.program caller program }

/-- The next step of a reader: of its program, or of the call that it is in. -/
def Readers.advance (headSize : Nat) (readers : Readers callers) (caller : Fin callers) :
    Option (Readers callers) :=
  match readers.control.phase caller, readers.program caller with
  | .idle, .ret _ => none
  | .idle, .write offset source next =>
    some ({ readers with control := stored readers.control offset source }.goTo caller next)
  | .idle, .contains board tab yes no =>
    some (readers.goTo caller (if boardListed headSize readers.control.memory board tab then yes else no))
  | .idle, .require arg _ size _ _ =>
    (requireStep readers.control
      (.call caller ⟨arg (word16 readers.control.memory (devIdAt headSize)), some size⟩)).map
      fun control => { readers with control := control }
  | .woken _ _, .require _ dst size _ _ =>
    (ControlRequire.advance readers.control caller).map fun control =>
      { readers with control := stored control dst (control.memory.take size) }
  | .releasing _ ret _, .require _ _ _ reply timeout =>
    (ControlRequire.advance readers.control caller).map fun control =>
      { readers with control := control }.goTo caller (if ret < 0 then timeout else reply)
  | _, _ =>
    (ControlRequire.advance readers.control caller).map fun control =>
      { readers with control := control }

/-- One event. A caller starts a reader when its last one has returned. -/
def readersStep (codes : Codes) (headSize : Nat) (readers : Readers callers) :
    Event callers → Option (Readers callers)
  | .read caller reader crRemoteChosen =>
    match readers.control.phase caller, readers.program caller with
    | .idle, .ret _ => some (readers.goTo caller (readerProgram codes headSize reader crRemoteChosen))
    | _, _ => none
  | .advance caller => readers.advance headSize caller
  | .timeout caller =>
    (requireStep readers.control (.timeout caller)).map fun control =>
      { readers with control := control }
  | .capture answers frame =>
    some { readers with control := ctrlDybFrameCapture readers.control answers frame }

/-- `ctrl_web_control_comm_init`, with some memory behind the structure. -/
def startReaders (callers headSize heap : Nat) : Readers callers where
  control := ctrlWebControlCommInit callers (controlEnd headSize + heap)
  program := fun _ => .ret 0

/-- A matching frame is no longer than the slot's body. -/
def FitsBody (_ : Readers callers) : Event callers → Prop
  | .capture _ frame => matchesWeb frame.hdr → frame.hdr.cmdLen.toNat ≤ bodySize
  | _ => True

instance (readers : Readers callers) : ∀ event, Decidable (FitsBody readers event)
  | .capture _ frame =>
    inferInstanceAs (Decidable (matchesWeb frame.hdr → frame.hdr.cmdLen.toNat ≤ bodySize))
  | .read _ _ _ => isTrue trivial
  | .advance _ => isTrue trivial
  | .timeout _ => isTrue trivial

/-- Behind a capture all memory behind the slot is as before, the mutex too, and the
semaphore is posted when the frame matches. A frame that does not match changes nothing. It
is a statement about one capture. What the frame says its length is stays unchecked in the
code, so the statement can fail. -/
structure InFrame (before after : Control callers) (hdr : DybHead) : Prop where
  tables : after.memory.drop bodySize = before.memory.drop bodySize
  mutex : after.llAccessMtx = before.llAccessMtx
  waitSem : after.waitSem =
    if matchesWeb hdr then osSemPost before.waitSem else before.waitSem
  unmatched : matchesWeb hdr = false → after = before

/-- A capture changes the slot only. -/
def CapturesInFrame (readers : Readers callers) : Event callers → Prop
  | .capture answers frame =>
    InFrame readers.control (ctrlDybFrameCapture readers.control answers frame) frame.hdr
  | _ => True

/-- Every amount is within its array. A loop over the ports runs to the amount, so an amount
beyond its array would read what lies behind. -/
def AmountsWithin (headSize : Nat) (readers : Readers callers) : Prop :=
  ∀ (kind : PortKind) (board : Board),
    (readers.control.memory.getD (amountAt headSize kind board) 0).toNat ≤ kind.count

instance (headSize : Nat) (readers : Readers callers) : Decidable (AmountsWithin headSize readers) :=
  inferInstanceAs (Decidable (∀ (_ : PortKind) (_ : Board), _ ≤ _))

/-! ## Copies -/

/-- A copy over the body's first bytes leaves what is behind the body. -/
theorem overwrite_body (memory source : List Byte) (short : source.length ≤ bodySize) :
    (overwrite memory 0 source).drop bodySize = memory.drop bodySize := by
  simp only [overwrite, List.take_zero, List.nil_append, Nat.zero_add]
  rw [List.drop_append, List.drop_eq_nil_of_le short, List.nil_append, List.drop_drop,
    Nat.add_sub_cancel' short]

/-- A frame that fits the body stays in the slot. -/
theorem capture_inFrame (control : Control callers) (answers : Nat) (frame : DybFrame)
    (short : matchesWeb frame.hdr → frame.hdr.cmdLen.toNat ≤ bodySize) :
    InFrame control (ctrlDybFrameCapture control answers frame) frame.hdr := by
  by_cases matching : matchesWeb frame.hdr = true
  · simp only [ctrlDybFrameCapture, matching, if_true]
    refine ⟨?_, rfl, by rw [if_pos matching], fun other => ?_⟩
    · apply overwrite_body
      exact Nat.le_trans (List.length_take_le _ _) (short matching)
    · rw [matching] at other
      cases other
  · have same : ctrlDybFrameCapture control answers frame = control := by
      simp only [ctrlDybFrameCapture, if_neg matching]
    rw [same]
    exact ⟨rfl, rfl, (if_neg matching).symm, fun _ => rfl⟩

/-- Every capture of a header stays in the slot exactly when the header does not match
or its length is that of the body at most: any longer one writes over what stands
behind the body. -/
theorem capture_in_frame_iff (callers room : Nat) (hdr : DybHead) (enough : bodySize < room) :
    (∀ (control : Control callers) (answers : Nat) (body : List Byte),
        control.memory.length = room →
          InFrame control (ctrlDybFrameCapture control answers ⟨hdr, body⟩) hdr) ↔
      (matchesWeb hdr → hdr.cmdLen.toNat ≤ bodySize) := by
  constructor
  · intro confined matching
    by_contra long
    -- A payload of ones over a structure of zeros.
    let control := ctrlWebControlCommInit callers room
    let body : List Byte := List.replicate hdr.cmdLen.toNat 1
    have inside := (confined control 0 body List.length_replicate).tables
    have first := congrArg (fun memory => memory.getD 0 0) inside
    simp only [ctrlDybFrameCapture, matching, if_true, control, ctrlWebControlCommInit, overwrite,
      body, List.take_replicate, Nat.zero_min, List.replicate_zero, List.nil_append, Nat.min_self,
      List.getD_eq_getElem?_getD, List.getElem?_drop, Nat.add_zero] at first
    rw [List.getElem?_append_left (by rw [List.length_replicate]; omega),
      List.getElem?_replicate_of_lt (by omega), List.getElem?_replicate_of_lt enough] at first
    exact absurd first (by decide)
  · intro short control answers body _
    exact capture_inFrame control answers ⟨hdr, body⟩ short

/-! ## Reachable states -/

/-- The structure is whole and its amounts are within their arrays. The layout is that of
the structure with a head of `headSize` bytes, since the head's own fields come from outside
the repository. -/
structure Intact (headSize : Nat) (memory : List Byte) : Prop where
  whole : controlEnd headSize ≤ memory.length
  within : ∀ kind board, (memory.getD (amountAt headSize kind board) 0).toNat ≤ kind.count

/-- A write that spares the amounts. -/
theorem Intact.stored {headSize offset : Nat} {memory source : List Byte}
    (intact : Intact headSize memory) (spares : Spares headSize offset source) :
    Intact headSize (overwrite memory offset source) := by
  have fits := Nat.le_trans spares.inside intact.whole
  constructor
  · rw [overwrite_length memory source offset fits]
    exact intact.whole
  · intro kind board
    rw [getD_overwrite memory source offset _ fits]
    split
    · rename_i inside
      exact spares.amounts kind board inside.1 inside.2
    · exact intact.within kind board

/-- A capture that leaves what is behind the body. -/
theorem Intact.captured {headSize : Nat} {memory after : List Byte}
    (intact : Intact headSize memory) (tables : after.drop bodySize = memory.drop bodySize) :
    Intact headSize after := by
  have behind (index : Nat) (far : bodySize ≤ index) : after.getD index 0 = memory.getD index 0 := by
    have same := congrArg (fun bytes => bytes.getD (index - bodySize) 0) tables
    simpa only [List.getD_eq_getElem?_getD, List.getElem?_drop, Nat.add_sub_cancel' far] using same
  constructor
  · have lengths := congrArg List.length tables
    have whole := intact.whole
    have far := amountAt_inside headSize .opt 0
    rw [List.length_drop, List.length_drop] at lengths
    omega
  · intro kind board
    rw [behind _ (amountAt_inside headSize kind board).1]
    exact intact.within kind board

/-- What holds between any two steps. The memory has its size and its amounts in bounds, and
every reader has left only what keeps them there. -/
structure Bounded (headSize : Nat) (readers : Readers callers) : Prop where
  intact : Intact headSize readers.control.memory
  sound : ∀ caller, (readers.program caller).Sound headSize

/-- A caller's own steps inside a call leave the memory to its program. -/
theorem advance_memory {control after : Control callers} {caller : Fin callers}
    (taken : ControlRequire.advance control caller = some after) :
    after.memory = control.memory := by
  cases advances taken <;> rfl

/-- Beginning a call and losing a reply leave the memory as it is. -/
theorem call_memory {control after : Control callers} {caller : Fin callers} {require : Require}
    (taken : requireStep control (.call caller require) = some after) :
    after.memory = control.memory := by
  obtain ⟨_, rfl⟩ := call_eq_some taken
  rfl

theorem timeout_memory {control after : Control callers} {caller : Fin callers}
    (taken : requireStep control (.timeout caller) = some after) :
    after.memory = control.memory := by
  obtain ⟨_, _, _, _, rfl⟩ := timeout_eq_some taken
  rfl

/-- A step that leaves the memory and the programs. -/
theorem Bounded.aside {headSize : Nat} {readers : Readers callers} {control : Control callers}
    (bounded : Bounded headSize readers) (memory : control.memory = readers.control.memory) :
    Bounded headSize { readers with control := control } := by
  refine ⟨?_, bounded.sound⟩
  rw [memory]
  exact bounded.intact

/-- A caller goes on with a sound program. -/
theorem Bounded.goTo {headSize : Nat} {readers : Readers callers}
    (bounded : Bounded headSize readers) (caller : Fin callers) {program : Program}
    (sound : program.Sound headSize) : Bounded headSize (readers.goTo caller program) := by
  refine ⟨bounded.intact, ?_⟩
  intro other
  by_cases same : other = caller
  · simpa only [Readers.goTo, same, Function.update_self] using sound
  · simpa only [Readers.goTo, Function.update_of_ne same] using bounded.sound other

/-- A reader's next step keeps the amounts within their arrays. -/
theorem Bounded.advance {headSize : Nat} {readers next : Readers callers}
    (bounded : Bounded headSize readers) (caller : Fin callers)
    (taken : readers.advance headSize caller = some next) : Bounded headSize next := by
  have sound := bounded.sound caller
  unfold Readers.advance at taken
  split at taken
  case h_1 => cases taken
  case h_2 offset source rest phase program =>
    obtain rfl := Option.some.inj taken
    rw [program] at sound
    have written : Bounded headSize
        { readers with control := CaptureBounds.stored readers.control offset source } :=
      ⟨bounded.intact.stored sound.1, bounded.sound⟩
    exact written.goTo caller sound.2
  case h_3 board tab yes no phase program =>
    obtain rfl := Option.some.inj taken
    rw [program] at sound
    apply bounded.goTo
    split
    · exact sound.1
    · exact sound.2
  case h_4 =>
    obtain ⟨control, called, rfl⟩ := Option.map_eq_some_iff.mp taken
    exact bounded.aside (call_memory called)
  case h_5 arg dst size reply timeout phase program =>
    obtain ⟨control, moved, rfl⟩ := Option.map_eq_some_iff.mp taken
    rw [program] at sound
    have intact : Intact headSize control.memory := advance_memory moved ▸ bounded.intact
    exact ⟨intact.stored (sound.1.spares headSize _ (List.length_take_le _ _)), bounded.sound⟩
  case h_6 ret _ arg dst size reply timeout phase program =>
    obtain ⟨control, moved, rfl⟩ := Option.map_eq_some_iff.mp taken
    rw [program] at sound
    apply (bounded.aside (advance_memory moved)).goTo
    split
    · exact sound.2.2
    · exact sound.2.1
  case h_7 =>
    obtain ⟨control, moved, rfl⟩ := Option.map_eq_some_iff.mp taken
    exact bounded.aside (advance_memory moved)

/-- Every event keeps the amounts within their arrays when the frames fit. -/
theorem Bounded.keeps {codes : Codes} {headSize : Nat} (readers : Readers callers)
    (event : Event callers) (next : Readers callers) (bounded : Bounded headSize readers)
    (fits : FitsBody readers event) (taken : readersStep codes headSize readers event = some next) :
    Bounded headSize next := by
  cases event with
  | read caller reader crRemoteChosen =>
    simp only [readersStep] at taken
    split at taken
    · obtain rfl := Option.some.inj taken
      exact bounded.goTo caller (readerProgram_sound headSize codes reader crRemoteChosen)
    · cases taken
  | advance caller => exact bounded.advance caller taken
  | timeout caller =>
    obtain ⟨control, lost, rfl⟩ := Option.map_eq_some_iff.mp taken
    exact bounded.aside (timeout_memory lost)
  | capture answers frame =>
    obtain rfl := Option.some.inj taken
    have inside := capture_inFrame readers.control answers frame fits
    exact ⟨bounded.intact.captured inside.tables, bounded.sound⟩

/-- The structure is cleared and no reader has started. -/
theorem start_bounded (callers headSize heap : Nat) :
    Bounded headSize (startReaders callers headSize heap) := by
  refine ⟨⟨?_, ?_⟩, fun _ => trivial⟩
  · simp only [startReaders, ctrlWebControlCommInit, List.length_replicate]
    omega
  · intro kind board
    simp only [startReaders, ctrlWebControlCommInit, List.getD_eq_getElem?_getD,
      List.getElem?_replicate]
    split <;> exact Nat.zero_le _

/-- In every run of readers and captures whose matching frames fit the body, every capture
changes the slot only and every amount stays within its array. The readers may stand
anywhere in their programs, and captures may come at any point of them. -/
theorem captures_stay_in_the_frame (codes : Codes) (callers headSize heap : Nat)
    (events : List (Event callers))
    (fits : Guarded (readersStep codes headSize) FitsBody (startReaders callers headSize heap) events) :
    Guarded (readersStep codes headSize) CapturesInFrame (startReaders callers headSize heap) events ∧
      Always (readersStep codes headSize) (AmountsWithin headSize)
        (startReaders callers headSize heap) events := by
  constructor
  · apply guarded_mono _ fits
    intro readers event fits
    cases event with
    | capture answers frame => exact capture_inFrame readers.control answers frame fits
    | _ => trivial
  · exact always_of_guarded (Bounded headSize) (AmountsWithin headSize)
      (fun _ bounded => bounded.intact.within) Bounded.keeps (start_bounded callers headSize heap)
      events fits

/-- A matching frame of some length, with the same byte throughout. -/
def webFrame (cmdLen : BitVec 16) (byte : Byte) : DybFrame where
  hdr := { zeroHead with serverSeq := webSeqField, threadNetid := webThreadidField, cmdLen := cmdLen }
  body := List.replicate cmdLen.toNat byte

/-- A reader asks for the device id and takes the reply, which fills the whole body. -/
def fullReply : List (Event 1) :=
  [.read soleCaller .opt false] ++ List.replicate 4 (.advance soleCaller) ++
    [.capture 0 (webFrame 256 0xff)] ++ List.replicate 3 (.advance soleCaller)

/-- The longest frame that fits does no harm. -/
theorem fullReply_stays_in_the_frame :
    Guarded (readersStep sampleCodes 24) FitsBody (startReaders 1 24 0) fullReply ∧
      Guarded (readersStep sampleCodes 24) CapturesInFrame (startReaders 1 24 0) fullReply ∧
        Always (readersStep sampleCodes 24) (AmountsWithin 24) (startReaders 1 24 0) fullReply :=
  have fits : Guarded (readersStep sampleCodes 24) FitsBody (startReaders 1 24 0) fullReply := by
    decide
  ⟨fits, captures_stay_in_the_frame sampleCodes 1 24 0 fullReply fits⟩

/-- The device id is taken over from the reply. -/
example : (run (readersStep sampleCodes 24) (startReaders 1 24 0) fullReply).map
    (fun readers => word16 readers.control.memory (devIdAt 24)) = some 0xffff := by
  decide

/-- A frame twice as long as the body. -/
def longFrame : List (Event 1) := [.capture 0 (webFrame 512 0xff)]

/-- It reaches the tables, and the amount of the first board's optical ports. -/
theorem longFrame_leaves_the_frame :
    ¬ (∀ events, Guarded (readersStep sampleCodes 24) CapturesInFrame (startReaders 1 24 0) events) ∧
      ¬ (∀ events, Always (readersStep sampleCodes 24) (AmountsWithin 24) (startReaders 1 24 0) events) := by
  constructor
  · intro confined
    have inside : InFrame _ _ _ := (guarded_cons (confined longFrame) rfl).1
    exact absurd inside.tables (by decide)
  · intro within
    have ends : (run (readersStep sampleCodes 24) (startReaders 1 24 0) longFrame).map
        (fun readers => decide (AmountsWithin 24 readers)) = some false := by decide +kernel
    obtain ⟨final, completed, beyond⟩ := Option.map_eq_some_iff.mp ends
    exact of_decide_eq_false beyond (always_final (within longFrame) completed)

end UcosProxy.CaptureBounds
