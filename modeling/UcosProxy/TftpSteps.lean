import UcosProxy.TftpClient

/-!
# What one turn of the receive loop can do

The loop body of `tftp_firmware_update` has many exits and few effects. A packet
that brings no new block changes nothing but the port, the frame buffer and the
packets sent. A packet that brings the next block is added to the image. An exit
inside the body leaves head, checksum and configuration alone. Behind a stored
block the body acknowledges it and either goes on, or finishes the download: the
checks refuse the image, or the configuration is committed.

`processed` and `acknowledged` say this for the two halves of the body, with every
check that the source makes on the way to a stored block. All later results about
transfers rest on these two case distinctions and never open the loop body again.

What the body never touches follows from its parts: behind the port check it is a
chain of five kinds of assignments, and `tftpProcess_keeps` carries over whatever
these keep. What the packets contain and where they go are two further laws. The last packet
sent is the one just built, whatever the frame buffer held, and `Addressed` says
that a function keeps the server address and sends only to it.
-/

namespace UcosProxy.TftpSteps

open Bytes RestartingSum TftpClient

variable {Flash : Type}

/-- What no exit inside the loop body touches. The counters may have moved: a block that is
refused late has been counted. -/
structure SameImage (before after : Tftp Flash) : Prop where
  stored : after.stored = before.stored
  updateFilehead : after.updateFilehead = before.updateFilehead
  checkSum : after.checkSum = before.checkSum
  updateCfg : after.updateCfg = before.updateCfg
  cfgWrites : after.cfgWrites = before.cfgWrites

/-- What a packet without a new block leaves alone. Such a packet may still be acknowledged,
and its number is remembered as the current block. -/
structure Quiet (before after : Tftp Flash) : Prop extends SameImage before after where
  fileLen : after.fileLen = before.fileLen
  prevBlock : after.prevBlock = before.prevBlock

/-- The effect of storing the next block, with the checks it passed. It is stated once for
every length, and what a transfer makes of it is derived from here. -/
structure Stores (platform : Platform Flash) (len : Nat) (before after : Tftp Flash) : Prop where
  recvLen : before.recvLen = len + 4
  positive : 0 < len
  inside : len ≤ tftpBlockSize
  next : wordAt before.frameBuffer 2 = before.prevBlock + 1
  fits : (before.fileLen + len) % u32Modulus ≤ platform.updateFlashMemorySize
  prevBlock : after.prevBlock = before.prevBlock + 1
  curBlock : after.curBlock = before.prevBlock + 1
  fileLen : after.fileLen = (before.fileLen + len) % u32Modulus
  digest : (after.updateFilehead, after.checkSum) =
    absorb platform.head.size u32Modulus (before.updateFilehead, before.checkSum)
      (framePage before len)
  stored : after.stored = before.stored ++ [framePage before len]
  updateCfg : after.updateCfg = before.updateCfg
  cfgWrites : after.cfgWrites = before.cfgWrites

/-- The results of the loop body up to a stored block. Every turn of the loop falls under
one of the three, so an invariant of the loop has three cases and not one for each check. -/
inductive Processed (platform : Platform Flash) (before : Tftp Flash) :
    Tftp Flash × Verdict → Prop where
  | again (after : Tftp Flash) (quiet : Quiet before after) :
      Processed platform before (after, .again)
  | store (after : Tftp Flash) (len : Nat) (stores : Stores platform len before after) :
      Processed platform before (after, .store len)
  | leave (after : Tftp Flash) (same : SameImage before after) :
      Processed platform before (after, .leave .failed)

/-- The results of the loop body behind a stored block. The configuration is written on the
last way only, and with the head and the checksum as they stood before. -/
inductive Acknowledged (platform : Platform Flash) (len : Nat) (before : Tftp Flash) :
    Tftp Flash × Option Exit → Prop where
  | more (after : Tftp Flash) (quiet : Quiet before after) (full : tftpBlockSize ≤ len) :
      Acknowledged platform len before (after, none)
  | refused (after : Tftp Flash) (quiet : Quiet before after) (short : len < tftpBlockSize)
      (bad : headAccepted platform.head before.updateFilehead before.checkSum = false) :
      Acknowledged platform len before (after, some .failed)
  | committed (after : Tftp Flash) (short : len < tftpBlockSize)
      (accepted : headAccepted platform.head before.updateFilehead before.checkSum = true)
      (stored : after.stored = before.stored)
      (updateFilehead : after.updateFilehead = before.updateFilehead)
      (updateCfg : after.updateCfg = committedCfg platform before)
      (cfgWrites : after.cfgWrites = before.cfgWrites ++ [committedCfg platform before]) :
      Acknowledged platform len before (after, some .succeeded)

/-- Sending a packet brings no block. -/
theorem tftpSendto_quiet (packet : List Byte) (len : Nat) (tftp : Tftp Flash) :
    Quiet tftp (tftpSendto packet len tftp) where
  stored := rfl
  updateFilehead := rfl
  checkSum := rfl
  updateCfg := rfl
  cfgWrites := rfl
  fileLen := rfl
  prevBlock := rfl

/-- The transfer identifier check brings no block and keeps the datagram when it
accepts. -/
theorem tftpCheckTid_quiet (tftp : Tftp Flash) : Quiet tftp (tftpCheckTid tftp).1 := by
  unfold tftpCheckTid
  split
  · exact ⟨⟨rfl, rfl, rfl, rfl, rfl⟩, rfl, rfl⟩
  · split
    · exact tftpSendto_quiet _ _ tftp
    · exact ⟨⟨rfl, rfl, rfl, rfl, rfl⟩, rfl, rfl⟩

/-- An accepted port leaves the datagram in the frame buffer. -/
theorem tftpCheckTid_accepted (tftp checked : Tftp Flash)
    (accepted : tftpCheckTid tftp = (checked, true)) :
    checked.frameBuffer = tftp.frameBuffer ∧ checked.recvLen = tftp.recvLen := by
  unfold tftpCheckTid at accepted
  split at accepted
  · obtain rfl : tftp = checked := (Prod.mk.inj accepted).1
    exact ⟨rfl, rfl⟩
  · split at accepted
    · simp at accepted
    · obtain rfl := (Prod.mk.inj accepted).1
      exact ⟨rfl, rfl⟩

/-- The state behind a page that `tftp_handle_data` accepts. -/
def handled (platform : Platform Flash) (len : Nat) (tftp : Tftp Flash) : Tftp Flash :=
  let page := framePage tftp len
  let digest := absorb platform.head.size u32Modulus (tftp.updateFilehead, tftp.checkSum) page
  let written := platform.writePage tftp.flash tftp.flashAddr page.bytes
  { tftp with
    fileLen := (tftp.fileLen + len) % u32Modulus
    updateFilehead := digest.1
    checkSum := digest.2
    flash := written.1
    flashAddr := (tftp.flashAddr + written.2) % u32Modulus
    stored := tftp.stored ++ [page] }

/-- `tftp_handle_data` takes one step of the restarting checksum, unless the file
grows too large. -/
theorem tftpHandleData_eq (platform : Platform Flash) (len : Nat) (tftp : Tftp Flash) :
    tftpHandleData platform len tftp =
      if (tftp.fileLen + len) % u32Modulus > platform.updateFlashMemorySize then
        ({ tftp with fileLen := (tftp.fileLen + len) % u32Modulus }, false)
      else (handled platform len tftp, true) := by
  unfold tftpHandleData handled
  by_cases fresh : tftp.checkSum = 0
  · simp only [absorb, fresh, if_true, Nat.zero_add]
  · simp only [absorb, fresh, if_false]

/-- The `TFTP_DATA` case on a datagram with its opcode already taken off. -/
theorem tftpDataCase_processed (platform : Platform Flash) (before tftp : Tftp Flash) (len : Nat)
    (quiet : Quiet before tftp) (frame : tftp.frameBuffer = before.frameBuffer)
    (recvLen : before.recvLen = len + 2) :
    Processed platform before (tftpDataCase platform len tftp) := by
  have same : SameImage before tftp := quiet.toSameImage
  unfold tftpDataCase
  by_cases short : len < 2
  · rw [if_pos short]
    exact .leave _ same
  · rw [if_neg short]
    by_cases wrong : wordAt tftp.frameBuffer 2 = 0 ∨ wordAt tftp.frameBuffer 2 > tftp.prevBlock + 1
    · rw [if_pos wrong]
      exact .leave _ ⟨same.stored, same.updateFilehead, same.checkSum, same.updateCfg, same.cfgWrites⟩
    · rw [if_neg wrong]
      by_cases old : wordAt tftp.frameBuffer 2 ≤ tftp.prevBlock
      · rw [if_pos old]
        exact .again _ ⟨⟨same.stored, same.updateFilehead, same.checkSum, same.updateCfg,
          same.cfgWrites⟩, quiet.fileLen, quiet.prevBlock⟩
      · rw [if_neg old]
        by_cases sized : 0 < len - 2 ∧ len - 2 ≤ tftpBlockSize
        · rw [if_pos sized]
          have next : wordAt tftp.frameBuffer 2 = before.prevBlock + 1 := by
            have kept := quiet.prevBlock
            omega
          let advanced := { tftp with
            curBlock := wordAt tftp.frameBuffer 2
            prevBlock := wordAt tftp.frameBuffer 2 }
          have page : framePage advanced (len - 2) = framePage before (len - 2) := by
            simp only [framePage, advanced, frame]
          rw [tftpHandleData_eq]
          by_cases large : (advanced.fileLen + (len - 2)) % u32Modulus >
              platform.updateFlashMemorySize
          · rw [if_pos large]
            exact .leave _
              ⟨same.stored, same.updateFilehead, same.checkSum, same.updateCfg, same.cfgWrites⟩
          · rw [if_neg large]
            have fits := Nat.le_of_not_lt large
            refine .store _ _ ⟨by omega, sized.1, sized.2, frame ▸ next, ?_, next, next, ?_, ?_, ?_,
              same.updateCfg, same.cfgWrites⟩
            · exact quiet.fileLen ▸ fits
            · exact congrArg (fun total => (total + (len - 2)) % u32Modulus) quiet.fileLen
            · rw [← page, ← same.updateFilehead, ← same.checkSum]
              rfl
            · rw [← page, ← same.stored]
              rfl
        · rw [if_neg sized]
          exact .leave _
            ⟨same.stored, same.updateFilehead, same.checkSum, same.updateCfg, same.cfgWrites⟩

/-- The loop body up to the stored block, for any datagram. -/
theorem processed (platform : Platform Flash) (tftp : Tftp Flash) :
    Processed platform tftp (tftpProcess platform tftp) := by
  have quiet := tftpCheckTid_quiet tftp
  unfold tftpProcess
  cases checking : tftpCheckTid tftp with
  | mk checked accepted =>
    rw [checking] at quiet
    cases accepted with
    | false => exact .leave _ quiet.toSameImage
    | true =>
      obtain ⟨frame, recvLen⟩ := tftpCheckTid_accepted tftp checked checking
      by_cases short : checked.recvLen < 2
      · simp only [short, if_true]
        exact .leave _ quiet.toSameImage
      · simp only [short, if_false]
        by_cases data : wordAt checked.frameBuffer 0 = TftpOpcode.data.code
        · rw [if_pos data]
          exact tftpDataCase_processed platform tftp checked _ quiet frame (by omega)
        · rw [if_neg data]
          by_cases error : wordAt checked.frameBuffer 0 = TftpOpcode.error.code
          · rw [if_pos error]
            exact .leave _ quiet.toSameImage
          · rw [if_neg error]
            by_cases oack : wordAt checked.frameBuffer 0 = TftpOpcode.oack.code
            · rw [if_pos oack]
              exact .again _ ⟨⟨quiet.stored, quiet.updateFilehead, quiet.checkSum, quiet.updateCfg,
                quiet.cfgWrites⟩, quiet.fileLen, quiet.prevBlock⟩
            · rw [if_neg oack]
              exact .leave _
                ⟨quiet.stored, quiet.updateFilehead, quiet.checkSum, quiet.updateCfg,
                  quiet.cfgWrites⟩

/-- The loop body behind a stored block, for any length. -/
theorem acknowledged (platform : Platform Flash) (len : Nat) (tftp : Tftp Flash) :
    Acknowledged platform len tftp (tftpAcknowledge platform len tftp) := by
  have quiet : Quiet tftp (tftpSendAckPacket tftp.curBlock tftp) := tftpSendto_quiet _ _ tftp
  unfold tftpAcknowledge
  by_cases short : len < tftpBlockSize
  · simp only [short, if_true]
    unfold tftpFirmwareDownloadFinish
    by_cases accepted : headAccepted platform.head (tftpSendAckPacket tftp.curBlock tftp).updateFilehead
        (tftpSendAckPacket tftp.curBlock tftp).checkSum = true
    · rw [if_pos accepted]
      exact .committed _ short accepted rfl rfl rfl rfl
    · rw [if_neg accepted]
      exact .refused _ quiet short (Bool.eq_false_iff.mpr accepted)
  · simp only [short, if_false]
    exact .more _ quiet (Nat.le_of_not_lt short)

/-! ## What brings a block -/

/-- The datagram in the frame buffer is DATA and carries the block behind the last. -/
def IsNextData (tftp : Tftp Flash) : Prop :=
  wordAt tftp.frameBuffer 0 = TftpOpcode.data.code ∧ wordAt tftp.frameBuffer 2 = tftp.prevBlock + 1

instance (tftp : Tftp Flash) : Decidable (IsNextData tftp) :=
  inferInstanceAs (Decidable (_ ∧ _))

/-- The checks that a datagram passes on the way to flash, behind that of its port. They are
the code's own checks in its own order, the size limit with its wrap included. -/
structure BringsBlock (platform : Platform Flash) (tftp : Tftp Flash) : Prop where
  next : IsNextData tftp
  positive : 4 < tftp.recvLen
  inside : tftp.recvLen ≤ tftpBlockSize + 4
  fits : (tftp.fileLen + (tftp.recvLen - 4)) % u32Modulus ≤ platform.updateFlashMemorySize

instance (platform : Platform Flash) (tftp : Tftp Flash) : Decidable (BringsBlock platform tftp) :=
  decidable_of_iff (IsNextData tftp ∧ 4 < tftp.recvLen ∧ tftp.recvLen ≤ tftpBlockSize + 4 ∧
      (tftp.fileLen + (tftp.recvLen - 4)) % u32Modulus ≤ platform.updateFlashMemorySize)
    ⟨fun ⟨next, positive, inside, fits⟩ => ⟨next, positive, inside, fits⟩,
      fun brings => ⟨brings.next, brings.positive, brings.inside, brings.fits⟩⟩

/-- A refused port ends the run. -/
theorem tftpProcess_refused (platform : Platform Flash) (tftp : Tftp Flash)
    (refused : (tftpCheckTid tftp).2 = false) :
    tftpProcess platform tftp = ((tftpCheckTid tftp).1, .leave .failed) := by
  unfold tftpProcess
  cases checking : tftpCheckTid tftp with
  | mk checked accepted =>
    rw [checking] at refused
    cases refused
    rfl

/-- The `TFTP_DATA` case stores a block exactly when it is the next one, has a length
and fits. -/
theorem tftpDataCase_stores_iff (platform : Platform Flash) (len : Nat) (tftp : Tftp Flash) :
    (∃ stored, (tftpDataCase platform len tftp).2 = .store stored) ↔
      wordAt tftp.frameBuffer 2 = tftp.prevBlock + 1 ∧ 2 < len ∧ len ≤ tftpBlockSize + 2 ∧
        (tftp.fileLen + (len - 2)) % u32Modulus ≤ platform.updateFlashMemorySize := by
  simp only [tftpDataCase]
  split
  case isTrue short => simp; omega
  case isFalse =>
    split
    case isTrue wrong => simp; omega
    case isFalse =>
      split
      case isTrue old => simp; omega
      case isFalse new =>
        split
        case isFalse => simp; omega
        case isTrue sized =>
          rw [tftpHandleData_eq]
          by_cases large : (tftp.fileLen + (len - 2)) % u32Modulus > platform.updateFlashMemorySize
          · simp only [large, if_true]
            simp; omega
          · simp only [large, if_false]
            simp; omega

/-- A block is stored exactly for a datagram from an accepted port that passes the
checks. -/
theorem stores_iff (platform : Platform Flash) (tftp : Tftp Flash) :
    (∃ len, (tftpProcess platform tftp).2 = .store len) ↔
      (tftpCheckTid tftp).2 = true ∧ BringsBlock platform tftp := by
  have quiet := tftpCheckTid_quiet tftp
  cases checking : tftpCheckTid tftp with
  | mk checked accepted =>
    rw [checking] at quiet
    cases accepted with
    | false =>
      rw [tftpProcess_refused platform tftp (by rw [checking])]
      simp
    | true =>
      obtain ⟨frame, recvLen⟩ := tftpCheckTid_accepted tftp checked checking
      have prevBlock : checked.prevBlock = tftp.prevBlock := quiet.prevBlock
      have fileLen : checked.fileLen = tftp.fileLen := quiet.fileLen
      have case := tftpDataCase_stores_iff platform (checked.recvLen - 2) checked
      rw [frame, recvLen, prevBlock, fileLen] at case
      simp only [tftpProcess, checking, frame, recvLen]
      by_cases short : tftp.recvLen < 2
      · simp only [short, if_true]
        simp only [reduceCtorEq, exists_false, true_and, false_iff]
        intro brings
        have positive := brings.positive
        omega
      · simp only [short, if_false]
        by_cases data : wordAt tftp.frameBuffer 0 = TftpOpcode.data.code
        · simp only [data, if_true, case, true_and]
          constructor
          · intro ⟨next, positive, inside, fits⟩
            refine ⟨⟨data, next⟩, by omega, by omega, ?_⟩
            rwa [Nat.sub_sub] at fits
          · intro brings
            have positive := brings.positive
            have inside := brings.inside
            refine ⟨brings.next.2, by omega, by omega, ?_⟩
            rw [Nat.sub_sub]
            exact brings.fits
        · have others : ¬ BringsBlock platform tftp := fun brings => data brings.next.1
          simp only [data, if_false, others, and_false, iff_false]
          split
          · simp
          · split <;> simp

/-! ## Packets in the frame buffer -/

/-- The first word of a packet in the frame buffer. -/
theorem wordAt_first (memory rest : List Byte) (word : Nat) (small : word < 65536) :
    wordAt (overwrite memory 0 (networkWord word ++ rest)) 0 = word := by
  simp [wordAt, overwrite, networkWord]
  omega

/-- The second word of a packet in the frame buffer. -/
theorem wordAt_second (memory rest : List Byte) (first word : Nat) (small : word < 65536) :
    wordAt (overwrite memory 0 (networkWord first ++ networkWord word ++ rest)) 2 = word := by
  simp [wordAt, overwrite, networkWord]
  omega

/-- An acknowledgement is the last packet sent. -/
theorem ack_spoken (block : Nat) (tftp : Tftp Flash) :
    (tftpSendAckPacket block tftp).sent.getLast? =
      some ⟨networkWord TftpOpcode.ack.code ++ networkWord block, tftp.serverIp,
        tftp.serverPort⟩ := by
  simp [tftpSendAckPacket, tftpSendto, overwrite, networkWord]

/-- The read request is the last packet sent, without the NUL behind it. -/
theorem request_spoken (filename : List Byte) (tftp : Tftp Flash) :
    (tftpSendReadfileRequest filename tftp).sent.getLast? =
      some ⟨readfileRequest filename, tftp.serverIp, tftp.serverPort⟩ := by
  simp only [tftpSendReadfileRequest, tftpSendto, List.getLast?_append, List.getLast?_singleton,
    Option.some_or, overwrite_take]

/-! ## The assignments of the loop body -/

/-- The assignments that the loop body is made of behind the port check. A field that none
of them touches is the same behind the body, whichever way it took. -/
inductive Assigns (platform : Platform Flash) (tftp : Tftp Flash) : Tftp Flash → Prop where
  | send (packet : List Byte) (len : Nat) : Assigns platform tftp (tftpSendto packet len tftp)
  | curBlock (block : Nat) : Assigns platform tftp { tftp with curBlock := block }
  | prevBlock (block : Nat) : Assigns platform tftp { tftp with prevBlock := block }
  | fileLen (len : Nat) : Assigns platform tftp { tftp with fileLen := len }
  | page (len : Nat) : Assigns platform tftp (handled platform len tftp)

/-- The `TFTP_DATA` case is a chain of assignments. -/
theorem tftpDataCase_assigns (platform : Platform Flash) (len : Nat) (tftp : Tftp Flash) :
    Relation.ReflTransGen (Assigns platform) tftp (tftpDataCase platform len tftp).1 := by
  let block := wordAt tftp.frameBuffer 2
  have current : Relation.ReflTransGen (Assigns platform) tftp { tftp with curBlock := block } :=
    .single (.curBlock block)
  have advanced : Relation.ReflTransGen (Assigns platform) tftp
      { tftp with curBlock := block, prevBlock := block } :=
    current.tail (.prevBlock block)
  unfold tftpDataCase
  dsimp only
  split
  · exact .refl
  · split
    · exact current
    · split
      · exact current.tail (.send _ _)
      · split
        · rw [tftpHandleData_eq]
          by_cases large : (tftp.fileLen + (len - 2)) % u32Modulus >
              platform.updateFlashMemorySize
          · rw [if_pos large]
            exact advanced.tail (.fileLen _)
          · rw [if_neg large]
            exact advanced.tail (.page _)
        · exact advanced

/-- Behind the port check the loop body is a chain of assignments. -/
theorem tftpProcess_assigns (platform : Platform Flash) (tftp : Tftp Flash) :
    Relation.ReflTransGen (Assigns platform) (tftpCheckTid tftp).1 (tftpProcess platform tftp).1 := by
  unfold tftpProcess
  cases checking : tftpCheckTid tftp with
  | mk checked accepted =>
    cases accepted with
    | false => exact .refl
    | true =>
      dsimp only
      split
      · exact .refl
      · split
        · exact tftpDataCase_assigns platform _ checked
        · split
          · exact .refl
          · split
            · exact .single (.send _ _)
            · exact .single (.send _ _)

/-- What every assignment keeps, the loop body keeps behind the port check. -/
theorem tftpProcess_keeps (keeps : Tftp Flash → Tftp Flash → Prop) (platform : Platform Flash)
    (tftp : Tftp Flash) (refl : ∀ before, keeps before before)
    (trans : ∀ before between after, keeps before between → keeps between after →
      keeps before after)
    (assigns : ∀ before after, Assigns platform before after → keeps before after) :
    keeps (tftpCheckTid tftp).1 (tftpProcess platform tftp).1 := by
  have chained (after : Tftp Flash)
      (chain : Relation.ReflTransGen (Assigns platform) (tftpCheckTid tftp).1 after) :
      keeps (tftpCheckTid tftp).1 after := by
    induction chain with
    | refl => exact refl _
    | tail _ last kept => exact trans _ _ _ kept (assigns _ _ last)
  exact chained _ (tftpProcess_assigns platform tftp)

/-- A field that neither the port check nor an assignment touches is as before behind
the loop body. -/
theorem tftpProcess_field {Value : Type} (field : Tftp Flash → Value) (platform : Platform Flash)
    (tftp : Tftp Flash)
    (ports : ∀ before port,
      field { before with serverPort := port, changeFlag := true } = field before)
    (assigns : ∀ before after, Assigns platform before after → field after = field before) :
    field (tftpProcess platform tftp).1 = field tftp := by
  have check : field (tftpCheckTid tftp).1 = field tftp := by
    unfold tftpCheckTid
    split
    · rfl
    · split
      · exact assigns _ _ (.send _ _)
      · exact ports _ _
  have body := tftpProcess_keeps (fun before after => field after = field before) platform tftp
    (fun _ => rfl) (fun _ _ _ first second => second.trans first) assigns
  exact body.trans check

/-! ## The frame buffer -/

/-- The loop body reads the frame buffer and builds its answers in it. Only the
callback can leave it. -/
theorem tftpLoopBody_overrun (platform : Platform Flash) (tftp : Tftp Flash) :
    (tftpLoopBody platform tftp).1.overrun = tftp.overrun := by
  have body : (tftpProcess platform tftp).1.overrun = tftp.overrun := by
    apply tftpProcess_field (·.overrun)
    · intro before port
      rfl
    · intro before after assigned
      cases assigned <;> rfl
  have behind (len : Nat) (tftp : Tftp Flash) :
      (tftpAcknowledge platform len tftp).1.overrun = tftp.overrun := by
    simp only [tftpAcknowledge, tftpFirmwareDownloadFinish]
    split
    · split <;> rfl
    · rfl
  unfold tftpLoopBody
  cases processing : tftpProcess platform tftp with
  | mk between verdict =>
    rw [processing] at body
    cases verdict with
    | again => exact body
    | leave exit => exact body
    | store len => exact (behind len between).trans body

/-! ## Destinations -/

/-- The function keeps the server address and the length received, does not shrink
the frame buffer, and sends only to the server address. -/
structure Addressed (before after : Tftp Flash) : Prop where
  serverIp : after.serverIp = before.serverIp
  recvLen : after.recvLen = before.recvLen
  frame : before.frameBuffer.length ≤ after.frameBuffer.length
  sent : ∃ packets, after.sent = before.sent ++ packets ∧
    ∀ packet ∈ packets, packet.ip = before.serverIp

/-- Functions that send to the server address compose. -/
theorem Addressed.trans {before between after : Tftp Flash} (first : Addressed before between)
    (second : Addressed between after) : Addressed before after where
  serverIp := second.serverIp.trans first.serverIp
  recvLen := second.recvLen.trans first.recvLen
  frame := Nat.le_trans first.frame second.frame
  sent := by
    obtain ⟨early, sentEarly, homeEarly⟩ := first.sent
    obtain ⟨late, sentLate, homeLate⟩ := second.sent
    refine ⟨early ++ late, ?_, ?_⟩
    · rw [sentLate, sentEarly, List.append_assoc]
    · intro packet member
      rcases List.mem_append.mp member with earlier | later
      · exact homeEarly packet earlier
      · exact (homeLate packet later).trans first.serverIp

/-- A function that sends nothing and keeps address and datagram. -/
theorem Addressed.silent {before after : Tftp Flash} (serverIp : after.serverIp = before.serverIp)
    (recvLen : after.recvLen = before.recvLen) (frame : after.frameBuffer = before.frameBuffer)
    (sent : after.sent = before.sent) : Addressed before after :=
  ⟨serverIp, recvLen, Nat.le_of_eq (congrArg List.length frame.symm), [], by
    rw [sent, List.append_nil], by simp⟩

/-- A packet goes to the server address. -/
theorem tftpSendto_addressed (packet : List Byte) (len : Nat) (tftp : Tftp Flash) :
    Addressed tftp (tftpSendto packet len tftp) where
  serverIp := rfl
  recvLen := rfl
  frame := by
    simp only [tftpSendto, overwrite, List.length_append, List.length_take, List.length_drop]
    omega
  sent := by
    refine ⟨_, rfl, ?_⟩
    intro other member
    exact congrArg Packet.ip (List.mem_singleton.mp member)

/-- The loop body up to the stored block sends only to the server address. -/
theorem tftpProcess_addressed (platform : Platform Flash) (tftp : Tftp Flash) :
    Addressed tftp (tftpProcess platform tftp).1 := by
  have check : Addressed tftp (tftpCheckTid tftp).1 := by
    unfold tftpCheckTid
    split
    · exact .silent rfl rfl rfl rfl
    · split
      · exact tftpSendto_addressed _ _ tftp
      · exact .silent rfl rfl rfl rfl
  refine check.trans (tftpProcess_keeps Addressed platform tftp ?refl ?trans ?assigns)
  case refl =>
    intro before
    exact .silent rfl rfl rfl rfl
  case trans =>
    intro before between after first second
    exact first.trans second
  case assigns =>
    intro before after assigned
    cases assigned with
    | send packet len => exact tftpSendto_addressed packet len before
    | _ => exact .silent rfl rfl rfl rfl

/-- The loop body behind a stored block sends only to the server address. -/
theorem tftpAcknowledge_addressed (platform : Platform Flash) (len : Nat) (tftp : Tftp Flash) :
    Addressed tftp (tftpAcknowledge platform len tftp).1 := by
  have ack : Addressed tftp (tftpSendAckPacket tftp.curBlock tftp) := tftpSendto_addressed _ _ tftp
  unfold tftpAcknowledge tftpFirmwareDownloadFinish
  dsimp only
  split
  · refine ack.trans ?_
    split <;> exact .silent rfl rfl rfl rfl
  · exact ack

end UcosProxy.TftpSteps
