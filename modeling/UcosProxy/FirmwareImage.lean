import UcosProxy.TftpSteps

/-!
# The image behind a committed configuration

One run of `tftp_firmware_update` on any list of datagrams and timeouts, with no
other request in between. While the loop goes on, head and checksum are the
restarting digest of the pages stored so far, the block counter is their number
and every one of them is a full block. So a run that commits has stored full
pages and one short page, and the checks read the digest of these pages.

`committed_image` compares that digest with the file the pages carry. The head
checked is the head of the file, and the checksum committed the sum behind it,
exactly when the blocks accepted take their head once (`HeadOnce`): the first
block carries a whole head, and a block that meets a zero checksum brings zeros
in the place of a head and, as the last one, leaves the head as it was. Every
other way out of the run leaves the configuration as it was, without a condition.

The model's buffer grows with a datagram longer than 512 bytes, so memory behind
the buffer is outside these statements.
-/

namespace UcosProxy.FirmwareImage

open Bytes RestartingSum TftpClient TftpSteps

variable {Flash : Type}

/-- The file that a transfer has stored. -/
def storedImage (tftp : Tftp Flash) : List Byte := file tftp.stored

/-- The loop still waits: head and checksum are the digest of full pages. It is what every
turn of the loop preserves: the pages in flash are full as long as no shorter one has ended
the transfer. -/
structure Transferring (platform : Platform Flash) (start tftp : Tftp Flash) : Prop where
  digest : (tftp.updateFilehead, tftp.checkSum) =
    digest platform.head.size u32Modulus start.updateFilehead tftp.stored
  prevBlock : tftp.prevBlock = tftp.stored.length
  blocks : tftp.stored.length ≤ 65535
  full : ∀ page ∈ tftp.stored, page.payload.length = tftpBlockSize
  fileLen : tftp.fileLen = (storedImage tftp).length
  updateCfg : tftp.updateCfg = start.updateCfg
  cfgWrites : tftp.cfgWrites = start.cfgWrites

/-- The pages behind a commit: full ones and a last one, whose digest passed the checks and
whose total length is committed. The digest is that of the pages as they stood in the frame
buffer, and need not be the file's own; when it is, is the subject of the next definitions. -/
structure Committed (platform : Platform Flash) (start after : Tftp Flash) : Prop where
  nonempty : after.stored ≠ []
  full : FullBeforeLast platform.head.size after.stored
  blocks : after.stored.length ≤ 65535
  digest : (after.updateFilehead, after.updateCfg.updateSpiflashChecksum) =
    digest platform.head.size u32Modulus start.updateFilehead after.stored
  accepted : headAccepted platform.head after.updateFilehead
    after.updateCfg.updateSpiflashChecksum = true
  updateSize : after.updateCfg.updateSize = (storedImage after).length
  cfgWrites : after.cfgWrites = start.cfgWrites ++ [after.updateCfg]

/-- What is asked of a run that writes the configuration: the head it checked and the values
it committed are those of the stored image. Each field is stated of the stored bytes, and
none of what was received. -/
structure ImageCommitted (platform : Platform Flash) (start after : Tftp Flash) : Prop where
  written : after.cfgWrites = start.cfgWrites ++ [after.updateCfg]
  headInside : platform.head.size ≤ (storedImage after).length
  head : after.updateFilehead = (storedImage after).take platform.head.size
  checksum : after.updateCfg.updateSpiflashChecksum =
    byteSum ((storedImage after).drop platform.head.size) % u32Modulus
  checksumField :
    platform.head.checksum.read after.updateFilehead = after.updateCfg.updateSpiflashChecksum
  boardType : platform.head.boardType.read after.updateFilehead = moduleBoardType
  programType : platform.head.programType.read after.updateFilehead = 1
  updateSize : after.updateCfg.updateSize = (storedImage after).length

/-- What is asked of every run: a written configuration describes the stored image, and a
run that did not succeed wrote nothing. A run that is still waiting is a run that did not
succeed. -/
structure ImageSound (platform : Platform Flash) (start : Tftp Flash)
    (finished : Tftp Flash × Option Exit) : Prop where
  committed : finished.1.cfgWrites ≠ start.cfgWrites → ImageCommitted platform start finished.1
  untouched : finished.2 ≠ some .succeeded →
    finished.1.updateCfg = start.updateCfg ∧ finished.1.cfgWrites = start.cfgWrites

/-- The results of a run. It has ended with a commit, or it has not succeeded and has
written no configuration. -/
inductive Outcome (platform : Platform Flash) (start : Tftp Flash) :
    Tftp Flash × Option Exit → Prop where
  | unwritten (after : Tftp Flash) (exit : Option Exit) (notSucceeded : exit ≠ some .succeeded)
      (updateCfg : after.updateCfg = start.updateCfg)
      (cfgWrites : after.cfgWrites = start.cfgWrites) : Outcome platform start (after, exit)
  | committed (after : Tftp Flash) (commits : Committed platform start after) :
      Outcome platform start (after, some .succeeded)

/-- A word of the wire fits sixteen bits. -/
theorem wordAt_le (buffer : List Byte) (offset : Nat) : wordAt buffer offset ≤ 65535 := by
  have high : (buffer.getD offset 0).toNat < 256 := (buffer.getD offset 0).isLt
  have low : (buffer.getD (offset + 1) 0).toNat < 256 := (buffer.getD (offset + 1) 0).isLt
  unfold wordAt
  omega

/-- A datagram with `len` bytes behind its header makes a page of that length. -/
theorem framePage_length (tftp : Tftp Flash) (len : Nat) (held : len + 4 ≤ tftp.frameBuffer.length)
    (inside : len ≤ tftpBlockSize) : (framePage tftp len).payload.length = len := by
  simp only [framePage, Page.payload, List.length_take, List.length_drop]
  omega

/-- The stored image grows by the payload of the page stored. -/
theorem storedImage_snoc (before after : Tftp Flash) (page : Page)
    (stored : after.stored = before.stored ++ [page]) :
    (storedImage after).length = (storedImage before).length + page.payload.length := by
  rw [storedImage, stored, file_snoc, List.length_append, storedImage]

/-- Full blocks, as many as a block number counts, stay below the word size. -/
theorem storedImage_length (pages : List Page)
    (full : ∀ page ∈ pages, page.payload.length = tftpBlockSize) :
    (file pages).length = tftpBlockSize * pages.length := by
  induction pages with
  | nil => rfl
  | cons page rest inductionHypothesis =>
    have first := full page List.mem_cons_self
    have later := inductionHypothesis fun other member => full other (List.mem_cons_of_mem page member)
    simp only [file, List.flatMap_cons, List.length_append, List.length_cons] at later ⊢
    rw [first, later, Nat.mul_succ, Nat.add_comm]

/-- The read request leaves a fresh transfer. -/
theorem started (platform : Platform Flash) (start : Tftp Flash) (filename : List Byte) :
    Transferring platform start
      (tftpSendReadfileRequest filename (tftpFirmwareUpdateInit platform start)) where
  digest := rfl
  prevBlock := rfl
  blocks := Nat.zero_le _
  full := by
    intro page member
    simp [tftpSendReadfileRequest, tftpSendto, tftpFirmwareUpdateInit] at member
  fileLen := rfl
  updateCfg := rfl
  cfgWrites := rfl

/-- A quiet step keeps the transfer's invariant. -/
theorem Transferring.quiet {platform : Platform Flash} {start before after : Tftp Flash}
    (holds : Transferring platform start before) (quiet : Quiet before after) :
    Transferring platform start after where
  digest := by
    rw [quiet.updateFilehead, quiet.checkSum, quiet.stored]
    exact holds.digest
  prevBlock := by
    rw [quiet.prevBlock, quiet.stored]
    exact holds.prevBlock
  blocks := quiet.stored ▸ holds.blocks
  full := quiet.stored ▸ holds.full
  fileLen := by
    rw [quiet.fileLen, storedImage, quiet.stored]
    exact holds.fileLen
  updateCfg := quiet.updateCfg.trans holds.updateCfg
  cfgWrites := quiet.cfgWrites.trans holds.cfgWrites

/-- What a stored block of any length makes of the transfer. The sizes are counted, and head
and checksum are those of all the stored pages. -/
structure Grown (platform : Platform Flash) (start : Tftp Flash) (len : Nat)
    (before after : Tftp Flash) : Prop where
  digest : (after.updateFilehead, after.checkSum) =
    digest platform.head.size u32Modulus start.updateFilehead after.stored
  prevBlock : after.prevBlock = after.stored.length
  blocks : after.stored.length ≤ 65535
  pages : ∃ page, after.stored = before.stored ++ [page] ∧ page.payload.length = len
  fileLen : after.fileLen = (storedImage after).length

/-- Storing a block out of a datagram that the buffer holds whole. The length
counter does not wrap, because a block number has sixteen bits. -/
theorem Transferring.stores {platform : Platform Flash} {start before after : Tftp Flash}
    {len : Nat} (holds : Transferring platform start before)
    (stores : Stores platform len before after)
    (held : before.recvLen ≤ before.frameBuffer.length) :
    Grown platform start len before after := by
  have inside := stores.inside
  have recvLen := stores.recvLen
  have pageLength : (framePage before len).payload.length = len :=
    framePage_length before len (by omega) inside
  have grown := storedImage_snoc before after _ stores.stored
  have length : after.stored.length = before.stored.length + 1 := by
    rw [stores.stored, List.length_append, List.length_singleton]
  have counted := holds.prevBlock
  have blocks : after.stored.length ≤ 65535 := by
    have bound := wordAt_le before.frameBuffer 2
    rw [stores.next] at bound
    omega
  refine ⟨?_, ?_, blocks, ⟨framePage before len, stores.stored, pageLength⟩, ?_⟩
  · rw [stores.digest, stores.stored, digest_snoc, ← holds.digest]
  · rw [stores.prevBlock, counted, length]
  · have total := storedImage_length before.stored holds.full
    have small : before.fileLen + len < u32Modulus := by
      rw [holds.fileLen, storedImage, total]
      simp only [tftpBlockSize, u32Modulus] at inside ⊢
      omega
    rw [stores.fileLen, Nat.mod_eq_of_lt small, grown, pageLength, holds.fileLen]

/-- A whole loop body on a transfer that still waits: it waits on, or leaves the
configuration alone, or commits. -/
theorem Transferring.loopBody {platform : Platform Flash} {start before : Tftp Flash}
    (holds : Transferring platform start before)
    (held : before.recvLen ≤ before.frameBuffer.length) :
    (∃ after, tftpLoopBody platform before = (after, none) ∧ Transferring platform start after) ∨
      ∃ after exit, tftpLoopBody platform before = (after, some exit) ∧
        Outcome platform start (after, some exit) := by
  have step := processed platform before
  unfold tftpLoopBody
  cases outcome : tftpProcess platform before with
  | mk between verdict =>
    rw [outcome] at step
    cases step with
    | again after quiet => exact Or.inl ⟨between, rfl, holds.quiet quiet⟩
    | leave after same =>
      refine Or.inr ⟨between, .failed, rfl, .unwritten _ _ (by simp) ?_ ?_⟩
      · exact same.updateCfg.trans holds.updateCfg
      · exact same.cfgWrites.trans holds.cfgWrites
    | store after len stores =>
      have grown := holds.stores stores held
      obtain ⟨page, stored, pageLength⟩ := grown.pages
      have ending := acknowledged platform len between
      dsimp only
      cases finishing : tftpAcknowledge platform len between with
      | mk final exit =>
        rw [finishing] at ending
        cases ending with
        | more after quiet full =>
          left
          have whole : len = tftpBlockSize := Nat.le_antisymm stores.inside full
          have transferring : Transferring platform start between := by
            refine ⟨grown.digest, grown.prevBlock, grown.blocks, ?_, grown.fileLen,
              stores.updateCfg.trans holds.updateCfg, stores.cfgWrites.trans holds.cfgWrites⟩
            intro other member
            rw [stored] at member
            rcases List.mem_append.mp member with earlier | same
            · exact holds.full other earlier
            · rw [List.mem_singleton.mp same, pageLength, whole]
          exact ⟨final, rfl, transferring.quiet quiet⟩
        | refused after quiet short bad =>
          right
          refine ⟨final, .failed, rfl, .unwritten _ _ (by simp) ?_ ?_⟩
          · exact (quiet.updateCfg.trans stores.updateCfg).trans holds.updateCfg
          · exact (quiet.cfgWrites.trans stores.cfgWrites).trans holds.cfgWrites
        | committed after short accepted sameStored sameHead cfg writes =>
          right
          refine ⟨final, .succeeded, rfl, .committed _ ?_⟩
          have checksum : final.updateCfg.updateSpiflashChecksum = between.checkSum := by
            rw [cfg, committedCfg]
          refine ⟨?_, ?_, ?_, ?_, ?_, ?_, ?_⟩
          · rw [sameStored, stored]
            simp
          · rw [sameStored, stored, FullBeforeLast, List.dropLast_concat]
            intro other member
            rw [holds.full other member]
            exact platform.head.size_le
          · exact sameStored ▸ grown.blocks
          · rw [checksum, sameHead, sameStored]
            exact grown.digest
          · rw [checksum, sameHead]
            exact accepted
          · rw [cfg, committedCfg, storedImage, sameStored]
            exact grown.fileLen
          · rw [writes, cfg, stores.cfgWrites, holds.cfgWrites]

/-- The receive loop on any arrivals ends in one of the outcomes. -/
theorem Transferring.receiveLoop {platform : Platform Flash} {start before : Tftp Flash}
    (holds : Transferring platform start before) (arrivals : List Arrival) :
    Outcome platform start (tftpReceiveLoop platform before arrivals) := by
  induction arrivals generalizing before with
  | nil => exact .unwritten _ _ (by simp) holds.updateCfg holds.cfgWrites
  | cons arrival rest inductionHypothesis =>
    cases arrival with
    | timeout => exact .unwritten _ _ (by simp) holds.updateCfg holds.cfgWrites
    | datagram bytes port =>
      have received : Transferring platform start (tftpRecvCallback bytes port before) :=
        holds.quiet ⟨⟨rfl, rfl, rfl, rfl, rfl⟩, rfl, rfl⟩
      have held : (tftpRecvCallback bytes port before).recvLen ≤
          (tftpRecvCallback bytes port before).frameBuffer.length :=
        overwrite_length_le before.frameBuffer bytes
      rw [tftpReceiveLoop]
      rcases received.loopBody held with ⟨after, body, waiting⟩ | ⟨after, exit, body, outcome⟩
      · rw [body]
        exact inductionHypothesis waiting
      · rw [body]
        exact outcome

/-- A structure member in a block of zeros is zero. -/
theorem littleEndian_zero (bytes : List Byte) (zeros : byteSum bytes = 0) :
    littleEndian bytes = 0 := by
  induction bytes with
  | nil => rfl
  | cons byte rest inductionHypothesis =>
    rw [byteSum_cons] at zeros
    rw [littleEndian, inductionHypothesis (by omega)]
    omega

/-- A member read out of zeros is zero. -/
theorem read_zero (field : Member) (bytes : List Byte) (zeros : byteSum bytes = 0) :
    field.read bytes = 0 := by
  refine littleEndian_zero _ ?_
  have front := byteSum_take_drop field.offset bytes
  have back := byteSum_take_drop field.width (bytes.drop field.offset)
  omega

/-- What the three checks establish. -/
theorem headAccepted_iff (layout : FileheadLayout) (head : List Byte) (checkSum : Nat) :
    headAccepted layout head checkSum = true ↔
      layout.boardType.read head = moduleBoardType ∧ layout.checksum.read head = checkSum ∧
        layout.programType.read head = 1 := by
  simp only [headAccepted, Bool.and_eq_true, decide_eq_true_eq, and_assoc]

/-- A commit describes its image exactly when the accepted blocks take their head
once. -/
theorem Committed.sound_iff {platform : Platform Flash} {start after : Tftp Flash}
    (commits : Committed platform start after) :
    ImageCommitted platform start after ↔
      HeadOnce platform.head.size u32Modulus after.stored := by
  obtain ⟨boardType, checksumField, programType⟩ :=
    (headAccepted_iff _ _ _).mp commits.accepted
  have head := congrArg Prod.fst commits.digest
  have sum := congrArg Prod.snd commits.digest
  have held : byteSum (RestartingSum.digest platform.head.size u32Modulus start.updateFilehead
      after.stored).1 ≠ 0 := by
    rw [← head]
    intro zeros
    rw [read_zero _ _ zeros] at boardType
    exact absurd boardType (by decide)
  have small : 255 * platform.head.size * after.stored.length < u32Modulus := by
    have sized : 255 * platform.head.size ≤ 255 * 256 := Nat.mul_le_mul_left 255 platform.head.size_le
    have bound := Nat.mul_le_mul sized commits.blocks
    simp only [u32Modulus]
    omega
  rw [← digest_exact (by decide) start.updateFilehead after.stored commits.nonempty commits.full
    small held, ← head, ← sum]
  constructor
  · intro sound
    exact ⟨sound.headInside, sound.head, sound.checksum⟩
  · rintro ⟨headInside, sameHead, sameSum⟩
    exact ⟨commits.cfgWrites, headInside, sameHead, sameSum, checksumField, boardType, programType,
      commits.updateSize⟩

/-- For every list of arrivals, what the run commits describes the image it stored exactly
when a committed image took its head once. Nothing is asked of the datagrams. Arrivals of
any order, sender and length are covered, and a timeout is one of them. -/
theorem firmware_update_image (platform : Platform Flash) (start : Tftp Flash)
    (arrivals : List Arrival) :
    ImageSound platform start (tftpFirmwareUpdate platform start arrivals) ↔
      ((tftpFirmwareUpdate platform start arrivals).1.cfgWrites ≠ start.cfgWrites →
        HeadOnce platform.head.size u32Modulus
          (tftpFirmwareUpdate platform start arrivals).1.stored) := by
  have outcome : Outcome platform start (tftpFirmwareUpdate platform start arrivals) :=
    (started platform start start.updateFilename).receiveLoop arrivals
  cases run : tftpFirmwareUpdate platform start arrivals with
  | mk after exit =>
    rw [run] at outcome
    cases outcome with
    | unwritten _ _ notSucceeded updateCfg cfgWrites =>
      constructor
      · intro _ written
        exact False.elim (written cfgWrites)
      · intro _
        exact ⟨fun written => False.elim (written cfgWrites), fun _ => ⟨updateCfg, cfgWrites⟩⟩
    | committed _ commits =>
      have exact_iff := commits.sound_iff
      have written : after.cfgWrites ≠ start.cfgWrites := by
        rw [commits.cfgWrites]
        simp
      constructor
      · intro sound _
        exact exact_iff.mp (sound.committed written)
      · intro once
        exact ⟨fun _ => exact_iff.mpr (once written), fun notSucceeded => absurd rfl notSucceeded⟩

/-- A head with the required board and program type and a checksum of zero. -/
def zeroSumHead : List Byte := [1, 0, 0x0d, 0x80, 0, 0, 0, 0, 1, 0, 0, 0]

/-- A first block with a foreign head and zeros behind it, then a second block
that holds a head only. -/
def lateHead : List Arrival :=
  [.datagram (dataPacket 1 (List.replicate 12 7 ++ List.replicate 244 0)) 5000,
    .datagram (dataPacket 2 zeroSumHead) 5000]

/-- The zero checksum behind the first block makes the second block's bytes the
head, and they are committed for a file that begins with another one. -/
theorem late_head_committed :
    ¬ ImageSound samplePlatform sampleClient
      (tftpFirmwareUpdate samplePlatform sampleClient lateHead) := by
  intro sound
  have written : (tftpFirmwareUpdate samplePlatform sampleClient lateHead).1.cfgWrites ≠
      sampleClient.cfgWrites := by decide +kernel
  have head := (sound.committed written).head
  revert head
  decide +kernel

end UcosProxy.FirmwareImage
