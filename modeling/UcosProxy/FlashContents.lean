import UcosProxy.FirmwareImage

/-!
# What the flash holds while a transfer runs

One run of `tftp_firmware_update` on any list of datagrams, one at a time. The
blocks accepted are read off the datagrams themselves: the number in the header and
the payload behind it. While the loop waits, their numbers count up from one, each
of them is a full block, and the flash holds their payloads from the start address
on, with `flash_addr` behind the last page. Any datagram that is not the next DATA
block leaves the flash, its address, the length, the checksum and the head as they
are, on whichever way the loop body takes it.

The page write is not part of the repository. `FlashLaws` says what the client
relies on: a page is stored where it is written, its length is returned, and every
other address keeps its byte. Addresses are words of 32 bits.

None of this is a promise once a datagram has been copied past the frame buffer: the
control block itself may lie there. `flash_held_iff` says that the datagrams of a run
stay inside exactly when each of them has at most 512 bytes. The loop does not sort the
longer ones out: a stale block or an option acknowledgement of any length is answered,
and the run waits for the next.
-/

namespace UcosProxy.FlashContents

open Bytes RestartingSum TftpClient TftpSteps FirmwareImage

variable {Flash : Type}

/-- `SPI_Flash_Write_Page_Nret(p, a, 256)` stores the page at `a` and returns 256. Addresses
have 32 bits, and what lies outside the page is left alone. The SPI driver itself is not
part of the repository. -/
structure FlashLaws (platform : Platform Flash) (read : Flash → Nat → Byte) : Prop where
  start : platform.userCodeAddr < u32Modulus
  count : ∀ flash addr page, (platform.writePage flash addr page).2 = tftpBlockSize
  page : ∀ flash addr page offset (inside : offset < page.length), offset < tftpBlockSize →
    read (platform.writePage flash addr page).1 ((addr + offset) % u32Modulus) = page[offset]
  others : ∀ flash addr page other,
    (∀ offset < tftpBlockSize, other ≠ (addr + offset) % u32Modulus) →
      read (platform.writePage flash addr page).1 other = read flash other

/-- The flash holds these bytes from an address on. Addresses have 32 bits and wrap, as
those of the client do. -/
def HoldsAt (read : Flash → Nat → Byte) (flash : Flash) (addr : Nat) (bytes : List Byte) : Prop :=
  ∀ offset (inside : offset < bytes.length),
    read flash ((addr + offset) % u32Modulus) = bytes[offset]

/-- What a datagram that is not the next DATA block leaves alone. The counters and the
digest are in it as well, since a later page is written and summed by them. -/
structure SameFlash (before after : Tftp Flash) : Prop where
  flash : after.flash = before.flash
  flashAddr : after.flashAddr = before.flashAddr
  fileLen : after.fileLen = before.fileLen
  checkSum : after.checkSum = before.checkSum
  updateFilehead : after.updateFilehead = before.updateFilehead

/-- A datagram is a DATA packet of this block. It is read off the datagram alone, whatever
the client makes of it. -/
def IsBlock (number : Nat) (datagram : List Byte) : Prop :=
  4 ≤ datagram.length ∧ wordAt datagram 0 = TftpOpcode.data.code ∧ wordAt datagram 2 = number

/-- A block that the loop accepted: its number, and its payload. The number is the one in
the packet, before anything is made of it. -/
structure Block where
  number : Nat
  payload : List Byte
deriving DecidableEq

/-- The block that the loop body accepts out of a datagram in the frame buffer. -/
def acceptedBlock (platform : Platform Flash) (tftp : Tftp Flash) (datagram : List Byte) :
    List Block :=
  match (tftpProcess platform tftp).2 with
  | .store _ => [⟨wordAt datagram 2, datagram.drop 4⟩]
  | _ => []

/-- The blocks that the receive loop accepts, in order. -/
def acceptedBlocks (platform : Platform Flash) : Tftp Flash → List Arrival → List Block
  | _, [] => []
  | _, .timeout :: _ => []
  | tftp, .datagram bytes port :: rest =>
    let received := tftpRecvCallback bytes port tftp
    acceptedBlock platform received bytes ++
      match tftpLoopBody platform received with
      | (next, none) => acceptedBlocks platform next rest
      | (_, some _) => []

/-- The payloads of the blocks, one behind the other. -/
def payloads (blocks : List Block) : List Byte := blocks.flatMap Block.payload

/-- What a waiting loop has made of the blocks it accepted. Each of them is full, since a
shorter one would have ended the run; they are numbered from one, and stand behind one
another from the start address on. -/
structure Flashed (platform : Platform Flash) (read : Flash → Nat → Byte) (blocks : List Block)
    (tftp : Tftp Flash) : Prop where
  prevBlock : tftp.prevBlock = blocks.length
  numbers : blocks.map Block.number = List.range' 1 blocks.length
  full : (payloads blocks).length = tftpBlockSize * blocks.length
  fileLen : tftp.fileLen = (payloads blocks).length
  flash : HoldsAt read tftp.flash platform.userCodeAddr (payloads blocks)
  flashAddr : tftp.flashAddr = (platform.userCodeAddr + tftpBlockSize * blocks.length) % u32Modulus

/-! ## The flash behind a loop body -/

/-- Sending a packet leaves the flash alone. -/
theorem tftpSendto_flash (packet : List Byte) (len : Nat) (tftp : Tftp Flash) :
    SameFlash tftp (tftpSendto packet len tftp) := ⟨rfl, rfl, rfl, rfl, rfl⟩

/-- The port check leaves the flash alone. -/
theorem tftpCheckTid_flash (tftp : Tftp Flash) : SameFlash tftp (tftpCheckTid tftp).1 := by
  simp only [tftpCheckTid]
  split
  · exact ⟨rfl, rfl, rfl, rfl, rfl⟩
  · split
    · exact tftpSendto_flash _ _ tftp
    · exact ⟨rfl, rfl, rfl, rfl, rfl⟩

theorem SameFlash.trans {before between after : Tftp Flash} (first : SameFlash before between)
    (second : SameFlash between after) : SameFlash before after where
  flash := second.flash.trans first.flash
  flashAddr := second.flashAddr.trans first.flashAddr
  fileLen := second.fileLen.trans first.fileLen
  checkSum := second.checkSum.trans first.checkSum
  updateFilehead := second.updateFilehead.trans first.updateFilehead

/-- The `TFTP_DATA` case touches the flash only for the next block. -/
theorem tftpDataCase_flash (platform : Platform Flash) (len : Nat) (tftp : Tftp Flash)
    (other : wordAt tftp.frameBuffer 2 ≠ tftp.prevBlock + 1 ∨ len < 2) :
    SameFlash tftp (tftpDataCase platform len tftp).1 := by
  simp only [tftpDataCase]
  split
  · exact ⟨rfl, rfl, rfl, rfl, rfl⟩
  · split
    · exact ⟨rfl, rfl, rfl, rfl, rfl⟩
    · split
      · exact ⟨rfl, rfl, rfl, rfl, rfl⟩
      · omega

/-- A datagram in the frame buffer that is not the next DATA block leaves the flash
alone, whether the loop goes on or leaves. -/
theorem tftpProcess_flash (platform : Platform Flash) (tftp : Tftp Flash)
    (other : ¬ (4 ≤ tftp.recvLen ∧ IsNextData tftp)) :
    SameFlash tftp (tftpProcess platform tftp).1 := by
  have check := tftpCheckTid_flash tftp
  have quiet := tftpCheckTid_quiet tftp
  unfold tftpProcess
  cases checking : tftpCheckTid tftp with
  | mk checked accepted =>
    rw [checking] at check quiet
    cases accepted with
    | false => exact check
    | true =>
      obtain ⟨frame, recvLen⟩ := tftpCheckTid_accepted tftp checked checking
      refine check.trans ?_
      dsimp only
      split
      · exact ⟨rfl, rfl, rfl, rfl, rfl⟩
      · split
        case isTrue data =>
          apply tftpDataCase_flash
          rw [frame] at data ⊢
          rw [recvLen, quiet.prevBlock]
          by_cases next : wordAt tftp.frameBuffer 2 = tftp.prevBlock + 1
          · right
            by_contra long
            exact other ⟨by omega, data, next⟩
          · exact Or.inl next
        case isFalse =>
          split
          · exact ⟨rfl, rfl, rfl, rfl, rfl⟩
          · split
            · exact tftpSendto_flash _ _ checked
            · exact tftpSendto_flash _ _ checked

/-- A loop body that goes on without a block did not find the next one. -/
theorem again_other (platform : Platform Flash) (tftp : Tftp Flash)
    (again : (tftpProcess platform tftp).2 = .again) : ¬ (4 ≤ tftp.recvLen ∧ IsNextData tftp) := by
  intro ⟨long, data, next⟩
  have quiet := tftpCheckTid_quiet tftp
  cases checking : tftpCheckTid tftp with
  | mk checked accepted =>
    rw [checking] at quiet
    cases accepted with
    | false =>
      rw [tftpProcess_refused platform tftp (by rw [checking])] at again
      cases again
    | true =>
      obtain ⟨frame, recvLen⟩ := tftpCheckTid_accepted tftp checked checking
      have prevBlock : checked.prevBlock = tftp.prevBlock := quiet.prevBlock
      have short : ¬ tftp.recvLen < 2 := by omega
      have header : ¬ tftp.recvLen - 2 < 2 := by omega
      have inOrder : ¬ (tftp.prevBlock + 1 = 0 ∨ tftp.prevBlock + 1 > tftp.prevBlock + 1) := by omega
      have new : ¬ tftp.prevBlock + 1 ≤ tftp.prevBlock := by omega
      simp only [tftpProcess, checking, frame, recvLen, short, if_false, data, if_true, tftpDataCase,
        header, next, prevBlock, inOrder, new] at again
      split at again
      · rw [tftpHandleData_eq] at again
        by_cases large : (checked.fileLen + (tftp.recvLen - 2 - 2)) % u32Modulus >
            platform.updateFlashMemorySize
        · simp only [large, if_true] at again
          cases again
        · simp only [large, if_false] at again
          cases again
      · cases again

/-- Behind a stored block the flash stays as it is. -/
theorem tftpAcknowledge_flash (platform : Platform Flash) (len : Nat) (tftp : Tftp Flash) :
    SameFlash tftp (tftpAcknowledge platform len tftp).1 := by
  simp only [tftpAcknowledge, tftpFirmwareDownloadFinish]
  split
  · split
    · exact ⟨rfl, rfl, rfl, rfl, rfl⟩
    · exact ⟨rfl, rfl, rfl, rfl, rfl⟩
  · exact ⟨rfl, rfl, rfl, rfl, rfl⟩

/-- The `TFTP_DATA` case stores a block as one page at the flash address. -/
theorem tftpDataCase_page (platform : Platform Flash) (len stored : Nat) (tftp after : Tftp Flash)
    (stores : tftpDataCase platform len tftp = (after, .store stored)) :
    after.flash = (platform.writePage tftp.flash tftp.flashAddr (framePage tftp stored).bytes).1 ∧
      after.flashAddr = (tftp.flashAddr +
        (platform.writePage tftp.flash tftp.flashAddr (framePage tftp stored).bytes).2) %
          u32Modulus := by
  simp only [tftpDataCase] at stores
  split at stores
  · cases stores
  · split at stores
    · cases stores
    · split at stores
      · cases stores
      · split at stores
        · rw [tftpHandleData_eq] at stores
          by_cases large : (tftp.fileLen + (len - 2)) % u32Modulus > platform.updateFlashMemorySize
          · simp only [large, if_true] at stores
            cases stores
          · simp only [large, if_false] at stores
            cases stores
            exact ⟨rfl, rfl⟩
        · cases stores

/-- The loop body stores a block as one page at the flash address. -/
theorem tftpProcess_page (platform : Platform Flash) (len : Nat) (tftp after : Tftp Flash)
    (stores : tftpProcess platform tftp = (after, .store len)) :
    after.flash = (platform.writePage tftp.flash tftp.flashAddr (framePage tftp len).bytes).1 ∧
      after.flashAddr = (tftp.flashAddr +
        (platform.writePage tftp.flash tftp.flashAddr (framePage tftp len).bytes).2) %
          u32Modulus := by
  have check := tftpCheckTid_flash tftp
  cases checking : tftpCheckTid tftp with
  | mk checked accepted =>
    rw [checking] at check
    cases accepted with
    | false =>
      rw [tftpProcess_refused platform tftp (by rw [checking])] at stores
      cases stores
    | true =>
      obtain ⟨frame, _⟩ := tftpCheckTid_accepted tftp checked checking
      have page : framePage checked len = framePage tftp len := by
        simp only [framePage, frame]
      simp only [tftpProcess, checking] at stores
      split at stores
      · cases stores
      · split at stores
        · have stored := tftpDataCase_page platform _ len checked after stores
          rwa [check.flash, check.flashAddr, page] at stored
        · split at stores
          · cases stores
          · split at stores
            · cases stores
            · cases stores

/-! ## Pages one behind the other -/

/-- Addresses of a region that does not go round the whole address space differ. -/
theorem address_ne (start first second : Nat) (below : first < second) (inside : second < u32Modulus) :
    (start + first) % u32Modulus ≠ (start + second) % u32Modulus := by
  simp only [u32Modulus] at inside ⊢
  omega

/-- A page written behind what the flash holds extends it by its payload. -/
theorem HoldsAt.page {platform : Platform Flash} {read : Flash → Nat → Byte}
    (laws : FlashLaws platform read) {flash : Flash} {addr : Nat} {bytes page payload : List Byte}
    (holds : HoldsAt read flash addr bytes) (room : bytes.length + tftpBlockSize < u32Modulus)
    (short : payload.length ≤ tftpBlockSize) (carries : payload <+: page) :
    HoldsAt read (platform.writePage flash ((addr + bytes.length) % u32Modulus) page).1 addr
      (bytes ++ payload) := by
  obtain ⟨behind, rfl⟩ := carries
  intro offset inside
  rw [List.length_append] at inside
  by_cases early : offset < bytes.length
  · rw [List.getElem_append_left early, ← holds offset early]
    apply laws.others
    intro later bound
    rw [Nat.mod_add_mod, Nat.add_assoc]
    apply address_ne
    · omega
    · omega
  · have late := Nat.le_of_not_lt early
    have written := laws.page flash ((addr + bytes.length) % u32Modulus) (payload ++ behind)
      (offset - bytes.length) (by rw [List.length_append]; omega) (by omega)
    rw [Nat.mod_add_mod, Nat.add_assoc, Nat.add_sub_cancel' late] at written
    rw [written, List.getElem_append_right late, List.getElem_append_left (by omega)]

/-- The payload of a datagram stands at the head of its page. -/
theorem payload_prefix (tftp : Tftp Flash) (datagram : List Byte) (port len : Nat)
    (length : datagram.length = len + 4) (inside : len ≤ tftpBlockSize) :
    datagram.drop 4 <+: (framePage (tftpRecvCallback datagram port tftp) len).bytes := by
  have header : (datagram ++ tftp.frameBuffer.drop datagram.length).drop 4 =
      datagram.drop 4 ++ tftp.frameBuffer.drop datagram.length :=
    List.drop_append_of_le_length (by omega)
  have taken : (datagram.drop 4).length ≤ tftpBlockSize := by
    rw [List.length_drop]
    omega
  simp only [framePage, tftpRecvCallback, overwrite, List.take_zero, List.nil_append, Nat.zero_add]
  rw [header, List.take_append, List.take_of_length_le taken]
  exact List.prefix_append _ _

/-- A word of a datagram reads the same in the frame buffer. -/
theorem wordAt_received (tftp : Tftp Flash) (datagram : List Byte) (port offset : Nat)
    (inside : offset + 2 ≤ datagram.length) :
    wordAt (tftpRecvCallback datagram port tftp).frameBuffer offset = wordAt datagram offset := by
  have byte (place : Nat) (covered : place < datagram.length) :
      (datagram ++ tftp.frameBuffer.drop datagram.length).getD place 0 = datagram.getD place 0 := by
    rw [List.getD_eq_getElem?_getD, List.getD_eq_getElem?_getD, List.getElem?_append_left covered]
  simp only [wordAt, tftpRecvCallback, overwrite, List.take_zero, List.nil_append, Nat.zero_add]
  rw [byte offset (by omega), byte (offset + 1) (by omega)]

/-- In the frame buffer a datagram is the next DATA block when it is one by itself. -/
theorem isBlock_received (tftp : Tftp Flash) (datagram : List Byte) (port : Nat)
    (next : 4 ≤ (tftpRecvCallback datagram port tftp).recvLen ∧
      IsNextData (tftpRecvCallback datagram port tftp)) :
    IsBlock (tftp.prevBlock + 1) datagram := by
  obtain ⟨long, data, number⟩ := next
  change 4 ≤ datagram.length at long
  rw [wordAt_received tftp datagram port 0 (by omega)] at data
  rw [wordAt_received tftp datagram port 2 (by omega)] at number
  exact ⟨long, data, number⟩

/-! ## A whole run -/

/-- Nothing is accepted and nothing stored behind the read request. -/
theorem started_flashed (platform : Platform Flash) (read : Flash → Nat → Byte)
    (laws : FlashLaws platform read) (filename : List Byte) (tftp : Tftp Flash) :
    Flashed platform read []
      (tftpSendReadfileRequest filename (tftpFirmwareUpdateInit platform tftp)) where
  prevBlock := rfl
  numbers := rfl
  full := rfl
  fileLen := rfl
  flash := by
    intro offset inside
    cases inside
  flashAddr := (Nat.mod_eq_of_lt laws.start).symm

/-- A step that leaves the block counter and the flash alone. -/
theorem Flashed.quiet {platform : Platform Flash} {read : Flash → Nat → Byte}
    {blocks : List Block} {before after : Tftp Flash} (flashed : Flashed platform read blocks before)
    (prevBlock : after.prevBlock = before.prevBlock) (same : SameFlash before after) :
    Flashed platform read blocks after where
  prevBlock := prevBlock.trans flashed.prevBlock
  numbers := flashed.numbers
  full := flashed.full
  fileLen := same.fileLen.trans flashed.fileLen
  flash := by
    rw [same.flash]
    exact flashed.flash
  flashAddr := same.flashAddr.trans flashed.flashAddr

/-- Storing the next block out of a datagram adds it to the blocks. -/
theorem Flashed.stores {platform : Platform Flash} {read : Flash → Nat → Byte}
    {blocks : List Block} {tftp between : Tftp Flash} {datagram : List Byte} {port len : Nat}
    (flashed : Flashed platform read blocks tftp) (laws : FlashLaws platform read)
    (body : tftpProcess platform (tftpRecvCallback datagram port tftp) = (between, .store len))
    (stores : Stores platform len (tftpRecvCallback datagram port tftp) between)
    (full : tftpBlockSize ≤ len) :
    Flashed platform read (blocks ++ [⟨wordAt datagram 2, datagram.drop 4⟩]) between := by
  let received := tftpRecvCallback datagram port tftp
  have length : datagram.length = len + 4 := stores.recvLen
  have whole : (datagram.drop 4).length = tftpBlockSize := by
    have inside := stores.inside
    rw [List.length_drop]
    omega
  have number : wordAt datagram 2 = blocks.length + 1 := by
    have next := stores.next
    rw [wordAt_received tftp datagram port 2 (by omega)] at next
    exact next.trans (congrArg (· + 1) flashed.prevBlock)
  have counted : blocks.length + 1 ≤ 65535 := number ▸ wordAt_le datagram 2
  have grown : payloads (blocks ++ [⟨wordAt datagram 2, datagram.drop 4⟩]) =
      payloads blocks ++ datagram.drop 4 := by
    simp only [payloads, List.flatMap_append, List.flatMap_singleton]
  have total : (payloads (blocks ++ [⟨wordAt datagram 2, datagram.drop 4⟩])).length =
      tftpBlockSize * (blocks.length + 1) := by
    rw [grown, List.length_append, flashed.full, whole, Nat.mul_succ]
  have addr : received.flashAddr = (platform.userCodeAddr + (payloads blocks).length) % u32Modulus := by
    rw [flashed.full]
    exact flashed.flashAddr
  obtain ⟨flash, flashAddr⟩ := tftpProcess_page platform len received between body
  refine ⟨?_, ?_, ?_, ?_, ?_, ?_⟩
  · rw [stores.prevBlock, List.length_append, List.length_singleton]
    exact congrArg (· + 1) flashed.prevBlock
  · rw [List.map_append, flashed.numbers, List.length_append, List.length_singleton,
      List.range'_concat]
    simp only [List.map_singleton, number, Nat.one_mul, Nat.add_comm]
  · rw [total, List.length_append, List.length_singleton]
  · have small : tftp.fileLen + len < u32Modulus := by
      have inside := stores.inside
      have before := flashed.fileLen
      rw [flashed.full] at before
      simp only [tftpBlockSize, u32Modulus] at before inside ⊢
      omega
    have fileLen : between.fileLen = (tftp.fileLen + len) % u32Modulus := stores.fileLen
    rw [fileLen, Nat.mod_eq_of_lt small, grown, List.length_append, ← flashed.fileLen,
      List.length_drop]
    omega
  · rw [grown, flash, addr]
    apply flashed.flash.page laws
    · rw [flashed.full]
      simp only [tftpBlockSize, u32Modulus]
      omega
    · exact Nat.le_of_eq whole
    · exact payload_prefix tftp datagram port len length stores.inside
  · rw [flashAddr, laws.count, addr, flashed.full, List.length_append, List.length_singleton,
      Nat.mod_add_mod, Nat.add_assoc, Nat.mul_succ]

/-- A loop body that goes on has added the block it accepted, if it accepted one. -/
theorem Flashed.loopBody {platform : Platform Flash} {read : Flash → Nat → Byte}
    {blocks : List Block} {tftp next : Tftp Flash} (flashed : Flashed platform read blocks tftp)
    (laws : FlashLaws platform read) (datagram : List Byte) (port : Nat)
    (goesOn : tftpLoopBody platform (tftpRecvCallback datagram port tftp) = (next, none)) :
    Flashed platform read
      (blocks ++ acceptedBlock platform (tftpRecvCallback datagram port tftp) datagram) next := by
  have step := processed platform (tftpRecvCallback datagram port tftp)
  have received : Flashed platform read blocks (tftpRecvCallback datagram port tftp) :=
    flashed.quiet rfl ⟨rfl, rfl, rfl, rfl, rfl⟩
  simp only [tftpLoopBody] at goesOn
  cases body : tftpProcess platform (tftpRecvCallback datagram port tftp) with
  | mk between verdict =>
    rw [body] at step
    simp only [body] at goesOn
    cases step with
    | again _ quiet =>
      have same := tftpProcess_flash platform (tftpRecvCallback datagram port tftp)
        (again_other platform _ (by rw [body]))
      rw [body] at same
      obtain rfl := (Prod.mk.inj goesOn).1
      simp only [acceptedBlock, body, List.append_nil]
      exact received.quiet quiet.prevBlock same
    | leave _ same => cases goesOn
    | store _ len stores =>
      have ending := acknowledged platform len between
      have same := tftpAcknowledge_flash platform len between
      simp only at goesOn
      rw [goesOn] at ending same
      cases ending with
      | more _ quiet full =>
        simp only [acceptedBlock, body]
        exact (flashed.stores laws body stores full).quiet quiet.prevBlock same

/-- The receive loop keeps to its blocks on any arrivals, as long as it waits. -/
theorem Flashed.receiveLoop {platform : Platform Flash} {read : Flash → Nat → Byte}
    {blocks : List Block} {tftp after : Tftp Flash} (flashed : Flashed platform read blocks tftp)
    (laws : FlashLaws platform read) (arrivals : List Arrival)
    (waits : tftpReceiveLoop platform tftp arrivals = (after, none)) :
    Flashed platform read (blocks ++ acceptedBlocks platform tftp arrivals) after := by
  induction arrivals generalizing tftp blocks with
  | nil =>
    obtain rfl : tftp = after := (Prod.mk.inj waits).1
    simpa only [acceptedBlocks, List.append_nil] using flashed
  | cons arrival rest inductionHypothesis =>
    cases arrival with
    | timeout => cases waits
    | datagram bytes port =>
      simp only [tftpReceiveLoop] at waits
      cases body : tftpLoopBody platform (tftpRecvCallback bytes port tftp) with
      | mk next exit =>
        simp only [body] at waits
        cases exit with
        | some exit => cases waits
        | none =>
          have further := inductionHypothesis (flashed.loopBody laws bytes port body) waits
          simpa only [acceptedBlocks, body, List.append_assoc] using further

/-- A datagram that is not this DATA block leaves the flash alone. -/
theorem other_datagram_keeps_flash (platform : Platform Flash) (tftp : Tftp Flash)
    (datagram : List Byte) (port : Nat) (other : ¬ IsBlock (tftp.prevBlock + 1) datagram) :
    SameFlash tftp (tftpLoopBody platform (tftpRecvCallback datagram port tftp)).1 := by
  have same := tftpProcess_flash platform (tftpRecvCallback datagram port tftp)
    fun next => other (isBlock_received tftp datagram port next)
  have received : SameFlash tftp (tftpRecvCallback datagram port tftp) := ⟨rfl, rfl, rfl, rfl, rfl⟩
  simp only [tftpLoopBody]
  cases body : tftpProcess platform (tftpRecvCallback datagram port tftp) with
  | mk between verdict =>
    rw [body] at same
    cases verdict with
    | again => exact received.trans same
    | leave exit => exact received.trans same
    | store len => exact (received.trans same).trans (tftpAcknowledge_flash platform len between)

/-! ## The frame buffer -/

/-- A datagram fits the frame buffer. A timeout copies nothing. -/
def Fits : Arrival → Prop
  | .datagram bytes _ => bytes.length ≤ frameBufferSize
  | .timeout => True

instance : ∀ arrival, Decidable (Fits arrival)
  | .datagram _ _ => inferInstanceAs (Decidable (_ ≤ _))
  | .timeout => isTrue trivial

/-- One turn of the loop stays inside the buffer exactly when it was inside before and
the datagram fits. -/
theorem turn_inside_iff (platform : Platform Flash) (tftp : Tftp Flash) (datagram : List Byte)
    (port : Nat) :
    (tftpLoopBody platform (tftpRecvCallback datagram port tftp)).1.overrun = false ↔
      tftp.overrun = false ∧ datagram.length ≤ frameBufferSize := by
  rw [tftpLoopBody_overrun]
  simp only [tftpRecvCallback, Bool.or_eq_false_iff, decide_eq_false_iff_not, Nat.not_lt]

/-- A loop that waits has stayed inside the buffer exactly when every datagram it was
handed fits. The induction is on the arrivals; a timeout does not leave it waiting. -/
theorem loop_inside_iff {platform : Platform Flash} {tftp after : Tftp Flash}
    (arrivals : List Arrival) (waits : tftpReceiveLoop platform tftp arrivals = (after, none)) :
    after.overrun = false ↔ tftp.overrun = false ∧ ∀ arrival ∈ arrivals, Fits arrival := by
  induction arrivals generalizing tftp with
  | nil =>
    obtain rfl : tftp = after := (Prod.mk.inj waits).1
    simp
  | cons arrival rest inductionHypothesis =>
    cases arrival with
    | timeout => cases waits
    | datagram bytes port =>
      simp only [tftpReceiveLoop] at waits
      have turn := turn_inside_iff platform tftp bytes port
      cases body : tftpLoopBody platform (tftpRecvCallback bytes port tftp) with
      | mk next exit =>
        simp only [body] at waits turn
        cases exit with
        | some exit => cases waits
        | none =>
          rw [inductionHypothesis waits, turn, List.forall_mem_cons, and_assoc]
          rfl

/-- What a waiting run has made of its datagrams, and what one more does: the flash and
the counters are those of the accepted blocks, the copy of the next datagram stays
inside the frame buffer, and it changes nothing of them unless it is the next block. -/
structure Held (platform : Platform Flash) (read : Flash → Nat → Byte) (blocks : List Block)
    (tftp : Tftp Flash) (datagram : List Byte) (port : Nat) : Prop where
  flashed : Flashed platform read blocks tftp
  inside : (tftpLoopBody platform (tftpRecvCallback datagram port tftp)).1.overrun = false
  others : ¬ IsBlock (tftp.prevBlock + 1) datagram →
    SameFlash tftp (tftpLoopBody platform (tftpRecvCallback datagram port tftp)).1

/-- On any datagrams, as long as the run has not returned: the blocks accepted are 1 to
`prev_block` in order, `file_len` counts their payloads, the flash holds them from the
start address on, and `flash_addr` stands behind the last page; a datagram that is not
the DATA block behind them changes nothing of this, nor the checksum and the head. All
of it holds exactly when every datagram, the last one included, has at most the 512
bytes of the frame buffer. -/
theorem flash_held_iff (platform : Platform Flash) (read : Flash → Nat → Byte)
    (laws : FlashLaws platform read) (tftp after : Tftp Flash) (fresh : tftp.overrun = false)
    (arrivals : List Arrival) (waits : tftpFirmwareUpdate platform tftp arrivals = (after, none))
    (datagram : List Byte) (port : Nat) :
    Held platform read
        (acceptedBlocks platform (tftpSendReadfileRequest tftp.updateFilename
          (tftpFirmwareUpdateInit platform tftp)) arrivals) after datagram port ↔
      ∀ arrival ∈ arrivals ++ [.datagram datagram port], Fits arrival := by
  have begun := started_flashed platform read laws tftp.updateFilename tftp
  have run : after.overrun = false ↔ ∀ arrival ∈ arrivals, Fits arrival := by
    rw [loop_inside_iff arrivals waits]
    exact and_iff_right fresh
  have turn := turn_inside_iff platform after datagram port
  have all : (∀ arrival ∈ arrivals ++ [.datagram datagram port], Fits arrival) ↔
      (∀ arrival ∈ arrivals, Fits arrival) ∧ datagram.length ≤ frameBufferSize := by
    rw [List.forall_mem_append, List.forall_mem_singleton]
    rfl
  rw [all, ← run, ← turn]
  constructor
  · intro held
    exact held.inside
  · intro inside
    exact ⟨begun.receiveLoop laws arrivals waits, inside,
      other_datagram_keeps_flash platform after datagram port⟩

/-- A flash of one byte at each address, with 1 MiB for the update. -/
def memoryPlatform : Platform (Nat → Byte) where
  head := sampleLayout
  updateFlashMemorySize := 1048576
  userCodeAddr := 0x08020000
  writePage := fun flash addr page =>
    (fun other =>
      let offset := (other + (u32Modulus - addr % u32Modulus)) % u32Modulus
      if other < u32Modulus ∧ offset < tftpBlockSize then page.getD offset (flash other)
      else flash other, tftpBlockSize)
  updateErase := fun _ _ => 0xff

/-- The laws of the page write hold of that flash. -/
theorem memory_laws : FlashLaws memoryPlatform (fun flash addr => flash addr) where
  start := by decide
  count := fun _ _ _ => rfl
  page := by
    intro flash addr page offset inside short
    have place : ((addr + offset) % u32Modulus + (u32Modulus - addr % u32Modulus)) % u32Modulus =
        offset := by
      simp only [tftpBlockSize, u32Modulus] at short ⊢
      omega
    have wraps : (addr + offset) % u32Modulus < u32Modulus :=
      Nat.mod_lt _ (Nat.zero_lt_succ _)
    simp only [memoryPlatform, place, wraps, short, and_self, if_true, List.getD_eq_getElem?_getD,
      List.getElem?_eq_getElem inside, Option.getD_some]
  others := by
    intro flash addr page other apart
    simp only [memoryPlatform]
    refine if_neg ?_
    rintro ⟨inside, short⟩
    apply apart _ short
    simp only [u32Modulus] at inside ⊢
    omega

/-- The client of the sample request over that flash. -/
def memoryClient : Tftp (Nat → Byte) :=
  { sampleClient with flash := fun _ => 0 }

/-- An option acknowledgement, two full blocks and the first of them again. -/
def waitingTransfer : List Arrival :=
  [.datagram (networkWord TftpOpcode.oack.code) 5000,
    .datagram (dataPacket 1 (List.replicate 256 7)) 5000,
    .datagram (dataPacket 2 (List.replicate 256 9)) 5000,
    .datagram (dataPacket 1 (List.replicate 256 7)) 5000]

/-- The run rule on a transfer with a repeated block, and a packet of an unknown kind
behind it. -/
theorem waitingTransfer_held :
    Held memoryPlatform (fun flash addr => flash addr)
        (acceptedBlocks memoryPlatform (tftpSendReadfileRequest memoryClient.updateFilename
          (tftpFirmwareUpdateInit memoryPlatform memoryClient)) waitingTransfer)
        (tftpFirmwareUpdate memoryPlatform memoryClient waitingTransfer).1 [0, 9] 5000 ∧
      (tftpFirmwareUpdate memoryPlatform memoryClient waitingTransfer).1.prevBlock = 2 := by
  have waiting (result : Tftp (Nat → Byte) × Option Exit) (waits : result.2 = none) :
      result = (result.1, none) := by
    rw [← waits]
  have waits : (tftpFirmwareUpdate memoryPlatform memoryClient waitingTransfer).2 = none := by
    decide +kernel
  constructor
  · exact (flash_held_iff memoryPlatform _ memory_laws memoryClient _ rfl waitingTransfer
      (waiting _ waits) [0, 9] 5000).mpr (by decide +kernel)
  · decide +kernel

/-- The first block of a server that sends the 512 bytes of RFC 1350, when it comes for
a block that is already stored. -/
def longDuplicate : List Byte := dataPacket 1 (List.replicate 512 7)

/-- The run acknowledges it and goes on waiting, and four bytes behind the frame buffer
are overwritten. -/
theorem longDuplicate_leaves_the_buffer :
    (tftpFirmwareUpdate memoryPlatform memoryClient
        (waitingTransfer ++ [.datagram longDuplicate 5000])).2 = none ∧
      ¬ Held memoryPlatform (fun flash addr => flash addr)
        (acceptedBlocks memoryPlatform (tftpSendReadfileRequest memoryClient.updateFilename
          (tftpFirmwareUpdateInit memoryPlatform memoryClient)) waitingTransfer)
        (tftpFirmwareUpdate memoryPlatform memoryClient waitingTransfer).1 longDuplicate 5000 := by
  constructor
  · decide +kernel
  · intro held
    have outside : (tftpLoopBody memoryPlatform (tftpRecvCallback longDuplicate 5000
        (tftpFirmwareUpdate memoryPlatform memoryClient waitingTransfer).1)).1.overrun = true := by
      rw [tftpLoopBody_overrun]
      have long : frameBufferSize < longDuplicate.length := by decide +kernel
      simp only [tftpRecvCallback, long, decide_true, Bool.or_true]
    exact absurd (outside.symm.trans held.inside) (by decide)

end UcosProxy.FlashContents
