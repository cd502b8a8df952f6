import UcosProxy.RestartingSum

/-!
# The TFTP firmware client

`tftp_client.c` as functions on one flat record: the fields of `tftp_control`,
the local change flag of the receive loop, the flash and the update
configuration, and the web page's update status and file name. The receive
callback, the four packet builders, the data handler, the final checks and the
loop body are translated one by one; the loop itself consumes a list of
arrivals, each a datagram handed over whole or the five-second timeout.

The loop body is cut where the source waits ten milliseconds behind a flash
write: `tftpProcess` ends with a stored block, `tftpAcknowledge` sends its ACK
and decides whether the transfer ends. A scheduler may place other requests
between the two.

What the repository does not contain is a parameter: the layout of
`UpdateFilehead_S`, the size and start of the update flash, and the page write
and erase operations. Words of 32 bits are natural numbers reduced where they are
written. Three fields are history and no function reads them: the pages handed to
flash, the packets handed to UDP, and the configurations written.

`tftp_recv_callback` copies a datagram over the frame buffer without a look at its
length. `frameBuffer` is the memory from the buffer's start on, and `overrun` says that
a copy went past the 512 bytes of the buffer. What else lies there is not known, so
nothing that holds of a state with an overrun is a promise of the code. The packets
that are built in the buffer fit it: a file name has at most 63 bytes.
-/

namespace UcosProxy.TftpClient

open Bytes RestartingSum

/-- An IPv4 address as `ip_addr_t` holds it. -/
abbrev IpAddr := BitVec 32

/-- 2^32, the modulus of the `u32` counters. -/
def u32Modulus : Nat := 4294967296

/-- `TFTP_WELLKNOWN_PORT`. -/
def tftpWellknownPort : Nat := 69

/-- `TFTP_BLOCK_SIZE`, and the flash page size as well. -/
def tftpBlockSize : Nat := 256

/-- The size that `tftp_client_create_f` allocates for the frame buffer,
`TFTP_BLOCK_SIZE*2`. -/
def frameBufferSize : Nat := 2 * tftpBlockSize

/-- `STM32F407_MODULE_BOARD_TYPE`. -/
def moduleBoardType : Nat := 0x800d0001

/-- The status shown by the web pages, `enum ssi_status`. The update pages use four of them,
and the rest belongs to the other pages. -/
inductive SsiStatus where
  | readSuccess | writeSuccess | invalidValue | updateDoing | updateSucceed
  | updateFailed | empty | writeFailure
deriving DecidableEq

/-- The opcodes of RFC 1350 and the option acknowledgement of RFC 2347. An opcode that the
loop does not expect is answered with an error packet, and ends the transfer. -/
inductive TftpOpcode where
  | rrq | wrq | data | ack | error | oack
deriving DecidableEq

/-- The number of an opcode on the wire. -/
def TftpOpcode.code : TftpOpcode → Nat
  | .rrq => 1
  | .wrq => 2
  | .data => 3
  | .ack => 4
  | .error => 5
  | .oack => 6

/-- A little-endian unsigned integer. -/
def littleEndian : List Byte → Nat
  | [] => 0
  | byte :: rest => byte.toNat + 256 * littleEndian rest

/-- An integer member of a C structure: where it stands and how wide it is. The structures
are read out of bytes, so their layout is made explicit. -/
structure Member where
  offset : Nat
  width : Nat

/-- The value of a member in the bytes of its structure. -/
def Member.read (field : Member) (bytes : List Byte) : Nat :=
  littleEndian ((bytes.drop field.offset).take field.width)

/-- The layout of `UpdateFilehead_S`, as far as the client reads it. The header that
declares it is not in the repository. What the client relies on is that it is not empty and
lies within the first 256 bytes. -/
structure FileheadLayout where
  size : Nat
  boardType : Member
  checksum : Member
  programType : Member
  size_pos : 0 < size
  size_le : size ≤ 256

/-- The configuration kept in `update_cfg`. It tells the boot loader what was stored, and
where. -/
structure UpdateCfg where
  updateSpiflashChecksum : Nat
  updateStartAddress : Nat
  updateSize : Nat
  needUpdateFlag : Nat
  bootJustUpdateFlag : Nat
deriving DecidableEq

/-- The platform functions and constants the client relies on. The flash is a type of its
own with two functions on it; a result that is about its contents says what writing does. -/
structure Platform (Flash : Type) where
  head : FileheadLayout
  /-- `Update_Flash_Memory_size` -/
  updateFlashMemorySize : Nat
  /-- `SPI_Flash_Get_User_Code_Addr` -/
  userCodeAddr : Nat
  /-- `SPI_Flash_Write_Page_Nret` with its page: the flash and the count returned. -/
  writePage : Flash → Nat → List Byte → Flash × Nat
  /-- `SPI_Flash_Update_Erase` -/
  updateErase : Flash → Flash

/-- A datagram handed to `udp_sendto`. Address and port are the ones it was sent to. -/
structure Packet where
  bytes : List Byte
  ip : IpAddr
  port : Nat
deriving DecidableEq

/-- The state the transfer works on. It holds the control block, the globals that the
transfer shares with the web pages, and the histories that the results are about. No
function reads a history. -/
structure Tftp (Flash : Type) where
  /-- The memory from `frame_buffer` on. -/
  frameBuffer : List Byte
  /-- A datagram was copied past the end of the frame buffer. -/
  overrun : Bool
  serverIp : IpAddr
  serverPort : Nat
  prevBlock : Nat
  curBlock : Nat
  flashAddr : Nat
  checkSum : Nat
  totalFileLen : Nat
  fileLen : Nat
  updateFilehead : List Byte
  /-- `recv_args.len` -/
  recvLen : Nat
  /-- `recv_args.port` -/
  recvPort : Nat
  /-- The local `change_flag` of the receive loop. -/
  changeFlag : Bool
  flash : Flash
  updateCfg : UpdateCfg
  updateFilename : List Byte
  updateSsiStatus : SsiStatus
  /-- `control_set_sysreset` was called. -/
  sysreset : Bool
  /-- History: the pages handed to flash in this transfer. -/
  stored : List Page
  /-- History: the packets handed to UDP in this transfer. -/
  sent : List Packet
  /-- History: what `main_config_write_update_f` wrote. -/
  cfgWrites : List UpdateCfg

variable {Flash : Type}

/-- How `tftp_firmware_update` returns: 0 or -1. The two are what the update thread acts on. -/
inductive Exit where
  | succeeded
  | failed
deriving DecidableEq

/-- What the loop does with a packet: wait for the next one, acknowledge the
block it stored, or leave. -/
inductive Verdict where
  | again
  | store (len : Nat)
  | leave (exit : Exit)
deriving DecidableEq

/-- A 16-bit word in network order. -/
def networkWord (word : Nat) : List Byte :=
  [BitVec.ofNat 8 (word / 256), BitVec.ofNat 8 word]

/-- `ntohs` of the word at an offset of the frame buffer. -/
def wordAt (buffer : List Byte) (offset : Nat) : Nat :=
  256 * (buffer.getD offset 0).toNat + (buffer.getD (offset + 1) 0).toNat

/-- Build a packet in the frame buffer and hand its first bytes to UDP, to the
address and port the control block holds now. A NUL that stands behind the
packet is written but not sent. -/
def tftpSendto (packet : List Byte) (len : Nat) (tftp : Tftp Flash) : Tftp Flash :=
  let buffer := overwrite tftp.frameBuffer 0 packet
  { tftp with
    frameBuffer := buffer
    sent := tftp.sent ++ [⟨buffer.take len, tftp.serverIp, tftp.serverPort⟩] }

/-- `tftp_send_ack_packet`. It goes out of the frame buffer, over the datagram that it
answers. -/
def tftpSendAckPacket (block : Nat) (tftp : Tftp Flash) : Tftp Flash :=
  tftpSendto (networkWord TftpOpcode.ack.code ++ networkWord block) 4 tftp

/-- `tftp_send_error_packet`. Its text ends with a zero. -/
def tftpSendErrorPacket (errCode : Nat) (errStr : List Byte) (tftp : Tftp Flash) : Tftp Flash :=
  tftpSendto (networkWord TftpOpcode.error.code ++ networkWord errCode ++ errStr ++ [0])
    (errStr.length + 5) tftp

/-- The read request that `tftp_send_readfile_request` builds: the file name, the
mode and the block size option, each ended by a NUL. -/
def readfileRequest (filename : List Byte) : List Byte :=
  networkWord TftpOpcode.rrq.code ++ filename ++ [0] ++ ascii "octet" ++ [0] ++
    ascii "blksize" ++ [0] ++ ascii "256" ++ [0]

/-- `tftp_send_readfile_request`. The last zero is written and not sent. -/
def tftpSendReadfileRequest (filename : List Byte) (tftp : Tftp Flash) : Tftp Flash :=
  tftpSendto (readfileRequest filename ++ [0]) (readfileRequest filename).length tftp

/-- `tftp_recv_callback`: copy the datagram over the frame buffer and pass its
length and source port. The length is not compared with the size of the buffer, and
what does not fit is written to the memory behind it. -/
def tftpRecvCallback (datagram : List Byte) (port : Nat) (tftp : Tftp Flash) : Tftp Flash :=
  { tftp with
    frameBuffer := overwrite tftp.frameBuffer 0 datagram
    overrun := tftp.overrun || decide (frameBufferSize < datagram.length)
    recvLen := datagram.length
    recvPort := port }

/-- `tftp_firmware_update_init`, with the change flag and the histories of a new
run of the loop. -/
def tftpFirmwareUpdateInit (platform : Platform Flash) (tftp : Tftp Flash) : Tftp Flash :=
  { tftp with
    serverPort := tftpWellknownPort
    prevBlock := 0
    curBlock := 0
    flashAddr := platform.userCodeAddr
    checkSum := 0
    fileLen := 0
    flash := platform.updateErase tftp.flash
    changeFlag := false
    stored := []
    sent := [] }

/-- The page handed to flash: the 256 bytes behind the header in the frame buffer,
of which the length left is payload. -/
def framePage (tftp : Tftp Flash) (len : Nat) : Page :=
  ⟨(tftp.frameBuffer.drop 4).take tftpBlockSize, len⟩

/-- `tftp_handle_data` on the payload behind the header. The head is copied with
its full length, whatever the length of the payload, whenever the running
checksum is zero. -/
def tftpHandleData (platform : Platform Flash) (len : Nat) (tftp : Tftp Flash) :
    Tftp Flash × Bool :=
  let fileLen := (tftp.fileLen + len) % u32Modulus
  let page := framePage tftp len
  if fileLen > platform.updateFlashMemorySize then ({ tftp with fileLen := fileLen }, false)
  else
    let written := platform.writePage tftp.flash tftp.flashAddr page.bytes
    let head := if tftp.checkSum = 0 then page.bytes.take platform.head.size
      else tftp.updateFilehead
    let counted := if tftp.checkSum = 0 then page.payload.drop platform.head.size
      else page.payload
    ({ tftp with
        fileLen := fileLen
        updateFilehead := head
        checkSum := (tftp.checkSum + byteSum counted) % u32Modulus
        flash := written.1
        flashAddr := (tftp.flashAddr + written.2) % u32Modulus
        stored := tftp.stored ++ [page] }, true)

/-- The three checks of `tftp_firmware_download_finish` on a head and the
checksum that was summed behind it. -/
def headAccepted (layout : FileheadLayout) (head : List Byte) (checkSum : Nat) : Bool :=
  layout.boardType.read head = moduleBoardType &&
    layout.checksum.read head = checkSum &&
    layout.programType.read head = 1

/-- The configuration that `tftp_firmware_download_finish` commits. -/
def committedCfg (platform : Platform Flash) (tftp : Tftp Flash) : UpdateCfg where
  updateSpiflashChecksum := tftp.checkSum
  updateStartAddress := platform.userCodeAddr
  updateSize := tftp.fileLen
  needUpdateFlag := 1
  bootJustUpdateFlag := 0

/-- `tftp_firmware_download_finish`. The configuration is written for a head that is
accepted, and for no other one. -/
def tftpFirmwareDownloadFinish (platform : Platform Flash) (tftp : Tftp Flash) :
    Tftp Flash × Exit :=
  if headAccepted platform.head tftp.updateFilehead tftp.checkSum then
    ({ tftp with
        updateCfg := committedCfg platform tftp
        cfgWrites := tftp.cfgWrites ++ [committedCfg platform tftp]
        updateSsiStatus := .updateSucceed
        sysreset := true }, .succeeded)
  else (tftp, .failed)

/-- The transfer identifier check at the head of the loop: the first foreign
port is adopted, a later one ends the transfer with an error packet. -/
def tftpCheckTid (tftp : Tftp Flash) : Tftp Flash × Bool :=
  if tftp.recvPort = tftp.serverPort then (tftp, true)
  else if tftp.changeFlag then (tftpSendErrorPacket 5 (ascii "Unknown TID") tftp, false)
  else ({ tftp with serverPort := tftp.recvPort, changeFlag := true }, true)

/-- The `TFTP_DATA` case, with the length left behind the opcode. -/
def tftpDataCase (platform : Platform Flash) (len : Nat) (tftp : Tftp Flash) :
    Tftp Flash × Verdict :=
  if len < 2 then (tftp, .leave .failed)
  else
    let block := wordAt tftp.frameBuffer 2
    let current := { tftp with curBlock := block }
    if block = 0 ∨ block > tftp.prevBlock + 1 then (current, .leave .failed)
    -- an old block again: acknowledge it, which prompts the server for the next
    else if block ≤ tftp.prevBlock then (tftpSendAckPacket block current, .again)
    else
      let advanced := { current with prevBlock := block }
      if 0 < len - 2 ∧ len - 2 ≤ tftpBlockSize then
        match tftpHandleData platform (len - 2) advanced with
        | (handled, true) => (handled, .store (len - 2))
        | (handled, false) => (handled, .leave .failed)
      else (advanced, .leave .failed)

/-- The loop body from the wake-up to the stored block or the exit. -/
def tftpProcess (platform : Platform Flash) (tftp : Tftp Flash) : Tftp Flash × Verdict :=
  match tftpCheckTid tftp with
  | (refused, false) => (refused, .leave .failed)
  | (checked, true) =>
    if checked.recvLen < 2 then (checked, .leave .failed)
    else
      let proto := wordAt checked.frameBuffer 0
      if proto = TftpOpcode.data.code then tftpDataCase platform (checked.recvLen - 2) checked
      else if proto = TftpOpcode.error.code then (checked, .leave .failed)
      else if proto = TftpOpcode.oack.code then (tftpSendAckPacket 0 checked, .again)
      else (tftpSendErrorPacket 4 (ascii "Illegal operation") checked, .leave .failed)

/-- The rest of the loop body behind a stored block: acknowledge it, and finish
when it was shorter than a full block. -/
def tftpAcknowledge (platform : Platform Flash) (len : Nat) (tftp : Tftp Flash) :
    Tftp Flash × Option Exit :=
  let acknowledged := tftpSendAckPacket tftp.curBlock tftp
  if len < tftpBlockSize then
    match tftpFirmwareDownloadFinish platform acknowledged with
    | (finished, exit) => (finished, some exit)
  else (acknowledged, none)

/-- The whole loop body on the datagram in the frame buffer. -/
def tftpLoopBody (platform : Platform Flash) (tftp : Tftp Flash) : Tftp Flash × Option Exit :=
  match tftpProcess platform tftp with
  | (processed, .again) => (processed, none)
  | (processed, .store len) => tftpAcknowledge platform len processed
  | (processed, .leave exit) => (processed, some exit)

/-- What the loop waits for. A timeout ends the transfer. -/
inductive Arrival where
  | datagram (bytes : List Byte) (port : Nat)
  | timeout
deriving DecidableEq

/-- The receive loop. No exit means that it still waits. -/
def tftpReceiveLoop (platform : Platform Flash) :
    Tftp Flash → List Arrival → Tftp Flash × Option Exit
  | tftp, [] => (tftp, none)
  | tftp, .timeout :: _ => (tftp, some .failed)
  | tftp, .datagram bytes port :: rest =>
    match tftpLoopBody platform (tftpRecvCallback bytes port tftp) with
    | (next, none) => tftpReceiveLoop platform next rest
    | (next, some exit) => (next, some exit)

/-- `tftp_firmware_update` on the arrivals of one run. The result is none as long as the
loop waits for another arrival. -/
def tftpFirmwareUpdate (platform : Platform Flash) (tftp : Tftp Flash)
    (arrivals : List Arrival) : Tftp Flash × Option Exit :=
  tftpReceiveLoop platform
    (tftpSendReadfileRequest tftp.updateFilename (tftpFirmwareUpdateInit platform tftp)) arrivals

/-! ## A concrete client -/

/-- A DATA packet. -/
def dataPacket (block : Nat) (payload : List Byte) : List Byte :=
  networkWord TftpOpcode.data.code ++ networkWord block ++ payload

/-- A layout of twelve bytes: three little-endian words. -/
def sampleLayout : FileheadLayout where
  size := 12
  boardType := ⟨0, 4⟩
  checksum := ⟨4, 4⟩
  programType := ⟨8, 4⟩
  size_pos := by decide
  size_le := by decide

/-- A platform whose page writes succeed, with an update area of 1 MiB. -/
def samplePlatform : Platform Unit where
  head := sampleLayout
  updateFlashMemorySize := 1048576
  userCodeAddr := 0x08020000
  writePage := fun _ _ page => ((), page.length)
  updateErase := id

/-- The client behind an update request for `a.bin` from 192.168.0.2. -/
def sampleClient : Tftp Unit where
  frameBuffer := List.replicate frameBufferSize 0
  overrun := false
  serverIp := 0xc0a80002
  serverPort := tftpWellknownPort
  prevBlock := 0
  curBlock := 0
  flashAddr := 0
  checkSum := 0
  totalFileLen := 268
  fileLen := 0
  updateFilehead := List.replicate 12 0
  recvLen := 0
  recvPort := 0
  changeFlag := false
  flash := ()
  updateCfg := ⟨0, 0, 0, 0, 0⟩
  updateFilename := ascii "a.bin"
  updateSsiStatus := .updateDoing
  sysreset := false
  stored := []
  sent := []
  cfgWrites := []

end UcosProxy.TftpClient
