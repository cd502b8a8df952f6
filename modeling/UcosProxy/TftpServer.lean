import UcosProxy.FirmwareImage

/-!
# A lock-step server and the firmware client

The server holds one file and serves it in blocks of 256 bytes: it confirms the
read request with an option acknowledgement, and answers the acknowledgement of
block k with block k + 1 while there is one. A file whose length is a multiple of
256 is ended by an empty block, so a file of n bytes has n / 256 + 1 blocks. The
server answers only packets that reach its port, and it may add options of its own
and answer from any port.

`exchange` lets the two parties speak in turn: the last packet of the client, the
reply of the server, one turn of the receive loop. When the server stays silent
the client's five seconds pass. Rounds are fuel only: `exchange_settled` says that
an exit, once reached, stays, and a whole transfer takes one round for the option
acknowledgement and one for each block.

`firmware_served_iff` tells for which valid files the transfer succeeds. The last
block must not be empty, which the client refuses, and the head checks must accept
the blocks from the last restart of the checksum on; a short last block stands in
the frame buffer in front of the bytes of the block before it.
-/

namespace UcosProxy.TftpServer

open Bytes RestartingSum TftpClient TftpSteps FirmwareImage

variable {Flash : Type}

/-- The server's file, its port, and what its option acknowledgement says behind
the confirmed block size. The acknowledgement fits the client's frame buffer, as
every block of 256 bytes does; what a longer one would do to the client is not the
subject here. -/
structure Server where
  image : List Byte
  port : Nat
  otherOptions : List Byte
  fits : otherOptions.length + 14 ≤ frameBufferSize

/-- Block `k + 1` of a file. -/
def fileBlock (image : List Byte) (k : Nat) : List Byte :=
  (image.drop (tftpBlockSize * k)).take tftpBlockSize

/-- How many blocks a file needs, the last one shorter than a full block. -/
def blockCount (image : List Byte) : Nat := image.length / tftpBlockSize + 1

/-- The option acknowledgement. -/
def oackPacket (server : Server) : List Byte :=
  networkWord TftpOpcode.oack.code ++
    (ascii "blksize" ++ [0] ++ ascii "256" ++ [0] ++ server.otherOptions)

/-- What the server answers to a packet, given the request for its file. -/
def serverReply (server : Server) (request : List Byte) (packet : Packet) : Option (List Byte) :=
  if packet.bytes = request ∧ packet.port = tftpWellknownPort then some (oackPacket server)
  else if wordAt packet.bytes 0 = TftpOpcode.ack.code ∧ packet.port = server.port ∧
      wordAt packet.bytes 2 < blockCount server.image then
    some (dataPacket (wordAt packet.bytes 2 + 1) (fileBlock server.image (wordAt packet.bytes 2)))
  else none

/-- The two parties in turn, for a number of rounds. No exit means that the
rounds ran out. -/
def exchange (platform : Platform Flash) (server : Server) (request : List Byte) :
    Nat → Tftp Flash → Tftp Flash × Option Exit
  | 0, tftp => (tftp, none)
  | rounds + 1, tftp =>
    match tftp.sent.getLast?.bind (serverReply server request) with
    | none => (tftp, some .failed)
    | some datagram =>
      match tftpLoopBody platform (tftpRecvCallback datagram server.port tftp) with
      | (next, none) => exchange platform server request rounds next
      | (next, some exit) => (next, some exit)

/-- `tftp_firmware_update` against the server. The client sends first, and the server
answers each of its packets with one datagram. -/
def servedUpdate (platform : Platform Flash) (server : Server) (rounds : Nat)
    (start : Tftp Flash) : Tftp Flash × Option Exit :=
  exchange platform server (readfileRequest start.updateFilename) rounds
    (tftpSendReadfileRequest start.updateFilename (tftpFirmwareUpdateInit platform start))

/-- A file that the client should accept. Its head is read at the file's beginning, and the
checksum is that of all the bytes behind it. -/
structure ValidImage (platform : Platform Flash) (image : List Byte) : Prop where
  covers : platform.head.size ≤ image.length
  fits : image.length ≤ platform.updateFlashMemorySize
  blocks : blockCount image ≤ 65535
  accepted : headAccepted platform.head (image.take platform.head.size)
    (byteSum (image.drop platform.head.size) % u32Modulus) = true

/-- The transfer returns 0: every block is stored and the length is committed. The number of
rounds is part of the claim, so a transfer that goes on for ever is not served. -/
def Served (platform : Platform Flash) (server : Server) (start : Tftp Flash) : Prop :=
  ∃ rounds after, servedUpdate platform server rounds start = (after, some .succeeded) ∧
    storedImage after = server.image ∧ after.updateCfg.updateSize = server.image.length

/-- A block of the file as it stands in the frame buffer, in front of what the
block before it left there. -/
def filePage (image : List Byte) (k : Nat) : Page where
  bytes := fileBlock image k ++ (fileBlock image (k - 1)).drop (fileBlock image k).length
  len := (fileBlock image k).length

/-- The pages of a file. -/
def filePages (image : List Byte) : List Page := (List.range (blockCount image)).map (filePage image)

/-- The head checks accept the file from the last restart of its checksum on. For a file
whose checksum never restarts these are the checks on the file itself. -/
def RestartAccepted (layout : FileheadLayout) (image : List Byte) : Prop :=
  headAccepted layout
    (((current layout.size u32Modulus (filePages image)).headD ⟨[], 0⟩).bytes.take layout.size)
    (tailSum layout.size u32Modulus (current layout.size u32Modulus (filePages image))) = true

instance (layout : FileheadLayout) (image : List Byte) : Decidable (RestartAccepted layout image) :=
  inferInstanceAs (Decidable (_ = true))

/-- Nothing that the server answers is longer than the client's frame buffer. -/
theorem serverReply_fits {server : Server} {request : List Byte} {packet : Packet}
    {datagram : List Byte} (reply : serverReply server request packet = some datagram) :
    datagram.length ≤ frameBufferSize := by
  have room := server.fits
  have name : (ascii "blksize").length = 7 := by decide
  have size : (ascii "256").length = 3 := by decide
  unfold serverReply at reply
  split at reply
  · obtain rfl := Option.some.inj reply
    simp only [oackPacket, networkWord, List.length_append, List.length_cons, List.length_nil, name,
      size]
    omega
  · split at reply
    · obtain rfl := Option.some.inj reply
      simp only [dataPacket, networkWord, fileBlock, List.length_append, List.length_cons,
        List.length_nil, List.length_take, frameBufferSize, tftpBlockSize]
      omega
    · cases reply

/-! ## One round -/

/-- The page of a datagram whose payload is in front of an old page. -/
theorem overwrite_page (memory payload : List Byte) (block : Nat)
    (inside : payload.length ≤ tftpBlockSize) :
    ((overwrite memory 0 (dataPacket block payload)).drop 4).take tftpBlockSize =
      payload ++ ((memory.drop 4).take tftpBlockSize).drop payload.length := by
  have body : (overwrite memory 0 (dataPacket block payload)).drop 4 =
      payload ++ memory.drop (0 + (payload.length + 4)) := rfl
  have behind : memory.drop (0 + (payload.length + 4)) = (memory.drop 4).drop payload.length := by
    rw [List.drop_drop, Nat.zero_add, Nat.add_comm]
  rw [body, behind, List.take_append, List.take_of_length_le inside, List.drop_take]

/-- A datagram that the server sends makes one turn of the loop. -/
theorem exchange_succ (platform : Platform Flash) (server : Server) (request : List Byte)
    (rounds : Nat) (tftp : Tftp Flash) (packet : Packet) (datagram : List Byte)
    (spoken : tftp.sent.getLast? = some packet)
    (reply : serverReply server request packet = some datagram) :
    exchange platform server request (rounds + 1) tftp =
      match tftpLoopBody platform (tftpRecvCallback datagram server.port tftp) with
      | (next, none) => exchange platform server request rounds next
      | (next, some exit) => (next, some exit) := by
  simp only [exchange, spoken, Option.bind_some, reply]

/-- More rounds do not change an exit. -/
theorem exchange_settled (platform : Platform Flash) (server : Server) (request : List Byte)
    (rounds more : Nat) (tftp after : Tftp Flash) (exit : Exit)
    (settled : exchange platform server request rounds tftp = (after, some exit)) :
    exchange platform server request (rounds + more) tftp = (after, some exit) := by
  induction rounds generalizing tftp with
  | zero => simp [exchange] at settled
  | succ rounds inductionHypothesis =>
    rw [Nat.succ_add]
    cases reply : tftp.sent.getLast?.bind (serverReply server request) with
    | none => simpa only [exchange, reply] using settled
    | some datagram =>
      cases body : tftpLoopBody platform (tftpRecvCallback datagram server.port tftp) with
      | mk next left =>
        simp only [exchange, reply, body] at settled ⊢
        cases left with
        | none => exact inductionHypothesis next settled
        | some other => exact settled

/-- Two numbers of rounds that reach an exit reach the same one. -/
theorem exchange_unique (platform : Platform Flash) (server : Server) (request : List Byte)
    (first second : Nat) (tftp one other : Tftp Flash) (exit left : Exit)
    (reached : exchange platform server request first tftp = (one, some exit))
    (also : exchange platform server request second tftp = (other, some left)) :
    (one, exit) = (other, left) := by
  have long := exchange_settled platform server request first second tftp one exit reached
  have same := exchange_settled platform server request second first tftp other left also
  rw [Nat.add_comm, long] at same
  simpa using same

/-- The port check accepts the server's port. -/
theorem tftpCheckTid_same (tftp : Tftp Flash) (same : tftp.recvPort = tftp.serverPort) :
    tftpCheckTid tftp = (tftp, true) := by
  rw [tftpCheckTid, if_pos same]

/-- The loop body on a block that comes next and fits. -/
theorem tftpProcess_next (platform : Platform Flash) (tftp : Tftp Flash) (len : Nat)
    (port : tftp.recvPort = tftp.serverPort) (recvLen : tftp.recvLen = len + 4)
    (proto : wordAt tftp.frameBuffer 0 = TftpOpcode.data.code)
    (block : wordAt tftp.frameBuffer 2 = tftp.prevBlock + 1)
    (positive : 0 < len) (inside : len ≤ tftpBlockSize)
    (fits : (tftp.fileLen + len) % u32Modulus ≤ platform.updateFlashMemorySize) :
    tftpProcess platform tftp =
      (handled platform len
        { tftp with curBlock := tftp.prevBlock + 1, prevBlock := tftp.prevBlock + 1 },
        .store len) := by
  unfold tftpProcess
  rw [tftpCheckTid_same tftp port]
  have long : ¬ tftp.recvLen < 2 := by omega
  have left : tftp.recvLen - 2 = len + 2 := by omega
  simp only [long, if_false, proto, if_true, left]
  unfold tftpDataCase
  have header : ¬ len + 2 < 2 := by omega
  have next : ¬ (tftp.prevBlock + 1 = 0 ∨ tftp.prevBlock + 1 > tftp.prevBlock + 1) := by omega
  have fresh : ¬ tftp.prevBlock + 1 ≤ tftp.prevBlock := by omega
  have payload : len + 2 - 2 = len := by omega
  simp only [header, if_false, block, next, fresh, payload, positive, inside, and_self, if_true]
  rw [tftpHandleData_eq, if_neg (Nat.not_lt.mpr fits)]

/-- The loop body on an option acknowledgement. -/
theorem tftpProcess_oack (platform : Platform Flash) (tftp checked : Tftp Flash)
    (port : tftpCheckTid tftp = (checked, true)) (long : 2 ≤ checked.recvLen)
    (proto : wordAt checked.frameBuffer 0 = TftpOpcode.oack.code) :
    tftpProcess platform tftp = (tftpSendAckPacket 0 checked, .again) := by
  unfold tftpProcess
  rw [port]
  have header : ¬ checked.recvLen < 2 := by omega
  have notData : ¬ TftpOpcode.oack.code = TftpOpcode.data.code := by decide
  have notError : ¬ TftpOpcode.oack.code = TftpOpcode.error.code := by decide
  simp only [header, if_false, proto, notData, notError, if_true]

/-- The loop body on an empty block. -/
theorem tftpProcess_empty (platform : Platform Flash) (tftp : Tftp Flash)
    (port : tftp.recvPort = tftp.serverPort) (recvLen : tftp.recvLen = 4)
    (proto : wordAt tftp.frameBuffer 0 = TftpOpcode.data.code)
    (block : wordAt tftp.frameBuffer 2 = tftp.prevBlock + 1) :
    ∃ after, tftpProcess platform tftp = (after, .leave .failed) := by
  unfold tftpProcess
  rw [tftpCheckTid_same tftp port]
  have long : ¬ tftp.recvLen < 2 := by omega
  have left : tftp.recvLen - 2 = 2 := by omega
  simp only [long, if_false, proto, if_true, left]
  unfold tftpDataCase
  have fresh : ¬ tftp.prevBlock + 1 ≤ tftp.prevBlock := by omega
  simp only [Nat.lt_irrefl, if_false, block, fresh]
  exact ⟨_, rfl⟩

/-- An acknowledgement is not the read request. -/
theorem ack_ne_request (block : Nat) (filename : List Byte) :
    networkWord TftpOpcode.ack.code ++ networkWord block ≠ readfileRequest filename := by
  intro same
  have opcode := congrArg (fun bytes => wordAt bytes 0) same
  exact absurd opcode (by simp [wordAt, readfileRequest, networkWord, TftpOpcode.code])

/-- The server answers the acknowledgement of block `k` with the next block. -/
theorem serverReply_ack (server : Server) (filename : List Byte) (k : Nat) (ip : IpAddr)
    (inside : k < blockCount server.image) (numbered : k ≤ 65535) :
    serverReply server (readfileRequest filename)
        ⟨networkWord TftpOpcode.ack.code ++ networkWord k, ip, server.port⟩ =
      some (dataPacket (k + 1) (fileBlock server.image k)) := by
  have notRequest : ¬ (networkWord TftpOpcode.ack.code ++ networkWord k = readfileRequest filename ∧
      server.port = tftpWellknownPort) := fun both => ack_ne_request k filename both.1
  have opcode : wordAt (networkWord TftpOpcode.ack.code ++ networkWord k) 0 =
      TftpOpcode.ack.code := by
    simp [wordAt, networkWord, TftpOpcode.code]
  have block : wordAt (networkWord TftpOpcode.ack.code ++ networkWord k) 2 = k := by
    simp [wordAt, networkWord]
    omega
  unfold serverReply
  rw [if_neg notRequest]
  simp only [opcode, block, inside, and_self, if_true]

/-! ## Blocks of the file -/

/-- A block is as long as the file allows. -/
theorem fileBlock_length (image : List Byte) (k : Nat) :
    (fileBlock image k).length = min tftpBlockSize (image.length - tftpBlockSize * k) := by
  simp only [fileBlock, List.length_take, List.length_drop]

/-- A file has a block behind every multiple of the block size it reaches. -/
theorem blockCount_covers (image : List Byte) (k : Nat) (inside : tftpBlockSize * k ≤ image.length) :
    k < blockCount image := by
  have quotient : k ≤ image.length / tftpBlockSize := by
    rw [Nat.le_div_iff_mul_le (by decide), Nat.mul_comm]
    exact inside
  exact Nat.lt_succ_of_le quotient

/-- The payload of a page of the file is its block. -/
theorem filePage_payload (image : List Byte) (k : Nat) :
    (filePage image k).payload = fileBlock image k := by
  simp [filePage, Page.payload]

/-- A full block fills its page. -/
theorem filePage_full (image : List Byte) (k : Nat)
    (full : (fileBlock image k).length = tftpBlockSize) :
    filePage image k = ⟨fileBlock image k, tftpBlockSize⟩ := by
  have before : (fileBlock image (k - 1)).length ≤ tftpBlockSize := by
    rw [fileBlock_length]
    exact Nat.min_le_left _ _
  rw [filePage, full, List.drop_eq_nil_of_le before, List.append_nil]

/-- The first blocks of a file are its first bytes. -/
theorem file_filePages (image : List Byte) (k : Nat) :
    file ((List.range k).map (filePage image)) = image.take (tftpBlockSize * k) := by
  induction k with
  | zero => rfl
  | succ k inductionHypothesis =>
    rw [List.range_succ, List.map_append, List.map_singleton, file_snoc, inductionHypothesis,
      filePage_payload, fileBlock, Nat.mul_succ, List.take_add]

/-- Every page of a file but the last is full. -/
theorem filePages_full (image : List Byte) (size : Nat) (inside : size ≤ tftpBlockSize) :
    FullBeforeLast size (filePages image) := by
  intro page member
  rw [filePages, blockCount, List.range_succ, List.map_append, List.map_singleton,
    List.dropLast_concat] at member
  obtain ⟨k, before, rfl⟩ := List.mem_map.mp member
  have small : k < image.length / tftpBlockSize := List.mem_range.mp before
  have whole : tftpBlockSize * (k + 1) ≤ image.length :=
    Nat.le_trans (Nat.mul_le_mul_left _ small) (Nat.mul_div_le _ _)
  rw [filePage_payload, fileBlock_length, Nat.mul_succ] at *
  omega

/-- The checksum step reads a page through its head and its payload. -/
theorem absorb_congr (size modulus : Nat) (state : List Byte × Nat) (page other : Page)
    (head : page.bytes.take size = other.bytes.take size) (payload : page.payload = other.payload) :
    absorb size modulus state page = absorb size modulus state other := by
  simp only [absorb, head, payload]

/-! ## The transfer -/

/-- The client has stored the first `k` blocks and acknowledged them. It is what a round
preserves, until the last block. -/
structure Serving (platform : Platform Flash) (start : Tftp Flash) (server : Server) (k : Nat)
    (tftp : Tftp Flash) : Prop where
  transferring : Transferring platform start tftp
  stored : tftp.stored = (List.range k).map (filePage server.image)
  spoken : ∃ ip, tftp.sent.getLast? =
    some ⟨networkWord TftpOpcode.ack.code ++ networkWord k, ip, server.port⟩
  serverPort : tftp.serverPort = server.port
  held : k ≠ 0 → (tftp.frameBuffer.drop 4).take tftpBlockSize = fileBlock server.image (k - 1)

/-- The first round: the client adopts the server's port and acknowledges the
options. -/
theorem opening_round (platform : Platform Flash) (start : Tftp Flash) (server : Server)
    (filename : List Byte) :
    ∃ next, tftpLoopBody platform (tftpRecvCallback (oackPacket server) server.port
        (tftpSendReadfileRequest filename (tftpFirmwareUpdateInit platform start))) =
          (next, none) ∧ Serving platform start server 0 next := by
  let received := tftpRecvCallback (oackPacket server) server.port
    (tftpSendReadfileRequest filename (tftpFirmwareUpdateInit platform start))
  have waiting : Transferring platform start received :=
    (started platform start filename).quiet ⟨⟨rfl, rfl, rfl, rfl, rfl⟩, rfl, rfl⟩
  obtain ⟨checked, port, adopted, frame, recvLen, quiet⟩ :
      ∃ checked, tftpCheckTid received = (checked, true) ∧ checked.serverPort = server.port ∧
        checked.frameBuffer = received.frameBuffer ∧ checked.recvLen = received.recvLen ∧
        Quiet received checked := by
    unfold tftpCheckTid
    by_cases same : received.recvPort = received.serverPort
    · rw [if_pos same]
      exact ⟨received, rfl, same.symm, rfl, rfl, ⟨⟨rfl, rfl, rfl, rfl, rfl⟩, rfl, rfl⟩⟩
    · rw [if_neg same]
      exact ⟨_, rfl, rfl, rfl, rfl, ⟨⟨rfl, rfl, rfl, rfl, rfl⟩, rfl, rfl⟩⟩
  have long : 2 ≤ checked.recvLen := by
    rw [recvLen]
    simp [received, tftpRecvCallback, oackPacket, networkWord]
  have proto : wordAt checked.frameBuffer 0 = TftpOpcode.oack.code := by
    rw [frame]
    exact wordAt_first _ _ _ (by decide)
  have body : tftpLoopBody platform received = (tftpSendAckPacket 0 checked, none) := by
    rw [tftpLoopBody, tftpProcess_oack platform received checked port long proto]
  refine ⟨tftpSendAckPacket 0 checked, body, ?_⟩
  have after : Transferring platform start (tftpSendAckPacket 0 checked) :=
    (waiting.quiet quiet).quiet (tftpSendto_quiet _ _ checked)
  refine ⟨after, quiet.stored, ?_, adopted, fun some => absurd rfl some⟩
  exact ⟨checked.serverIp, adopted ▸ ack_spoken 0 checked⟩

section Round

variable {platform : Platform Flash} {start tftp : Tftp Flash} {server : Server} {k : Nat}

/-- The state in which the loop body meets block `k + 1`. -/
def delivered (server : Server) (k : Nat) (tftp : Tftp Flash) : Tftp Flash :=
  tftpRecvCallback (dataPacket (k + 1) (fileBlock server.image k)) server.port tftp

/-- The datagram is held whole, comes from the known port and is the next
block. -/
theorem Serving.delivers (serving : Serving platform start server k tftp)
    (inside : k < blockCount server.image) (small : blockCount server.image ≤ 65535) :
    Transferring platform start (delivered server k tftp) ∧
      (delivered server k tftp).recvLen = (fileBlock server.image k).length + 4 ∧
      (delivered server k tftp).recvPort = (delivered server k tftp).serverPort ∧
      wordAt (delivered server k tftp).frameBuffer 0 = TftpOpcode.data.code ∧
      wordAt (delivered server k tftp).frameBuffer 2 = (delivered server k tftp).prevBlock + 1 ∧
      (delivered server k tftp).prevBlock = k := by
  have waiting : Transferring platform start (delivered server k tftp) :=
    serving.transferring.quiet ⟨⟨rfl, rfl, rfl, rfl, rfl⟩, rfl, rfl⟩
  have counted : (delivered server k tftp).prevBlock = k := by
    change tftp.prevBlock = k
    rw [serving.transferring.prevBlock, serving.stored]
    simp
  refine ⟨waiting, ?_, serving.serverPort.symm, ?_, ?_, counted⟩
  · simp [delivered, tftpRecvCallback, dataPacket, networkWord]
  · exact wordAt_first _ (networkWord (k + 1) ++ fileBlock server.image k) _ (by decide)
  · rw [counted]
    exact wordAt_second _ _ _ _ (by omega)

/-- The length counted before block `k + 1` is that of `k` full blocks. -/
theorem Serving.counted (serving : Serving platform start server k tftp)
    (inside : tftpBlockSize * k ≤ server.image.length) :
    (delivered server k tftp).fileLen = tftpBlockSize * k := by
  change tftp.fileLen = tftpBlockSize * k
  rw [serving.transferring.fileLen, storedImage, serving.stored, file_filePages, List.length_take,
    Nat.min_eq_left inside]

/-- The client stores a block that is not empty. -/
theorem Serving.stores (serving : Serving platform start server k tftp)
    (valid : ValidImage platform server.image) (inside : tftpBlockSize * k < server.image.length) :
    ∃ between, tftpProcess platform (delivered server k tftp) =
        (between, .store (fileBlock server.image k).length) ∧
      Stores platform (fileBlock server.image k).length (delivered server k tftp) between ∧
      between.serverPort = server.port ∧ between.frameBuffer = (delivered server k tftp).frameBuffer
      := by
  have size := fileBlock_length server.image k
  have within : k < blockCount server.image := blockCount_covers _ k (Nat.le_of_lt inside)
  obtain ⟨_, recvLen, port, proto, block, _⟩ := serving.delivers within valid.blocks
  have fits : ((delivered server k tftp).fileLen + (fileBlock server.image k).length) % u32Modulus ≤
      platform.updateFlashMemorySize := by
    have total := valid.fits
    rw [serving.counted (Nat.le_of_lt inside)]
    refine Nat.le_trans (Nat.mod_le _ _) ?_
    omega
  have body := tftpProcess_next platform (delivered server k tftp) (fileBlock server.image k).length
    port recvLen proto block (by simp only [tftpBlockSize] at *; omega) (by omega) fits
  have outcome := processed platform (delivered server k tftp)
  rw [body] at outcome
  cases outcome with
  | store _ _ stores => exact ⟨_, body, stores, serving.serverPort, rfl⟩

/-- A full block is stored and acknowledged. -/
theorem Serving.full_round (serving : Serving platform start server k tftp)
    (valid : ValidImage platform server.image)
    (inside : tftpBlockSize * (k + 1) ≤ server.image.length) :
    ∃ next, tftpLoopBody platform (delivered server k tftp) = (next, none) ∧
      Serving platform start server (k + 1) next := by
  rw [Nat.mul_succ] at inside
  have block : (fileBlock server.image k).length = tftpBlockSize := by
    rw [fileBlock_length]
    omega
  obtain ⟨between, body, stores, serverPort, frame⟩ := serving.stores valid (by
    simp only [tftpBlockSize] at *; omega)
  have step : tftpAcknowledge platform (fileBlock server.image k).length between =
      (tftpSendAckPacket between.curBlock between, none) := by
    unfold tftpAcknowledge
    rw [if_neg (by omega)]
  have loop : tftpLoopBody platform (delivered server k tftp) =
      (tftpSendAckPacket between.curBlock between, none) := by
    simp only [tftpLoopBody, body, step]
  have within : k < blockCount server.image := blockCount_covers _ k (by omega)
  obtain ⟨waiting, recvLen, _, _, _, counted⟩ := serving.delivers within valid.blocks
  have held : (delivered server k tftp).recvLen ≤ (delivered server k tftp).frameBuffer.length :=
    overwrite_length_le tftp.frameBuffer _
  have page : framePage (delivered server k tftp) (fileBlock server.image k).length =
      filePage server.image k := by
    rw [filePage_full _ _ block, framePage, block]
    congr 1
    rw [delivered, tftpRecvCallback, overwrite_page _ _ _ (by omega), block,
      List.drop_eq_nil_of_le (List.length_take_le _ _), List.append_nil]
  refine ⟨_, loop, ?_, ?_, ?_, serverPort, ?_⟩
  · rcases waiting.loopBody held with ⟨after, same, transferring⟩ | ⟨after, exit, other, _⟩
    · rw [loop] at same
      obtain rfl := (Prod.mk.inj same).1
      exact transferring
    · rw [loop] at other
      simp at other
  · change between.stored = _
    rw [stores.stored, page, List.range_succ, List.map_append, List.map_singleton]
    exact congrArg (· ++ _) serving.stored
  · refine ⟨between.serverIp, ?_⟩
    rw [ack_spoken, serverPort, stores.curBlock, counted]
  · intro _
    have kept : (tftpSendAckPacket between.curBlock between).frameBuffer.drop 4 =
        between.frameBuffer.drop 4 := overwrite_drop between.frameBuffer
      (networkWord TftpOpcode.ack.code ++ networkWord between.curBlock)
    rw [kept, frame, Nat.add_sub_cancel]
    exact congrArg Page.bytes (page.trans (filePage_full _ _ block))

/-- Blocks and the rest of a file. -/
theorem rest_lt (image : List Byte) (short : image.length % tftpBlockSize ≠ 0) :
    tftpBlockSize * (image.length / tftpBlockSize) < image.length ∧
      image.length < tftpBlockSize * (image.length / tftpBlockSize) + tftpBlockSize := by
  have parts := Nat.div_add_mod image.length tftpBlockSize
  have bound : image.length % tftpBlockSize < tftpBlockSize := Nat.mod_lt _ (by decide)
  omega

/-- Head and checksum of the whole file. -/
theorem digest_filePages (layout : FileheadLayout) (head image : List Byte) :
    headAccepted layout (digest layout.size u32Modulus head (filePages image)).1
        (digest layout.size u32Modulus head (filePages image)).2 = true ↔
      RestartAccepted layout image := by
  have someBlock : filePages image ≠ [] := by
    simp [filePages, blockCount]
  rw [digest_current head (filePages image) someBlock
    (filePages_full image layout.size layout.size_le)]
  rfl

/-- The last block is not empty: it is stored, and the head checks decide the
exit. -/
theorem Serving.last_round
    (serving : Serving platform start server (server.image.length / tftpBlockSize) tftp)
    (valid : ValidImage platform server.image)
    (short : server.image.length % tftpBlockSize ≠ 0) :
    ∃ after exit,
      tftpLoopBody platform (delivered server (server.image.length / tftpBlockSize) tftp) =
        (after, some exit) ∧
      (exit = .succeeded ↔ RestartAccepted platform.head server.image) ∧
      (exit = .succeeded → storedImage after = server.image ∧
        after.updateCfg.updateSize = server.image.length) := by
  obtain ⟨below, above⟩ := rest_lt server.image short
  obtain ⟨between, body, stores, _, _⟩ := serving.stores valid below
  obtain ⟨waiting, recvLen, _⟩ :=
    serving.delivers (blockCount_covers _ _ (Nat.le_of_lt below)) valid.blocks
  have held : (delivered server (server.image.length / tftpBlockSize) tftp).recvLen ≤
      (delivered server (server.image.length / tftpBlockSize) tftp).frameBuffer.length :=
    overwrite_length_le tftp.frameBuffer _
  have grown := waiting.stores stores held
  have covers := valid.covers
  generalize blocks : server.image.length / tftpBlockSize = n at *
  have size := fileBlock_length server.image n
  have page : framePage (delivered server n tftp) (fileBlock server.image n).length =
      ⟨fileBlock server.image n ++ ((tftp.frameBuffer.drop 4).take tftpBlockSize).drop
        (fileBlock server.image n).length, (fileBlock server.image n).length⟩ := by
    rw [framePage, delivered, tftpRecvCallback, overwrite_page _ _ _ (by omega)]
  have payload : (framePage (delivered server n tftp) (fileBlock server.image n).length).payload =
      (filePage server.image n).payload := by
    rw [page, filePage_payload, Page.payload, List.take_left']
    rfl
  have head : (framePage (delivered server n tftp) (fileBlock server.image n).length).bytes.take
      platform.head.size = (filePage server.image n).bytes.take platform.head.size := by
    rw [page]
    by_cases first : n = 0
    · subst first
      have whole : platform.head.size ≤ (fileBlock server.image 0).length := by omega
      rw [filePage, List.take_append_of_le_length whole, List.take_append_of_le_length whole]
    · rw [serving.held first, filePage]
  have storedPages : between.stored = (List.range n).map (filePage server.image) ++
      [framePage (delivered server n tftp) (fileBlock server.image n).length] := by
    rw [stores.stored]
    exact congrArg (· ++ _) serving.stored
  have pages : filePages server.image =
      (List.range n).map (filePage server.image) ++ [filePage server.image n] := by
    rw [filePages, blockCount, blocks, List.range_succ, List.map_append, List.map_singleton]
  have sameDigest : (between.updateFilehead, between.checkSum) =
      digest platform.head.size u32Modulus start.updateFilehead (filePages server.image) := by
    rw [grown.digest, storedPages, pages, digest_snoc, digest_snoc]
    exact absorb_congr _ _ _ _ _ head payload
  have sameFile : storedImage between = server.image := by
    rw [storedImage, storedPages, file_snoc, payload, ← file_snoc, ← pages, filePages,
      file_filePages, List.take_of_length_le]
    rw [blockCount, blocks, Nat.mul_succ]
    omega
  have accepted := digest_filePages platform.head start.updateFilehead server.image
  rw [← sameDigest] at accepted
  have ending := acknowledged platform (fileBlock server.image n).length between
  unfold tftpLoopBody
  rw [body]
  dsimp only
  cases finishing : tftpAcknowledge platform (fileBlock server.image n).length between with
  | mk final exit =>
    rw [finishing] at ending
    cases ending with
    | more _ _ full => omega
    | refused _ _ _ bad =>
      refine ⟨final, .failed, rfl, ?_, fun succeeded => by simp at succeeded⟩
      rw [← accepted, bad]
      simp
    | committed _ _ good sameStored _ cfg _ =>
      refine ⟨final, .succeeded, rfl, ?_, fun _ => ⟨?_, ?_⟩⟩
      · exact ⟨fun _ => accepted.mp good, fun _ => rfl⟩
      · rw [storedImage, sameStored]
        exact sameFile
      · rw [cfg, committedCfg, grown.fileLen, sameFile]

/-- The last block is empty: the client leaves the loop. -/
theorem Serving.empty_round
    (serving : Serving platform start server (server.image.length / tftpBlockSize) tftp)
    (valid : ValidImage platform server.image)
    (multiple : server.image.length % tftpBlockSize = 0) :
    ∃ after, tftpLoopBody platform
      (delivered server (server.image.length / tftpBlockSize) tftp) = (after, some .failed) := by
  have whole : tftpBlockSize * (server.image.length / tftpBlockSize) = server.image.length := by
    have parts := Nat.div_add_mod server.image.length tftpBlockSize
    omega
  obtain ⟨_, recvLen, port, proto, block, _⟩ :=
    serving.delivers (blockCount_covers _ _ (Nat.le_of_eq whole)) valid.blocks
  rw [fileBlock_length, whole, Nat.sub_self, Nat.min_zero, Nat.zero_add] at recvLen
  obtain ⟨after, body⟩ := tftpProcess_empty platform _ port recvLen proto block
  exact ⟨after, by simp only [tftpLoopBody, body]⟩

end Round

/-- The first `k` blocks take `k + 1` rounds. Induct on the blocks; each round is
the full round of the block it asks for. -/
theorem serving_reached (platform : Platform Flash) (start : Tftp Flash) (server : Server)
    (valid : ValidImage platform server.image) (k : Nat)
    (inside : tftpBlockSize * k ≤ server.image.length) :
    ∃ tftp, Serving platform start server k tftp ∧ ∀ rounds,
      servedUpdate platform server (rounds + (k + 1)) start =
        exchange platform server (readfileRequest start.updateFilename) rounds tftp := by
  induction k with
  | zero =>
    obtain ⟨next, body, serving⟩ := opening_round platform start server start.updateFilename
    refine ⟨next, serving, fun rounds => ?_⟩
    rw [servedUpdate, exchange_succ _ _ _ _ _ _ (oackPacket server) (request_spoken _ _), body]
    simp [serverReply, tftpFirmwareUpdateInit]
  | succ k inductionHypothesis =>
    obtain ⟨tftp, serving, rounds⟩ := inductionHypothesis (by rw [Nat.mul_succ] at inside; omega)
    obtain ⟨next, body, further⟩ := serving.full_round valid inside
    obtain ⟨ip, spoken⟩ := serving.spoken
    have within : k < blockCount server.image :=
      blockCount_covers _ k (by rw [Nat.mul_succ] at inside; omega)
    refine ⟨next, further, fun more => ?_⟩
    have reply := serverReply_ack server start.updateFilename k ip within
      (within.le.trans valid.blocks)
    rw [Nat.add_comm (k + 1) 1, ← Nat.add_assoc, rounds (more + 1),
      exchange_succ _ _ _ _ _ _ _ spoken reply]
    change (match tftpLoopBody platform (delivered server k tftp) with
      | (next, none) => _
      | (next, some exit) => _) = _
    rw [body]

/-- For every valid file, head layout and server: the transfer succeeds exactly when the
last block is not empty and the head checks accept the file from the last restart of its
checksum on. Both reasons of failure are kinds of files: those of a multiple of 256 bytes,
and those whose checksum is zero at the wrong place. The induction is on the blocks, a round
each. -/
theorem firmware_served_iff (platform : Platform Flash) (start : Tftp Flash) (server : Server)
    (valid : ValidImage platform server.image) :
    Served platform server start ↔
      server.image.length % tftpBlockSize ≠ 0 ∧ RestartAccepted platform.head server.image := by
  obtain ⟨tftp, serving, rounds⟩ := serving_reached platform start server valid
    (server.image.length / tftpBlockSize) (Nat.mul_div_le _ _)
  obtain ⟨ip, spoken⟩ := serving.spoken
  have within := blockCount_covers server.image _ (Nat.mul_div_le server.image.length tftpBlockSize)
  have reply := serverReply_ack server start.updateFilename _ ip within
    (within.le.trans valid.blocks)
  have last := rounds 1
  rw [exchange_succ _ _ _ _ _ _ _ spoken reply] at last
  by_cases multiple : server.image.length % tftpBlockSize = 0
  · obtain ⟨after, body⟩ := serving.empty_round valid multiple
    unfold delivered at body
    rw [body] at last
    constructor
    · rintro ⟨some, other, reached, _⟩
      have same := exchange_unique _ _ _ _ _ _ _ _ _ _ reached last
      simp at same
    · rintro ⟨short, _⟩
      exact False.elim (short multiple)
  · obtain ⟨after, exit, body, decides, result⟩ := serving.last_round valid multiple
    unfold delivered at body
    rw [body] at last
    constructor
    · rintro ⟨some, other, reached, _⟩
      have same := exchange_unique _ _ _ _ _ _ _ _ _ _ reached last
      exact ⟨multiple, decides.mp (Prod.mk.inj same).2.symm⟩
    · rintro ⟨_, accepted⟩
      have succeeded := decides.mpr accepted
      obtain ⟨image, updateSize⟩ := result succeeded
      exact ⟨_, after, succeeded ▸ last, image, updateSize⟩

/-- A file of 268 bytes in two blocks. -/
def sampleImage : List Byte := [1, 0, 0x0d, 0x80, 0, 1, 0, 0, 1, 0, 0, 0] ++ List.replicate 256 1

/-- A server for the sample file, on a port of its own. -/
def sampleServer : Server := ⟨sampleImage, 50000, [], by decide⟩

/-- The sample file is served. -/
theorem sample_served : Served samplePlatform sampleServer sampleClient :=
  (firmware_served_iff samplePlatform sampleClient sampleServer
    ⟨by decide +kernel, by decide +kernel, by decide +kernel, by decide +kernel⟩).mpr
      ⟨by decide +kernel, by decide +kernel⟩

/-- The same file cut to 256 bytes, with the checksum of its shorter rest. -/
def multipleImage : List Byte := [1, 0, 0x0d, 0x80, 244, 0, 0, 0, 1, 0, 0, 0] ++ List.replicate 244 1

/-- A server for that file. -/
def multipleServer : Server := { sampleServer with image := multipleImage }

/-- A valid file of exactly one full block is refused at its empty last block. -/
theorem empty_block_refused : ValidImage samplePlatform multipleImage ∧
    ¬ Served samplePlatform multipleServer sampleClient := by
  refine ⟨⟨by decide +kernel, by decide +kernel, by decide +kernel, by decide +kernel⟩, ?_⟩
  rintro ⟨rounds, after, reached, _⟩
  have refused : (servedUpdate samplePlatform multipleServer 3 sampleClient).2 =
      some .failed := by decide +kernel
  cases ran : servedUpdate samplePlatform multipleServer 3 sampleClient with
  | mk other exit =>
    rw [ran] at refused
    obtain rfl : exit = some .failed := refused
    have same := exchange_unique _ _ _ _ _ _ _ _ _ _ reached ran
    simp at same

end UcosProxy.TftpServer
