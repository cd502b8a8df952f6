import UcosProxy.Runs
import UcosProxy.TftpServer

/-!
# The firmware client on an unreliable network

The firmware client against the server that holds one file, when the network may lose,
repeat and reorder what both of them send. Nothing that was sent is taken back: the server
may meet a packet of the client, and the client a datagram of the server, at any later time
and any number of times, or never. A datagram is delivered only while the loop waits, and it then
makes one whole turn of the loop. After five seconds without one the client gives up.

In every run the client has stored the file's first blocks, while it waits as many as it has
counted, and a committed configuration is that of the whole file; no datagram reaches beyond
the frame buffer. Without a timeout the exit does not depend on the network: the update
succeeds exactly when the file is acceptable, and from every state two more events a block
bring it to its end.

The one place where the order of the datagrams can show is the head. It is copied out of the
frame buffer again where the checksum restarts, and behind a short last block stand the
bytes of whatever came before. The results about the exit therefore ask that a checksum
which restarts at the last block finds a whole head there.
-/

namespace UcosProxy.FirmwareNetwork

open Bytes Runs RestartingSum TftpClient TftpSteps FirmwareImage TftpServer

variable {Flash : Type}

/-- The client and what the network holds for it. What the client has sent stands in its own
record. -/
structure Network (Flash : Type) where
  tftp : Tftp Flash
  exit : Option Exit
  /-- Everything that the server has sent. -/
  wire : List (List Byte)
  /-- History: the client's five seconds passed. -/
  timedOut : Bool

inductive Event where
  /-- A packet of the client reaches the server, which answers it. -/
  | answer (position : Nat)
  /-- A datagram of the server reaches the client. -/
  | deliver (position : Nat)
  | timeout
deriving DecidableEq

section definitions
variable (platform : Platform Flash) (start : Tftp Flash) (server : Server)

/-- One event. What is not there to be answered or read is no event, and a client behind its
exit reads nothing. -/
def step (network : Network Flash) : Event → Option (Network Flash)
  | .answer position =>
    network.tftp.sent[position]?.bind fun packet =>
      (serverReply server (readfileRequest start.updateFilename) packet).map fun datagram =>
        { network with wire := network.wire ++ [datagram] }
  | .deliver position =>
    match network.exit with
    | some _ => none
    | none =>
      network.wire[position]?.map fun datagram =>
        let turn := tftpLoopBody platform (tftpRecvCallback datagram server.port network.tftp)
        { network with tftp := turn.1, exit := turn.2 }
  | .timeout =>
    match network.exit with
    | some _ => none
    | none => some { network with exit := some .failed, timedOut := true }

/-- The client behind its read request. -/
def asked : Network Flash where
  tftp := tftpSendReadfileRequest start.updateFilename (tftpFirmwareUpdateInit platform start)
  exit := none
  wire := []
  timedOut := false

/-- A file that the client accepts: it fits, its blocks can be numbered, the last of them is
not empty, and the head checks accept it from the last restart of the checksum on. It is a
property of the file and the layout, and the network does not enter. -/
structure Acceptable (image : List Byte) : Prop where
  fits : image.length ≤ platform.updateFlashMemorySize
  numbered : blockCount image ≤ 65535
  short : image.length % tftpBlockSize ≠ 0
  accepted : RestartAccepted platform.head image

/-- A checksum that restarts at the last block finds a whole head there. Every file meets it
whose last block is at least as long as a head, and so does every file whose checksum does
not restart there. -/
def LastHeadWhole (layout : FileheadLayout) (image : List Byte) : Prop :=
  tailSum layout.size u32Modulus (current layout.size u32Modulus
      ((List.range (image.length / tftpBlockSize)).map (filePage image))) = 0 →
    layout.size ≤ (fileBlock image (image.length / tftpBlockSize)).length

instance (layout : FileheadLayout) (image : List Byte) : Decidable (LastHeadWhole layout image) :=
  inferInstanceAs (Decidable (_ → _))

/-- What holds of the client in every state: it has stored a first part of the file, and while
it waits that part is as long as its count of blocks; only a whole file is committed, and
nothing was written behind the frame buffer. The count of a client that has left its loop
may be one ahead, when the block that ended the update was not stored. -/
structure Sound (network : Network Flash) : Prop where
  inside : network.tftp.overrun = start.overrun
  stored : storedImage network.tftp <+: server.image
  waiting : network.exit = none → storedImage network.tftp =
    server.image.take (tftpBlockSize * network.tftp.prevBlock)
  succeeded : network.exit = some .succeeded → storedImage network.tftp = server.image ∧
    network.tftp.updateCfg.updateSize = server.image.length ∧
    network.tftp.cfgWrites = start.cfgWrites ++ [network.tftp.updateCfg]
  untouched : network.exit ≠ some .succeeded →
    network.tftp.updateCfg = start.updateCfg ∧ network.tftp.cfgWrites = start.cfgWrites

/-- The exit of a client that did not give up says whether the file is acceptable. A client
that gave up has failed whatever the file, and one that waits has no exit yet. -/
def Judged (network : Network Flash) : Prop :=
  network.timedOut = false → ∀ exit, network.exit = some exit →
    (exit = .succeeded ↔ Acceptable platform server.image)

/-- The acknowledgement of a block. -/
def ackPacket (block : Nat) : List Byte := networkWord TftpOpcode.ack.code ++ networkWord block

/-- The client has sent what the server answers with something new. It is what lets a
transfer go on from any state, since the network may repeat what was sent. -/
def Asks (tftp : Tftp Flash) : Prop :=
  (∃ ip, ⟨ackPacket tftp.prevBlock, ip, server.port⟩ ∈ tftp.sent) ∨
    tftp.prevBlock = 0 ∧
      ∃ ip, ⟨readfileRequest start.updateFilename, ip, tftpWellknownPort⟩ ∈ tftp.sent

/-- The client waits. It has sent its request and acknowledgements of blocks that it has, so
no datagram carries more than the next block. Each field is kept by a turn of the loop that
brings a repeated datagram, the next block or the options, and the server sends nothing
else. -/
structure Waiting (wire : List (List Byte)) (tftp : Tftp Flash) : Prop where
  transferring : Transferring platform start tftp
  stored : tftp.stored = (List.range tftp.prevBlock).map (filePage server.image)
  inside : tftpBlockSize * tftp.prevBlock ≤ server.image.length
  port : tftp.serverPort = server.port ∨
    tftp.serverPort = tftpWellknownPort ∧ tftp.changeFlag = false
  sent : ∀ packet ∈ tftp.sent, packet.bytes = readfileRequest start.updateFilename ∨
    ∃ k ≤ tftp.prevBlock, packet.bytes = ackPacket k
  asks : Asks start server tftp
  wire : ∀ datagram ∈ wire, datagram = oackPacket server ∨
    ∃ k ≤ tftp.prevBlock, k < blockCount server.image ∧
      datagram = dataPacket (k + 1) (fileBlock server.image k)

/-- The client has left its loop. Behind a timeout nothing is said of how the file would
have been judged. -/
structure Ended (timedOut : Bool) (exit : Exit) (tftp : Tftp Flash) : Prop where
  stored : storedImage tftp <+: server.image
  succeeded : exit = .succeeded → storedImage tftp = server.image ∧
    tftp.updateCfg.updateSize = server.image.length ∧
    tftp.cfgWrites = start.cfgWrites ++ [tftp.updateCfg]
  untouched : exit ≠ .succeeded →
    tftp.updateCfg = start.updateCfg ∧ tftp.cfgWrites = start.cfgWrites
  judged : timedOut = false → LastHeadWhole platform.head server.image →
    (exit = .succeeded ↔ Acceptable platform server.image)

/-- No datagram on the way is longer than the frame buffer, and none has overrun it. -/
structure Inside (network : Network Flash) : Prop where
  wire : ∀ datagram ∈ network.wire, datagram.length ≤ frameBufferSize
  overrun : network.tftp.overrun = start.overrun

/-- What holds in every state. A client waits, with its five seconds not over, or it has
left its loop. -/
def Holds (network : Network Flash) : Prop :=
  match network.exit with
  | none => network.timedOut = false ∧ Waiting platform start server network.wire network.tftp
  | some exit => Ended platform start server network.timedOut exit network.tftp

end definitions

/-! ## One turn of the loop -/

/-- The client with a datagram of the server before it, and the server's port in its record. -/
def adopted (server : Server) (datagram : List Byte) (flag : Bool) (tftp : Tftp Flash) :
    Tftp Flash :=
  { tftpRecvCallback datagram server.port tftp with
    serverPort := server.port
    changeFlag := flag }

/-- The loop body behind the check of the port that it accepted. -/
theorem tftpProcess_adopted (platform : Platform Flash) (tftp checked : Tftp Flash)
    (port : checked.recvPort = checked.serverPort)
    (accepted : tftpCheckTid tftp = (checked, true)) :
    tftpProcess platform tftp = tftpProcess platform checked := by
  simp only [tftpProcess, accepted, tftpCheckTid_same checked port]

/-- A block that the client has already is acknowledged again. -/
theorem tftpProcess_old (platform : Platform Flash) (tftp : Tftp Flash)
    (port : tftp.recvPort = tftp.serverPort) (long : 4 ≤ tftp.recvLen)
    (proto : wordAt tftp.frameBuffer 0 = TftpOpcode.data.code)
    (number : wordAt tftp.frameBuffer 2 ≠ 0) (old : wordAt tftp.frameBuffer 2 ≤ tftp.prevBlock) :
    tftpProcess platform tftp =
      (tftpSendAckPacket (wordAt tftp.frameBuffer 2)
        { tftp with curBlock := wordAt tftp.frameBuffer 2 }, .again) := by
  have header : ¬ tftp.recvLen < 2 := by omega
  have rest : ¬ tftp.recvLen - 2 < 2 := by omega
  have known : ¬ (wordAt tftp.frameBuffer 2 = 0 ∨
      wordAt tftp.frameBuffer 2 > tftp.prevBlock + 1) := by omega
  simp only [tftpProcess, tftpCheckTid_same tftp port, header, if_false, proto, if_true,
    tftpDataCase, rest, known, old]

/-- The `TFTP_DATA` case goes on without a block only for one that the client has. -/
theorem tftpDataCase_again (platform : Platform Flash) (len : Nat) (tftp : Tftp Flash)
    (again : (tftpDataCase platform len tftp).2 = .again) :
    wordAt tftp.frameBuffer 2 ≠ 0 ∧ wordAt tftp.frameBuffer 2 ≤ tftp.prevBlock := by
  simp only [tftpDataCase] at again
  split at again
  case isTrue short => cases again
  case isFalse =>
    split at again
    case isTrue wrong => cases again
    case isFalse known =>
      split at again
      case isTrue old => exact ⟨fun zero => known (Or.inl zero), old⟩
      case isFalse new =>
        split at again
        case isTrue sized => split at again <;> cases again
        case isFalse => cases again

/-- A block behind the last one that may not be stored ends the run. -/
theorem tftpProcess_unfit (platform : Platform Flash) (tftp : Tftp Flash)
    (port : tftp.recvPort = tftp.serverPort)
    (proto : wordAt tftp.frameBuffer 0 = TftpOpcode.data.code)
    (newer : wordAt tftp.frameBuffer 2 = 0 ∨ wordAt tftp.frameBuffer 2 = tftp.prevBlock + 1)
    (unfit : ¬ BringsBlock platform tftp) :
    ∃ after, tftpProcess platform tftp = (after, .leave .failed) := by
  have notStored : ¬ ∃ len, (tftpProcess platform tftp).2 = .store len := by
    rw [stores_iff]
    exact fun stores => unfit stores.2
  have outcome := processed platform tftp
  cases body : tftpProcess platform tftp with
  | mk after verdict =>
    rw [body] at outcome notStored
    cases outcome with
    | store _ len _ => exact absurd ⟨len, rfl⟩ notStored
    | leave _ _ => exact ⟨after, rfl⟩
    | again _ _ =>
      exfalso
      simp only [tftpProcess, tftpCheckTid_same tftp port, proto, if_true] at body
      split at body
      · cases (Prod.mk.inj body).2
      · have known := tftpDataCase_again platform (tftp.recvLen - 2) tftp (by rw [body])
        omega

/-! ## What a datagram does to a client that waits -/

section delivery
variable {platform : Platform Flash} {start tftp : Tftp Flash} {server : Server}
variable {wire : List (List Byte)} {k : Nat} {flag : Bool}

/-- An acknowledgement is added to the packets sent. -/
theorem ack_sent (block : Nat) (tftp : Tftp Flash) :
    (tftpSendAckPacket block tftp).sent =
      tftp.sent ++ [⟨ackPacket block, tftp.serverIp, tftp.serverPort⟩] := by
  simp [tftpSendAckPacket, tftpSendto, ackPacket, overwrite, networkWord]

/-- A datagram of the server brings no block before it is processed. -/
theorem adopted_quiet (server : Server) (datagram : List Byte) (flag : Bool) (tftp : Tftp Flash) :
    Quiet tftp (adopted server datagram flag tftp) :=
  ⟨⟨rfl, rfl, rfl, rfl, rfl⟩, rfl, rfl⟩

/-- A datagram before the client leaves the transfer as it is. -/
theorem Waiting.received (waiting : Waiting platform start server wire tftp)
    (datagram : List Byte) (flag : Bool) :
    Transferring platform start (adopted server datagram flag tftp) :=
  waiting.transferring.quiet (adopted_quiet server datagram flag tftp)

/-- The client takes the server's port, or has it. -/
theorem Waiting.adopts (waiting : Waiting platform start server wire tftp)
    (datagram : List Byte) :
    ∃ flag, tftpLoopBody platform (tftpRecvCallback datagram server.port tftp) =
      tftpLoopBody platform (adopted server datagram flag tftp) := by
  suffices check : ∃ flag, tftpCheckTid (tftpRecvCallback datagram server.port tftp) =
      (adopted server datagram flag tftp, true) by
    obtain ⟨flag, accepted⟩ := check
    exact ⟨flag, by simp only [tftpLoopBody, tftpProcess_adopted platform _ _ rfl accepted]⟩
  rcases waiting.port with same | ⟨_, unchanged⟩
  · refine ⟨tftp.changeFlag, ?_⟩
    rw [tftpCheckTid_same _ same.symm]
    simp only [adopted, ← same, tftpRecvCallback]
  · by_cases same : server.port = tftp.serverPort
    · refine ⟨tftp.changeFlag, ?_⟩
      rw [tftpCheckTid_same _ same]
      simp only [adopted, same, tftpRecvCallback]
    · refine ⟨true, ?_⟩
      unfold tftpCheckTid
      rw [if_neg (show ¬ (tftpRecvCallback datagram server.port tftp).recvPort =
        (tftpRecvCallback datagram server.port tftp).serverPort from same)]
      simp only [tftpRecvCallback, unchanged, Bool.false_eq_true, if_false, adopted]

/-- A turn that brings no block and acknowledges one that the client has. -/
theorem Waiting.repeats (waiting : Waiting platform start server wire tftp) {after : Tftp Flash}
    (quiet : Quiet tftp after) (port : after.serverPort = server.port) {number : Nat} {ip : IpAddr}
    (known : number ≤ tftp.prevBlock)
    (sent : after.sent = tftp.sent ++ [⟨ackPacket number, ip, server.port⟩]) :
    Waiting platform start server wire after where
  transferring := waiting.transferring.quiet quiet
  stored := by
    rw [quiet.stored, quiet.prevBlock]
    exact waiting.stored
  inside := quiet.prevBlock ▸ waiting.inside
  port := Or.inl port
  sent := by
    intro packet member
    rw [sent, List.mem_append, List.mem_singleton] at member
    rw [quiet.prevBlock]
    rcases member with earlier | rfl
    · exact waiting.sent packet earlier
    · exact Or.inr ⟨number, known, rfl⟩
  asks := by
    unfold Asks
    rw [quiet.prevBlock, sent]
    rcases waiting.asks with ⟨other, member⟩ | ⟨first, other, member⟩
    · exact Or.inl ⟨other, List.mem_append_left _ member⟩
    · exact Or.inr ⟨first, other, List.mem_append_left _ member⟩
  wire := quiet.prevBlock ▸ waiting.wire

/-- The options are acknowledged with block zero. -/
theorem oack_body (platform : Platform Flash) (server : Server) (flag : Bool) (tftp : Tftp Flash) :
    tftpLoopBody platform (adopted server (oackPacket server) flag tftp) =
      (tftpSendAckPacket 0 (adopted server (oackPacket server) flag tftp), none) := by
  have long : 2 ≤ (adopted server (oackPacket server) flag tftp).recvLen := by
    simp [adopted, tftpRecvCallback, oackPacket, networkWord]
  have proto : wordAt (adopted server (oackPacket server) flag tftp).frameBuffer 0 =
      TftpOpcode.oack.code := wordAt_first _ _ _ (by decide)
  have check := tftpCheckTid_same (adopted server (oackPacket server) flag tftp) rfl
  rw [tftpLoopBody, tftpProcess_oack platform _ _ check long proto]

/-- What stands in the frame buffer when a block has come. -/
theorem adopted_block (server : Server) (number : Nat) (payload : List Byte) (flag : Bool)
    (tftp : Tftp Flash) :
    wordAt (adopted server (dataPacket number payload) flag tftp).frameBuffer 0 =
        TftpOpcode.data.code ∧
      wordAt (adopted server (dataPacket number payload) flag tftp).frameBuffer 2 =
        number % 65536 ∧
      (adopted server (dataPacket number payload) flag tftp).recvLen = payload.length + 4 := by
  refine ⟨wordAt_first _ (networkWord number ++ payload) _ (by decide), ?_, ?_⟩
  · simp [adopted, tftpRecvCallback, dataPacket, wordAt, overwrite, networkWord]
    omega
  · simp [adopted, tftpRecvCallback, dataPacket, networkWord]

/-- A datagram stands whole in the model's frame buffer. -/
theorem adopted_held (server : Server) (datagram : List Byte) (flag : Bool) (tftp : Tftp Flash) :
    (adopted server datagram flag tftp).recvLen ≤
      (adopted server datagram flag tftp).frameBuffer.length :=
  overwrite_length_le tftp.frameBuffer datagram

/-- A client that waits has at most as many blocks as a number counts. -/
theorem Waiting.numbered (waiting : Waiting platform start server wire tftp) :
    tftp.prevBlock ≤ 65535 := by
  rw [waiting.transferring.prevBlock]
  exact waiting.transferring.blocks

/-- A block that the client has already. -/
theorem Waiting.old_body (waiting : Waiting platform start server wire tftp)
    (old : k + 1 ≤ tftp.prevBlock) (payload : List Byte) :
    tftpLoopBody platform (adopted server (dataPacket (k + 1) payload) flag tftp) =
      (tftpSendAckPacket (k + 1)
        { adopted server (dataPacket (k + 1) payload) flag tftp with curBlock := k + 1 },
        none) := by
  obtain ⟨proto, number, long⟩ := adopted_block server (k + 1) payload flag tftp
  have numbered := waiting.numbered
  rw [Nat.mod_eq_of_lt (by omega)] at number
  have body := tftpProcess_old platform (adopted server (dataPacket (k + 1) payload) flag tftp) rfl
    (by omega) proto (by omega) (number.le.trans old)
  rw [tftpLoopBody, body, number]

/-- What the client has counted and stored before the next block. -/
theorem Waiting.counted (waiting : Waiting platform start server wire tftp) :
    storedImage tftp = server.image.take (tftpBlockSize * tftp.prevBlock) ∧
      tftp.fileLen = tftpBlockSize * tftp.prevBlock := by
  have image : storedImage tftp = server.image.take (tftpBlockSize * tftp.prevBlock) := by
    rw [storedImage, waiting.stored, file_filePages]
  refine ⟨image, ?_⟩
  rw [waiting.transferring.fileLen, image, List.length_take, Nat.min_eq_left waiting.inside]

/-- The datagram that carries the next block. -/
def nextBlock (server : Server) (tftp : Tftp Flash) : List Byte :=
  dataPacket (tftp.prevBlock + 1) (fileBlock server.image tftp.prevBlock)

/-- The next block of an acceptable file passes the checks on the way to flash. -/
theorem Waiting.brings (waiting : Waiting platform start server wire tftp)
    (acceptable : Acceptable platform server.image) :
    BringsBlock platform (adopted server (nextBlock server tftp) flag tftp) := by
  obtain ⟨proto, number, long⟩ := adopted_block server (tftp.prevBlock + 1)
    (fileBlock server.image tftp.prevBlock) flag tftp
  obtain ⟨_, fileLen⟩ := waiting.counted
  have size := fileBlock_length server.image tftp.prevBlock
  have within := blockCount_covers server.image _ waiting.inside
  have fits := acceptable.fits
  have numbered := acceptable.numbered
  have short := acceptable.short
  have inside := waiting.inside
  rw [Nat.mod_eq_of_lt (by omega)] at number
  have positive : 0 < (fileBlock server.image tftp.prevBlock).length := by
    simp only [tftpBlockSize] at *
    omega
  refine ⟨⟨proto, number⟩, ?_, ?_, ?_⟩
  · rw [nextBlock, long]
    omega
  · rw [nextBlock, long]
    omega
  · refine Nat.le_trans (Nat.mod_le _ _) ?_
    rw [nextBlock, long]
    change tftp.fileLen + _ ≤ _
    omega

/-- The next block is stored when it passes the checks. -/
theorem next_stores
    (brings : BringsBlock platform (adopted server (nextBlock server tftp) flag tftp)) :
    ∃ between, tftpProcess platform (adopted server (nextBlock server tftp) flag tftp) =
        (between, .store (fileBlock server.image tftp.prevBlock).length) ∧
      Stores platform (fileBlock server.image tftp.prevBlock).length
        (adopted server (nextBlock server tftp) flag tftp) between ∧
      between.serverPort = server.port ∧ between.sent = tftp.sent := by
  obtain ⟨_, _, long⟩ := adopted_block server (tftp.prevBlock + 1)
    (fileBlock server.image tftp.prevBlock) flag tftp
  obtain ⟨⟨proto, number⟩, positive, inside, fits⟩ := brings
  rw [nextBlock, long] at positive inside
  have payload : (adopted server (nextBlock server tftp) flag tftp).recvLen - 4 =
      (fileBlock server.image tftp.prevBlock).length := by
    rw [nextBlock, long, Nat.add_sub_cancel]
  rw [payload] at fits
  have body := tftpProcess_next platform (adopted server (nextBlock server tftp) flag tftp)
    (fileBlock server.image tftp.prevBlock).length rfl long proto number (by omega) (by omega) fits
  have outcome := processed platform (adopted server (nextBlock server tftp) flag tftp)
  rw [body] at outcome
  cases outcome with
  | store _ _ stores => exact ⟨_, body, stores, rfl, rfl⟩

/-- The page of a block, in front of what the frame buffer held. -/
theorem adopted_page (server : Server) (flag : Bool) (tftp : Tftp Flash) :
    framePage (adopted server (nextBlock server tftp) flag tftp)
        (fileBlock server.image tftp.prevBlock).length =
      ⟨fileBlock server.image tftp.prevBlock ++ ((tftp.frameBuffer.drop 4).take tftpBlockSize).drop
        (fileBlock server.image tftp.prevBlock).length,
        (fileBlock server.image tftp.prevBlock).length⟩ := by
  have inside : (fileBlock server.image tftp.prevBlock).length ≤ tftpBlockSize := by
    rw [fileBlock_length]
    exact Nat.min_le_left _ _
  rw [framePage, adopted, tftpRecvCallback, nextBlock, overwrite_page _ _ _ inside]

/-- A full block is stored and acknowledged, and the client waits for the next one. -/
theorem Waiting.full_body (waiting : Waiting platform start server wire tftp)
    (brings : BringsBlock platform (adopted server (nextBlock server tftp) flag tftp))
    (inside : tftpBlockSize * (tftp.prevBlock + 1) ≤ server.image.length) :
    ∃ after, tftpLoopBody platform (adopted server (nextBlock server tftp) flag tftp) =
        (after, none) ∧
      Waiting platform start server wire after ∧ after.prevBlock = tftp.prevBlock + 1 ∧
      ∃ ip, ⟨ackPacket after.prevBlock, ip, server.port⟩ ∈ after.sent := by
  obtain ⟨between, body, stores, port, sent⟩ := next_stores brings
  have full : (fileBlock server.image tftp.prevBlock).length = tftpBlockSize := by
    rw [Nat.mul_succ] at inside
    rw [fileBlock_length]
    omega
  have loop : tftpLoopBody platform (adopted server (nextBlock server tftp) flag tftp) =
      (tftpSendAckPacket between.curBlock between, none) := by
    simp only [tftpLoopBody, body, tftpAcknowledge, full, Nat.lt_irrefl, if_false]
  have counted : (tftpSendAckPacket between.curBlock between).prevBlock = tftp.prevBlock + 1 :=
    stores.prevBlock
  have spoken : (tftpSendAckPacket between.curBlock between).sent =
      tftp.sent ++ [⟨ackPacket (tftp.prevBlock + 1), between.serverIp, server.port⟩] := by
    rw [ack_sent, sent, stores.curBlock, port]
    rfl
  have page : framePage (adopted server (nextBlock server tftp) flag tftp)
      (fileBlock server.image tftp.prevBlock).length = filePage server.image tftp.prevBlock := by
    rw [adopted_page, filePage_full _ _ full, full,
      List.drop_eq_nil_of_le (List.length_take_le _ _), List.append_nil]
  refine ⟨_, loop, ?_, counted, between.serverIp, ?_⟩
  · constructor
    case transferring =>
      have received := waiting.received (nextBlock server tftp) flag
      rcases received.loopBody (adopted_held _ _ _ _) with
        ⟨after, same, transferring⟩ | ⟨after, exit, other, _⟩
      · rw [loop] at same
        obtain rfl := (Prod.mk.inj same).1
        exact transferring
      · rw [loop] at other
        cases (Prod.mk.inj other).2
    case stored =>
      rw [counted, List.range_succ, List.map_append, List.map_singleton, ← waiting.stored, ← page]
      exact stores.stored
    case inside =>
      rw [counted]
      exact inside
    case port => exact Or.inl port
    case sent =>
      intro packet member
      rw [spoken, List.mem_append, List.mem_singleton] at member
      rw [counted]
      rcases member with earlier | rfl
      · rcases waiting.sent packet earlier with request | ⟨k, known, same⟩
        · exact Or.inl request
        · exact Or.inr ⟨k, Nat.le_succ_of_le known, same⟩
      · exact Or.inr ⟨_, Nat.le_refl _, rfl⟩
    case asks =>
      refine Or.inl ⟨between.serverIp, ?_⟩
      rw [counted, spoken]
      exact List.mem_append_right _ List.mem_cons_self
    case wire =>
      intro datagram member
      rw [counted]
      rcases waiting.wire datagram member with options | ⟨k, known, block⟩
      · exact Or.inl options
      · exact Or.inr ⟨k, Nat.le_succ_of_le known, block⟩
  · rw [counted, spoken]
    exact List.mem_append_right _ List.mem_cons_self

/-! ### The last block -/

/-- The checksum step reads the head of a page only behind a checksum of zero. -/
theorem absorb_restart (size modulus : Nat) (state : List Byte × Nat) (page other : Page)
    (head : state.2 = 0 → page.bytes.take size = other.bytes.take size)
    (payload : page.payload = other.payload) :
    absorb size modulus state page = absorb size modulus state other := by
  unfold absorb
  split
  · rename_i zero
    rw [head zero, payload]
  · rw [payload]

/-- The sum behind some pages is that of the pages since its last restart. -/
theorem digest_sum (size modulus : Nat) (head : List Byte) (pages : List Page)
    (full : FullBeforeLast size pages) :
    (digest size modulus head pages).2 = tailSum size modulus (current size modulus pages) := by
  cases pages with
  | nil => simp [digest, current, tailSum, file]
  | cons page rest => rw [digest_current head (page :: rest) (List.cons_ne_nil _ _) full]

/-- The pages of a file: those in front of the last, and the last. -/
theorem filePages_last (image : List Byte) :
    filePages image = (List.range (image.length / tftpBlockSize)).map (filePage image) ++
      [filePage image (image.length / tftpBlockSize)] := by
  rw [filePages, blockCount, List.range_succ, List.map_append, List.map_singleton]

/-- Head and checksum behind the last block are those of the file, whatever stands behind the
block in the frame buffer, when a restart finds its head. -/
theorem digest_last (layout : FileheadLayout) (head image behind : List Byte)
    (whole : LastHeadWhole layout image) :
    digest layout.size u32Modulus head
        ((List.range (image.length / tftpBlockSize)).map (filePage image) ++
          [⟨fileBlock image (image.length / tftpBlockSize) ++ behind,
            (fileBlock image (image.length / tftpBlockSize)).length⟩]) =
      digest layout.size u32Modulus head (filePages image) := by
  have room : FullBeforeLast layout.size
      ((List.range (image.length / tftpBlockSize)).map (filePage image)) := by
    have all := filePages_full image layout.size layout.size_le
    rw [filePages_last, FullBeforeLast, List.dropLast_concat] at all
    exact fun page member => all page (List.dropLast_subset _ member)
  rw [filePages_last, digest_snoc, digest_snoc]
  refine absorb_restart _ _ _ _ _ ?_ ?_
  · intro zero
    rw [digest_sum _ _ _ _ room] at zero
    rw [filePage, List.take_append_of_le_length (whole zero),
      List.take_append_of_le_length (whole zero)]
  · rw [filePage_payload, Page.payload, List.take_left']
    rfl

/-- A shorter last block is stored, and the head checks decide the exit. -/
theorem Waiting.last_body (waiting : Waiting platform start server wire tftp)
    (brings : BringsBlock platform (adopted server (nextBlock server tftp) flag tftp))
    (last : server.image.length < tftpBlockSize * (tftp.prevBlock + 1)) (timedOut : Bool) :
    ∃ after exit, tftpLoopBody platform (adopted server (nextBlock server tftp) flag tftp) =
        (after, some exit) ∧ Ended platform start server timedOut exit after := by
  obtain ⟨between, body, stores, port, sent⟩ := next_stores brings
  have received := waiting.received (nextBlock server tftp) flag
  have grown := received.stores stores (adopted_held _ _ _ _)
  obtain ⟨_, fileLen⟩ := waiting.counted
  have size := fileBlock_length server.image tftp.prevBlock
  have positive := stores.positive
  have numbered := wordAt_le (adopted server (nextBlock server tftp) flag tftp).frameBuffer 2
  rw [stores.next] at numbered
  have numbered : tftp.prevBlock + 1 ≤ 65535 := numbered
  have place : server.image.length / tftpBlockSize = tftp.prevBlock ∧
      server.image.length % tftpBlockSize ≠ 0 := by
    rw [Nat.mul_succ] at last
    simp only [tftpBlockSize] at *
    omega
  obtain ⟨blocks, short⟩ := place
  have lengths : tftp.fileLen + (fileBlock server.image tftp.prevBlock).length =
      server.image.length := by
    rw [Nat.mul_succ] at last
    omega
  have fits : server.image.length ≤ platform.updateFlashMemorySize := by
    have bound := stores.fits
    change (tftp.fileLen + _) % u32Modulus ≤ _ at bound
    rw [lengths, Nat.mod_eq_of_lt (by
      rw [Nat.mul_succ] at last
      simp only [tftpBlockSize, u32Modulus] at *
      omega)] at bound
    exact bound
  have storedPages : between.stored =
      (List.range (server.image.length / tftpBlockSize)).map (filePage server.image) ++
        [⟨fileBlock server.image (server.image.length / tftpBlockSize) ++
          ((tftp.frameBuffer.drop 4).take tftpBlockSize).drop
            (fileBlock server.image (server.image.length / tftpBlockSize)).length,
          (fileBlock server.image (server.image.length / tftpBlockSize)).length⟩] := by
    rw [blocks, ← adopted_page server flag tftp, ← waiting.stored]
    exact stores.stored
  have sameFile : storedImage between = server.image := by
    rw [storedImage, storedPages, file_snoc, Page.payload, List.take_left' rfl,
      ← filePage_payload, ← file_snoc, ← filePages_last, filePages, file_filePages,
      List.take_of_length_le]
    rw [blockCount, blocks]
    exact Nat.le_of_lt last
  have accepted (whole : LastHeadWhole platform.head server.image) :
      headAccepted platform.head between.updateFilehead between.checkSum = true ↔
        RestartAccepted platform.head server.image := by
    have same := grown.digest
    rw [storedPages, digest_last _ _ _ _ whole] at same
    rw [← digest_filePages platform.head start.updateFilehead server.image, ← same]
  have ending := acknowledged platform (fileBlock server.image tftp.prevBlock).length between
  have shortBlock : (fileBlock server.image tftp.prevBlock).length < tftpBlockSize := by
    rw [Nat.mul_succ] at last
    omega
  simp only [tftpLoopBody, body]
  generalize (fileBlock server.image tftp.prevBlock).length = len at *
  cases finishing : tftpAcknowledge platform len between with
  | mk final exit =>
    rw [finishing] at ending
    cases ending with
    | more _ _ full => omega
    | refused _ quiet _ bad =>
      refine ⟨final, .failed, rfl, ?_, by simp, fun _ => ⟨?_, ?_⟩, fun _ whole => ⟨by simp, ?_⟩⟩
      · rw [storedImage, quiet.stored]
        exact sameFile ▸ List.prefix_rfl
      · exact (quiet.updateCfg.trans stores.updateCfg).trans received.updateCfg
      · exact (quiet.cfgWrites.trans stores.cfgWrites).trans received.cfgWrites
      · intro acceptable
        rw [(accepted whole).mpr acceptable.accepted] at bad
        cases bad
    | committed _ _ good sameStored _ cfg writes =>
      have image : storedImage final = server.image := by
        rw [storedImage, sameStored]
        exact sameFile
      refine ⟨final, .succeeded, rfl, image ▸ List.prefix_rfl, fun _ => ⟨image, ?_, ?_⟩, ?_, ?_⟩
      · rw [cfg, committedCfg, grown.fileLen, sameFile]
      · rw [writes, cfg, stores.cfgWrites]
        exact congrArg (· ++ _) received.cfgWrites
      · exact fun other => absurd rfl other
      · intro _ whole
        refine ⟨fun _ => ⟨fits, ?_, short, (accepted whole).mp good⟩, fun _ => rfl⟩
        rw [blockCount, blocks]
        exact numbered

/-- A next block that fails a check ends the run; its file was not acceptable. -/
theorem Waiting.unfit_body (waiting : Waiting platform start server wire tftp)
    (unfit : ¬ BringsBlock platform (adopted server (nextBlock server tftp) flag tftp))
    (timedOut : Bool) :
    ∃ after, tftpLoopBody platform (adopted server (nextBlock server tftp) flag tftp) =
        (after, some .failed) ∧ Ended platform start server timedOut .failed after := by
  obtain ⟨proto, number, long⟩ := adopted_block server (tftp.prevBlock + 1)
    (fileBlock server.image tftp.prevBlock) flag tftp
  have numbered := waiting.numbered
  have newer : wordAt (adopted server (nextBlock server tftp) flag tftp).frameBuffer 2 = 0 ∨
      wordAt (adopted server (nextBlock server tftp) flag tftp).frameBuffer 2 =
        (adopted server (nextBlock server tftp) flag tftp).prevBlock + 1 := by
    rw [nextBlock, number]
    change _ ∨ _ = tftp.prevBlock + 1
    omega
  obtain ⟨after, body⟩ := tftpProcess_unfit platform
    (adopted server (nextBlock server tftp) flag tftp) rfl proto newer unfit
  have received := waiting.received (nextBlock server tftp) flag
  have outcome := processed platform (adopted server (nextBlock server tftp) flag tftp)
  rw [body] at outcome
  cases outcome with
  | leave _ same =>
    refine ⟨after, by simp only [tftpLoopBody, body], ?_, by simp, fun _ => ⟨?_, ?_⟩,
      fun _ _ => ⟨by simp, ?_⟩⟩
    · rw [storedImage, same.stored]
      change storedImage tftp <+: _
      rw [waiting.counted.1]
      exact List.take_prefix _ _
    · exact same.updateCfg.trans received.updateCfg
    · exact same.cfgWrites.trans received.cfgWrites
    · exact fun acceptable => absurd (waiting.brings acceptable) unfit

/-- The next block: it is stored and the client waits for another one, or it ends the run. -/
theorem Waiting.next_block (waiting : Waiting platform start server wire tftp) (timedOut : Bool) :
    (∃ after, tftpLoopBody platform (tftpRecvCallback (nextBlock server tftp) server.port tftp) =
        (after, none) ∧ Waiting platform start server wire after ∧
      after.prevBlock = tftp.prevBlock + 1 ∧
      ∃ ip, ⟨ackPacket after.prevBlock, ip, server.port⟩ ∈ after.sent) ∨
    ∃ after exit,
      tftpLoopBody platform (tftpRecvCallback (nextBlock server tftp) server.port tftp) =
        (after, some exit) ∧ Ended platform start server timedOut exit after := by
  obtain ⟨flag, same⟩ := waiting.adopts (nextBlock server tftp)
  rw [same]
  by_cases brings : BringsBlock platform (adopted server (nextBlock server tftp) flag tftp)
  · rcases Nat.lt_or_ge server.image.length (tftpBlockSize * (tftp.prevBlock + 1)) with last | full
    · exact Or.inr (waiting.last_body brings last timedOut)
    · exact Or.inl (waiting.full_body brings full)
  · obtain ⟨after, body, ended⟩ := waiting.unfit_body brings timedOut
    exact Or.inr ⟨after, .failed, body, ended⟩

/-- The option acknowledgement: the client asks for the first block. -/
theorem Waiting.options (waiting : Waiting platform start server wire tftp) :
    ∃ after, tftpLoopBody platform (tftpRecvCallback (oackPacket server) server.port tftp) =
        (after, none) ∧ Waiting platform start server wire after ∧
      after.prevBlock = tftp.prevBlock ∧ ∃ ip, ⟨ackPacket 0, ip, server.port⟩ ∈ after.sent := by
  obtain ⟨flag, same⟩ := waiting.adopts (oackPacket server)
  have quiet : Quiet tftp (tftpSendAckPacket 0 (adopted server (oackPacket server) flag tftp)) :=
    ⟨⟨rfl, rfl, rfl, rfl, rfl⟩, rfl, rfl⟩
  have sent := ack_sent 0 (adopted server (oackPacket server) flag tftp)
  refine ⟨_, same.trans (oack_body platform server flag tftp),
    waiting.repeats quiet rfl (Nat.zero_le _) sent, rfl, tftp.serverIp, ?_⟩
  rw [sent]
  exact List.mem_append_right _ List.mem_cons_self

/-- A block that the client has: it is acknowledged again. -/
theorem Waiting.old_block (waiting : Waiting platform start server wire tftp)
    (old : k + 1 ≤ tftp.prevBlock) (payload : List Byte) :
    ∃ after, tftpLoopBody platform
        (tftpRecvCallback (dataPacket (k + 1) payload) server.port tftp) = (after, none) ∧
      Waiting platform start server wire after := by
  obtain ⟨flag, same⟩ := waiting.adopts (dataPacket (k + 1) payload)
  have quiet : Quiet tftp (tftpSendAckPacket (k + 1)
      { adopted server (dataPacket (k + 1) payload) flag tftp with curBlock := k + 1 }) :=
    ⟨⟨rfl, rfl, rfl, rfl, rfl⟩, rfl, rfl⟩
  exact ⟨_, same.trans (waiting.old_body old payload), waiting.repeats quiet rfl old (ack_sent _ _)⟩

/-- What the server answers to a packet of the client. -/
theorem Waiting.answered (waiting : Waiting platform start server wire tftp) {packet : Packet}
    (member : packet ∈ tftp.sent) {datagram : List Byte}
    (reply : serverReply server (readfileRequest start.updateFilename) packet = some datagram) :
    Waiting platform start server (wire ++ [datagram]) tftp := by
  refine ⟨waiting.transferring, waiting.stored, waiting.inside, waiting.port, waiting.sent,
    waiting.asks, ?_⟩
  intro other there
  rw [List.mem_append, List.mem_singleton] at there
  rcases there with earlier | rfl
  · exact waiting.wire other earlier
  · unfold serverReply at reply
    split at reply
    · exact Or.inl (Option.some.inj reply).symm
    · split at reply
      · rename_i notRequest ack
        rcases waiting.sent packet member with request | ⟨k, known, bytes⟩
        · have opcode : wordAt packet.bytes 0 = TftpOpcode.rrq.code := by
            rw [request]
            simp [wordAt, readfileRequest, networkWord, TftpOpcode.code]
          rw [ack.1] at opcode
          cases opcode
        · have numbered := waiting.numbered
          have number : wordAt packet.bytes 2 = k := by
            rw [bytes]
            simp [ackPacket, wordAt, networkWord]
            omega
          rw [number] at ack reply
          exact Or.inr ⟨k, known, ack.2.2, (Option.some.inj reply).symm⟩
      · cases reply

end delivery

/-! ## What a run preserves -/

section runs
variable {platform : Platform Flash} {start : Tftp Flash} {server : Server}
variable {network next : Network Flash}

/-- A datagram comes to a client that waits. -/
theorem Waiting.deliver {wire : List (List Byte)} {tftp : Tftp Flash}
    (waiting : Waiting platform start server wire tftp) {datagram : List Byte}
    (member : datagram ∈ wire) (timedOut : Bool) :
    (∃ after, tftpLoopBody platform (tftpRecvCallback datagram server.port tftp) = (after, none) ∧
      Waiting platform start server wire after) ∨
    ∃ after exit, tftpLoopBody platform (tftpRecvCallback datagram server.port tftp) =
      (after, some exit) ∧ Ended platform start server timedOut exit after := by
  rcases waiting.wire datagram member with rfl | ⟨k, known, _, rfl⟩
  · obtain ⟨after, body, still, _⟩ := waiting.options
    exact Or.inl ⟨after, body, still⟩
  · rcases Nat.lt_or_eq_of_le known with old | rfl
    · exact Or.inl (waiting.old_block old _)
    · rcases waiting.next_block timedOut with ⟨after, body, still, _⟩ | ended
      · exact Or.inl ⟨after, body, still⟩
      · exact Or.inr ended

/-- The client gives up. -/
theorem Waiting.timeout {wire : List (List Byte)} {tftp : Tftp Flash}
    (waiting : Waiting platform start server wire tftp) :
    Ended platform start server true .failed tftp where
  stored := by
    rw [waiting.counted.1]
    exact List.take_prefix _ _
  succeeded := by simp
  untouched := fun _ => ⟨waiting.transferring.updateCfg, waiting.transferring.cfgWrites⟩
  judged := by simp

/-- One event keeps what holds. -/
theorem Holds.event (holds : Holds platform start server network) {event : Event}
    (taken : step platform start server network event = some next) :
    Holds platform start server next := by
  obtain ⟨tftp, exit, wire, timedOut⟩ := network
  cases event with
  | answer position =>
    obtain ⟨packet, there, further⟩ := Option.bind_eq_some_iff.mp taken
    obtain ⟨datagram, reply, rfl⟩ := Option.map_eq_some_iff.mp further
    cases exit with
    | some exit => exact holds
    | none =>
      obtain ⟨patient, waiting⟩ := holds
      exact ⟨patient, waiting.answered (List.mem_of_getElem? there) reply⟩
  | deliver position =>
    cases exit with
    | some exit => cases taken
    | none =>
      obtain ⟨patient, waiting⟩ := holds
      obtain ⟨datagram, there, rfl⟩ := Option.map_eq_some_iff.mp taken
      rcases waiting.deliver (List.mem_of_getElem? there) timedOut with
        ⟨after, body, still⟩ | ⟨after, exit, body, ended⟩
      · simp only [Holds, body]
        exact ⟨patient, still⟩
      · simp only [Holds, body]
        exact ended
  | timeout =>
    cases exit with
    | some exit => cases taken
    | none =>
      obtain ⟨_, waiting⟩ := holds
      obtain rfl := Option.some.inj taken
      exact waiting.timeout

/-- One event stays inside the frame buffer. The server sends nothing longer, and only the
callback writes what the network brings. -/
theorem Inside.event (inside : Inside start network) {event : Event}
    (taken : step platform start server network event = some next) : Inside start next := by
  obtain ⟨tftp, exit, wire, timedOut⟩ := network
  cases event with
  | answer position =>
    obtain ⟨packet, _, further⟩ := Option.bind_eq_some_iff.mp taken
    obtain ⟨datagram, reply, rfl⟩ := Option.map_eq_some_iff.mp further
    refine ⟨?_, inside.overrun⟩
    intro other member
    rw [List.mem_append, List.mem_singleton] at member
    rcases member with earlier | rfl
    · exact inside.wire other earlier
    · exact serverReply_fits reply
  | deliver position =>
    cases exit with
    | some exit => cases taken
    | none =>
      obtain ⟨datagram, there, rfl⟩ := Option.map_eq_some_iff.mp taken
      have short := inside.wire datagram (List.mem_of_getElem? there)
      have before : tftp.overrun = start.overrun := inside.overrun
      refine ⟨inside.wire, ?_⟩
      simp only [tftpLoopBody_overrun, tftpRecvCallback, before,
        decide_eq_false (Nat.not_lt.mpr short), Bool.or_false]
  | timeout =>
    cases exit with
    | some exit => cases taken
    | none =>
      obtain rfl := Option.some.inj taken
      exact ⟨inside.wire, inside.overrun⟩

/-- The client behind its request waits. -/
theorem asked_holds (platform : Platform Flash) (start : Tftp Flash) (server : Server) :
    Holds platform start server (asked platform start) := by
  have sent : (asked platform start).tftp.sent =
      [⟨readfileRequest start.updateFilename, start.serverIp, tftpWellknownPort⟩] := by
    simp [asked, tftpSendReadfileRequest, tftpSendto, tftpFirmwareUpdateInit, overwrite_take]
  refine ⟨rfl, started platform start start.updateFilename, rfl, Nat.zero_le _, Or.inr ⟨rfl, rfl⟩,
    ?_, Or.inr ⟨rfl, start.serverIp, ?_⟩, fun _ member => absurd member List.not_mem_nil⟩
  · intro packet member
    rw [sent] at member
    obtain rfl := List.mem_singleton.mp member
    exact Or.inl rfl
  · rw [sent]
    exact List.mem_cons_self

theorem Holds.sound (holds : Holds platform start server network) (inside : Inside start network) :
    Sound start server network := by
  have within := inside.overrun
  obtain ⟨tftp, exit, wire, timedOut⟩ := network
  cases exit with
  | none =>
    obtain ⟨_, waiting⟩ := holds
    obtain ⟨image, _⟩ := waiting.counted
    refine ⟨within, image ▸ List.take_prefix _ _, fun _ => image, by simp, fun _ => ?_⟩
    exact ⟨waiting.transferring.updateCfg, waiting.transferring.cfgWrites⟩
  | some exit =>
    have ended : Ended platform start server timedOut exit tftp := holds
    refine ⟨within, ended.stored, by simp, fun same => ended.succeeded (Option.some.inj same),
      fun other => ?_⟩
    exact ended.untouched fun same => other (congrArg some same)

theorem Holds.judged (holds : Holds platform start server network)
    (whole : LastHeadWhole platform.head server.image) : Judged platform server network := by
  obtain ⟨tftp, _, wire, timedOut⟩ := network
  rintro patient exit rfl
  have ended : Ended platform start server timedOut exit tftp := holds
  exact ended.judged patient whole

theorem Holds.run (holds : Holds platform start server network) {events : List Event}
    {final : Network Flash}
    (completed : run (step platform start server) network events = some final) :
    Holds platform start server final := by
  refine always_final (always_of_guarded (Holds platform start server) (Holds platform start server)
    (fun _ kept => kept) ?_ holds events (guarded_true _ network events)) completed
  exact fun _ _ _ kept _ taken => kept.event taken

/-- Over a network that loses, repeats and reorders: in every state of every run the client has
stored the first blocks of the server's file, as many as it has counted while it waits, it
has committed a configuration only for the whole file, and no datagram has overrun its frame
buffer. Two invariants carry the run: what client and server owe each other, and that
nothing on the way is longer than the buffer. -/
theorem update_is_sound (platform : Platform Flash) (start : Tftp Flash) (server : Server)
    (events : List Event) :
    Always (step platform start server) (Sound start server) (asked platform start) events := by
  refine always_of_guarded (fun network => Holds platform start server network ∧ Inside start network)
    (Sound start server) (fun _ kept => kept.1.sound kept.2) ?_
    ⟨asked_holds platform start server, fun _ member => absurd member List.not_mem_nil, rfl⟩ events
    (guarded_true _ _ events)
  intro _ _ _ kept _ taken
  exact ⟨kept.1.event taken, kept.2.event taken⟩

/-- Without a timeout the network has no part in the exit: in every state of every run a client
that has left its loop has succeeded exactly when the file is acceptable. `whole` cannot be
spared. Where the checksum restarts at a last block that is shorter than a head, the rest of
the head is read from what an earlier datagram left, and that depends on the order. -/
theorem exit_is_the_files (platform : Platform Flash) (start : Tftp Flash) (server : Server)
    (whole : LastHeadWhole platform.head server.image) (events : List Event) :
    Always (step platform start server) (Judged platform server) (asked platform start) events :=
  always_of_guarded (Holds platform start server) (Judged platform server)
    (fun _ holds => holds.judged whole) (fun _ _ _ holds _ taken => holds.event taken)
    (asked_holds platform start server) events (guarded_true _ _ events)

/-- A file whose first block sums up to nothing, so that the checksum restarts at the last one,
and the head that counts is the one there. -/
def restartServer : Server :=
  { sampleServer with
    image := List.replicate 12 9 ++ List.replicate 244 0 ++
      [1, 0, 0x0d, 0x80, 5, 0, 0, 0, 1, 0, 0, 0, 5] }

/-- The options come twice, the second time behind the first block, which comes twice as well.
Of the two copies of the last block one gets lost. -/
def repeatedRun : List Event :=
  [.answer 0, .answer 0, .deliver 0, .answer 1, .deliver 2, .deliver 1, .deliver 2, .answer 2,
    .answer 4, .deliver 4]

/-- The client comes to its end all the same, and succeeds. -/
theorem repeated_exit_is_the_files :
    (run (step samplePlatform sampleClient restartServer) (asked samplePlatform sampleClient)
        repeatedRun).map (fun network => network.exit) = some (some .succeeded) ∧
      Always (step samplePlatform sampleClient restartServer) (Judged samplePlatform restartServer)
        (asked samplePlatform sampleClient) repeatedRun :=
  ⟨by decide +kernel, exit_is_the_files samplePlatform sampleClient restartServer
    (by decide +kernel) repeatedRun⟩

/-- The head of its last block is read: the checksum restarts there. -/
example : tailSum 12 u32Modulus (current 12 u32Modulus [filePage restartServer.image 0]) = 0 := by
  decide +kernel

/-- A file whose last block has a third of a head. The rest of it is in the first block. -/
def thirdServer : Server :=
  { sampleServer with
    image := [9, 9, 9, 9, 0, 0, 0, 0, 1, 0, 0, 0] ++ List.replicate 244 0 ++ [1, 0, 0x0d, 0x80] }

/-- Its update succeeds in order, and fails when the options are repeated before the last
block. -/
example : ¬ LastHeadWhole samplePlatform.head thirdServer.image ∧
    [[.answer 0, .deliver 0, .answer 1, .deliver 1, .answer 2, .deliver 2],
      [.answer 0, .deliver 0, .answer 1, .deliver 1, .answer 2, .deliver 0, .deliver 2]].map
        (fun events => (run (step samplePlatform sampleClient thirdServer)
          (asked samplePlatform sampleClient) events).map fun network => network.exit) =
      [some (some .succeeded), some (some .failed)] := by
  decide +kernel

/-! ## An update can be finished -/

/-- A round: the server answers a packet, and the client reads the answer. -/
theorem round_run (platform : Platform Flash) {packet : Packet}
    (member : packet ∈ network.tftp.sent) {datagram : List Byte}
    (reply : serverReply server (readfileRequest start.updateFilename) packet = some datagram)
    (waits : network.exit = none) :
    ∃ events : List Event, events.length = 2 ∧
      run (step platform start server) network events = some { network with
        tftp := (tftpLoopBody platform (tftpRecvCallback datagram server.port network.tftp)).1
        exit := (tftpLoopBody platform (tftpRecvCallback datagram server.port network.tftp)).2
        wire := network.wire ++ [datagram] } := by
  obtain ⟨position, there⟩ := List.mem_iff_getElem?.mp member
  have answered : (network.wire ++ [datagram])[network.wire.length]? = some datagram :=
    List.getElem?_concat_length
  refine ⟨[.answer position, .deliver network.wire.length], rfl, ?_⟩
  simp only [run, step, there, Option.bind_some, reply, Option.map_some, waits, answered]

/-- A client that has acknowledged all it has comes to its end, a round for each block that is
left. -/
theorem finish_blocks (rounds : Nat) (holds : Holds platform start server network)
    (waits : network.exit = none)
    (acked : ∃ ip, ⟨ackPacket network.tftp.prevBlock, ip, server.port⟩ ∈ network.tftp.sent)
    (left : network.tftp.prevBlock + rounds = blockCount server.image) :
    ∃ more final exit, run (step platform start server) network more = some final ∧
      final.exit = some exit ∧ final.timedOut = false ∧ more.length ≤ 2 * rounds := by
  induction rounds generalizing network with
  | zero =>
    obtain ⟨tftp, _, wire, timedOut⟩ := network
    subst waits
    obtain ⟨_, waiting⟩ := holds
    have within := blockCount_covers server.image _ waiting.inside
    exact absurd left (Nat.ne_of_lt within)
  | succ rounds inductionHypothesis =>
    obtain ⟨tftp, _, wire, timedOut⟩ := network
    subst waits
    obtain ⟨patient, waiting⟩ := holds
    obtain ⟨ip, member⟩ := acked
    have reply : serverReply server (readfileRequest start.updateFilename)
        ⟨ackPacket tftp.prevBlock, ip, server.port⟩ = some (nextBlock server tftp) :=
      serverReply_ack server start.updateFilename tftp.prevBlock ip
        (blockCount_covers server.image _ waiting.inside) waiting.numbered
    have behind := waiting.answered member reply
    obtain ⟨events, two, completed⟩ := round_run platform member reply rfl
    rcases behind.next_block timedOut with ⟨after, body, still, counted, further⟩ |
      ⟨after, exit, body, _⟩
    · simp only [body] at completed
      have remaining : after.prevBlock + rounds = blockCount server.image := by
        have left : tftp.prevBlock + (rounds + 1) = blockCount server.image := left
        omega
      have kept : Holds platform start server ⟨after, none, wire ++ [_], timedOut⟩ :=
        ⟨patient, still⟩
      obtain ⟨more, final, exit, finished, ended, waited, short⟩ :=
        inductionHypothesis kept rfl further remaining
      refine ⟨events ++ more, final, exit, (run_append completed more).trans finished, ended,
        waited, ?_⟩
      rw [List.length_append]
      omega
    · simp only [body] at completed
      exact ⟨events, _, exit, completed, rfl, patient, by omega⟩

/-- From every state that a run without a timeout reaches, two more events for each block and two
for the options bring the client out of its loop, and it has succeeded exactly when the file
is acceptable. As for the exit of any run, a checksum that restarts at the last block has to
find a whole head there. -/
theorem update_can_finish (platform : Platform Flash) (start : Tftp Flash) (server : Server)
    (whole : LastHeadWhole platform.head server.image) (events : List Event)
    (network : Network Flash)
    (reached : run (step platform start server) (asked platform start) events = some network)
    (patient : network.timedOut = false) :
    ∃ more final exit, run (step platform start server) network more = some final ∧
      final.exit = some exit ∧ (exit = .succeeded ↔ Acceptable platform server.image) ∧
      more.length ≤ 2 * (blockCount server.image + 1) := by
  have holds := (asked_holds platform start server).run reached
  suffices ends : ∃ more final exit, run (step platform start server) network more = some final ∧
      final.exit = some exit ∧ final.timedOut = false ∧
      more.length ≤ 2 * (blockCount server.image + 1) by
    obtain ⟨more, final, exit, completed, ended, waited, short⟩ := ends
    have judged := (holds.run completed).judged whole
    exact ⟨more, final, exit, completed, ended, judged waited exit ended, short⟩
  obtain ⟨tftp, exit, wire, timedOut⟩ := network
  cases exit with
  | some exit => exact ⟨[], _, exit, rfl, rfl, patient, Nat.zero_le _⟩
  | none =>
    obtain ⟨_, waiting⟩ := id holds
    rcases waiting.asks with acked | ⟨first, ip, member⟩
    · have within := blockCount_covers server.image _ waiting.inside
      obtain ⟨more, final, exit, completed, ended, waited, short⟩ :=
        finish_blocks (blockCount server.image - tftp.prevBlock) holds rfl acked
          (Nat.add_sub_cancel' (Nat.le_of_lt within))
      exact ⟨more, final, exit, completed, ended, waited, by omega⟩
    · have reply : serverReply server (readfileRequest start.updateFilename)
          ⟨readfileRequest start.updateFilename, ip, tftpWellknownPort⟩ =
            some (oackPacket server) := by
        simp only [serverReply, and_self, if_true]
      obtain ⟨opening, two, opened⟩ := round_run platform member reply rfl
      obtain ⟨after, body, still, same, further⟩ := (waiting.answered member reply).options
      simp only [body] at opened
      have kept : Holds platform start server
          ⟨after, none, wire ++ [oackPacket server], timedOut⟩ := ⟨patient, still⟩
      have unread : after.prevBlock = 0 := same.trans first
      obtain ⟨more, final, exit, completed, ended, waited, short⟩ :=
        finish_blocks (blockCount server.image) kept rfl (unread.symm ▸ further)
          ((congrArg (· + _) unread).trans (Nat.zero_add _))
      refine ⟨opening ++ more, final, exit, (run_append opened more).trans completed, ended,
        waited, ?_⟩
      rw [List.length_append]
      omega

/-- The same client with one block stored, whose options and first block have come a second
time. -/
theorem repeated_can_finish :
    ∃ network more final exit, run (step samplePlatform sampleClient restartServer)
        (asked samplePlatform sampleClient) (repeatedRun.take 7) = some network ∧
      network.tftp.prevBlock = 1 ∧
      run (step samplePlatform sampleClient restartServer) network more = some final ∧
      final.exit = some exit ∧
      (exit = .succeeded ↔ Acceptable samplePlatform restartServer.image) ∧
      more.length ≤ 2 * (blockCount restartServer.image + 1) := by
  have ends : (run (step samplePlatform sampleClient restartServer)
      (asked samplePlatform sampleClient) (repeatedRun.take 7)).map (fun network =>
        (network.timedOut, network.tftp.prevBlock)) = some (false, 1) := by
    decide +kernel
  obtain ⟨network, reached, state⟩ := Option.map_eq_some_iff.mp ends
  obtain ⟨patient, counted⟩ := Prod.mk.inj state
  obtain ⟨more, final, exit, finishes⟩ := update_can_finish samplePlatform sampleClient restartServer
    (by decide +kernel) (repeatedRun.take 7) network reached patient
  exact ⟨network, more, final, exit, reached, counted, finishes⟩

end runs

end UcosProxy.FirmwareNetwork
