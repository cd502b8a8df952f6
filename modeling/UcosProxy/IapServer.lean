import UcosProxy.Runs
import UcosProxy.TftpClient

/-!
# The server that programs the flash

`tftpserver.c` takes write requests on port 69 and erases the flash for each. Every
request has a port of its own behind it, with its own block counter, while the write
address and the byte count are shared: a block that any open port accepts is written
behind the last one. A port accepts the block that follows its last one, whoever sends it
and whatever the packet's opcode is, and is closed by the first packet of less than 516
bytes, accepted or not.

What happens to a file is therefore a matter of what arrives. `Orderly` asks it of each
datagram in the state that it meets, and the file is intact in every state of a run exactly
when every datagram of the run is orderly.

The flash functions are not part of the repository. What is handed to them since the last
erasure is kept instead, and so is what is handed to UDP. A closed port keeps its counters
as history. The local `data_buffer` is not initialised, so the last word may end in any
bytes, and a longer packet than it holds overruns it. The file is built only where
`USE_IAP_TFTP` is defined.
-/

namespace UcosProxy.IapServer

open Bytes Runs TftpClient

/-- `TFTP_DATA_PKT_HDR_LEN` -/
def tftpDataPktHdrLen : Nat := 4

/-- `TFTP_DATA_LEN_MAX` -/
def tftpDataLenMax : Nat := 512

/-- `TFTP_DATA_PKT_LEN_MAX` -/
def tftpDataPktLenMax : Nat := tftpDataPktHdrLen + tftpDataLenMax

/-- A packet in its buffer: what was received, what the memory behind it holds, and whether
`len` and `tot_len` differ. -/
structure Pbuf where
  payload : List Byte
  behind : List Byte
  chained : Bool

/-- A packet with its sender, the bytes that `data_buffer` happens to hold, and whether the
answer finds a buffer. -/
structure Arrival where
  pbuf : Pbuf
  addr : IpAddr
  port : Nat
  dataBuffer : Nat → Byte
  answers : Bool

/-- `IAP_tftp_decode_op` -/
def iapTftpDecodeOp (pbuf : Pbuf) : Nat := ((pbuf.payload ++ pbuf.behind).getD 1 0).toNat

/-- `IAP_tftp_extract_block` -/
def iapTftpExtractBlock (pbuf : Pbuf) : Nat := wordAt (pbuf.payload ++ pbuf.behind) 2

/-- `tftp_connection_args`, as far as it is read. They are allocated for each request and
live behind its port. -/
structure Args where
  block : Nat
  totBytes : Nat
deriving DecidableEq

/-- A port that a request was given, and whether it is still open. A closed one keeps its
place in the list, so that a late datagram finds no other port under its number. -/
structure Connection where
  args : Args
  bound : Bool
deriving DecidableEq

/-- An acknowledgement, with the port it comes from. It is history: an acknowledgement that
was sent stays, also when it is lost on the way. -/
structure Ack where
  connection : Nat
  addr : IpAddr
  port : Nat
  block : Nat
deriving DecidableEq

/-- The server: the ports in the order of their requests, what was written since the last
erasure, the count of the last request, and what was sent. -/
structure Server where
  connections : List Connection
  flash : List Byte
  totalCount : BitVec 32
  overrun : Bool
  acks : List Ack

/-- `IAP_tftpd_init`, when port 69 is to be had. -/
def iapTftpdInit : Server := ⟨[], [], 0, false, []⟩

/-- `IAP_tftp_send_ack_packet`. The number is cut to sixteen bits on the wire. A stack
without memory for the packet sends nothing. -/
def iapTftpSendAckPacket (server : Server) (connection : Nat) (arrival : Arrival) (block : Nat) :
    Server :=
  if arrival.answers then
    { server with acks := server.acks ++ [⟨connection, arrival.addr, arrival.port, block % 65536⟩] }
  else server

/-- The number of words that hold some bytes. -/
def wordCount (bytes : Nat) : Nat := if bytes % 4 ≠ 0 then bytes / 4 + 1 else bytes / 4

/-- The words that `FLASH_If_Write` is handed: the payload, filled up by what the buffer
held. -/
def programmed (data : List Byte) (dataBuffer : Nat → Byte) : List Byte :=
  data ++ (List.range (4 * wordCount data.length - data.length)).map fun index =>
    dataBuffer (data.length + index)

/-- What a port does with a packet before it answers: write the next block, or count it when
it is empty. -/
def receiveBlock (server : Server) (args : Args) (arrival : Arrival) : Server × Args :=
  let data := arrival.pbuf.payload.drop tftpDataPktHdrLen
  if tftpDataPktHdrLen < arrival.pbuf.payload.length ∧
      iapTftpExtractBlock arrival.pbuf = args.block + 1 then
    ({ server with
        totalCount := server.totalCount + BitVec.ofNat 32 data.length
        flash := server.flash ++ programmed data arrival.dataBuffer
        overrun := server.overrun || decide (tftpDataLenMax < data.length) },
      ⟨args.block + 1, args.totBytes + data.length⟩)
  else if iapTftpExtractBlock arrival.pbuf = args.block + 1 then
    (server, { args with block := args.block + 1 })
  else (server, args)

/-- `IAP_wrq_recv_callback` -/
def iapWrqRecvCallback (server : Server) (index : Nat) (args : Args) (arrival : Arrival) : Server :=
  if arrival.pbuf.chained then server
  else
    let received := receiveBlock server args arrival
    let answered := iapTftpSendAckPacket received.1 index arrival received.2.block
    { answered with
      connections := answered.connections.set index
        ⟨received.2, decide (tftpDataPktLenMax ≤ arrival.pbuf.payload.length)⟩ }

/-- `IAP_tftp_process_write`, when there is memory for the arguments. -/
def iapTftpProcessWrite (server : Server) (arrival : Arrival) : Server :=
  iapTftpSendAckPacket
    { server with
      connections := server.connections ++ [⟨⟨0, 0⟩, true⟩]
      totalCount := 0
      flash := [] }
    server.connections.length arrival 0

/-- How far the stack goes along with a request. A request that fails on its way leaves
nothing behind, and is not answered. -/
inductive Room where
  | noPcb
  | noPort
  | noArgs
  | enough
deriving DecidableEq

/-- `IAP_tftp_recv_callback` -/
def iapTftpRecvCallback (server : Server) (arrival : Arrival) (room : Room) : Server :=
  match room with
  | .noPcb | .noPort => server
  | .noArgs => server
  | .enough =>
    if iapTftpDecodeOp arrival.pbuf = TftpOpcode.wrq.code then iapTftpProcessWrite server arrival
    else server

/-- A datagram that reaches port 69, or the port of a request. They come in any order and as
often as the network repeats them. -/
inductive Event where
  | request (arrival : Arrival) (room : Room)
  | packet (index : Nat) (arrival : Arrival)

/-- One datagram. What reaches no open port is dropped. -/
def step (server : Server) : Event → Option Server
  | .request arrival room => some (iapTftpRecvCallback server arrival room)
  | .packet index arrival =>
    match server.connections[index]? with
    | some ⟨args, true⟩ => some (iapWrqRecvCallback server index args arrival)
    | _ => some server

/-! ## A file in blocks -/

/-- A block of a file, counted from zero. -/
def chunk (file : List Byte) (block : Nat) : List Byte :=
  (file.drop (tftpDataLenMax * block)).take tftpDataLenMax

/-- The bytes of the blocks before one. -/
def front (file : List Byte) (block : Nat) : List Byte := file.take (tftpDataLenMax * block)

/-- How many blocks a file has: the last one is not full. -/
def chunkCount (file : List Byte) : Nat := file.length / tftpDataLenMax + 1

theorem front_succ (file : List Byte) (block : Nat) :
    front file (block + 1) = front file block ++ chunk file block := by
  rw [front, front, chunk, Nat.mul_succ, List.take_add]

theorem front_length {file : List Byte} {block : Nat} (early : block < chunkCount file) :
    (front file block).length = tftpDataLenMax * block := by
  have inside : tftpDataLenMax * block ≤ file.length := by
    simp only [chunkCount, tftpDataLenMax] at early ⊢
    omega
  rw [front, List.length_take, Nat.min_eq_left inside]

theorem front_chunkCount (file : List Byte) : front file (chunkCount file) = file := by
  rw [front, List.take_of_length_le]
  simp only [chunkCount, tftpDataLenMax]
  omega

/-- Every block but the last is full. -/
theorem chunk_full_iff {file : List Byte} {block : Nat} (early : block < chunkCount file) :
    (chunk file block).length = tftpDataLenMax ↔ block + 1 < chunkCount file := by
  simp only [chunk, List.length_take, List.length_drop, chunkCount, tftpDataLenMax] at early ⊢
  omega

theorem chunk_length_le (file : List Byte) (block : Nat) :
    (chunk file block).length ≤ tftpDataLenMax := by
  rw [chunk, List.length_take]
  exact Nat.min_le_left _ _

theorem wordCount_eq (bytes : Nat) : wordCount bytes = (bytes + 3) / 4 := by
  unfold wordCount
  split <;> omega

theorem programmed_length (data : List Byte) (dataBuffer : Nat → Byte) :
    (programmed data dataBuffer).length = 4 * wordCount data.length := by
  rw [programmed, List.length_append, List.length_map, List.length_range, wordCount_eq]
  omega

theorem programmed_starts (data : List Byte) (dataBuffer : Nat → Byte) :
    data <+: programmed data dataBuffer := List.prefix_append data _

/-- The flash holds the first blocks of a file, in whole words. The bytes that fill up the
last word are whatever the buffer held, so only its length is known. -/
structure Holds (file : List Byte) (block : Nat) (flash : List Byte) : Prop where
  starts : front file block <+: flash
  length : flash.length = 4 * wordCount (front file block).length

/-- The request with a number is on its way to a file: its port has accepted the blocks that
the flash holds, and has closed if and only if these are all. Other ports may be open beside
it; what they accept is the matter of each datagram. -/
structure Intact (file : List Byte) (index : Nat) (server : Server) : Prop where
  overrun : server.overrun = false
  progress : ∃ connection, server.connections[index]? = some connection ∧
    connection.args.block ≤ chunkCount file ∧ Holds file connection.args.block server.flash ∧
      connection.args.totBytes = (front file connection.args.block).length ∧
      server.totalCount = BitVec.ofNat 32 connection.args.totBytes ∧
      (connection.bound = false ↔ connection.args.block = chunkCount file)

/-- What a datagram must be in the state it meets. A request comes before anything is
written. What the port of the transfer accepts is the next block of the file, and what it
does not accept is no short packet. What another port accepts is empty. -/
def Orderly (file : List Byte) (index : Nat) (server : Server) : Event → Prop
  | .request arrival room =>
    room = .enough → iapTftpDecodeOp arrival.pbuf = TftpOpcode.wrq.code → server.flash = []
  | .packet other arrival =>
    ∀ args, server.connections[other]? = some ⟨args, true⟩ → arrival.pbuf.chained = false →
      if iapTftpExtractBlock arrival.pbuf = args.block + 1 then
        arrival.pbuf.payload.drop tftpDataPktHdrLen = if other = index then chunk file args.block else []
      else other = index → tftpDataPktLenMax ≤ arrival.pbuf.payload.length

/-! ## One block -/

section block
variable {file flash data : List Byte} {block : Nat}

/-- In front of an open port stand full blocks and nothing else. -/
theorem Holds.eq_front (holds : Holds file block flash) (early : block < chunkCount file) :
    flash = front file block := by
  have size := front_length early
  have same : (front file block).length = flash.length := by
    rw [holds.length, size, wordCount_eq, tftpDataLenMax]
    omega
  exact (holds.starts.eq_of_length same).symm

/-- What is written behind full blocks is the next block exactly when the flash and the count
of bytes say so. -/
theorem Holds.next_iff (holds : Holds file block flash) (early : block < chunkCount file)
    (dataBuffer : Nat → Byte) :
    Holds file (block + 1) (flash ++ programmed data dataBuffer) ∧
        (front file block).length + data.length = (front file (block + 1)).length ↔
      data = chunk file block := by
  have size := front_length early
  rw [holds.eq_front early]
  constructor
  · rintro ⟨further, bytes⟩
    have inside : chunk file block <+: programmed data dataBuffer := by
      have starts := further.starts
      rwa [front_succ, List.prefix_append_right_inj] at starts
    rw [front_succ, List.length_append] at bytes
    have same : data.length = (chunk file block).length := by omega
    have within := List.prefix_of_prefix_length_le inside (programmed_starts data dataBuffer) same.ge
    exact (within.eq_of_length same.symm).symm
  · rintro rfl
    refine ⟨⟨?_, ?_⟩, ?_⟩
    · rw [front_succ, List.prefix_append_right_inj]
      exact programmed_starts _ _
    · rw [List.length_append, programmed_length, front_succ, List.length_append, size, wordCount_eq,
        wordCount_eq, tftpDataLenMax]
      omega
    · rw [front_succ, List.length_append]

/-- Nothing is written exactly when the flash does not grow. -/
theorem programmed_eq_nil_iff (dataBuffer : Nat → Byte) :
    programmed data dataBuffer = [] ↔ data = [] := by
  constructor
  · intro empty
    exact (List.append_eq_nil_iff.mp empty).1
  · rintro rfl
    rfl

/-- An empty flash holds nothing of a file. -/
theorem Holds.nil_iff (holds : Holds file block flash) :
    flash = [] ↔ (front file block).length = 0 := by
  rw [← List.length_eq_zero_iff, holds.length, wordCount_eq]
  omega

theorem holds_nil (none : (front file block).length = 0) : Holds file block [] where
  starts := by rw [List.eq_nil_of_length_eq_zero none]
  length := by
    rw [none]
    rfl

end block

/-! ## One packet -/

section packet
variable (server : Server) (index : Nat) (args : Args) (arrival : Arrival)

@[simp] theorem iapTftpSendAckPacket_state (block : Nat) :
    (iapTftpSendAckPacket server index arrival block).connections = server.connections ∧
      (iapTftpSendAckPacket server index arrival block).flash = server.flash ∧
      (iapTftpSendAckPacket server index arrival block).totalCount = server.totalCount ∧
      (iapTftpSendAckPacket server index arrival block).overrun = server.overrun := by
  unfold iapTftpSendAckPacket
  split <;> exact ⟨rfl, rfl, rfl, rfl⟩

/-- The payload of a packet. -/
def Arrival.data (arrival : Arrival) : List Byte := arrival.pbuf.payload.drop tftpDataPktHdrLen

/-- The next block is written and counted. An empty one writes nothing. -/
theorem receiveBlock_next (next : iapTftpExtractBlock arrival.pbuf = args.block + 1) :
    receiveBlock server args arrival =
      ({ server with
          totalCount := server.totalCount + BitVec.ofNat 32 arrival.data.length
          flash := server.flash ++ programmed arrival.data arrival.dataBuffer
          overrun := server.overrun || decide (tftpDataLenMax < arrival.data.length) },
        ⟨args.block + 1, args.totBytes + arrival.data.length⟩) := by
  unfold receiveBlock
  by_cases some : tftpDataPktHdrLen < arrival.pbuf.payload.length
  · rw [if_pos ⟨some, next⟩]
    rfl
  · have none : arrival.data = [] := List.drop_eq_nil_of_le (Nat.le_of_not_lt some)
    rw [if_neg fun both => some both.1, if_pos next, none, (programmed_eq_nil_iff _).mpr rfl]
    simp

theorem receiveBlock_other (other : iapTftpExtractBlock arrival.pbuf ≠ args.block + 1) :
    receiveBlock server args arrival = (server, args) := by
  rw [receiveBlock, if_neg fun both => other both.2, if_neg other]

/-- A packet to an open port. -/
theorem iapWrqRecvCallback_state (whole : arrival.pbuf.chained = false) :
    let received := receiveBlock server args arrival
    let behind := iapWrqRecvCallback server index args arrival
    behind.connections = received.1.connections.set index
        ⟨received.2, decide (tftpDataPktLenMax ≤ arrival.pbuf.payload.length)⟩ ∧
      behind.flash = received.1.flash ∧ behind.totalCount = received.1.totalCount ∧
      behind.overrun = received.1.overrun := by
  have sent := iapTftpSendAckPacket_state (receiveBlock server args arrival).1 index arrival
    (receiveBlock server args arrival).2.block
  simp only [iapWrqRecvCallback, whole, Bool.false_eq_true, if_false]
  exact ⟨by rw [sent.1], sent.2⟩

/-- The ways through a packet: it is dropped, or its port writes the next block, or its port
answers for the last one. -/
theorem step_packet {next : Server} (taken : step server (.packet index arrival) = some next) :
    (next = server ∧ ∀ args, server.connections[index]? = some ⟨args, true⟩ →
      arrival.pbuf.chained = true) ∨
    ∃ args, server.connections[index]? = some ⟨args, true⟩ ∧ arrival.pbuf.chained = false ∧
      next = iapWrqRecvCallback server index args arrival := by
  simp only [step] at taken
  split at taken
  · rename_i args there
    obtain rfl := Option.some.inj taken
    cases chained : arrival.pbuf.chained with
    | false => exact .inr ⟨args, there, rfl, rfl⟩
    | true =>
      refine .inl ⟨?_, fun _ _ => rfl⟩
      rw [iapWrqRecvCallback, if_pos chained]
  · rename_i closed
    obtain rfl := Option.some.inj taken
    exact .inl ⟨rfl, fun args there => absurd there (closed args)⟩

end packet

/-! ## A file on its way -/

section transfer
variable {file : List Byte} {index : Nat} {server : Server} {args : Args} {arrival : Arrival}

/-- What an open port of an intact transfer has. -/
theorem Intact.of_bound (intact : Intact file index server)
    (there : server.connections[index]? = some ⟨args, true⟩) :
    args.block < chunkCount file ∧ Holds file args.block server.flash ∧
      args.totBytes = (front file args.block).length ∧
      server.totalCount = BitVec.ofNat 32 args.totBytes := by
  obtain ⟨connection, same, bound, holds, bytes, count, ended⟩ := intact.progress
  obtain rfl : connection = ⟨args, true⟩ := Option.some.inj (same.symm.trans there)
  have early : args.block ≠ chunkCount file := fun all => Bool.noConfusion (ended.mpr all)
  exact ⟨lt_of_le_of_ne bound early, holds, bytes, count⟩

/-- The port of the transfer goes on with the file exactly when the packet is its next block,
or is passed over and not short. -/
theorem intact_own_iff (intact : Intact file index server)
    (there : server.connections[index]? = some ⟨args, true⟩) (whole : arrival.pbuf.chained = false) :
    Intact file index (iapWrqRecvCallback server index args arrival) ↔
      if iapTftpExtractBlock arrival.pbuf = args.block + 1 then arrival.data = chunk file args.block
      else tftpDataPktLenMax ≤ arrival.pbuf.payload.length := by
  obtain ⟨early, holds, bytes, count⟩ := intact.of_bound there
  obtain ⟨connections, flash, totalCount, overrun⟩ :=
    iapWrqRecvCallback_state server index args arrival whole
  have inside : index < server.connections.length := (List.getElem?_eq_some_iff.mp there).1
  by_cases next : iapTftpExtractBlock arrival.pbuf = args.block + 1
  · rw [if_pos next]
    rw [receiveBlock_next server args arrival next] at connections flash totalCount overrun
    have entry : (iapWrqRecvCallback server index args arrival).connections[index]? = some _ :=
      (congrArg (·[index]?) connections).trans (List.getElem?_set_self inside)
    constructor
    · rintro ⟨_, connection, same, _, holdsNext, bytesNext, _⟩
      obtain rfl := Option.some.inj (same.symm.trans entry)
      rw [flash] at holdsNext
      rw [bytes] at bytesNext
      exact (holds.next_iff early arrival.dataBuffer).mp ⟨holdsNext, bytesNext⟩
    · intro same
      obtain ⟨holdsNext, bytesNext⟩ := (holds.next_iff early arrival.dataBuffer).mpr same
      have most := chunk_length_le file args.block
      have full := chunk_full_iff early
      have size : arrival.data.length = arrival.pbuf.payload.length - 4 := List.length_drop
      rw [← same] at most full
      refine ⟨?_, _, entry, early, flash ▸ holdsNext, bytes ▸ bytesNext, ?_, ?_⟩
      · rw [overrun, intact.overrun, decide_eq_false (Nat.not_lt.mpr most)]
        rfl
      · rw [totalCount, count, BitVec.ofNat_add]
      · change decide (tftpDataPktLenMax ≤ arrival.pbuf.payload.length) = false ↔
          args.block + 1 = chunkCount file
        rw [decide_eq_false_iff_not]
        simp only [tftpDataPktLenMax, tftpDataPktHdrLen, tftpDataLenMax] at full most ⊢
        omega
  · rw [if_neg next]
    rw [receiveBlock_other server args arrival next] at connections flash totalCount overrun
    have entry : (iapWrqRecvCallback server index args arrival).connections[index]? = some _ :=
      (congrArg (·[index]?) connections).trans (List.getElem?_set_self inside)
    constructor
    · rintro ⟨_, connection, same, _, _, _, _, ended⟩
      obtain rfl := Option.some.inj (same.symm.trans entry)
      by_contra short
      exact absurd (ended.mp (decide_eq_false short)) early.ne
    · intro long
      refine ⟨overrun.trans intact.overrun, _, entry, early.le, flash ▸ holds, bytes,
        totalCount.trans count, ?_⟩
      rw [decide_eq_true long]
      exact ⟨fun closed => Bool.noConfusion closed, fun all => absurd all early.ne⟩

/-- Another port leaves the file alone exactly when it accepts nothing but an empty block. -/
theorem intact_other_iff (intact : Intact file index server) {other : Nat} (apart : other ≠ index)
    (whole : arrival.pbuf.chained = false) :
    Intact file index (iapWrqRecvCallback server other args arrival) ↔
      (iapTftpExtractBlock arrival.pbuf = args.block + 1 → arrival.data = []) := by
  obtain ⟨connection, there, bound, holds, bytes, count, ended⟩ := intact.progress
  obtain ⟨connections, flash, totalCount, overrun⟩ :=
    iapWrqRecvCallback_state server other args arrival whole
  by_cases next : iapTftpExtractBlock arrival.pbuf = args.block + 1
  · rw [receiveBlock_next server args arrival next] at connections flash totalCount overrun
    have entry : (iapWrqRecvCallback server other args arrival).connections[index]? = some connection := by
      rw [connections, List.getElem?_set_ne apart, there]
    constructor
    · rintro ⟨_, later, same, _, holdsNext, _⟩ _
      obtain rfl := Option.some.inj (same.symm.trans entry)
      have length : server.flash.length = (iapWrqRecvCallback server other args arrival).flash.length :=
        holds.length.trans holdsNext.length.symm
      rw [flash, List.length_append] at length
      exact (programmed_eq_nil_iff arrival.dataBuffer).mp (List.eq_nil_of_length_eq_zero (by omega))
    · intro empty
      rw [empty next, (programmed_eq_nil_iff _).mpr rfl, List.append_nil] at flash
      rw [empty next] at totalCount overrun
      refine ⟨?_, connection, entry, bound, flash ▸ holds, bytes, ?_, ended⟩
      · rw [overrun, intact.overrun]
        rfl
      · rw [totalCount, count]
        exact BitVec.add_zero _
  · rw [receiveBlock_other server args arrival next] at connections flash totalCount overrun
    refine ⟨fun _ now => absurd now next, fun _ => ?_⟩
    refine ⟨overrun.trans intact.overrun, connection, ?_, bound, flash ▸ holds, bytes,
      totalCount.trans count, ended⟩
    rw [connections, List.getElem?_set_ne apart, there]

/-- A request leaves the file alone exactly when nothing was written yet. -/
theorem intact_request_iff (intact : Intact file index server) :
    Intact file index (iapTftpProcessWrite server arrival) ↔ server.flash = [] := by
  obtain ⟨connection, there, bound, holds, bytes, count, ended⟩ := intact.progress
  have inside : index < server.connections.length := (List.getElem?_eq_some_iff.mp there).1
  obtain ⟨connections, flash, totalCount, overrun⟩ := iapTftpSendAckPacket_state
    { server with connections := server.connections ++ [⟨⟨0, 0⟩, true⟩], totalCount := 0, flash := [] }
    server.connections.length arrival 0
  have entry : (iapTftpProcessWrite server arrival).connections[index]? = some connection := by
    rw [iapTftpProcessWrite, connections, List.getElem?_append_left inside, there]
  constructor
  · rintro ⟨_, later, same, _, holdsNext, _⟩
    obtain rfl := Option.some.inj (same.symm.trans entry)
    exact holds.nil_iff.mpr (holdsNext.nil_iff.mp flash)
  · intro empty
    have none := holds.nil_iff.mp empty
    refine ⟨overrun.trans intact.overrun, connection, entry, bound, ?_, bytes, ?_, ended⟩
    · rw [iapTftpProcessWrite, flash]
      exact holds_nil none
    · rw [iapTftpProcessWrite, totalCount, bytes, none]
      rfl

/-- One datagram leaves the file intact exactly when it is orderly. -/
theorem intact_step_iff (intact : Intact file index server) {event : Event} {next : Server}
    (taken : step server event = some next) :
    Intact file index next ↔ Orderly file index server event := by
  cases event with
  | request arrival room =>
    obtain rfl := Option.some.inj taken
    by_cases erases : room = .enough ∧ iapTftpDecodeOp arrival.pbuf = TftpOpcode.wrq.code
    · obtain ⟨rfl, wrq⟩ := erases
      simp only [iapTftpRecvCallback, Orderly, wrq, forall_const]
      exact intact_request_iff intact
    · have same : iapTftpRecvCallback server arrival room = server := by
        cases room with
        | enough => exact if_neg fun wrq => erases ⟨rfl, wrq⟩
        | _ => rfl
      rw [same]
      exact ⟨fun _ enough wrq => absurd ⟨enough, wrq⟩ erases, fun _ => intact⟩
  | packet other arrival =>
    rcases step_packet server other arrival taken with ⟨rfl, dropped⟩ | ⟨args, there, whole, rfl⟩
    · refine ⟨fun _ args there whole => ?_, fun _ => intact⟩
      exact Bool.noConfusion (whole.symm.trans (dropped args there))
    · have only : Orderly file index server (.packet other arrival) ↔
          if iapTftpExtractBlock arrival.pbuf = args.block + 1 then
            arrival.data = if other = index then chunk file args.block else []
          else other = index → tftpDataPktLenMax ≤ arrival.pbuf.payload.length := by
        constructor
        · intro orderly
          exact orderly args there whole
        · intro orderly others same _
          obtain rfl : args = others := congrArg Connection.args (Option.some.inj (there.symm.trans same))
          exact orderly
      rw [only]
      by_cases own : other = index
      · subst own
        rw [intact_own_iff intact there whole]
        simp only [if_true, forall_const]
      · rw [intact_other_iff intact own whole]
        split
        · rename_i now
          simp only [now, forall_const]
        · rename_i later
          simp only [later, own, false_implies]

/-- A request starts a transfer of any file. -/
theorem intact_start (file : List Byte) (server : Server) (fresh : server.overrun = false)
    (arrival : Arrival) :
    Intact file server.connections.length (iapTftpProcessWrite server arrival) := by
  obtain ⟨connections, flash, totalCount, overrun⟩ := iapTftpSendAckPacket_state
    { server with connections := server.connections ++ [⟨⟨0, 0⟩, true⟩], totalCount := 0, flash := [] }
    server.connections.length arrival 0
  refine ⟨overrun.trans fresh, ⟨⟨0, 0⟩, true⟩, ?_, Nat.zero_le _, ?_, rfl, totalCount, ?_⟩
  · rw [iapTftpProcessWrite, connections, List.getElem?_concat_length]
  · rw [iapTftpProcessWrite, flash]
    exact holds_nil rfl
  · exact ⟨fun closed => Bool.noConfusion closed, fun none => Nat.noConfusion none⟩

/-- A transfer among any datagrams, from any senders to any ports: the flash holds the
blocks that the port has accepted, and the port is closed when these are the whole file and
not before, in every state of a run, exactly when every datagram of the run is orderly. The
condition is on each datagram in the state that it meets, and says nothing of who sent it.
An overrun of the data buffer counts as a loss. -/
theorem transfer_intact_iff (file : List Byte) (server : Server) (fresh : server.overrun = false)
    (arrival : Arrival) (events : List Event) :
    Always step (Intact file server.connections.length) (iapTftpProcessWrite server arrival) events ↔
      Guarded step (Orderly file server.connections.length) (iapTftpProcessWrite server arrival)
        events := by
  apply always_iff_guarded (Intact file server.connections.length) _ fun _ intact => intact
  · exact fun _ _ _ intact orderly taken => (intact_step_iff intact taken).mpr orderly
  · exact fun _ _ _ intact taken after => (intact_step_iff intact taken).mp after
  · exact intact_start file server fresh arrival

/-- A request, a file of three bytes in one block, the same packet again, and a packet for a
port that is closed by then. -/
def shortTransfer : List Event :=
  let packet : Arrival := ⟨⟨[0, 3, 0, 1, 7, 8, 9], [], false⟩, 0, 5000, fun _ => 0xff, true⟩
  [.packet 0 packet, .packet 0 packet, .packet 1 packet]

theorem shortTransfer_intact :
    Always step (Intact [7, 8, 9] 0)
        (iapTftpProcessWrite iapTftpdInit ⟨⟨[0, 2], [], false⟩, 0, 5000, fun _ => 0, true⟩)
        shortTransfer ↔
      Guarded step (Orderly [7, 8, 9] 0)
        (iapTftpProcessWrite iapTftpdInit ⟨⟨[0, 2], [], false⟩, 0, 5000, fun _ => 0, true⟩)
        shortTransfer :=
  transfer_intact_iff [7, 8, 9] iapTftpdInit rfl ⟨⟨[0, 2], [], false⟩, 0, 5000, fun _ => 0, true⟩
    shortTransfer

end transfer

end UcosProxy.IapServer
