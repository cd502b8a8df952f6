import UcosProxy.IapServer

/-!
# A client that waits for its acknowledgements

A client as the server's comments expect it asks for a transfer, keeps to the port that
answers first, sends a block until that port acknowledges it, and then sends the next one.
Nothing that either of them has sent is taken back: the network may deliver it at any later
time, any number of times, in any order, or never.

In every run in which no request is delivered behind the first write, each datagram is
orderly in the state that it meets, so the file arrives intact; when the client has seen
its last acknowledgement the flash holds all of it. From every state of such a run the
transfer can still be brought to its end.

The block number on the wire has sixteen bits and the server's counter has more, so a file
has at most 65535 blocks here.
-/

namespace UcosProxy.IapTransfer

open Bytes Runs IapServer
open TftpClient hiding Arrival

/-- What the client sends: a request, or a block, counted from one, to a port. What was sent
once may arrive at any time and any number of times. -/
inductive Message where
  | request
  | block (port number : Nat)
deriving DecidableEq

/-- What the client waits for. A client sends one block at a time, and goes on when that one
is acknowledged. -/
inductive Phase where
  | asking
  | sending (port number : Nat)
  | done (port : Nat)
deriving DecidableEq

/-- The server, the client, and everything that the client has sent. What the server has
sent is kept in its own state. -/
structure Transfer where
  server : Server
  phase : Phase
  wire : List Message

/-- A write request for a file in octets. -/
def requestPacket : List Byte :=
  networkWord TftpOpcode.wrq.code ++ ascii "app.bin" ++ [0] ++ ascii "octet" ++ [0]

/-- The bytes of a message. -/
def packetOf (file : List Byte) : Message → List Byte
  | .request => requestPacket
  | .block _ number => dataPacket number (chunk file (number - 1))

inductive Event where
  /-- The client sends what it waits to have acknowledged. -/
  | transmit
  /-- A message of the client reaches the server, with what else the server meets. -/
  | deliver (position : Nat) (arrival : Arrival) (room : Room)
  /-- An acknowledgement reaches the client. -/
  | acknowledge (position : Nat)

/-- The datagram that a message is to the server. -/
def datagram (file : List Byte) (message : Message) (arrival : Arrival) (room : Room) :
    IapServer.Event :=
  let arrives := { arrival with pbuf := { arrival.pbuf with payload := packetOf file message } }
  match message with
  | .request => .request arrives room
  | .block port _ => .packet port arrives

section transfer
variable (file : List Byte)

/-- The client behind an acknowledgement. -/
def Phase.acknowledged (ack : Ack) : Phase → Phase
  | .asking => if ack.block = 0 then .sending ack.connection 1 else .asking
  | .sending port number =>
    if ack.connection = port ∧ ack.block = number % 65536 then
      if number = chunkCount file then .done port else .sending port (number + 1)
    else .sending port number
  | .done port => .done port

/-- The message that the client sends and sends again. -/
def Phase.message : Phase → Option Message
  | .asking => some .request
  | .sending port number => some (.block port number)
  | .done _ => none

/-- One event. What is not there to be sent, delivered or read is no event. -/
def step (transfer : Transfer) : Event → Option Transfer
  | .transmit =>
    transfer.phase.message.map fun message => { transfer with wire := transfer.wire ++ [message] }
  | .deliver position arrival room =>
    transfer.wire[position]?.bind fun message =>
      (IapServer.step transfer.server (datagram file message arrival room)).map fun server =>
        { transfer with server := server }
  | .acknowledge position =>
    transfer.server.acks[position]?.map fun ack =>
      { transfer with phase := transfer.phase.acknowledged file ack }

/-- The client and the server before the first request. -/
def start : Transfer := ⟨iapTftpdInit, .asking, []⟩

/-- No request is served behind the first write. -/
def NoLateRequest (transfer : Transfer) : Event → Prop
  | .deliver position _ room =>
    transfer.wire[position]? = some .request → room = .enough → transfer.server.flash = []
  | _ => True

instance (transfer : Transfer) : ∀ event, Decidable (NoLateRequest transfer event)
  | .transmit => inferInstanceAs (Decidable True)
  | .deliver _ _ _ => inferInstanceAs (Decidable (_ → _ → _))
  | .acknowledge _ => inferInstanceAs (Decidable True)

/-- A port that has not accepted anything. -/
def idle : Connection := ⟨⟨0, 0⟩, true⟩

/-- The server while the client is still asking. Every request so far has erased the flash
and was given a port, and nothing has been written. -/
structure Asking (transfer : Transfer) : Prop where
  overrun : transfer.server.overrun = false
  flash : transfer.server.flash = []
  count : transfer.server.totalCount = 0
  ports : ∀ connection ∈ transfer.server.connections, connection = idle
  wire : ∀ message ∈ transfer.wire, message = .request
  acks : ∀ ack ∈ transfer.server.acks, ack.block = 0 ∧
    ack.connection < transfer.server.connections.length

/-- A transfer to a port, with the number of the last block that was sent: the port has
accepted all of them, or all but the last one. What the wire holds was sent for this port
alone, and what the acknowledgements say has been accepted. -/
structure Underway (port sent : Nat) (transfer : Transfer) : Prop where
  intact : Intact file port transfer.server
  counted : 1 ≤ sent ∧ sent ≤ chunkCount file
  accepted : ∀ connection, transfer.server.connections[port]? = some connection →
    connection.args.block ≤ sent ∧ sent ≤ connection.args.block + 1
  others : ∀ other connection, other ≠ port →
    transfer.server.connections[other]? = some connection → connection = idle
  wire : ∀ target number, Message.block target number ∈ transfer.wire →
    target = port ∧ 1 ≤ number ∧ number ≤ sent
  acks : ∀ ack ∈ transfer.server.acks, ack.connection = port →
    ∃ connection, transfer.server.connections[port]? = some connection ∧
      ack.block ≤ connection.args.block

/-- What holds in every state. The three phases of the client, each with what it may rely
on. -/
def Kept (transfer : Transfer) : Prop :=
  match transfer.phase with
  | .asking => Asking transfer
  | .sending port number => Underway file port number transfer
  | .done port => Underway file port (chunkCount file) transfer ∧
      ∃ connection, transfer.server.connections[port]? = some connection ∧
        connection.args.block = chunkCount file

end transfer

/-! ## The packets -/

/-- The number and the payload of a block's packet. -/
theorem extractBlock_block (file : List Byte) (port number : Nat) (arrival : Arrival) :
    let pbuf := { arrival.pbuf with payload := packetOf file (.block port number) }
    iapTftpExtractBlock pbuf = number % 65536 ∧
      pbuf.payload.drop tftpDataPktHdrLen = chunk file (number - 1) ∧
      pbuf.payload.length = tftpDataPktHdrLen + (chunk file (number - 1)).length := by
  refine ⟨?_, rfl, ?_⟩
  · simp [iapTftpExtractBlock, packetOf, dataPacket, networkWord, wordAt]
    omega
  · simp [packetOf, dataPacket, networkWord, tftpDataPktHdrLen]
    omega

theorem decodeOp_request (file : List Byte) (arrival : Arrival) :
    iapTftpDecodeOp { arrival.pbuf with payload := packetOf file .request } =
      TftpOpcode.wrq.code := by
  rfl

/-- What a request leaves. -/
theorem iapTftpProcessWrite_state (server : Server) (arrival : Arrival) :
    (iapTftpProcessWrite server arrival).connections = server.connections ++ [idle] ∧
      (iapTftpProcessWrite server arrival).flash = [] ∧
      (iapTftpProcessWrite server arrival).totalCount = 0 ∧
      (iapTftpProcessWrite server arrival).overrun = server.overrun ∧
      (iapTftpProcessWrite server arrival).acks = server.acks ++
        if arrival.answers then [⟨server.connections.length, arrival.addr, arrival.port, 0⟩] else [] := by
  unfold iapTftpProcessWrite iapTftpSendAckPacket
  split
  · exact ⟨rfl, rfl, rfl, rfl, rfl⟩
  · exact ⟨rfl, rfl, rfl, rfl, (List.append_nil _).symm⟩

/-- What a packet leaves of its port, and its answer. -/
theorem iapWrqRecvCallback_port (server : Server) (index : Nat) (args : Args) (arrival : Arrival)
    (whole : arrival.pbuf.chained = false) :
    ∃ after : Connection,
      (iapWrqRecvCallback server index args arrival).connections =
        server.connections.set index after ∧
      after.args.block =
        (if iapTftpExtractBlock arrival.pbuf = args.block + 1 then args.block + 1 else args.block) ∧
      (iapWrqRecvCallback server index args arrival).acks = server.acks ++
        if arrival.answers then [⟨index, arrival.addr, arrival.port, after.args.block % 65536⟩]
        else [] := by
  have kept : (receiveBlock server args arrival).1.connections = server.connections ∧
      (receiveBlock server args arrival).1.acks = server.acks ∧
      (receiveBlock server args arrival).2.block =
        if iapTftpExtractBlock arrival.pbuf = args.block + 1 then args.block + 1 else args.block := by
    by_cases next : iapTftpExtractBlock arrival.pbuf = args.block + 1
    · rw [receiveBlock_next server args arrival next, if_pos next]
      exact ⟨rfl, rfl, rfl⟩
    · rw [receiveBlock_other server args arrival next, if_neg next]
      exact ⟨rfl, rfl, rfl⟩
  obtain ⟨connections, acks, block⟩ := kept
  refine ⟨⟨(receiveBlock server args arrival).2,
    decide (tftpDataPktLenMax ≤ arrival.pbuf.payload.length)⟩, ?_, block, ?_⟩
  · rw [(iapWrqRecvCallback_state server index args arrival whole).1, connections]
  · simp only [iapWrqRecvCallback, whole, Bool.false_eq_true, if_false, iapTftpSendAckPacket]
    split
    · rw [acks]
    · rw [acks, List.append_nil]

/-! ## What a delivery preserves -/

section delivery
variable {file : List Byte} {transfer : Transfer} {port sent : Nat} {server : Server}

/-- A request that comes to an asking client's server. -/
theorem Asking.request (asking : Asking transfer) (arrival : Arrival) (room : Room)
    (taken : IapServer.step transfer.server (datagram file .request arrival room) = some server) :
    Asking { transfer with server := server } := by
  obtain rfl := Option.some.inj taken
  simp only [iapTftpRecvCallback]
  cases room with
  | noPcb => exact asking
  | noPort => exact asking
  | noArgs => exact asking
  | enough =>
    simp only [decodeOp_request, if_true]
    generalize arrives : ({ arrival with pbuf := _ } : Arrival) = packet
    obtain ⟨connections, flash, count, overrun, acks⟩ :=
      iapTftpProcessWrite_state transfer.server packet
    constructor
    case overrun => exact overrun.trans asking.overrun
    case flash => exact flash
    case count => exact count
    case wire => exact asking.wire
    case ports =>
      intro connection member
      rw [connections, List.mem_append, List.mem_singleton] at member
      exact member.elim (asking.ports connection) id
    case acks =>
      intro ack member
      rw [acks, List.mem_append] at member
      rw [connections, List.length_append, List.length_singleton]
      rcases member with earlier | answer
      · have known := asking.acks ack earlier
        exact ⟨known.1, Nat.lt_succ_of_lt known.2⟩
      · split at answer
        · obtain rfl := List.mem_singleton.mp answer
          exact ⟨rfl, Nat.lt_succ_self _⟩
        · cases answer

/-- A request that comes before the first write to a transfer under way. -/
theorem Underway.request (underway : Underway file port sent transfer) (arrival : Arrival)
    (room : Room) (early : room = .enough → transfer.server.flash = [])
    (taken : IapServer.step transfer.server (datagram file .request arrival room) = some server) :
    Underway file port sent { transfer with server := server } := by
  obtain rfl := Option.some.inj taken
  simp only [iapTftpRecvCallback]
  cases room with
  | noPcb => exact underway
  | noPort => exact underway
  | noArgs => exact underway
  | enough =>
    simp only [decodeOp_request, if_true]
    generalize arrives : ({ arrival with pbuf := _ } : Arrival) = packet
    obtain ⟨connections, _, _, _, acks⟩ := iapTftpProcessWrite_state transfer.server packet
    obtain ⟨own, there, _⟩ := underway.intact.progress
    have inside : port < transfer.server.connections.length := (List.getElem?_eq_some_iff.mp there).1
    have entry : (iapTftpProcessWrite transfer.server packet).connections[port]? =
        transfer.server.connections[port]? := by
      rw [connections, List.getElem?_append_left inside]
    constructor
    case intact => exact (intact_request_iff underway.intact).mpr (early rfl)
    case counted => exact underway.counted
    case wire => exact underway.wire
    case accepted =>
      intro connection same
      exact underway.accepted connection (entry ▸ same)
    case others =>
      intro other connection apart same
      simp only [connections] at same
      rcases Nat.lt_or_ge other transfer.server.connections.length with old | new
      · rw [List.getElem?_append_left old] at same
        exact underway.others other connection apart same
      · rw [List.getElem?_append_right new] at same
        exact List.mem_singleton.mp (List.mem_of_getElem? same)
    case acks =>
      intro ack member same
      simp only [acks, List.mem_append] at member
      simp only [entry]
      rcases member with earlier | answer
      · exact underway.acks ack earlier same
      · split at answer
        · obtain rfl := List.mem_singleton.mp answer
          exact absurd same (Nat.ne_of_gt inside)
        · cases answer

/-- A block that comes to its port is orderly. -/
theorem Underway.orderly (few : chunkCount file ≤ 65535)
    (underway : Underway file port sent transfer) {number : Nat} (first : 1 ≤ number)
    (last : number ≤ sent) (arrival : Arrival) (room : Room) :
    Orderly file port transfer.server (datagram file (.block port number) arrival room) := by
  intro args there whole
  obtain ⟨extracted, payload, length⟩ := extractBlock_block file port number arrival
  obtain ⟨early, _⟩ := underway.intact.of_bound there
  obtain ⟨_, ahead⟩ := underway.accepted _ there
  have counted := underway.counted.2
  rw [extracted, payload, length, Nat.mod_eq_of_lt (by omega)]
  split
  · rename_i next
    rw [if_pos rfl, next, Nat.add_sub_cancel]
  · rename_i other
    intro _
    -- an earlier block is not the last one of the file
    simp only [] at ahead
    have full := (chunk_full_iff (show number - 1 < chunkCount file by omega)).mpr (by omega)
    rw [full]
    exact Nat.le_refl _

/-- A block that comes to its port. -/
theorem Underway.block (few : chunkCount file ≤ 65535)
    (underway : Underway file port sent transfer) {number : Nat} (first : 1 ≤ number)
    (last : number ≤ sent) (arrival : Arrival) (room : Room)
    (taken : IapServer.step transfer.server (datagram file (.block port number) arrival room) =
      some server) :
    Underway file port sent { transfer with server := server } := by
  have intact := (intact_step_iff underway.intact taken).mpr
    (underway.orderly few first last arrival room)
  rcases step_packet _ _ _ taken with ⟨rfl, _⟩ | ⟨args, there, whole, rfl⟩
  · exact underway
  · obtain ⟨after, connections, block, acks⟩ :=
      iapWrqRecvCallback_port transfer.server port args _ whole
    obtain ⟨extracted, _⟩ := extractBlock_block file port number arrival
    rw [extracted] at block
    have inside : port < transfer.server.connections.length := (List.getElem?_eq_some_iff.mp there).1
    have counted := underway.counted.2
    obtain ⟨behind, ahead⟩ := underway.accepted _ there
    have grown : args.block ≤ after.args.block ∧ after.args.block ≤ sent ∧
        sent ≤ after.args.block + 1 := by
      rw [block]
      simp only [] at behind ahead
      split
      · rename_i next
        rw [Nat.mod_eq_of_lt (by omega)] at next
        omega
      · omega
    constructor
    case intact => exact intact
    case counted => exact underway.counted
    case wire => exact underway.wire
    case accepted =>
      intro connection same
      simp only [connections, List.getElem?_set_self inside, Option.some.injEq] at same
      exact same ▸ grown.2
    case others =>
      intro other connection apart same
      simp only [connections, List.getElem?_set_ne (Ne.symm apart)] at same
      exact underway.others other connection apart same
    case acks =>
      intro ack member same
      refine ⟨after, by simp only [connections, List.getElem?_set_self inside], ?_⟩
      simp only [acks, List.mem_append] at member
      rcases member with earlier | answer
      · obtain ⟨connection, found, most⟩ := underway.acks ack earlier same
        obtain rfl := Option.some.inj (found.symm.trans there)
        exact most.trans grown.1
      · split at answer
        · obtain rfl := List.mem_singleton.mp answer
          exact Nat.mod_le _ _
        · cases answer

/-- A message that comes to the server of a transfer under way. -/
theorem Underway.deliver (few : chunkCount file ≤ 65535)
    (underway : Underway file port sent transfer) {message : Message}
    (member : message ∈ transfer.wire) (arrival : Arrival) (room : Room)
    (early : message = .request → room = .enough → transfer.server.flash = [])
    (taken : IapServer.step transfer.server (datagram file message arrival room) = some server) :
    Underway file port sent { transfer with server := server } := by
  cases message with
  | request => exact underway.request arrival room (early rfl) taken
  | block target number =>
    obtain ⟨rfl, first, last⟩ := underway.wire target number member
    exact underway.block few first last arrival room taken

/-- A transfer is under way whatever the client makes of it. -/
theorem Underway.phased (underway : Underway file port sent transfer) (phase : Phase) :
    Underway file port sent { transfer with phase := phase } :=
  ⟨underway.intact, underway.counted, underway.accepted, underway.others, underway.wire,
    underway.acks⟩

/-- The block that an acknowledgement tells has been accepted. -/
theorem Underway.accepted_all (underway : Underway file port sent transfer) {ack : Ack}
    (member : ack ∈ transfer.server.acks) (own : ack.connection = port) (last : ack.block = sent) :
    ∃ connection, transfer.server.connections[port]? = some connection ∧
      connection.args.block = sent := by
  obtain ⟨connection, there, most⟩ := underway.acks ack member own
  have least := (underway.accepted connection there).1
  exact ⟨connection, there, by omega⟩

end delivery

/-! ## What a run preserves -/

section runs
variable {file : List Byte} {transfer next : Transfer}

/-- The first answer settles the port. -/
theorem Asking.settled (asking : Asking transfer) {ack : Ack}
    (member : ack ∈ transfer.server.acks) : Underway file ack.connection 1 transfer := by
  have inside := (asking.acks ack member).2
  have there (other : Nat) (connection : Connection)
      (same : transfer.server.connections[other]? = some connection) : connection = idle :=
    asking.ports connection (List.mem_of_getElem? same)
  have own : transfer.server.connections[ack.connection]? = some idle := by
    rw [List.getElem?_eq_getElem inside]
    exact congrArg some (asking.ports _ (List.getElem_mem inside))
  constructor
  case intact =>
    refine ⟨asking.overrun, idle, own, Nat.zero_le _, ?_, rfl, asking.count, ?_⟩
    · rw [asking.flash]
      exact holds_nil rfl
    · exact ⟨fun closed => Bool.noConfusion closed, fun none => Nat.noConfusion none⟩
  case counted => exact ⟨Nat.le_refl 1, Nat.succ_le_succ (Nat.zero_le _)⟩
  case accepted =>
    intro connection same
    rw [there _ connection same]
    exact ⟨Nat.zero_le 1, Nat.le_refl 1⟩
  case others => exact fun other connection _ same => there other connection same
  case wire => exact fun target number sent => Message.noConfusion (asking.wire _ sent)
  case acks =>
    intro other earlier _
    exact ⟨idle, own, (asking.acks other earlier).1.le⟩

/-- A message is sent. -/
theorem Kept.transmit (kept : Kept file transfer) {message : Message}
    (sends : transfer.phase.message = some message) :
    Kept file { transfer with wire := transfer.wire ++ [message] } := by
  obtain ⟨server, phase, wire⟩ := transfer
  cases phase with
  | asking =>
    obtain rfl := Option.some.inj sends
    have asking : Asking ⟨server, .asking, wire⟩ := kept
    refine ⟨asking.overrun, asking.flash, asking.count, asking.ports, ?_, asking.acks⟩
    intro other member
    rw [List.mem_append, List.mem_singleton] at member
    exact member.elim (asking.wire other) id
  | sending port number =>
    obtain rfl := Option.some.inj sends
    have underway : Underway file port number ⟨server, .sending port number, wire⟩ := kept
    refine ⟨underway.intact, underway.counted, underway.accepted, underway.others, ?_,
      underway.acks⟩
    intro target other member
    rw [List.mem_append, List.mem_singleton] at member
    rcases member with earlier | latest
    · exact underway.wire target other earlier
    · obtain ⟨rfl, rfl⟩ := Message.block.inj latest
      exact ⟨rfl, underway.counted.1, Nat.le_refl _⟩
  | done port => cases sends

/-- A message is delivered. -/
theorem Kept.deliver (few : chunkCount file ≤ 65535) (kept : Kept file transfer)
    {message : Message} (member : message ∈ transfer.wire) (arrival : Arrival) (room : Room)
    (early : message = .request → room = .enough → transfer.server.flash = []) {server : Server}
    (taken : IapServer.step transfer.server (datagram file message arrival room) = some server) :
    Kept file { transfer with server := server } := by
  obtain ⟨before, phase, wire⟩ := transfer
  cases phase with
  | asking =>
    have asking : Asking ⟨before, .asking, wire⟩ := kept
    obtain rfl := asking.wire message member
    exact asking.request arrival room taken
  | sending port number =>
    have underway : Underway file port number ⟨before, .sending port number, wire⟩ := kept
    exact underway.deliver few member arrival room early taken
  | done port =>
    obtain ⟨underway, own, there, all⟩ := kept
    have behind := underway.deliver few member arrival room early taken
    obtain ⟨after, found, _⟩ := behind.intact.progress
    have bounds := behind.accepted after found
    -- a port that has all blocks is closed, and stays as it is
    have closed : own.bound = false := by
      obtain ⟨same, sameThere, _, _, _, _, ended⟩ := underway.intact.progress
      obtain rfl := Option.some.inj (sameThere.symm.trans there)
      exact ended.mpr all
    refine ⟨behind, own, ?_, all⟩
    cases message with
    | request =>
      obtain rfl := Option.some.inj taken
      simp only [iapTftpRecvCallback]
      cases room with
      | noPcb => exact there
      | noPort => exact there
      | noArgs => exact there
      | enough =>
        simp only [decodeOp_request, if_true]
        rw [(iapTftpProcessWrite_state before _).1,
          List.getElem?_append_left (List.getElem?_eq_some_iff.mp there).1]
        exact there
    | block target number =>
      obtain ⟨rfl, _⟩ := underway.wire target number member
      rcases step_packet _ _ _ taken with ⟨rfl, _⟩ | ⟨args, opened, _⟩
      · exact there
      · have same := Option.some.inj (there.symm.trans opened)
        rw [same] at closed
        cases closed

/-- An acknowledgement is read. -/
theorem Kept.acknowledge (few : chunkCount file ≤ 65535) (kept : Kept file transfer) {ack : Ack}
    (member : ack ∈ transfer.server.acks) :
    Kept file { transfer with phase := transfer.phase.acknowledged file ack } := by
  obtain ⟨server, phase, wire⟩ := transfer
  cases phase with
  | asking =>
    have asking : Asking ⟨server, .asking, wire⟩ := kept
    simp only [Phase.acknowledged, (asking.acks ack member).1, if_true]
    exact (asking.settled member).phased _
  | sending port number =>
    have underway : Underway file port number ⟨server, .sending port number, wire⟩ := kept
    have counted := underway.counted
    simp only [Phase.acknowledged, Nat.mod_eq_of_lt (show number < 65536 by omega)]
    by_cases answered : ack.connection = port ∧ ack.block = number
    · rw [if_pos answered]
      obtain ⟨own, there, accepted⟩ := underway.accepted_all member answered.1 answered.2
      by_cases last : number = chunkCount file
      · rw [if_pos last]
        exact ⟨last ▸ underway.phased _, own, there, last ▸ accepted⟩
      · rw [if_neg last]
        refine ⟨underway.intact, ⟨by omega, by omega⟩, ?_, underway.others, ?_, underway.acks⟩
        · intro connection same
          obtain rfl := Option.some.inj (same.symm.trans there)
          omega
        · intro target other sent
          obtain ⟨same, first, most⟩ := underway.wire target other sent
          exact ⟨same, first, Nat.le_succ_of_le most⟩
    · rw [if_neg answered]
      exact underway
  | done port => exact kept

/-- One event keeps the transfer, unless it is a late request. -/
theorem Kept.event (few : chunkCount file ≤ 65535) (kept : Kept file transfer) {event : Event}
    (timely : NoLateRequest transfer event) (taken : step file transfer event = some next) :
    Kept file next := by
  cases event with
  | transmit =>
    obtain ⟨message, sends, rfl⟩ := Option.map_eq_some_iff.mp taken
    exact kept.transmit sends
  | deliver position arrival room =>
    obtain ⟨message, there, further⟩ := Option.bind_eq_some_iff.mp taken
    obtain ⟨server, served, rfl⟩ := Option.map_eq_some_iff.mp further
    exact kept.deliver few (List.mem_of_getElem? there) arrival room
      (fun request => timely (request ▸ there)) served
  | acknowledge position =>
    obtain ⟨ack, there, rfl⟩ := Option.map_eq_some_iff.mp taken
    exact kept.acknowledge few (List.mem_of_getElem? there)

theorem start_kept (file : List Byte) : Kept file start where
  overrun := rfl
  flash := rfl
  count := rfl
  ports := fun _ member => absurd member List.not_mem_nil
  wire := fun _ member => absurd member List.not_mem_nil
  acks := fun _ member => absurd member List.not_mem_nil

/-- The file has arrived: it stands in the flash, up to the end of its last word, and its
bytes are counted. The bytes behind it, up to three, belong to the last word that was
programmed. -/
def Arrived (file : List Byte) (server : Server) : Prop :=
  file <+: server.flash ∧ server.flash.length < file.length + 4 ∧
    server.totalCount = BitVec.ofNat 32 file.length

/-- What a client and its server owe each other. Once the client has a port, the flash holds
the blocks that this port has accepted, and the port is closed exactly when these are all.
While the client sends a block, the ones before it are among them, so that whatever was
acknowledged is in the flash; and a client that is done has its file there. -/
structure Owed (file : List Byte) (transfer : Transfer) : Prop where
  overrun : transfer.server.overrun = false
  sending : ∀ port number, transfer.phase = .sending port number →
    Intact file port transfer.server ∧
      ∃ connection, transfer.server.connections[port]? = some connection ∧
        number - 1 ≤ connection.args.block
  done : ∀ port, transfer.phase = .done port →
    Intact file port transfer.server ∧ Arrived file transfer.server

/-- A port that has all blocks has brought the file. -/
theorem arrived_of_all {port : Nat} {server : Server} (intact : Intact file port server)
    {connection : Connection} (there : server.connections[port]? = some connection)
    (all : connection.args.block = chunkCount file) : Arrived file server := by
  obtain ⟨same, sameThere, _, holds, bytes, count, _⟩ := intact.progress
  obtain rfl := Option.some.inj (sameThere.symm.trans there)
  have whole := front_chunkCount file
  obtain ⟨starts, length⟩ := holds
  rw [all, whole] at starts length bytes
  rw [bytes] at count
  refine ⟨starts, ?_, count⟩
  rw [length, wordCount_eq]
  omega

theorem Kept.owed (kept : Kept file transfer) : Owed file transfer := by
  obtain ⟨server, phase, wire⟩ := transfer
  cases phase with
  | asking =>
    have asking : Asking ⟨server, .asking, wire⟩ := kept
    exact ⟨asking.overrun, nofun, nofun⟩
  | sending port number =>
    have underway : Underway file port number ⟨server, .sending port number, wire⟩ := kept
    refine ⟨underway.intact.overrun, ?_, nofun⟩
    rintro other last same
    obtain ⟨rfl, rfl⟩ := Phase.sending.inj same
    obtain ⟨connection, there, _⟩ := underway.intact.progress
    have ahead := (underway.accepted connection there).2
    exact ⟨underway.intact, connection, there, by omega⟩
  | done port =>
    obtain ⟨underway, own, there, all⟩ := kept
    refine ⟨underway.intact.overrun, nofun, ?_⟩
    rintro other same
    obtain rfl := Phase.done.inj same
    exact ⟨underway.intact, arrived_of_all underway.intact there all⟩

/-- A request that leaves what they owe each other was no late one. -/
theorem Kept.timely (kept : Kept file transfer) {event : Event}
    (taken : step file transfer event = some next) (owed : Owed file next) :
    NoLateRequest transfer event := by
  cases event with
  | transmit => trivial
  | acknowledge position => trivial
  | deliver position arrival room =>
    rintro there rfl
    obtain ⟨message, same, further⟩ := Option.bind_eq_some_iff.mp taken
    obtain rfl := Option.some.inj (same.symm.trans there)
    obtain ⟨server, served, rfl⟩ := Option.map_eq_some_iff.mp further
    obtain rfl := Option.some.inj served
    simp only [iapTftpRecvCallback, decodeOp_request, if_true] at owed
    obtain ⟨server, phase, wire⟩ := transfer
    cases phase with
    | asking =>
      have asking : Asking ⟨server, .asking, wire⟩ := kept
      exact asking.flash
    | sending port number =>
      have underway : Underway file port number ⟨server, .sending port number, wire⟩ := kept
      exact (intact_request_iff underway.intact).mp (owed.sending port number rfl).1
    | done port =>
      obtain ⟨underway, _⟩ := kept
      exact (intact_request_iff underway.intact).mp (owed.done port rfl).1

/-- A transfer over a network that loses, repeats and reorders what it carries: client and
server keep what they owe each other in every state of a run exactly when no request of the
run is served behind the first write. A file has at most as many blocks as the wire's
sixteen bits can number. A late request is the one thing that the network can do harm with,
because it erases what was written. -/
theorem transfer_arrives_iff (file : List Byte) (few : chunkCount file ≤ 65535)
    (events : List Event) :
    Always (step file) (Owed file) start events ↔
      Guarded (step file) NoLateRequest start events :=
  always_iff_guarded (Kept file) (Owed file) (fun _ kept => kept.owed)
    (fun _ _ _ kept timely taken => kept.event few timely taken)
    (fun _ _ _ kept taken owed => kept.timely taken owed) (start_kept file) events

/-- What a message meets when nothing is in its way. -/
def clean : Arrival := ⟨⟨[], [], false⟩, 0, 0, fun _ => 0, true⟩

/-- What it meets when there is no buffer for the answer. -/
def unanswered : Arrival := { clean with answers := false }

/-- A file of two blocks. -/
def twoBlocks : List Byte := List.replicate 512 7 ++ [9]

/-- The request is sent twice, and both copies are served before the client reads the first
answer. The answer to the first block gets lost, so the block is sent again and comes three
times in all; the second block comes twice, once behind its own acknowledgement. -/
def lossyRun : List Event :=
  [.transmit, .transmit, .deliver 1 clean .enough, .deliver 0 clean .enough, .acknowledge 0,
    .transmit, .deliver 2 unanswered .enough, .transmit, .deliver 3 clean .enough, .acknowledge 2,
    .deliver 2 clean .enough, .transmit, .deliver 4 clean .enough, .acknowledge 4, .acknowledge 2,
    .deliver 4 clean .enough]

/-- The file arrives all the same, and its client knows. -/
theorem two_blocks_arrive :
    (run (step twoBlocks) start lossyRun).map (fun transfer => transfer.phase) = some (.done 0) ∧
      Always (step twoBlocks) (Owed twoBlocks) start lossyRun :=
  ⟨by decide +kernel,
    (transfer_arrives_iff twoBlocks (by decide +kernel) lossyRun).mpr (by decide +kernel)⟩

/-! ## A transfer can be finished -/

/-- An answered round: send, deliver, acknowledge. -/
def roundOf (transfer : Transfer) : List Event :=
  [.transmit, .deliver transfer.wire.length clean .enough,
    .acknowledge transfer.server.acks.length]

/-- What an answered round leaves. -/
theorem round_run {message : Message} (sends : transfer.phase.message = some message)
    {server : Server} {ack : Ack}
    (served : IapServer.step transfer.server (datagram file message clean .enough) = some server)
    (answer : server.acks = transfer.server.acks ++ [ack])
    (timely : message = .request → transfer.server.flash = []) :
    run (step file) transfer (roundOf transfer) =
        some ⟨server, transfer.phase.acknowledged file ack, transfer.wire ++ [message]⟩ ∧
      Guarded (step file) NoLateRequest transfer (roundOf transfer) := by
  have sent : (transfer.wire ++ [message])[transfer.wire.length]? = some message :=
    List.getElem?_concat_length
  have answered : server.acks[transfer.server.acks.length]? = some ack := by
    rw [answer]
    exact List.getElem?_concat_length
  constructor
  · simp only [roundOf, run, step, sends, Option.map_some, sent, Option.bind_some, served, answered]
  · simp only [roundOf, Guarded, step, sends, Option.map_some, sent, Option.bind_some, served,
      answered, NoLateRequest, Option.some.injEq, and_true, true_and]
    exact fun request _ => timely request

variable (file) in
/-- A round of a client that asks settles its port. -/
theorem round_asking (asking : Asking transfer) (phase : transfer.phase = .asking) :
    ∃ next, run (step file) transfer (roundOf transfer) = some next ∧
      Guarded (step file) NoLateRequest transfer (roundOf transfer) ∧
      next.phase = .sending transfer.server.connections.length 1 := by
  have answered := (iapTftpProcessWrite_state transfer.server
    { clean with pbuf := { clean.pbuf with payload := requestPacket } }).2.2.2.2
  have sends : transfer.phase.message = some .request := by rw [phase, Phase.message]
  have served : IapServer.step transfer.server (datagram file .request clean .enough) =
      some (iapTftpProcessWrite transfer.server
        { clean with pbuf := { clean.pbuf with payload := requestPacket } }) := rfl
  obtain ⟨completed, timely⟩ := round_run sends served answered fun _ => asking.flash
  refine ⟨_, completed, timely, ?_⟩
  rw [phase]
  rfl

/-- A round of a client that sends to an open port comes to the next block, or to the end. -/
theorem round_sending (few : chunkCount file ≤ 65535) {port number : Nat}
    (underway : Underway file port number transfer) (phase : transfer.phase = .sending port number)
    {args : Args} (there : transfer.server.connections[port]? = some ⟨args, true⟩) :
    ∃ next, run (step file) transfer (roundOf transfer) = some next ∧
      Guarded (step file) NoLateRequest transfer (roundOf transfer) ∧
      next.phase = if number = chunkCount file then .done port else .sending port (number + 1) := by
  have counted := underway.counted
  obtain ⟨behind, ahead⟩ := underway.accepted _ there
  obtain ⟨after, _, block, acks⟩ := iapWrqRecvCallback_port transfer.server port args
    { clean with pbuf := { clean.pbuf with payload := packetOf file (.block port number) } } rfl
  obtain ⟨extracted, _⟩ := extractBlock_block file port number clean
  have reached : after.args.block % 65536 = number := by
    rw [block, extracted]
    simp only [] at behind ahead
    split <;> omega
  have sends : transfer.phase.message = some (.block port number) := by rw [phase, Phase.message]
  have served : IapServer.step transfer.server (datagram file (.block port number) clean .enough) =
      some (iapWrqRecvCallback transfer.server port args
        { clean with pbuf := { clean.pbuf with payload := packetOf file (.block port number) } }) := by
    simp only [IapServer.step, datagram, there]
  obtain ⟨completed, timely⟩ := round_run sends served acks Message.noConfusion
  refine ⟨_, completed, timely, ?_⟩
  rw [phase, reached]
  simp only [Phase.acknowledged, true_and]
  rw [Nat.mod_eq_of_lt (show number < 65536 by omega), if_pos rfl]

/-- The port is open as long as the file is not there. -/
theorem Underway.open_or_arrived {port sent : Nat} (underway : Underway file port sent transfer) :
    Arrived file transfer.server ∨
      ∃ args, transfer.server.connections[port]? = some ⟨args, true⟩ := by
  obtain ⟨⟨args, bound⟩, there, _, _, _, _, ended⟩ := underway.intact.progress
  cases bound with
  | false => exact .inl (arrived_of_all underway.intact there (ended.mp rfl))
  | true => exact .inr ⟨args, there⟩

/-- A run without late requests keeps the transfer. -/
theorem Kept.run (few : chunkCount file ≤ 65535) (kept : Kept file transfer) {events : List Event}
    (timely : Guarded (step file) NoLateRequest transfer events)
    (completed : run (step file) transfer events = some next) : Kept file next :=
  always_final (always_of_guarded (Kept file) (Kept file) (fun _ kept => kept)
    (fun _ _ _ kept timely taken => kept.event few timely taken) kept events timely) completed

/-- A client that sends is some answered rounds away from the end. -/
theorem finish_sending (few : chunkCount file ≤ 65535) (rounds : Nat) {port number : Nat}
    (kept : Kept file transfer) (phase : transfer.phase = .sending port number)
    (remaining : chunkCount file - number = rounds) :
    ∃ more final, run (step file) transfer more = some final ∧
      Guarded (step file) NoLateRequest transfer more ∧ Arrived file final.server ∧
      more.length ≤ 3 * (rounds + 1) := by
  induction rounds generalizing transfer number with
  | zero =>
    have underway : Underway file port number transfer := by
      unfold Kept at kept
      rwa [phase] at kept
    rcases underway.open_or_arrived with arrived | ⟨args, there⟩
    · exact ⟨[], transfer, rfl, trivial, arrived, Nat.zero_le _⟩
    · obtain ⟨next, completed, timely, ended⟩ := round_sending few underway phase there
      have last : number = chunkCount file := by
        have counted := underway.counted
        omega
      rw [if_pos last] at ended
      have behind := kept.run few timely completed
      unfold Kept at behind
      rw [ended] at behind
      obtain ⟨done, own, found, all⟩ := behind
      exact ⟨_, next, completed, timely, arrived_of_all done.intact found all, Nat.le_refl 3⟩
  | succ rounds inductionHypothesis =>
    have underway : Underway file port number transfer := by
      unfold Kept at kept
      rwa [phase] at kept
    rcases underway.open_or_arrived with arrived | ⟨args, there⟩
    · exact ⟨[], transfer, rfl, trivial, arrived, Nat.zero_le _⟩
    · obtain ⟨next, completed, timely, further⟩ := round_sending few underway phase there
      rw [if_neg (by omega)] at further
      obtain ⟨more, final, finished, timelyRest, arrived, short⟩ :=
        inductionHypothesis (kept.run few timely completed) further (by omega)
      refine ⟨roundOf transfer ++ more, final, (run_append completed more).trans finished,
        guarded_append completed timely timelyRest, arrived, ?_⟩
      rw [List.length_append]
      have three : (roundOf transfer).length = 3 := rfl
      omega

/-- From every state of a run without late requests, three more events for each block and
three for the request bring the file into the flash. The further events are answered rounds,
and none of them is a late request. Nothing is assumed of what was lost before. -/
theorem transfer_can_finish (file : List Byte) (few : chunkCount file ≤ 65535)
    (events : List Event) (timely : Guarded (step file) NoLateRequest start events)
    (transfer : Transfer) (reached : run (step file) start events = some transfer) :
    ∃ more final, run (step file) transfer more = some final ∧
      Guarded (step file) NoLateRequest transfer more ∧ Arrived file final.server ∧
      more.length ≤ 3 * (chunkCount file + 1) := by
  have kept := (start_kept file).run few timely reached
  cases phase : transfer.phase with
  | asking =>
    have asking : Asking transfer := by
      unfold Kept at kept
      rwa [phase] at kept
    obtain ⟨next, completed, timelyRound, settled⟩ := round_asking file asking phase
    obtain ⟨more, final, finished, timelyRest, arrived, short⟩ :=
      finish_sending few _ (kept.run few timelyRound completed) settled rfl
    refine ⟨roundOf transfer ++ more, final, (run_append completed more).trans finished,
      guarded_append completed timelyRound timelyRest, arrived, ?_⟩
    rw [List.length_append]
    have three : (roundOf transfer).length = 3 := rfl
    have some : 1 ≤ chunkCount file := Nat.succ_le_succ (Nat.zero_le _)
    omega
  | sending port number =>
    obtain ⟨more, final, finished, timelyRest, arrived, short⟩ :=
      finish_sending few _ kept phase rfl
    exact ⟨more, final, finished, timelyRest, arrived, by omega⟩
  | done port =>
    unfold Kept at kept
    rw [phase] at kept
    obtain ⟨done, own, found, all⟩ := kept
    exact ⟨[], transfer, rfl, trivial, arrived_of_all done.intact found all, Nat.zero_le _⟩

/-- The first block of two came twice, and neither answer was read: the transfer is still at
that block. -/
theorem two_blocks_can_finish :
    ∃ transfer more final, run (step twoBlocks) start (lossyRun.take 9) = some transfer ∧
      transfer.phase = .sending 0 1 ∧ run (step twoBlocks) transfer more = some final ∧
      Guarded (step twoBlocks) NoLateRequest transfer more ∧ Arrived twoBlocks final.server ∧
      more.length ≤ 3 * (chunkCount twoBlocks + 1) := by
  have ends : (run (step twoBlocks) start (lossyRun.take 9)).map (fun transfer => transfer.phase) =
      some (.sending 0 1) := by
    decide +kernel
  obtain ⟨transfer, reached, phase⟩ := Option.map_eq_some_iff.mp ends
  obtain ⟨more, final, finishes⟩ := transfer_can_finish twoBlocks (by decide +kernel)
    (lossyRun.take 9) (by decide +kernel) transfer reached
  exact ⟨transfer, more, final, reached, phase, finishes⟩

end runs

end UcosProxy.IapTransfer
