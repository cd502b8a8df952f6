import UcosProxy.UpdateThread

/-!
# Where a transfer's packets go

The server address is one field, written by `http_accept` for every connection and
read again for every packet. The history `transferHost` is the host of the request
whose post woke the update thread. This module says when the packets of a transfer
go to that host.

The field always holds the host of the connection accepted last. So a packet goes
home exactly when, at that moment, the last accepted connection came from the
requesting host, and `packets_go_home` says that over whole runs: a connection of
another host, accepted between the request and any later packet of its transfer,
takes the packet away.
-/

namespace UcosProxy.TransferHost

open Bytes TftpClient TftpSteps TftpReceive UpdateThread Runs

variable {Flash : Type}

/-- Every packet of the transfer was sent to the host that asked for it. Before
`tftp_firmware_update_init` the packets are still those of the transfer before. The packets
are history, and the host of the request is kept beside the semaphore, where the source
keeps only a count. -/
def SentHome (world : World Flash) : Prop :=
  world.thread ≠ .init → ∀ packet ∈ world.loop.tftp.sent, packet.ip = world.transferHost

/-- When the client's next step sends a packet, the connection accepted last came
from the host of the request. -/
def LastAcceptedIsHome (platform : Platform Flash) (world : World Flash) : Event → Prop
  | .thread => world.thread = .running → ∀ loop, world.loop.advance platform = some loop →
      loop.tftp.sent ≠ world.loop.tftp.sent → world.accepted.getLast? = some world.transferHost
  | _ => True

/-- What holds between any two steps. The address that the client sends to is that of the
last accepted connection, whoever it was. -/
structure Homed (world : World Flash) : Prop where
  home : SentHome world
  last : ∀ ip, world.accepted.getLast? = some ip → world.loop.tftp.serverIp = ip
  asked : world.accepted = [] → world.posts = [] ∧ world.web = .idle ∧
    world.thread ≠ .init ∧ world.thread ≠ .running

/-- Every step of the receive loop sends only to the server address. -/
theorem advance_addressed {platform : Platform Flash} {loop next : Loop Flash}
    (advanced : loop.advance platform = some next) : Addressed loop.tftp next.tftp := by
  cases advances advanced with
  | request phase => exact tftpSendto_addressed _ _ loop.tftp
  | clear phase => exact .silent rfl rfl rfl rfl
  | pend left phase woken => exact .silent rfl rfl rfl rfl
  | process after verdict phase body =>
    have addressed := tftpProcess_addressed platform loop.tftp
    rw [body] at addressed
    rwa [Loop.follow_tftp]
  | acknowledge len after exit phase body =>
    have addressed := tftpAcknowledge_addressed platform len loop.tftp
    rw [body] at addressed
    rwa [Loop.conclude_tftp]

/-- While a transfer runs, some connection was accepted and the server address is
the last one's host. -/
theorem Homed.serverIp {world : World Flash} (homed : Homed world)
    (runs : world.thread = .running) :
    world.accepted.getLast? = some world.loop.tftp.serverIp := by
  cases last : world.accepted.getLast? with
  | none =>
    have empty : world.accepted = [] := List.getLast?_eq_none_iff.mp last
    exact False.elim ((homed.asked empty).2.2.2 runs)
  | some ip => rw [homed.last ip last]

/-- A step that leaves the packets, the address and the transfer's host alone. -/
theorem Homed.aside {world next : World Flash} (homed : Homed world)
    (sent : next.loop.tftp.sent = world.loop.tftp.sent)
    (serverIp : next.loop.tftp.serverIp = world.loop.tftp.serverIp)
    (host : next.transferHost = world.transferHost) (accepted : next.accepted = world.accepted)
    (before : world.thread ≠ .init)
    (asked : next.accepted = [] → next.posts = [] ∧ next.web = .idle ∧
      next.thread ≠ .init ∧ next.thread ≠ .running) : Homed next where
  home := by
    intro _
    rw [sent, host]
    exact homed.home before
  last := by
    rw [accepted, serverIp]
    exact homed.last
  asked := asked

/-- A step of the receive loop keeps every packet home, when the address is that of the
requesting host whenever a packet is sent. -/
theorem Homed.advance {platform : Platform Flash} {world : World Flash} {loop : Loop Flash}
    (homed : Homed world) (last : LastAcceptedIsHome platform world .thread)
    (thread : world.thread = .running) (advanced : world.loop.advance platform = some loop) :
    Homed { world with loop := loop } := by
  have addressed := advance_addressed advanced
  refine ⟨fun _ packet member => ?_, ?_, fun empty => absurd thread (homed.asked empty).2.2.2⟩
  · obtain ⟨packets, sent, ips⟩ := addressed.sent
    change packet ∈ loop.tftp.sent at member
    rw [sent] at member
    rcases List.mem_append.mp member with earlier | new
    · exact homed.home (by simp [thread]) packet earlier
    · have grown : loop.tftp.sent ≠ world.loop.tftp.sent := by
        rw [sent]
        intro same
        rw [List.append_right_eq_self.mp same] at new
        simp at new
      have host := last thread loop advanced grown
      rw [homed.serverIp thread] at host
      exact (ips packet new).trans (Option.some.inj host)
  · intro ip accepted
    exact addressed.serverIp.trans (homed.last ip accepted)

/-- Every step keeps the packets home under the guard. -/
theorem Homed.keeps {platform : Platform Flash} (world : World Flash) (event : Event)
    (next : World Flash) (homed : Homed world) (last : LastAcceptedIsHome platform world event)
    (taken : step platform world event = some next) : Homed next := by
  have asked := homed.asked
  cases stepped taken with
  | accept ip idle =>
    refine ⟨homed.home, ?_, fun empty => ?_⟩
    · intro other final
      simp only [List.getLast?_append, List.getLast?_singleton, Option.some_or,
        Option.some.injEq] at final
      exact final
    · simp at empty
  | updateRequest connection value host idle found =>
    refine ⟨homed.home, homed.last, fun empty => ?_⟩
    change world.accepted = [] at empty
    simp [empty] at found
  | sized host value web =>
    exact ⟨homed.home, homed.last, fun empty => absurd (asked empty).2.1 (by simp [web])⟩
  | named host web =>
    exact ⟨homed.home, homed.last, fun empty => absurd (asked empty).2.1 (by simp [web])⟩
  | shown host web =>
    exact ⟨homed.home, homed.last, fun empty => absurd (asked empty).2.1 (by simp [web])⟩
  | clearStart thread =>
    refine homed.aside rfl rfl rfl rfl (by simp [thread]) fun empty => ?_
    exact ⟨rfl, (asked empty).2.1, by simp, by simp⟩
  | waitStart host rest thread posts =>
    refine ⟨fun outside => absurd rfl outside, homed.last, fun empty => ?_⟩
    rw [posts] at asked
    exact absurd (asked empty).1 (by simp)
  | init thread =>
    refine ⟨fun _ packet member => ?_, homed.last, fun empty => ?_⟩
    · simp [tftpFirmwareUpdateInit] at member
    · exact absurd thread (asked empty).2.2.1
  | failed thread phase =>
    exact homed.aside rfl rfl rfl rfl (by simp [thread])
      fun empty => absurd thread (asked empty).2.2.2
  | succeeded thread phase =>
    exact homed.aside rfl rfl rfl rfl (by simp [thread])
      fun empty => absurd thread (asked empty).2.2.2
  | advance loop thread advanced => exact homed.advance last thread advanced
  | failName thread =>
    refine homed.aside rfl rfl rfl rfl (by simp [thread]) fun empty => ?_
    exact ⟨(asked empty).1, (asked empty).2.1, by simp, by simp⟩
  | failStatus thread =>
    refine homed.aside rfl rfl rfl rfl (by simp [thread]) fun empty => ?_
    exact ⟨(asked empty).1, (asked empty).2.1, by simp, by simp⟩
  | timeout thread waits => exact ⟨homed.home, homed.last, homed.asked⟩
  | callback bytes port idle => exact ⟨homed.home, homed.last, homed.asked⟩

/-- A packet sent under another address is not home. -/
theorem Homed.needed {platform : Platform Flash} (world : World Flash) (event : Event)
    (next : World Flash) (homed : Homed world) (taken : step platform world event = some next)
    (home : SentHome next) : LastAcceptedIsHome platform world event := by
  cases event with
  | thread =>
    intro runs loop advanced grown
    have going : ∀ exit, world.loop.phase ≠ .done exit := by
      intro exit done
      simp [Loop.advance, done] at advanced
    have result : next = { world with loop := loop } := by
      simp only [step, threadStep, runs] at taken
      cases phase : world.loop.phase with
      | done exit => exact absurd phase (going exit)
      | _ =>
        simp only [phase, advanced, Option.map_some, Option.some.injEq] at taken
        rw [← taken, runs]
    subst result
    obtain ⟨packets, sent, ips⟩ := (advance_addressed advanced).sent
    obtain ⟨packet, new⟩ : ∃ packet, packet ∈ packets := by
      cases packets with
      | nil => exact absurd (by rw [sent, List.append_nil]) grown
      | cons packet rest => exact ⟨packet, List.mem_cons_self⟩
    have here : packet ∈ loop.tftp.sent := sent ▸ List.mem_append_right _ new
    have host : packet.ip = world.transferHost := home (by simp [runs]) packet here
    rw [homed.serverIp runs, ← ips packet new, host]
  | _ => trivial

/-- No packet was sent behind the creation of the threads. -/
theorem boot_homed (tftp : Tftp Flash) : Homed (boot tftp) where
  home := by
    intro _ packet member
    simp [boot] at member
  last := by
    intro ip last
    simp [boot] at last
  asked := fun _ => ⟨rfl, rfl, by simp [boot], by simp [boot]⟩

/-- In every interleaving of connections, requests and transfers, all packets of a transfer
go to the host that asked for it exactly when, at each of them, the last accepted connection
is that host's. The condition is on the moments at which the client sends, and a foreign
connection at any other time does no harm. -/
theorem packets_go_home (platform : Platform Flash) (tftp : Tftp Flash) (events : List Event) :
    Always (step platform) SentHome (boot tftp) events ↔
      Guarded (step platform) (LastAcceptedIsHome platform) (boot tftp) events :=
  always_iff_guarded Homed SentHome (fun _ homed => homed.home) Homed.keeps Homed.needed
    (boot_homed tftp) events

/-- An update request of one host, and a connection of another one before the read
request is sent. -/
def foreignConnection : List Event :=
  [.thread] ++ requestUpdate 0 (ascii "a.bin") ++ threadSteps 2 ++
    [.accept 0xc0a80003, .thread]

/-- The read request goes to the other host. -/
theorem foreign_connection_takes_request :
    ¬ Always (step samplePlatform) SentHome (boot sampleClient) foreignConnection := by
  intro along
  have ends : (run (step samplePlatform) (boot sampleClient) foreignConnection).map (fun world =>
      (world.thread, world.transferHost, world.loop.tftp.sent.map Packet.ip)) =
        some (.running, 0xc0a80002, [0xc0a80003]) := by
    decide
  obtain ⟨final, completed, facts⟩ := Option.map_eq_some_iff.mp ends
  simp only [Prod.mk.injEq] at facts
  obtain ⟨runs, host, ips⟩ := facts
  obtain ⟨packet, sent⟩ := List.map_eq_singleton_iff.mp ips
  have home := always_final along completed (by simp [runs]) packet (by simp [sent.1])
  rw [sent.2, host] at home
  exact absurd home (by decide)

end UcosProxy.TransferHost
