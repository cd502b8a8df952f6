import UcosProxy.TftpReceive

/-!
# The transfer identifier

A transfer begins at the well-known port, and the server answers from a port of its
choice that should then stay the same. The client keeps `server_port` and a flag
that says whether it was changed. The flag tells apart a port that was taken over
and one that was not, but not whether a packet was already accepted: an answer from
port 69 leaves the transfer open to whoever sends next.

`accepted` is the history of the DATA and OACK packets that the loop took without
leaving, with the port of each and whether its payload went to flash. The callback
may come between any two steps of the loop, and a packet that it overwrites before
the loop reads it was never accepted.
-/

namespace UcosProxy.TransferId

open Bytes Runs TftpClient TftpSteps TftpReceive

variable {Flash : Type}

/-- A packet of the transfer that the loop accepted. One that is accepted without being
stored still settles the port. -/
structure Accepted where
  port : Nat
  stored : Bool
deriving DecidableEq

/-- The loop with the packets it accepted. What was accepted is history, in the order in
which it was. -/
structure Traced (Flash : Type) where
  loop : Loop Flash
  accepted : List Accepted

/-- What the next step of the loop accepts. -/
def accepts (platform : Platform Flash) (loop : Loop Flash) : List Accepted :=
  match loop.phase with
  | .process =>
    match (tftpProcess platform loop.tftp).2 with
    | .again => [⟨loop.tftp.recvPort, false⟩]
    | .store _ => [⟨loop.tftp.recvPort, true⟩]
    | .leave _ => []
  | _ => []

/-- One move of the loop or the callback, traced. -/
def tracedStep (platform : Platform Flash) (traced : Traced Flash) (move : LoopMove) :
    Option (Traced Flash) :=
  (loopStep platform traced.loop move).map fun loop =>
    { loop := loop
      accepted := match move with
        | .advance => traced.accepted ++ accepts platform traced.loop
        | _ => traced.accepted }

/-- A run begins behind `tftp_firmware_update_init`. -/
def tracedStart (platform : Platform Flash) (tftp : Tftp Flash) (recvSem : Nat) : Traced Flash where
  loop := ⟨tftpFirmwareUpdateInit platform tftp, recvSem, .request⟩
  accepted := []

/-- A stored block comes from the port of every packet accepted before it. Packets that were
accepted without being stored count as earlier ones, since the port of the server is settled
by any of them. -/
def OneTid (traced : Traced Flash) : Prop :=
  traced.accepted.Pairwise fun earlier later => later.stored = true → later.port = earlier.port

instance (traced : Traced Flash) : Decidable (OneTid traced) :=
  inferInstanceAs (Decidable (traced.accepted.Pairwise _))

/-- Whether a packet was accepted from the well-known port. The flag stays clear for such a
packet, because the port did not change. -/
def AnsweredFromWellknown (traced : Traced Flash) : Prop :=
  ∃ packet ∈ traced.accepted, packet.port = tftpWellknownPort

instance (traced : Traced Flash) : Decidable (AnsweredFromWellknown traced) :=
  inferInstanceAs (Decidable (∃ packet ∈ traced.accepted, packet.port = tftpWellknownPort))

/-- Once a packet was accepted from the well-known port, the next block is not taken
from another one. -/
def StaysAtWellknown (platform : Platform Flash) (traced : Traced Flash) : LoopMove → Prop
  | .advance =>
    traced.loop.phase = .process → AnsweredFromWellknown traced →
      BringsBlock platform traced.loop.tftp → (tftpCheckTid traced.loop.tftp).2 = true →
        traced.loop.tftp.recvPort = tftpWellknownPort
  | _ => True

instance (platform : Platform Flash) (traced : Traced Flash) :
    ∀ move, Decidable (StaysAtWellknown platform traced move)
  | .advance => inferInstanceAs (Decidable (_ → _ → _ → _ → _))
  | .timeout => isTrue trivial
  | .callback _ _ => isTrue trivial

/-! ## The port behind a step -/

/-- The function keeps the server's port and the flag. Inside the loop only the check of the
port changes them. -/
structure SameTid (before after : Tftp Flash) : Prop where
  serverPort : after.serverPort = before.serverPort
  changeFlag : after.changeFlag = before.changeFlag

/-- Behind the check of the port the loop body keeps port and flag. -/
theorem tftpProcess_tid (platform : Platform Flash) (tftp : Tftp Flash) :
    SameTid (tftpCheckTid tftp).1 (tftpProcess platform tftp).1 := by
  refine tftpProcess_keeps SameTid platform tftp ?refl ?trans ?assigns
  case refl =>
    intro before
    exact ⟨rfl, rfl⟩
  case trans =>
    intro before between after first second
    exact ⟨second.serverPort.trans first.serverPort, second.changeFlag.trans first.changeFlag⟩
  case assigns =>
    intro before after assigned
    cases assigned <;> exact ⟨rfl, rfl⟩

/-- Behind a stored block the loop body keeps port and flag. -/
theorem tftpAcknowledge_tid (platform : Platform Flash) (len : Nat) (tftp : Tftp Flash) :
    SameTid tftp (tftpAcknowledge platform len tftp).1 := by
  simp only [tftpAcknowledge, tftpFirmwareDownloadFinish]
  split
  · split
    · exact ⟨rfl, rfl⟩
    · exact ⟨rfl, rfl⟩
  · exact ⟨rfl, rfl⟩

/-- The ports that packets were accepted from: the well-known one as long as no other was
taken over, then that and the other. The flag and the port in the record say which of the
two it is. -/
structure Ports (traced : Traced Flash) : Prop where
  one : OneTid traced
  unchanged : traced.loop.tftp.changeFlag = false →
    traced.loop.tftp.serverPort = tftpWellknownPort
  changed : traced.loop.tftp.changeFlag = true → traced.loop.tftp.serverPort ≠ tftpWellknownPort
  ports : ∀ packet ∈ traced.accepted,
    packet.port = tftpWellknownPort ∨ packet.port = traced.loop.tftp.serverPort

/-- A move that accepts nothing and keeps port and flag. -/
theorem Ports.aside {traced : Traced Flash} (ports : Ports traced) (loop : Loop Flash)
    (same : SameTid traced.loop.tftp loop.tftp) : Ports { traced with loop := loop } where
  one := ports.one
  unchanged := by
    intro flag
    rw [same.serverPort]
    exact ports.unchanged (same.changeFlag ▸ flag)
  changed := by
    intro flag
    rw [same.serverPort]
    exact ports.changed (same.changeFlag ▸ flag)
  ports := by
    intro packet member
    rw [same.serverPort]
    exact ports.ports packet member

/-- The port check: a port of its own goes on, the first foreign one is taken over, a
later one is refused. -/
theorem tftpCheckTid_cases (tftp : Tftp Flash) :
    (tftp.recvPort = tftp.serverPort ∧ tftpCheckTid tftp = (tftp, true)) ∨
      (tftp.recvPort ≠ tftp.serverPort ∧ tftp.changeFlag = false ∧
        tftpCheckTid tftp =
          ({ tftp with serverPort := tftp.recvPort, changeFlag := true }, true)) ∨
      (tftp.recvPort ≠ tftp.serverPort ∧ tftp.changeFlag = true ∧
        tftpCheckTid tftp = (tftpSendErrorPacket 5 (ascii "Unknown TID") tftp, false)) := by
  by_cases same : tftp.recvPort = tftp.serverPort
  · exact Or.inl ⟨same, by simp only [tftpCheckTid, same, if_true]⟩
  · cases flag : tftp.changeFlag with
    | false =>
      refine Or.inr (Or.inl ⟨same, rfl, ?_⟩)
      simp only [tftpCheckTid, same, if_false, flag, Bool.false_eq_true]
    | true =>
      refine Or.inr (Or.inr ⟨same, rfl, ?_⟩)
      simp only [tftpCheckTid, same, if_false, flag, if_true]

/-- The loop accepts at most one packet, from the port of the datagram, which passed
the check; and it stores only what brings a block. -/
theorem accepts_cases (platform : Platform Flash) (loop : Loop Flash) (phase : loop.phase = .process) :
    accepts platform loop = [] ∨ ∃ stored, accepts platform loop = [⟨loop.tftp.recvPort, stored⟩] ∧
      (tftpCheckTid loop.tftp).2 = true ∧ (stored = true → BringsBlock platform loop.tftp) := by
  have passed (verdict : Verdict) (body : (tftpProcess platform loop.tftp).2 = verdict)
      (goesOn : verdict ≠ .leave .failed) : (tftpCheckTid loop.tftp).2 = true := by
    cases check : (tftpCheckTid loop.tftp).2 with
    | true => rfl
    | false =>
      rw [tftpProcess_refused platform loop.tftp check] at body
      exact absurd body.symm goesOn
  simp only [accepts, phase]
  cases body : (tftpProcess platform loop.tftp).2 with
  | again => exact Or.inr ⟨false, rfl, passed _ body (by simp), by simp⟩
  | store len =>
    obtain ⟨check, brings⟩ := (stores_iff platform loop.tftp).mp ⟨len, body⟩
    exact Or.inr ⟨true, rfl, check, fun _ => brings⟩
  | leave exit => exact Or.inl rfl

/-- A packet more keeps the law when the stored ones come from the ports before. -/
theorem oneTid_snoc (accepted : List Accepted) (packet : Accepted)
    (one : accepted.Pairwise fun earlier later => later.stored = true → later.port = earlier.port)
    (own : packet.stored = true → ∀ earlier ∈ accepted, packet.port = earlier.port) :
    (accepted ++ [packet]).Pairwise fun earlier later =>
      later.stored = true → later.port = earlier.port := by
  rw [List.pairwise_append]
  refine ⟨one, List.pairwise_singleton _ _, ?_⟩
  intro earlier before later last stored
  obtain rfl := List.mem_singleton.mp last
  exact own stored earlier before

/-- The loop body keeps the law when the next block stays with the well-known port. -/
theorem Ports.process {platform : Platform Flash} {traced : Traced Flash} (ports : Ports traced)
    (phase : traced.loop.phase = .process)
    (stays : StaysAtWellknown platform traced .advance) :
    Ports
      { loop := traced.loop.follow (tftpProcess platform traced.loop.tftp)
        accepted := traced.accepted ++ accepts platform traced.loop } := by
  have stays := stays phase
  have tid := tftpProcess_tid platform traced.loop.tftp
  have followed := traced.loop.follow_tftp (tftpProcess platform traced.loop.tftp).1
    (tftpProcess platform traced.loop.tftp).2
  have serverPort := (congrArg Tftp.serverPort followed).trans tid.serverPort
  have changeFlag := (congrArg Tftp.changeFlag followed).trans tid.changeFlag
  -- Every packet accepted before came from the well-known port or the present one.
  have home : ∀ stored, (tftpCheckTid traced.loop.tftp).2 = true →
      (stored = true → BringsBlock platform traced.loop.tftp) → stored = true →
      ∀ earlier ∈ traced.accepted, traced.loop.tftp.recvPort = earlier.port := by
    intro stored check brings holds earlier member
    have wellknown (same : earlier.port = tftpWellknownPort) :
        traced.loop.tftp.recvPort = earlier.port := by
      rw [same]
      exact stays ⟨earlier, member, same⟩ (brings holds) check
    rcases ports.ports earlier member with same | same
    · exact wellknown same
    · rcases tftpCheckTid_cases traced.loop.tftp with ⟨own, _⟩ | ⟨_, flag, _⟩ | ⟨_, _, refused⟩
      · exact own.trans same.symm
      · exact wellknown (same.trans (ports.unchanged flag))
      · rw [refused] at check
        cases check
  have one : OneTid
      { loop := traced.loop.follow (tftpProcess platform traced.loop.tftp)
        accepted := traced.accepted ++ accepts platform traced.loop } := by
    rcases accepts_cases platform traced.loop phase with none | ⟨stored, taken, check, brings⟩
    · simpa only [OneTid, none, List.append_nil] using ports.one
    · simp only [OneTid, taken]
      exact oneTid_snoc _ _ ports.one (home stored check brings)
  have from_recvPort : ∀ packet ∈ accepts platform traced.loop,
      packet.port = traced.loop.tftp.recvPort ∧ (tftpCheckTid traced.loop.tftp).2 = true := by
    intro packet member
    rcases accepts_cases platform traced.loop phase with none | ⟨stored, taken, check, _⟩
    · rw [none] at member
      cases member
    · rw [taken] at member
      obtain rfl := List.mem_singleton.mp member
      exact ⟨rfl, check⟩
  -- A port that is not taken over leaves the server's port and the flag.
  have kept (port : (tftpCheckTid traced.loop.tftp).1.serverPort = traced.loop.tftp.serverPort)
      (flag : (tftpCheckTid traced.loop.tftp).1.changeFlag = traced.loop.tftp.changeFlag)
      (new : ∀ packet ∈ accepts platform traced.loop, packet.port = traced.loop.tftp.serverPort) :
      Ports
        { loop := traced.loop.follow (tftpProcess platform traced.loop.tftp)
          accepted := traced.accepted ++ accepts platform traced.loop } := by
    rw [port] at serverPort
    rw [flag] at changeFlag
    refine ⟨one, ?_, ?_, ?_⟩
    · intro unset
      exact serverPort.trans (ports.unchanged (changeFlag ▸ unset))
    · intro set same
      exact ports.changed (changeFlag ▸ set) (serverPort.symm.trans same)
    · intro packet member
      rcases List.mem_append.mp member with earlier | later
      · exact (ports.ports packet earlier).imp_right fun same => same.trans serverPort.symm
      · exact Or.inr ((new packet later).trans serverPort.symm)
  rcases tftpCheckTid_cases traced.loop.tftp with ⟨own, checked⟩ | ⟨foreign, flag, checked⟩ |
    ⟨foreign, flag, checked⟩
  · refine kept (by rw [checked]) (by rw [checked]) ?_
    intro packet member
    exact (from_recvPort packet member).1.trans own
  · rw [checked] at serverPort changeFlag
    have wellknown := ports.unchanged flag
    refine ⟨one, ?_, ?_, ?_⟩
    · intro unset
      rw [changeFlag] at unset
      cases unset
    · intro _ same
      exact foreign ((serverPort.symm.trans same).trans wellknown.symm)
    · intro packet member
      rcases List.mem_append.mp member with earlier | new
      · have before := ports.ports packet earlier
        rw [wellknown, or_self] at before
        exact Or.inl before
      · exact Or.inr ((from_recvPort packet new).1.trans serverPort.symm)
  · refine kept (by rw [checked]; rfl) (by rw [checked]; rfl) ?_
    intro packet member
    have check := (from_recvPort packet member).2
    rw [checked] at check
    cases check

/-- Every move keeps the law when the next block stays with the well-known port. -/
theorem Ports.keeps {platform : Platform Flash} (traced : Traced Flash) (move : LoopMove)
    (next : Traced Flash) (ports : Ports traced) (stays : StaysAtWellknown platform traced move)
    (taken : tracedStep platform traced move = some next) : Ports next := by
  obtain ⟨loop, moved, rfl⟩ := Option.map_eq_some_iff.mp taken
  cases move with
  | callback bytes port =>
    obtain rfl := Option.some.inj moved
    exact ports.aside _ ⟨rfl, rfl⟩
  | timeout =>
    obtain ⟨_, rfl⟩ := timeout_eq_some moved
    exact ports.aside _ ⟨rfl, rfl⟩
  | advance =>
    have quiet (phase : traced.loop.phase ≠ .process) :
        traced.accepted ++ accepts platform traced.loop = traced.accepted := by
      have none : accepts platform traced.loop = [] := by
        cases other : traced.loop.phase with
        | process => exact absurd other phase
        | _ => simp only [accepts, other]
      rw [none, List.append_nil]
    cases advances moved with
    | process after verdict phase body =>
      rw [← body]
      exact ports.process phase stays
    | request phase =>
      simp only [quiet (by simp [phase])]
      exact ports.aside _ ⟨rfl, rfl⟩
    | clear phase =>
      simp only [quiet (by simp [phase])]
      exact ports.aside _ ⟨rfl, rfl⟩
    | pend left phase woken =>
      simp only [quiet (by simp [phase])]
      exact ports.aside _ ⟨rfl, rfl⟩
    | acknowledge len after exit phase body =>
      have tid := tftpAcknowledge_tid platform len traced.loop.tftp
      rw [body] at tid
      simp only [quiet (by simp [phase])]
      apply ports.aside
      rwa [Loop.conclude_tftp]

/-- A next block from another port, behind a packet from the well-known one, breaks
the law. -/
theorem Ports.needed {platform : Platform Flash} (traced : Traced Flash) (move : LoopMove)
    (next : Traced Flash) (taken : tracedStep platform traced move = some next)
    (one : OneTid next) : StaysAtWellknown platform traced move := by
  cases move with
  | timeout => trivial
  | callback bytes port => trivial
  | advance =>
    intro phase ⟨earlier, member, wellknown⟩ brings check
    obtain ⟨loop, _, rfl⟩ := Option.map_eq_some_iff.mp taken
    obtain ⟨len, stores⟩ := (stores_iff platform traced.loop.tftp).mpr ⟨check, brings⟩
    have stored : accepts platform traced.loop = [⟨traced.loop.tftp.recvPort, true⟩] := by
      simp only [accepts, phase, stores]
    simp only [OneTid, stored, List.pairwise_append] at one
    have same := one.2.2 earlier member _ (List.mem_singleton.mpr rfl) rfl
    exact same.trans wellknown

/-- Nothing is accepted behind `tftp_firmware_update_init`. -/
theorem tracedStart_ports (platform : Platform Flash) (tftp : Tftp Flash) (recvSem : Nat) :
    Ports (tracedStart platform tftp recvSem) where
  one := List.Pairwise.nil
  unchanged := fun _ => rfl
  changed := fun set => absurd set (by simp [tracedStart, tftpFirmwareUpdateInit])
  ports := by
    intro packet member
    cases member

/-- For every order of the loop and the callback and any datagrams from any ports: a stored
block comes from the port of every packet accepted before it, exactly when no block is taken
from another port once a packet was accepted from the well-known one. A transfer that is
first answered from another port keeps to it without a condition. Nothing is asked of the
packets that are refused, and an error packet to a third port changes nothing. -/
theorem blocks_keep_their_port (platform : Platform Flash) (tftp : Tftp Flash) (recvSem : Nat)
    (moves : List LoopMove) :
    Always (tracedStep platform) OneTid (tracedStart platform tftp recvSem) moves ↔
      Guarded (tracedStep platform) (StaysAtWellknown platform)
        (tracedStart platform tftp recvSem) moves :=
  always_iff_guarded Ports OneTid (fun _ ports => ports.one) Ports.keeps
    (fun traced move next _ => Ports.needed traced move next)
    (tracedStart_ports platform tftp recvSem) moves

/-- A datagram that comes while the loop waits, up to the end of the loop body. -/
def received (bytes : List Byte) (port : Nat) : List LoopMove :=
  [.advance, .callback bytes port, .advance, .advance]

/-- The server answers from port 69, and the second block comes from another port. -/
def strayBlock : List LoopMove :=
  [.advance] ++ received (dataPacket 1 (List.replicate 256 1)) tftpWellknownPort ++ [.advance] ++
    received (dataPacket 2 (List.replicate 256 2)) 5000

/-- The stray block is stored. -/
theorem strayBlock_stored :
    (run (tracedStep samplePlatform) (tracedStart samplePlatform sampleClient 0) strayBlock).map
      (·.accepted) = some [⟨69, true⟩, ⟨5000, true⟩] := by
  decide +kernel

/-- Some run stores blocks from two ports. -/
theorem blocks_do_not_always_keep_their_port :
    ¬ ∀ moves : List LoopMove, Always (tracedStep samplePlatform) OneTid
      (tracedStart samplePlatform sampleClient 0) moves := by
  intro keeps
  obtain ⟨final, completed, accepted⟩ := Option.map_eq_some_iff.mp strayBlock_stored
  have one : OneTid final := always_final (keeps strayBlock) completed
  simp only [OneTid, accepted] at one
  exact absurd one (by decide)

end UcosProxy.TransferId
