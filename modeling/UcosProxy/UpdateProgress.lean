import UcosProxy.UpdateStart

/-!
# The progress of an update

`update_cgi_interface` stores the size that the page announces and zeroes the length
counted so far, `tftp_handle_data` adds the length of every block to it, and
`update_status_ssi_handler` divides the one by the other while an update is shown. The
announced size is a text of the client, and the length is what the server sends; nothing
in the code ties them together.

A status poll runs in the web server's thread. It is cut where the status has been read
and the percentage not yet been computed, so that the update thread may count blocks in
between; the web server does nothing else until the answer. A poll may come whenever the
web server is idle, so the law is asked of every state in which one may compute the
percentage, with or without a poll under way.

`progress_is_reported_iff` gives the exact runs in which every such state is in order:
those in which the counted length stays below a hundred and one percent of the announced
size wherever a request posts or a block is counted. A size of zero is thereby excluded.
A file name is a text here, and that the buffers of the request hold it is not asked.
-/

namespace UcosProxy.UpdateProgress

open Bytes Runs TftpClient TftpSteps FirmwareImage TftpReceive UpdateThread UpdateStart

variable {Flash : Type}

/-- A `u32` converted to `int`. -/
def asInt (word : Nat) : Int := if word < 2147483648 then word else word - u32Modulus

/-- `tftp_get_progress_percent`: the quotient of two `u32`, returned as an `int`. There is
none where the divisor is zero. -/
def tftpGetProgressPercent (tftp : Tftp Flash) : Option Int :=
  if tftp.totalFileLen = 0 then none
  else some (asInt (tftp.fileLen * 100 % u32Modulus / tftp.totalFileLen))

/-- `update_status_ssi_handler` behind its reading of the status. It has no answer where the
percentage has none. -/
def updateStatusSsiHandler (tftp : Tftp Flash) : SsiStatus → Option (List Byte)
  | .updateDoing => (tftpGetProgressPercent tftp).map fun percent =>
      ascii "proc=" ++ ascii (toString percent) ++ ascii ";\n"
  | .updateSucceed => some (ascii "success")
  | .updateFailed => some (ascii "fail")
  | _ => some []

/-- The two threads of an update and the status poll of the web server. A poll under way
holds the web server's thread, so that no request falls into it; the update thread goes on. -/
structure Station (Flash : Type) where
  world : World Flash
  /-- The status was read as an update under way, and the percentage not computed yet. -/
  polling : Bool

/-- The moves: those of the two threads, a poll that reads the status, and its answer. The
threads keep the events that they have without the polls. -/
inductive Move where
  | event (event : Event)
  | poll
  | answer
deriving DecidableEq

/-- The events that the web server's thread takes. -/
def byWeb : Event → Bool
  | .thread => false
  | .timeout => false
  | _ => true

/-- One move. The web server does nothing else between a poll and its answer. -/
def stationStep (platform : Platform Flash) (station : Station Flash) : Move → Option (Station Flash)
  | .event event =>
    if station.polling && byWeb event then none
    else (step platform station.world event).map fun world => { station with world := world }
  | .poll =>
    if station.world.web = .idle ∧ station.polling = false then
      some { station with polling := decide (station.world.loop.tftp.updateSsiStatus = .updateDoing) }
    else none
  | .answer => if station.polling then some { station with polling := false } else none

/-- The station behind the creation of the threads. -/
def opening (tftp : Tftp Flash) : Station Flash := ⟨(cold tftp).world, false⟩

/-- A poll is about to compute the percentage, or would be if it came now. It does not ask
that a poll comes, since the page may send one at any time. -/
def Station.polled (station : Station Flash) : Prop :=
  station.polling = true ∨
    station.world.web = .idle ∧ station.world.loop.tftp.updateSsiStatus = .updateDoing

instance (station : Station Flash) : Decidable station.polled :=
  inferInstanceAs (Decidable (_ ∨ _ ∧ _))

/-- The percentage is well defined, computed without a wrap and a percentage. The three are
kept apart, because a divisor of zero is no number, a wrapped product a wrong one, and only
the last is a matter of size. -/
structure Reports (tftp : Tftp Flash) : Prop where
  divisor : tftp.totalFileLen ≠ 0
  product : tftp.fileLen * 100 < u32Modulus
  percent : ∃ percent, tftpGetProgressPercent tftp = some percent ∧ 0 ≤ percent ∧ percent ≤ 100

/-- Wherever a poll may compute the percentage, it is in order. Elsewhere the answer is a
word, and no division is made. -/
def ProgressReported (station : Station Flash) : Prop :=
  station.polled → Reports station.world.loop.tftp

/-- A length is less than a hundred and one percent of a size. This is the exact condition
for a quotient of at most a hundred, the percentage being rounded down. -/
def Covers (size length : Nat) : Prop := length * 100 < 101 * size

instance (size length : Nat) : Decidable (Covers size length) :=
  inferInstanceAs (Decidable (_ < _))

/-- The datagram in the frame buffer comes from an accepted port and carries the next block,
of one byte at least and a whole block at most. The length of the update area is not asked,
because the length is counted before it is compared. -/
def CountsBlock (tftp : Tftp Flash) : Prop :=
  (tftpCheckTid tftp).2 = true ∧ IsNextData tftp ∧ 4 < tftp.recvLen ∧
    tftp.recvLen ≤ tftpBlockSize + 4

instance (tftp : Tftp Flash) : Decidable (CountsBlock tftp) :=
  inferInstanceAs (Decidable (_ ∧ _ ∧ _ ∧ _))

/-- The length counted once the loop has processed what stands in the frame buffer. -/
def lengthBehind (loop : Loop Flash) : Nat :=
  if loop.phase = .process ∧ CountsBlock loop.tftp then loop.tftp.fileLen + (loop.tftp.recvLen - 4)
  else loop.tftp.fileLen

/-- A request that shows an update posts only where the announced size covers the length
counted. -/
def PostCovered (tftp : Tftp Flash) : WebPhase → Prop
  | .shown _ => tftp.updateSsiStatus = .updateDoing → Covers tftp.totalFileLen tftp.fileLen
  | _ => True

instance (tftp : Tftp Flash) : ∀ web, Decidable (PostCovered tftp web)
  | .shown _ => inferInstanceAs (Decidable (_ → _))
  | .idle => isTrue trivial
  | .sized _ _ => isTrue trivial
  | .named _ => isTrue trivial

/-- Where a poll may read it, no block is counted beyond the announced size. The length is
taken behind the block, so that what the block adds is covered before it is counted. -/
def CountCovered (station : Station Flash) : Prop :=
  station.polled → station.world.thread = .running →
    Covers station.world.loop.tftp.totalFileLen (lengthBehind station.world.loop)

instance (station : Station Flash) : Decidable (CountCovered station) :=
  inferInstanceAs (Decidable (_ → _ → _))

/-- The announced size covers what is posted and what is counted. Nothing is asked of the
polls. -/
def WithinAnnounced (station : Station Flash) : Move → Prop
  | .event .updateContinue => PostCovered station.world.loop.tftp station.world.web
  | .event .thread => CountCovered station
  | _ => True

instance (station : Station Flash) : ∀ move, Decidable (WithinAnnounced station move)
  | .event .updateContinue =>
    inferInstanceAs (Decidable (PostCovered station.world.loop.tftp station.world.web))
  | .event .thread => inferInstanceAs (Decidable (CountCovered station))
  | .event (.accept _) => isTrue trivial
  | .event (.updateRequest _ _) => isTrue trivial
  | .event .timeout => isTrue trivial
  | .event (.callback _ _) => isTrue trivial
  | .poll => isTrue trivial
  | .answer => isTrue trivial

/-! ## The quotient -/

/-- A quotient is a percentage exactly when the size covers the length. -/
theorem div_le_hundred_iff {size length : Nat} (positive : 0 < size) :
    length * 100 / size ≤ 100 ↔ Covers size length := by
  rw [← Nat.lt_succ_iff, Nat.div_lt_iff_lt_mul positive, Covers]

/-- An `int` that is a percentage is the `u32` it was converted from. -/
theorem asInt_percent {word : Nat} (small : word < u32Modulus) :
    0 ≤ asInt word ∧ asInt word ≤ 100 ↔ word ≤ 100 := by
  simp only [asInt, u32Modulus] at small ⊢
  split <;> omega

/-- A length whose product does not wrap is reported as a percentage exactly when the
announced size covers it. -/
theorem reports_iff {tftp : Tftp Flash} (product : tftp.fileLen * 100 < u32Modulus) :
    Reports tftp ↔ Covers tftp.totalFileLen tftp.fileLen := by
  have quotient : tftp.fileLen * 100 / tftp.totalFileLen < u32Modulus :=
    Nat.lt_of_le_of_lt (Nat.div_le_self _ _) product
  have computes (positive : 0 < tftp.totalFileLen) : tftpGetProgressPercent tftp =
      some (asInt (tftp.fileLen * 100 / tftp.totalFileLen)) := by
    rw [tftpGetProgressPercent, if_neg (Nat.ne_of_gt positive), Nat.mod_eq_of_lt product]
  constructor
  · intro reports
    have positive := Nat.pos_of_ne_zero reports.divisor
    obtain ⟨percent, computed, bounds⟩ := reports.percent
    obtain rfl := Option.some.inj ((computes positive).symm.trans computed)
    exact (div_le_hundred_iff positive).mp ((asInt_percent quotient).mp bounds)
  · intro covers
    have positive : 0 < tftp.totalFileLen := by
      simp only [Covers] at covers
      omega
    have bounds := (asInt_percent quotient).mpr ((div_le_hundred_iff positive).mpr covers)
    exact ⟨Nat.ne_of_gt positive, product, _, computes positive, bounds⟩

/-- A poll that finds the percentage in order is answered with it. -/
theorem Reports.answered {tftp : Tftp Flash} (reports : Reports tftp) :
    ∃ percent : Int, 0 ≤ percent ∧ percent ≤ 100 ∧
      updateStatusSsiHandler tftp .updateDoing =
        some (ascii "proc=" ++ ascii (toString percent) ++ ascii ";\n") := by
  obtain ⟨percent, computed, least, most⟩ := reports.percent
  exact ⟨percent, least, most, by rw [updateStatusSsiHandler, computed, Option.map_some]⟩

/-! ## What a step does to the counted length -/

/-- The `TFTP_DATA` case counts the next block when it has a length, whether or not it
fits. -/
theorem tftpDataCase_fileLen (platform : Platform Flash) (len : Nat) (tftp : Tftp Flash) :
    (tftpDataCase platform len tftp).1.fileLen =
      if wordAt tftp.frameBuffer 2 = tftp.prevBlock + 1 ∧ 2 < len ∧ len ≤ tftpBlockSize + 2 then
        (tftp.fileLen + (len - 2)) % u32Modulus
      else tftp.fileLen := by
  simp only [tftpDataCase]
  split
  case isTrue short => rw [if_neg (by omega)]
  case isFalse =>
    split
    case isTrue wrong => rw [if_neg (by omega)]
    case isFalse =>
      split
      case isTrue old =>
        rw [if_neg (by omega)]
        rfl
      case isFalse new =>
        split
        case isFalse sized => rw [if_neg (by omega)]
        case isTrue sized =>
          rw [if_pos (by omega), tftpHandleData_eq]
          by_cases large : (tftp.fileLen + (len - 2)) % u32Modulus > platform.updateFlashMemorySize
          · simp only [large, if_true]
          · simp only [large, if_false, handled]

/-- The loop body counts exactly the blocks that `CountsBlock` describes. -/
theorem tftpProcess_fileLen (platform : Platform Flash) (tftp : Tftp Flash) :
    (tftpProcess platform tftp).1.fileLen =
      if CountsBlock tftp then (tftp.fileLen + (tftp.recvLen - 4)) % u32Modulus
      else tftp.fileLen := by
  have quiet := tftpCheckTid_quiet tftp
  cases checking : tftpCheckTid tftp with
  | mk checked accepted =>
    rw [checking] at quiet
    have fileLen : checked.fileLen = tftp.fileLen := quiet.fileLen
    cases accepted with
    | false =>
      rw [tftpProcess_refused platform tftp (by rw [checking]), checking, if_neg, fileLen]
      simp [CountsBlock, checking]
    | true =>
      obtain ⟨frame, recvLen⟩ := tftpCheckTid_accepted tftp checked checking
      have prevBlock : checked.prevBlock = tftp.prevBlock := quiet.prevBlock
      have case := tftpDataCase_fileLen platform (checked.recvLen - 2) checked
      rw [frame, recvLen, prevBlock, fileLen, Nat.sub_sub] at case
      simp only [CountsBlock, IsNextData, tftpProcess, checking, frame, recvLen, true_and]
      by_cases short : tftp.recvLen < 2
      · simp only [short, if_true]
        rw [if_neg (by omega), fileLen]
      · simp only [short, if_false]
        by_cases data : wordAt tftp.frameBuffer 0 = TftpOpcode.data.code
        · simp only [data, if_true, true_and]
          rw [case]
          congr 1
          simp only [eq_iff_iff]
          omega
        · simp only [data, if_false, false_and]
          split
          · exact fileLen
          · split
            · exact fileLen
            · exact fileLen

/-- What a poll reads besides the counted length. The receive loop has these of the last
request, and changes the status with a success only. -/
structure SameShown (before after : Tftp Flash) : Prop where
  totalFileLen : after.totalFileLen = before.totalFileLen
  updateSsiStatus : after.updateSsiStatus = before.updateSsiStatus

/-- The loop body touches neither the announced size nor the status. -/
theorem tftpProcess_shown (platform : Platform Flash) (tftp : Tftp Flash) :
    SameShown tftp (tftpProcess platform tftp).1 where
  totalFileLen := by
    apply tftpProcess_field (·.totalFileLen)
    · intro before port
      rfl
    · intro before after assigned
      cases assigned <;> rfl
  updateSsiStatus := by
    apply tftpProcess_field (·.updateSsiStatus)
    · intro before port
      rfl
    · intro before after assigned
      cases assigned <;> rfl

/-- Behind a stored block the loop body leaves size and length alone, and shows nothing
but a success. -/
theorem tftpAcknowledge_shown (platform : Platform Flash) (len : Nat) (tftp : Tftp Flash) :
    (tftpAcknowledge platform len tftp).1.totalFileLen = tftp.totalFileLen ∧
      (tftpAcknowledge platform len tftp).1.fileLen = tftp.fileLen ∧
      ((tftpAcknowledge platform len tftp).1.updateSsiStatus = .updateDoing →
        tftp.updateSsiStatus = .updateDoing) := by
  simp only [tftpAcknowledge, tftpFirmwareDownloadFinish]
  split
  · split
    · exact ⟨rfl, rfl, fun doing => by simp at doing⟩
    · exact ⟨rfl, rfl, id⟩
  · exact ⟨rfl, rfl, id⟩

/-- A step counts at most a block. -/
theorem lengthBehind_le (loop : Loop Flash) :
    lengthBehind loop ≤ loop.tftp.fileLen + tftpBlockSize := by
  unfold lengthBehind
  split
  case isTrue counts =>
    have inside := counts.2.2.2.2
    omega
  case isFalse => omega

/-- Only the loop body counts. -/
theorem lengthBehind_of_phase {loop : Loop Flash} (other : loop.phase ≠ .process) :
    lengthBehind loop = loop.tftp.fileLen := by
  rw [lengthBehind, if_neg (fun counts => other counts.1)]

/-- What a step of the receive loop does to what a poll reads. A success shows another
status, so the percentage is read no more where the counted length may be beyond the area. -/
structure Progressed (platform : Platform Flash) (before after : Loop Flash) : Prop where
  totalFileLen : after.tftp.totalFileLen = before.tftp.totalFileLen
  fileLen : after.tftp.fileLen = lengthBehind before
  shown : after.tftp.updateSsiStatus = .updateDoing → before.tftp.updateSsiStatus = .updateDoing
  processed : before.phase = .process → after.tftp.updateSsiStatus = before.tftp.updateSsiStatus
  inside : (∀ exit, after.phase ≠ .done exit) →
    after.tftp.fileLen ≤ platform.updateFlashMemorySize

/-- A step that is not the loop body, and leaves the counted length alone. -/
theorem Progressed.aside {platform : Platform Flash} {before after : Loop Flash}
    (inside : before.tftp.fileLen ≤ platform.updateFlashMemorySize)
    (other : before.phase ≠ .process)
    (totalFileLen : after.tftp.totalFileLen = before.tftp.totalFileLen)
    (fileLen : after.tftp.fileLen = before.tftp.fileLen)
    (shown : after.tftp.updateSsiStatus = .updateDoing →
      before.tftp.updateSsiStatus = .updateDoing) : Progressed platform before after where
  totalFileLen := totalFileLen
  fileLen := fileLen.trans (lengthBehind_of_phase other).symm
  shown := shown
  processed := fun phase => absurd phase other
  inside := fun _ => fileLen ▸ inside

/-- The update area has at most 2^24 bytes, so that no counter wraps inside it. -/
theorem progressed {platform : Platform Flash} {loop next : Loop Flash}
    (area : platform.updateFlashMemorySize ≤ 16777216)
    (inside : loop.tftp.fileLen ≤ platform.updateFlashMemorySize)
    (taken : loop.advance platform = some next) : Progressed platform loop next := by
  cases advances taken with
  | request phase => exact .aside inside (by simp [phase]) rfl rfl id
  | clear phase => exact .aside inside (by simp [phase]) rfl rfl id
  | pend left phase woken => exact .aside inside (by simp [phase]) rfl rfl id
  | process after verdict phase body =>
    have length := tftpProcess_fileLen platform loop.tftp
    have same := tftpProcess_shown platform loop.tftp
    have outcome := processed platform loop.tftp
    have counted : (tftpProcess platform loop.tftp).1.fileLen = lengthBehind loop := by
      have small := lengthBehind_le loop
      simp only [lengthBehind, phase, true_and] at small ⊢
      rw [length]
      by_cases counts : CountsBlock loop.tftp
      · simp only [counts, if_true, tftpBlockSize] at small ⊢
        apply Nat.mod_eq_of_lt
        simp only [u32Modulus]
        omega
      · simp only [counts, if_false]
    rw [body] at counted same outcome
    cases outcome with
    | again _ quiet =>
      exact ⟨same.totalFileLen, counted, same.updateSsiStatus ▸ id,
        fun _ => same.updateSsiStatus, fun _ => quiet.fileLen ▸ inside⟩
    | leave _ _ =>
      exact ⟨same.totalFileLen, counted, same.updateSsiStatus ▸ id,
        fun _ => same.updateSsiStatus, fun goes => absurd rfl (goes .failed)⟩
    | store _ len stores =>
      exact ⟨same.totalFileLen, counted, same.updateSsiStatus ▸ id,
        fun _ => same.updateSsiStatus, fun _ => stores.fileLen ▸ stores.fits⟩
  | acknowledge len after exit phase body =>
    have same := tftpAcknowledge_shown platform len loop.tftp
    rw [body] at same
    obtain ⟨totalFileLen, fileLen, shown⟩ := same
    refine .aside inside (by simp [phase]) ?_ ?_ ?_
    · rw [Loop.conclude_tftp]
      exact totalFileLen
    · rw [Loop.conclude_tftp]
      exact fileLen
    · rw [Loop.conclude_tftp]
      exact shown

/-! ## The law of the runs -/

/-- What holds between any two moves: the counted length is inside the update area while a
transfer goes on, and beyond it by a block at most wherever a poll may come to read it; and
what a poll may read, the announced size covers. The two together give the divisor, the
product and the quotient. A block beyond the area ends the transfer in the step that counts
it. -/
structure Metered (platform : Platform Flash) (station : Station Flash) : Prop where
  inside : station.world.transferring →
    station.world.loop.tftp.fileLen ≤ platform.updateFlashMemorySize
  bounded : station.world.web ≠ .idle ∨ station.polled →
    station.world.loop.tftp.fileLen ≤ platform.updateFlashMemorySize + tftpBlockSize
  covers : station.polled →
    Covers station.world.loop.tftp.totalFileLen station.world.loop.tftp.fileLen
  idle : station.polling = true → station.world.web = .idle

/-- A metered station reports the progress. -/
theorem Metered.reported {platform : Platform Flash} {station : Station Flash}
    (area : platform.updateFlashMemorySize ≤ 16777216) (metered : Metered platform station) :
    ProgressReported station := by
  intro polled
  have bounded := metered.bounded (Or.inr polled)
  apply (reports_iff _).mpr (metered.covers polled)
  simp only [tftpBlockSize, u32Modulus] at bounded ⊢
  omega

/-- Nothing that a poll reads has changed, and no poll came nearer. -/
theorem Metered.aside {platform : Platform Flash} {station next : Station Flash}
    (metered : Metered platform station)
    (totalFileLen : next.world.loop.tftp.totalFileLen = station.world.loop.tftp.totalFileLen)
    (fileLen : next.world.loop.tftp.fileLen = station.world.loop.tftp.fileLen)
    (transferring : next.world.transferring → station.world.transferring)
    (web : next.world.web = station.world.web) (polled : next.polled → station.polled)
    (idle : next.polling = true → next.world.web = .idle) : Metered platform next where
  inside := by
    intro runs
    rw [fileLen]
    exact metered.inside (transferring runs)
  bounded := by
    intro reads
    rw [fileLen]
    exact metered.bounded (reads.imp (web ▸ id) polled)
  covers := by
    intro reads
    rw [totalFileLen, fileLen]
    exact metered.covers (polled reads)
  idle := idle

/-- While a request is under way no poll reads. -/
theorem Metered.under_way {platform : Platform Flash} {station next : Station Flash}
    (metered : Metered platform station) (busy : station.world.web ≠ .idle)
    (totalFileLen : next.world.loop.tftp.totalFileLen = station.world.loop.tftp.totalFileLen)
    (fileLen : next.world.loop.tftp.fileLen = station.world.loop.tftp.fileLen)
    (transferring : next.world.transferring → station.world.transferring)
    (polling : next.polling = station.polling)
    (shown : next.world.web = .idle → next.world.loop.tftp.updateSsiStatus = .updateDoing →
      Covers station.world.loop.tftp.totalFileLen station.world.loop.tftp.fileLen) :
    Metered platform next where
  inside := by
    intro runs
    rw [fileLen]
    exact metered.inside (transferring runs)
  bounded := by
    intro _
    rw [fileLen]
    exact metered.bounded (Or.inl busy)
  covers := by
    rw [totalFileLen, fileLen]
    rintro (polled | ⟨idle, doing⟩)
    · exact absurd (metered.idle (polling ▸ polled)) busy
    · exact shown idle doing
  idle := fun polled => absurd (metered.idle (polling ▸ polled)) busy

/-- A step of the update thread keeps the meter. -/
theorem Metered.thread {platform : Platform Flash} {station : Station Flash} {world : World Flash}
    (area : platform.updateFlashMemorySize ≤ 16777216) (metered : Metered platform station)
    (counts : CountCovered station) (taken : threadStep platform station.world = some world) :
    Metered platform { station with world := world } := by
  cases threadStepped taken with
  | clearStart thread =>
    exact metered.aside rfl rfl (fun runs => absurd runs.1 (by simp)) rfl id metered.idle
  | waitStart host rest thread posts =>
    exact metered.aside rfl rfl (fun runs => absurd runs.1 (by simp)) rfl id metered.idle
  | init thread =>
    refine ⟨fun _ => Nat.zero_le _, fun _ => Nat.zero_le _, ?_, metered.idle⟩
    intro reads
    have before : Covers station.world.loop.tftp.totalFileLen station.world.loop.tftp.fileLen :=
      metered.covers reads
    change 0 * 100 < 101 * station.world.loop.tftp.totalFileLen
    simp only [Covers] at before
    omega
  | failed thread phase =>
    exact metered.aside rfl rfl (fun runs => absurd runs.1 (by simp)) rfl id metered.idle
  | succeeded thread phase =>
    exact metered.aside rfl rfl (fun runs => absurd runs.1 (by simp)) rfl id metered.idle
  | advance loop thread advanced =>
    have ran := transferring_of_advance thread advanced
    have step := progressed area (metered.inside ran) advanced
    have polled (reads : Station.polled
        { station with world := { station.world with loop := loop } }) : station.polled :=
      reads.imp id (And.imp id step.shown)
    refine ⟨fun runs => step.inside runs.2, ?_, ?_, metered.idle⟩
    · intro _
      have inside := metered.inside ran
      have most := lengthBehind_le station.world.loop
      change loop.tftp.fileLen ≤ _
      rw [step.fileLen]
      omega
    · intro reads
      change Covers loop.tftp.totalFileLen loop.tftp.fileLen
      rw [step.totalFileLen, step.fileLen]
      exact counts (polled reads) thread
  | failName thread =>
    exact metered.aside rfl rfl (fun runs => absurd runs.1 (by simp)) rfl id metered.idle
  | failStatus thread =>
    refine metered.aside rfl rfl (fun runs => absurd runs.1 (by simp)) rfl ?_ metered.idle
    rintro (polling | ⟨_, doing⟩)
    · exact Or.inl polling
    · cases doing

/-- Every event keeps the meter when the announced size covers what it posts or counts. -/
theorem Metered.event {platform : Platform Flash} {station : Station Flash} {event : Event}
    {world : World Flash} (area : platform.updateFlashMemorySize ≤ 16777216)
    (metered : Metered platform station) (within : WithinAnnounced station (.event event))
    (free : station.polling = true → byWeb event = false)
    (taken : step platform station.world event = some world) :
    Metered platform { station with world := world } := by
  cases event with
  | accept ip =>
    cases stepped taken
    exact metered.aside rfl rfl id rfl id metered.idle
  | updateRequest connection value =>
    cases stepped taken
    have quiet : station.polling ≠ true := by
      intro polling
      simpa [byWeb] using free polling
    refine ⟨fun _ => Nat.zero_le _, fun _ => Nat.zero_le _, ?_,
      fun polling => absurd polling quiet⟩
    rintro (polling | ⟨idle, _⟩)
    · exact absurd polling quiet
    · cases idle
  | updateContinue =>
    cases stepped taken with
    | sized host value web =>
      refine metered.under_way (by simp [web]) rfl rfl id rfl ?_
      intro idle
      cases idle
    | named host web =>
      refine metered.under_way (by simp [web]) rfl rfl id rfl ?_
      intro idle
      cases idle
    | shown host web =>
      simp only [WithinAnnounced, web] at within
      refine metered.under_way (by simp [web]) rfl rfl id rfl ?_
      intro _ doing
      exact within doing
  | thread => exact metered.thread area within taken
  | timeout =>
    cases stepped taken
    exact metered.aside rfl rfl (fun ran => absurd rfl (ran.2 .failed)) rfl id metered.idle
  | callback bytes port =>
    cases stepped taken
    exact metered.aside rfl rfl id rfl id metered.idle

/-- Every move keeps the meter when the announced size covers what it posts or counts. -/
theorem Metered.keeps {platform : Platform Flash}
    (area : platform.updateFlashMemorySize ≤ 16777216) (station : Station Flash) (move : Move)
    (next : Station Flash) (metered : Metered platform station)
    (within : WithinAnnounced station move)
    (taken : stationStep platform station move = some next) : Metered platform next := by
  cases move with
  | event event =>
    simp only [stationStep, Option.ite_none_left_eq_some] at taken
    obtain ⟨free, moved⟩ := taken
    obtain ⟨world, taken, rfl⟩ := Option.map_eq_some_iff.mp moved
    exact metered.event area within (by simpa using free) taken
  | poll =>
    simp only [stationStep, Option.ite_none_right_eq_some, Option.some.injEq] at taken
    obtain ⟨⟨idle, _⟩, rfl⟩ := taken
    refine metered.aside rfl rfl id rfl ?_ (fun _ => idle)
    rintro (polling | shown)
    · exact Or.inr ⟨idle, of_decide_eq_true polling⟩
    · exact Or.inr shown
  | answer =>
    simp only [stationStep, Option.ite_none_right_eq_some, Option.some.injEq] at taken
    obtain ⟨_, rfl⟩ := taken
    refine metered.aside rfl rfl id rfl ?_ (fun polling => by simp at polling)
    rintro (polling | shown)
    · cases polling
    · exact Or.inr shown

/-- A move that is not covered leaves a station whose next poll reports no percentage. -/
theorem Metered.needed {platform : Platform Flash}
    (area : platform.updateFlashMemorySize ≤ 16777216) (station : Station Flash) (move : Move)
    (next : Station Flash) (metered : Metered platform station)
    (taken : stationStep platform station move = some next) (reported : ProgressReported next) :
    WithinAnnounced station move := by
  have covered (polled : next.polled) :
      Covers next.world.loop.tftp.totalFileLen next.world.loop.tftp.fileLen :=
    (reports_iff (reported polled).product).mp (reported polled)
  cases move with
  | event event =>
    simp only [stationStep, Option.ite_none_left_eq_some] at taken
    obtain ⟨_, moved⟩ := taken
    obtain ⟨world, taken, rfl⟩ := Option.map_eq_some_iff.mp moved
    cases event with
    | updateContinue =>
      cases stepped taken with
      | sized host value web =>
        simp only [WithinAnnounced, web]
        trivial
      | named host web =>
        simp only [WithinAnnounced, web]
        trivial
      | shown host web =>
        simp only [WithinAnnounced, web]
        intro doing
        exact covered (Or.inr ⟨rfl, doing⟩)
    | thread =>
      intro polled runs
      by_cases process : station.world.loop.phase = .process
      · simp only [step, threadStep, runs, process] at taken
        obtain ⟨loop, advanced, rfl⟩ := Option.map_eq_some_iff.mp taken
        have step := progressed area (metered.inside ⟨runs, by simp [process]⟩) advanced
        have reads : Station.polled
            { station with world := { station.world with loop := loop } } := by
          refine polled.imp id (And.imp id fun doing => ?_)
          exact (step.processed process).trans doing
        rw [← step.totalFileLen, ← step.fileLen]
        exact covered (runs ▸ reads)
      · rw [lengthBehind_of_phase process]
        exact metered.covers polled
    | _ => trivial
  | poll => trivial
  | answer => trivial

/-- Nothing is polled behind the creation of the threads. -/
theorem opening_metered (platform : Platform Flash) (tftp : Tftp Flash) :
    Metered platform (opening tftp) := by
  have unread : ¬ (opening tftp).polled := by
    simp [Station.polled, opening, cold, boot]
  refine ⟨fun runs => absurd runs.1 (by simp [opening, cold, boot]), ?_,
    fun polled => absurd polled unread, fun polling => by simp [opening] at polling⟩
  rintro (busy | polled)
  · exact absurd rfl busy
  · exact absurd polled unread

/-- For every order of requests, datagrams and polls: wherever a poll may compute the
percentage, its divisor is not zero, its product does not wrap and it lies between 0 and
100, exactly when the announced size covers what is posted and what is counted. The first
step that leaves the announced size uncovered is already followed by a state in which a poll
would be answered with a wrong percentage, or with none. -/
theorem progress_is_reported_iff (platform : Platform Flash)
    (area : platform.updateFlashMemorySize ≤ 16777216) (tftp : Tftp Flash) (moves : List Move) :
    Always (stationStep platform) ProgressReported (opening tftp) moves ↔
      Guarded (stationStep platform) WithinAnnounced (opening tftp) moves :=
  always_iff_guarded (Metered platform) ProgressReported (fun _ metered => metered.reported area)
    (Metered.keeps area) (Metered.needed area) (opening_metered platform tftp) moves

/-- A request from the connection at hand behind the start of the threads. -/
def announce (value : List Byte) : List Move :=
  ([Event.thread] ++ requestUpdate 0 value).map .event

/-- The transfer begins, and one full block arrives and is counted. -/
def firstBlock : List Move :=
  (threadSteps 4 ++
    [Event.callback (dataPacket 1 (zeroSumHead ++ List.replicate 244 1)) 5000] ++
      threadSteps 2).map .event

/-- A file of 268 bytes is announced, and polled at the post and behind its first block. -/
def announcedUpdate : List Move :=
  announce (ascii "268%5Ca.bin") ++ [.poll, .answer] ++ firstBlock ++ [.poll, .answer]

/-- It is reported from 0 to 95 percent. -/
theorem announcedUpdate_is_reported :
    Always (stationStep samplePlatform) ProgressReported (opening sampleClient)
      announcedUpdate :=
  (progress_is_reported_iff samplePlatform (by decide) sampleClient announcedUpdate).mpr
    (by decide +kernel)

/-- An empty file is announced, and polled. -/
def emptyFile : List Move := announce (ascii "0%5Ca.bin") ++ [.poll]

/-- The poll divides by zero. -/
theorem emptyFile_divides_by_zero :
    ¬ Always (stationStep samplePlatform) ProgressReported (opening sampleClient)
      emptyFile := by
  intro along
  have ends : (run (stationStep samplePlatform) (opening sampleClient) emptyFile).map
      (fun station => (station.polling, station.world.loop.tftp.totalFileLen)) =
        some (true, 0) := by
    decide
  obtain ⟨final, completed, facts⟩ := Option.map_eq_some_iff.mp ends
  simp only [Prod.mk.injEq] at facts
  exact (always_final along completed (Or.inl facts.1)).divisor facts.2

/-- A file of one byte is announced, and a block of 256 is sent for it. -/
example : (run (stationStep samplePlatform) (opening sampleClient)
    (announce (ascii "1%5Ca.bin") ++ firstBlock ++ [.poll])).map
      (fun station => tftpGetProgressPercent station.world.loop.tftp) = some (some 25600) := by
  decide +kernel

end UcosProxy.UpdateProgress
