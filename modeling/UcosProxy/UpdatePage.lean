import UcosProxy.PageScripts
import UcosProxy.UpdateProgress

/-!
# The update page and the transfer it asked for

`update.js` posts the chosen file, and once that is answered it polls `update.cgi` every two
seconds: "success" or "fail" in the answer ends the update for the user, everything else is
the progress. The handler of the answer's tag reads the status that the update thread and
the requests write; a poll is cut between the reading and the answer, where the thread may
go on.

The page, the web server's requests, the update thread and the receive callback take their
steps in any order, with any datagrams and timeouts. When the page asks while the thread
waits for a request, and no other request comes before it is told, what it is told is how
the transfer that its own request started came out: of its file, from its host, a success
when one configuration was committed and a failure when none was. And it is told: from
every state in which that transfer has come out, six more steps are enough.

The page's dialog keeps its user from asking again before the end. How requests that do come
in between are mixed up is `UpdateStart`. A poll that is not answered, and polls that
overtake each other, are left out, and so is what the client does once a datagram of more
than 512 bytes has overrun its frame buffer.
-/

namespace UcosProxy.UpdatePage

open Bytes Runs TextPieces TftpClient TftpSteps FirmwareImage TftpReceive UpdateThread UpdateStart
  UpdateProgress BoardsPage AccountLogin PortLines AjaxPages PageScripts

variable {Flash : Type}

/-- Where the page stands. It asks with one request, waits for the answer to it, polls until
it is told, and may ask again. -/
inductive Page where
  | ready
  | asking
  | watching
  | told (exit : Exit)
deriving DecidableEq

/-- The page has asked and was not told. A request of another page in this time is what the
law keeps out. -/
def Page.Waits (page : Page) : Prop := page = .asking ∨ page = .watching

instance (page : Page) : Decidable page.Waits := inferInstanceAs (Decidable (_ ∨ _))

/-- What the page asks for: its host, the name of its file, and the configurations that were
committed by then. The configurations are counted from here, so that one of an earlier
update is not taken for its own. -/
structure Asked where
  host : IpAddr
  file : List Byte
  before : List UpdateCfg
deriving DecidableEq

/-- How a transfer came out: the host whose request started it, the name of its file, and
the configurations that were committed since the page asked. It is read off at the step in
which the transfer leaves its loop, before the thread clears the name of a failed one. -/
structure Outcome where
  exit : Exit
  host : IpAddr
  file : List Byte
  written : List UpdateCfg
deriving DecidableEq

/-- The two threads and the page. Everything outside the page and the threads is in the
order of the events. -/
structure Visit (Flash : Type) where
  world : World Flash
  page : Page
  /-- The status that a poll has read, and not answered yet. -/
  reading : Option SsiStatus
  /-- History: what the page has asked for. -/
  asked : Asked
  /-- History: the outcome of the first transfer that came out since. -/
  outcome : Option Outcome

inductive Event where
  /-- A step of the threads, or a request that is not the page's. -/
  | world (event : UpdateThread.Event)
  /-- The page posts the chosen file. -/
  | submit (connection : Nat) (value : List Byte)
  /-- The post is answered, and the page begins to poll. -/
  | posted
  | poll
  | answer
deriving DecidableEq

/-- The page that polls are answered with. -/
def statusPage : AjaxPage := ⟨"/assets/ajax/update_status.ajax", "update_status", .updateStatus⟩

/-- The callback of a poll in `update.js`: whether the update is over. -/
def pollResult (data : List Char) : Option Exit :=
  if matchWord data "success".toList then some .succeeded
  else if matchWord data "fail".toList then some .failed
  else none

/-- The transfer that has just left its loop. -/
def concluded (asked : Asked) (world : World Flash) : Option Outcome :=
  match world.thread, world.loop.phase with
  | .running, .done exit => some
    { exit := exit
      host := world.transferHost
      file := world.loop.tftp.updateFilename
      written := world.loop.tftp.cfgWrites.drop asked.before.length }
  | _, _ => none

/-- The visit behind a step of the threads. -/
def Visit.moved (visit : Visit Flash) (world : World Flash) : Visit Flash :=
  { visit with
    world := world
    outcome := if visit.page.Waits then visit.outcome.or (concluded visit.asked world)
      else visit.outcome }

/-- One step. While a poll is answered, the web server does nothing else. -/
def step (platform : Platform Flash) (visit : Visit Flash) : Event → Option (Visit Flash)
  | .world event =>
    if visit.reading.isSome && byWeb event then none
    else (UpdateThread.step platform visit.world event).map visit.moved
  | .submit connection value =>
    if visit.reading.isSome ∨ visit.page.Waits then none
    else (UpdateThread.step platform visit.world (.updateRequest connection value)).map fun world =>
      { visit with
        world := world
        page := .asking
        asked :=
          { host := (visit.world.accepted[connection]?).getD 0
            file := updateFilenameCrop value
            before := visit.world.loop.tftp.cfgWrites }
        outcome := none }
  | .posted =>
    if visit.page = .asking ∧ visit.world.web = .idle then some { visit with page := .watching }
    else none
  | .poll =>
    if visit.page = .watching ∧ visit.world.web = .idle ∧ visit.reading = none then
      some { visit with reading := some visit.world.loop.tftp.updateSsiStatus }
    else none
  | .answer =>
    visit.reading.bind fun status =>
      (updateStatusSsiHandler visit.world.loop.tftp status).map fun text =>
        { visit with
          reading := none
          page := match pollResult (responseText (statusPage.data text)) with
            | some exit => .told exit
            | none => visit.page }

/-- The page and the threads behind their creation. -/
def opened (tftp : Tftp Flash) : Visit Flash :=
  ⟨(opening tftp).world, .ready, none, ⟨0, [], []⟩, none⟩

/-- The page asks while the thread waits for a request, and no other request comes before it is
told. -/
def Undisturbed (visit : Visit Flash) : Event → Prop
  | .submit _ _ => visit.world.thread = .waitStart ∧ visit.world.posts = []
  | .world (.updateRequest _ _) => ¬ visit.page.Waits
  | _ => True

instance (visit : Visit Flash) : ∀ event, Decidable (Undisturbed visit event)
  | .submit _ _ => inferInstanceAs (Decidable (_ ∧ _))
  | .world (.updateRequest _ _) => inferInstanceAs (Decidable (¬ _))
  | .world (.accept _) => isTrue trivial
  | .world .updateContinue => isTrue trivial
  | .world .thread => isTrue trivial
  | .world .timeout => isTrue trivial
  | .world (.callback _ _) => isTrue trivial
  | .posted => isTrue trivial
  | .poll => isTrue trivial
  | .answer => isTrue trivial

/-- A success has committed one configuration, a failure none. -/
def Commits (written : List UpdateCfg) : Exit → Prop
  | .succeeded => ∃ cfg, written = [cfg]
  | .failed => written = []

/-- The outcome is that of the transfer that was asked for. The host and the name are those
the page asked with, and the flash has what the verdict says. -/
structure Outcome.Answers (outcome : Outcome) (asked : Asked) : Prop where
  host : outcome.host = asked.host
  file : outcome.file = asked.file
  commits : Commits outcome.written outcome.exit

/-- What the page tells is how its own transfer came out. A page that tells nothing tells
nothing false, and that it can be told is a law of its own. -/
def Truthful (visit : Visit Flash) : Prop :=
  ∀ exit, visit.page = .told exit →
    ∃ outcome, visit.outcome = some outcome ∧ outcome.exit = exit ∧ outcome.Answers visit.asked

/-! ## What a poll is answered -/

/-- The status that a finished transfer leaves. -/
def exitShown : Exit → SsiStatus
  | .succeeded => .updateSucceed
  | .failed => .updateFailed

/-- A number is printed with digits and a sign. -/
theorem number_letters (number : Int) :
    ∀ letter ∈ (toString number).toList, letter.isDigit = true ∨ letter = '-' := by
  have digits (value : Nat) : ∀ letter ∈ (Nat.repr value).toList, letter.isDigit = true := by
    intro letter member
    rw [Nat.toList_repr] at member
    exact Nat.isDigit_of_mem_toDigits (by decide) (by decide) member
  intro letter member
  cases number with
  | ofNat value => exact Or.inl (digits value letter member)
  | negSucc value =>
    have printed : (toString (Int.negSucc value)).toList = '-' :: (Nat.repr (value + 1)).toList :=
      String.toList_append
    rw [printed] at member
    rcases List.mem_cons.mp member with sign | digit
    · exact Or.inr sign
    · exact Or.inl (digits _ letter digit)

/-- The bytes of a printed number are read as its letters. -/
theorem responseText_number (number : Int) :
    responseText (ascii (toString number)) = (toString number).toList := by
  have same : ∀ letter ∈ (toString number).toList,
      Char.ofNat (BitVec.ofNat 8 letter.toNat).toNat = letter := by
    intro letter member
    have small : letter.toNat < 256 := by
      rcases number_letters number letter member with digit | rfl
      · simp only [Char.isDigit, Bool.and_eq_true, decide_eq_true_eq, ge_iff_le,
          UInt32.le_iff_toNat_le] at digit
        have most : letter.toNat ≤ 57 := digit.2
        omega
      · decide
    rw [BitVec.toNat_ofNat, Nat.mod_eq_of_lt small, Char.ofNat_toNat]
  rw [responseText, ascii, List.map_map]
  exact (List.map_congr_left same).trans (List.map_id _)

/-- The text of a finished transfer ends the update on the page. -/
theorem pollResult_over (tftp : Tftp Flash) (exit : Exit) :
    ∃ text, updateStatusSsiHandler tftp (exitShown exit) = some text ∧
      pollResult (responseText (statusPage.data text)) = some exit := by
  cases exit with
  | succeeded => exact ⟨_, rfl, by decide⟩
  | failed => exact ⟨_, rfl, by decide⟩

/-- The progress does not end it. -/
theorem pollResult_progress {tftp : Tftp Flash} {text : List Byte}
    (answered : updateStatusSsiHandler tftp .updateDoing = some text) :
    pollResult (responseText (statusPage.data text)) = none := by
  obtain ⟨percent, computed, rfl⟩ := Option.map_eq_some_iff.mp answered
  let front := responseText (statusPage.front ++ [62])
  let progress := "proc=".toList ++ (toString percent).toList ++ ";\n\n".toList
  have data : responseText (statusPage.data
      (ascii "proc=" ++ ascii (toString percent) ++ ascii ";\n")) = front ++ progress := by
    have name : responseText (ascii "proc=") = "proc=".toList := by decide
    have ends : responseText (ascii ";\n" ++ [10]) = ";\n\n".toList := by decide
    simp only [front, progress, ← responseText_number, ← name, ← ends, AjaxPage.data,
      ← responseText_append, List.append_assoc, List.cons_append, List.nil_append]
  have absent (letter : Char) (other : letter.isDigit = false ∧ letter ≠ '-')
      (named : letter ∉ "proc=".toList) (ended : letter ∉ ";\n\n".toList) : letter ∉ progress := by
    intro member
    rcases List.mem_append.mp member with early | late
    · rcases List.mem_append.mp early with inName | inNumber
      · exact named inName
      · rcases number_letters percent letter inNumber with digit | sign
        · exact absurd (digit.symm.trans other.1) (by decide)
        · exact other.2 sign
    · exact ended late
  have success : matchWord (front ++ progress) "success".toList = false := by
    have apart : Apart "success".toList front := by decide
    rw [matchWord, place_behind progress apart, place_eq_none (by decide : 's' ∈ "success".toList)
      (absent 's' (by decide) (by decide) (by decide))]
    rfl
  have fail : matchWord (front ++ progress) "fail".toList = false := by
    apply matchWord_fail
    intro member
    rcases List.mem_append.mp member with inFront | inProgress
    · exact absurd inFront (by decide)
    · exact absent 'l' (by decide) (by decide) (by decide) inProgress
  rw [data, pollResult, success, fail]
  rfl

/-! ## What a step of the loop does to what is shown -/

/-- What a step of the receive loop does to the status and the committed configurations.
Status and configuration change together, in the step that succeeds. -/
structure LoopShown (before after : Loop Flash) : Prop where
  updateFilename : after.tftp.updateFilename = before.tftp.updateFilename
  goes : after.phase ≠ .done .succeeded →
    after.tftp.updateSsiStatus = before.tftp.updateSsiStatus ∧
      after.tftp.cfgWrites = before.tftp.cfgWrites
  ends : after.phase = .done .succeeded →
    after.tftp.updateSsiStatus = .updateSucceed ∧
      ∃ cfg, after.tftp.cfgWrites = before.tftp.cfgWrites ++ [cfg]

/-- Behind a stored block the status changes with the success alone. -/
theorem tftpAcknowledge_status (platform : Platform Flash) (len : Nat) (tftp : Tftp Flash)
    (other : (tftpAcknowledge platform len tftp).2 ≠ some .succeeded) :
    (tftpAcknowledge platform len tftp).1.updateSsiStatus = tftp.updateSsiStatus := by
  revert other
  simp only [tftpAcknowledge, tftpFirmwareDownloadFinish]
  split
  · split
    · exact fun other => absurd rfl other
    · exact fun _ => rfl
  · exact fun _ => rfl

/-- A step of the receive loop changes the status and commits where it succeeds, and nowhere
else. -/
theorem loopShown {platform : Platform Flash} {loop next : Loop Flash}
    (taken : loop.advance platform = some next) : LoopShown loop next := by
  have file := (advanced taken).updateFilename
  have shown := (advanced taken).shown
  cases advances taken with
  | request phase => exact ⟨file, fun _ => ⟨rfl, rfl⟩, by simp⟩
  | clear phase => exact ⟨file, fun _ => ⟨rfl, rfl⟩, by simp⟩
  | pend left phase woken => exact ⟨file, fun _ => ⟨rfl, rfl⟩, by simp⟩
  | process after verdict phase body =>
    have status := (tftpProcess_shown platform loop.tftp).updateSsiStatus
    have outcome := processed platform loop.tftp
    rw [body] at status outcome
    cases outcome with
    | again _ quiet => exact ⟨file, fun _ => ⟨status, quiet.cfgWrites⟩, by simp [Loop.follow]⟩
    | store _ len stores => exact ⟨file, fun _ => ⟨status, stores.cfgWrites⟩, by simp [Loop.follow]⟩
    | leave _ same => exact ⟨file, fun _ => ⟨status, same.cfgWrites⟩, by simp [Loop.follow]⟩
  | acknowledge len after exit phase body =>
    have status := tftpAcknowledge_status platform len loop.tftp
    have outcome := acknowledged platform len loop.tftp
    rw [body] at status outcome
    cases outcome with
    | more _ quiet full =>
      exact ⟨file, fun _ => ⟨status (by simp), quiet.cfgWrites⟩, by simp [Loop.conclude]⟩
    | refused _ quiet short bad =>
      exact ⟨file, fun _ => ⟨status (by simp), quiet.cfgWrites⟩, by simp [Loop.conclude]⟩
    | committed _ short accepted stored updateFilehead updateCfg cfgWrites =>
      exact ⟨file, fun other => absurd rfl other, fun done => ⟨shown done, _, cfgWrites⟩⟩

/-! ## The course of the page's transfer -/

/-- The page's request is under way. -/
def Underway (asked : Asked) (tftp : Tftp Flash) : WebPhase → Prop
  | .idle => False
  | .sized host value => host = asked.host ∧ updateFilenameCrop value = asked.file
  | .named host => host = asked.host ∧ tftp.updateFilename = asked.file
  | .shown host =>
    host = asked.host ∧ tftp.updateFilename = asked.file ∧ tftp.updateSsiStatus = .updateDoing

/-- The update is shown, with the name of its file, and nothing was committed. It is what
the request leaves behind for the transfer that it posted. -/
structure Showing (asked : Asked) (tftp : Tftp Flash) : Prop where
  file : tftp.updateFilename = asked.file
  doing : tftp.updateSsiStatus = .updateDoing
  before : tftp.cfgWrites = asked.before

/-- The transfer was posted, and has not left its loop. Between the three nothing is posted,
since no other request comes. -/
inductive Due (asked : Asked) (world : World Flash) : Prop where
  | posted (thread : world.thread = .waitStart) (posts : world.posts = [asked.host])
  | taken (thread : world.thread = .init) (posts : world.posts = [])
      (host : world.transferHost = asked.host)
  | runs (ran : world.transferring) (posts : world.posts = [])
      (host : world.transferHost = asked.host)

/-- The thread has left its loop with a failure, and not shown it yet. The status still
shows the update, so a poll is answered with its progress. -/
def Failing (world : World Flash) : Prop :=
  world.thread = .running ∧ world.loop.phase = .done .failed ∨ world.thread = .failName ∨
    world.thread = .failStatus

/-- The thread has shown how its transfer came out, and has no other. What a poll reads from
now on is the outcome, until another request comes. -/
def Ended (world : World Flash) : Prop :=
  world.thread = .running ∧ world.loop.phase = .done .succeeded ∨ world.thread = .clearStart ∨
    world.thread = .waitStart ∧ world.posts = []

/-- Where the transfer of the page stands while the page waits, with its outcome. There is
one constructor for each stretch of the way from the request to the outcome, and one lemma
for each that says where a step leads from it. -/
inductive Course (asked : Asked) (world : World Flash) : Option Outcome → Prop where
  | requested (busy : Underway asked world.loop.tftp world.web) (thread : world.thread = .waitStart)
      (posts : world.posts = []) (before : world.loop.tftp.cfgWrites = asked.before) :
      Course asked world none
  | due (idle : world.web = .idle) (due : Due asked world)
      (showing : Showing asked world.loop.tftp) : Course asked world none
  | failing (idle : world.web = .idle) (failing : Failing world)
      (doing : world.loop.tftp.updateSsiStatus = .updateDoing) {outcome : Outcome}
      (failed : outcome.exit = .failed) (answers : outcome.Answers asked) :
      Course asked world (some outcome)
  | ended (idle : world.web = .idle) (ended : Ended world) {outcome : Outcome}
      (shown : world.loop.tftp.updateSsiStatus = exitShown outcome.exit)
      (answers : outcome.Answers asked) : Course asked world (some outcome)

/-- A thread that does not run has just left no loop. -/
theorem concluded_idle {asked : Asked} {world : World Flash} (outside : world.thread ≠ .running) :
    concluded asked world = none := by
  unfold concluded
  cases thread : world.thread with
  | running => exact absurd thread outside
  | _ => rfl

/-- Nor has one that is still inside. -/
theorem concluded_transferring {asked : Asked} {world : World Flash} (ran : world.transferring) :
    concluded asked world = none := by
  unfold concluded
  rw [ran.1]
  cases phase : world.loop.phase with
  | done exit => exact absurd phase (ran.2 exit)
  | _ => rfl

/-- A thread that has left its loop. -/
theorem concluded_done (asked : Asked) (world : World Flash) {exit : Exit}
    (thread : world.thread = .running) (phase : world.loop.phase = .done exit) :
    concluded asked world = some
      { exit := exit
        host := world.transferHost
        file := world.loop.tftp.updateFilename
        written := world.loop.tftp.cfgWrites.drop asked.before.length } := by
  simp only [concluded, thread, phase]

section course
variable {platform : Platform Flash} {asked : Asked} {world next : World Flash}
  {event : UpdateThread.Event} {outcome : Option Outcome}

/-- An event that is not the beginning of a request. -/
def NoRequest : UpdateThread.Event → Prop
  | .updateRequest _ _ => False
  | _ => True

/-- While the page's request is under way, its steps are all that can happen. -/
theorem requested_keeps (busy : Underway asked world.loop.tftp world.web)
    (thread : world.thread = .waitStart) (posts : world.posts = [])
    (before : world.loop.tftp.cfgWrites = asked.before)
    (taken : UpdateThread.step platform world event = some next) :
    Course asked next (concluded asked next) := by
  have free (idle : world.web = .idle) : Course asked next (concluded asked next) := by
    rw [idle] at busy
    exact busy.elim
  have stays (course : Course asked next none) (still : next.thread = .waitStart) :
      Course asked next (concluded asked next) := by
    rw [concluded_idle (by simp [still])]
    exact course
  cases event with
  | accept ip =>
    cases stepped taken with
    | accept _ idle => exact free idle
  | updateRequest connection value =>
    cases stepped taken with
    | updateRequest _ _ host idle found => exact free idle
  | updateContinue =>
    cases stepped taken with
    | sized host value web =>
      rw [web] at busy
      exact stays (.requested ⟨busy.1, busy.2⟩ thread posts before) thread
    | named host web =>
      rw [web] at busy
      exact stays (.requested ⟨busy.1, busy.2, rfl⟩ thread posts before) thread
    | shown host web =>
      rw [web] at busy
      obtain ⟨own, file, doing⟩ := busy
      have posted : (if world.posts.length < 65535 then world.posts ++ [host] else world.posts) =
          [asked.host] := by
        rw [posts, own]
        rfl
      exact stays (.due rfl (.posted thread posted) ⟨file, doing, before⟩) thread
  | thread => simp [UpdateThread.step, threadStep, thread, posts] at taken
  | timeout => simp [UpdateThread.step, thread] at taken
  | callback bytes port =>
    cases stepped taken with
    | callback _ _ idle => exact free idle

/-- What the course of a transfer reads of the threads. The bytes that are received are not
among them. -/
structure SameCourse (before after : World Flash) : Prop where
  web : after.web = before.web
  thread : after.thread = before.thread
  posts : after.posts = before.posts
  transferHost : after.transferHost = before.transferHost
  phase : after.loop.phase = before.loop.phase
  updateFilename : after.loop.tftp.updateFilename = before.loop.tftp.updateFilename
  updateSsiStatus : after.loop.tftp.updateSsiStatus = before.loop.tftp.updateSsiStatus
  cfgWrites : after.loop.tftp.cfgWrites = before.loop.tftp.cfgWrites

/-- The steps while no request is under way and none begins. Of the web server only the
connections and the datagrams are left then. -/
inductive IdleStepped (platform : Platform Flash) (world : World Flash) : World Flash → Prop where
  | aside (next : World Flash) (same : SameCourse world next) : IdleStepped platform world next
  | thread (next : World Flash) (taken : threadStep platform world = some next) :
      IdleStepped platform world next
  | timeout (thread : world.thread = .running) (phase : world.loop.phase = .pend) :
      IdleStepped platform world
        { world with loop := { world.loop with phase := .done .failed } }

/-- A connection and a datagram leave the course alone. -/
theorem idleStepped (idle : world.web = .idle) (other : NoRequest event)
    (taken : UpdateThread.step platform world event = some next) :
    IdleStepped platform world next := by
  cases event with
  | accept ip =>
    cases stepped taken
    exact .aside _ ⟨rfl, rfl, rfl, rfl, rfl, rfl, rfl, rfl⟩
  | updateRequest connection value => exact other.elim
  | updateContinue => simp [UpdateThread.step, continueRequest, idle] at taken
  | thread => exact .thread _ taken
  | timeout =>
    cases stepped taken with
    | timeout thread waits => exact .timeout thread waits.1
  | callback bytes port =>
    cases stepped taken
    exact .aside _ ⟨rfl, rfl, rfl, rfl, rfl, rfl, rfl, rfl⟩

/-- A transfer that is due has not come out. -/
theorem Due.not_concluded (due : Due asked world) : concluded asked world = none := by
  cases due with
  | posted thread => exact concluded_idle (by simp [thread])
  | taken thread => exact concluded_idle (by simp [thread])
  | runs ran => exact concluded_transferring ran

/-- It stays due where nothing of its course has changed. -/
theorem Due.aside (due : Due asked world) (same : SameCourse world next) : Due asked next := by
  cases due with
  | posted thread posts => exact .posted (same.thread.trans thread) (same.posts.trans posts)
  | taken thread posts host =>
    exact .taken (same.thread.trans thread) (same.posts.trans posts)
      (same.transferHost.trans host)
  | runs ran posts host =>
    refine .runs ⟨same.thread.trans ran.1, ?_⟩ (same.posts.trans posts)
      (same.transferHost.trans host)
    intro exit
    rw [same.phase]
    exact ran.2 exit

/-- A step of the loop takes a transfer further, or it comes out with what it has
committed. -/
theorem runs_keeps {loop : Loop Flash} (idle : world.web = .idle) (ran : world.transferring)
    (posts : world.posts = []) (host : world.transferHost = asked.host)
    (showing : Showing asked world.loop.tftp) (shown : LoopShown world.loop loop) :
    Course asked { world with loop := loop } (concluded asked { world with loop := loop }) := by
  have file : loop.tftp.updateFilename = asked.file := shown.updateFilename.trans showing.file
  by_cases done : ∃ exit, loop.phase = .done exit
  · obtain ⟨exit, phase⟩ := done
    rw [concluded_done asked { world with loop := loop } ran.1 phase]
    cases exit with
    | succeeded =>
      obtain ⟨status, cfg, written⟩ := shown.ends phase
      apply Course.ended
      · exact idle
      · exact Or.inl ⟨ran.1, phase⟩
      · exact status
      · refine ⟨host, file, cfg, ?_⟩
        change loop.tftp.cfgWrites.drop asked.before.length = [cfg]
        rw [written, showing.before, List.drop_left]
    | failed =>
      obtain ⟨status, written⟩ := shown.goes (by simp [phase])
      apply Course.failing
      · exact idle
      · exact Or.inl ⟨ran.1, phase⟩
      · exact status.trans showing.doing
      · rfl
      · refine ⟨host, file, ?_⟩
        change loop.tftp.cfgWrites.drop asked.before.length = []
        rw [written, showing.before, List.drop_length]
  · have goes : ∀ exit, loop.phase ≠ .done exit := not_exists.mp done
    obtain ⟨status, written⟩ := shown.goes (goes .succeeded)
    have due : Due asked { world with loop := loop } := .runs ⟨ran.1, goes⟩ posts host
    rw [due.not_concluded]
    exact .due idle due ⟨file, status.trans showing.doing, written.trans showing.before⟩

/-- A transfer that is due begins, goes on, or comes out. -/
theorem due_keeps (idle : world.web = .idle) (due : Due asked world)
    (showing : Showing asked world.loop.tftp) (stepped : IdleStepped platform world next) :
    Course asked next (concluded asked next) := by
  have stays (due : Due asked next) (idle : next.web = .idle)
      (showing : Showing asked next.loop.tftp) : Course asked next (concluded asked next) := by
    rw [due.not_concluded]
    exact .due idle due showing
  cases stepped with
  | aside _ same =>
    exact stays (due.aside same) (same.web.trans idle) ⟨same.updateFilename.trans showing.file,
      same.updateSsiStatus.trans showing.doing, same.cfgWrites.trans showing.before⟩
  | thread _ taken =>
    cases due with
    | posted thread posts =>
      simp only [threadStep, thread, posts, Option.some.injEq] at taken
      subst taken
      exact stays (.taken rfl rfl rfl) idle showing
    | taken thread posts host =>
      simp only [threadStep, thread, Option.some.injEq] at taken
      subst taken
      exact stays (.runs ⟨rfl, by simp⟩ posts host) idle
        ⟨showing.file, showing.doing, showing.before⟩
    | runs ran posts host =>
      cases threadStepped taken with
      | advance loop _ advanced => exact runs_keeps idle ran posts host showing (loopShown advanced)
      | failed _ phase => exact absurd phase (ran.2 _)
      | succeeded _ phase => exact absurd phase (ran.2 _)
      | clearStart thread => exact absurd (thread.symm.trans ran.1) (by simp)
      | waitStart _ _ thread => exact absurd (thread.symm.trans ran.1) (by simp)
      | init thread => exact absurd (thread.symm.trans ran.1) (by simp)
      | failName thread => exact absurd (thread.symm.trans ran.1) (by simp)
      | failStatus thread => exact absurd (thread.symm.trans ran.1) (by simp)
  | timeout thread phase =>
    cases due with
    | posted waits => exact absurd (thread.symm.trans waits) (by simp)
    | taken begins => exact absurd (thread.symm.trans begins) (by simp)
    | runs ran posts host =>
      exact runs_keeps idle ran posts host showing ⟨rfl, fun _ => ⟨rfl, rfl⟩, by simp⟩

/-- A failure that is not shown yet comes to be shown. -/
theorem failing_keeps (idle : world.web = .idle) (failing : Failing world)
    (doing : world.loop.tftp.updateSsiStatus = .updateDoing) {outcome : Outcome}
    (failed : outcome.exit = .failed) (answers : outcome.Answers asked)
    (stepped : IdleStepped platform world next) : Course asked next (some outcome) := by
  have stays (idle : next.web = .idle) (failing : Failing next)
      (doing : next.loop.tftp.updateSsiStatus = .updateDoing) : Course asked next (some outcome) :=
    .failing idle failing doing failed answers
  cases stepped with
  | aside _ same =>
    refine stays (same.web.trans idle) ?_ (same.updateSsiStatus.trans doing)
    rw [Failing, same.thread, same.phase]
    exact failing
  | thread _ taken =>
    rcases failing with ⟨thread, phase⟩ | thread | thread
    · simp only [threadStep, thread, phase, Option.some.injEq] at taken
      subst taken
      exact stays idle (Or.inr (Or.inl rfl)) doing
    · simp only [threadStep, thread, Option.some.injEq] at taken
      subst taken
      exact stays idle (Or.inr (Or.inr rfl)) doing
    · simp only [threadStep, thread, Option.some.injEq] at taken
      subst taken
      apply Course.ended
      · exact idle
      · exact Or.inr (Or.inl rfl)
      · rw [failed]
        rfl
      · exact answers
  | timeout thread phase =>
    rcases failing with ⟨_, done⟩ | elsewhere | elsewhere
    · exact absurd (phase.symm.trans done) (by simp)
    · exact absurd (thread.symm.trans elsewhere) (by simp)
    · exact absurd (thread.symm.trans elsewhere) (by simp)

/-- What is shown of a transfer stays until the next request. -/
theorem ended_keeps (idle : world.web = .idle) (ended : Ended world) {outcome : Outcome}
    (shown : world.loop.tftp.updateSsiStatus = exitShown outcome.exit)
    (answers : outcome.Answers asked) (stepped : IdleStepped platform world next) :
    Course asked next (some outcome) := by
  have stays (idle : next.web = .idle) (ended : Ended next)
      (shown : next.loop.tftp.updateSsiStatus = exitShown outcome.exit) :
      Course asked next (some outcome) := .ended idle ended shown answers
  cases stepped with
  | aside _ same =>
    refine stays (same.web.trans idle) ?_ (same.updateSsiStatus.trans shown)
    rw [Ended, same.thread, same.phase, same.posts]
    exact ended
  | thread _ taken =>
    rcases ended with ⟨thread, phase⟩ | thread | ⟨thread, posts⟩
    · simp only [threadStep, thread, phase, Option.some.injEq] at taken
      subst taken
      exact stays idle (Or.inr (Or.inl rfl)) shown
    · simp only [threadStep, thread, Option.some.injEq] at taken
      subst taken
      exact stays idle (Or.inr (Or.inr ⟨rfl, rfl⟩)) shown
    · simp [threadStep, thread, posts] at taken
  | timeout thread phase =>
    rcases ended with ⟨_, done⟩ | elsewhere | ⟨elsewhere, _⟩
    · exact absurd (phase.symm.trans done) (by simp)
    · exact absurd (thread.symm.trans elsewhere) (by simp)
    · exact absurd (thread.symm.trans elsewhere) (by simp)

/-- Every step but the beginning of a request keeps the course. -/
theorem Course.keeps (course : Course asked world outcome) (other : NoRequest event)
    (taken : UpdateThread.step platform world event = some next) :
    Course asked next (outcome.or (concluded asked next)) := by
  cases course with
  | requested busy thread posts before => exact requested_keeps busy thread posts before taken
  | due idle due showing => exact due_keeps idle due showing (idleStepped idle other taken)
  | failing idle failing doing failed answers =>
    exact failing_keeps idle failing doing failed answers (idleStepped idle other taken)
  | ended idle ended shown answers =>
    exact ended_keeps idle ended shown answers (idleStepped idle other taken)

end course

/-! ## The page -/

/-- What a poll reads while no request is under way. -/
theorem Course.reads {asked : Asked} {world : World Flash} {outcome : Option Outcome}
    (course : Course asked world outcome) (idle : world.web = .idle) :
    world.loop.tftp.updateSsiStatus = .updateDoing ∨ ∃ ended, outcome = some ended ∧
      world.loop.tftp.updateSsiStatus = exitShown ended.exit ∧ ended.Answers asked := by
  cases course with
  | requested busy =>
    rw [idle] at busy
    exact busy.elim
  | due _ due showing => exact Or.inl showing.doing
  | failing _ failing doing => exact Or.inl doing
  | ended _ ended shown answers => exact Or.inr ⟨_, rfl, shown, answers⟩

/-- The thread and the timeouts begin no request. -/
theorem IdleStepped.web {platform : Platform Flash} {world next : World Flash}
    (stepped : IdleStepped platform world next) : next.web = world.web := by
  cases stepped with
  | aside _ same => exact same.web
  | thread _ taken => cases threadStepped taken <;> rfl
  | timeout => rfl

/-- What holds between any two steps of a visit in which no other request comes. While the
page waits its transfer has a course, and what the page was told is the outcome that the
course had. -/
structure Kept (visit : Visit Flash) : Prop where
  course : visit.page.Waits → Course visit.asked visit.world visit.outcome
  watching : visit.page = .watching → visit.world.web = .idle
  reading : ∀ status ∈ visit.reading, visit.page = .watching ∧
    (status = .updateDoing ∨ ∃ outcome, visit.outcome = some outcome ∧
      status = exitShown outcome.exit ∧ outcome.Answers visit.asked)
  told : Truthful visit

/-- A step of the threads. -/
theorem Kept.world {platform : Platform Flash} {visit : Visit Flash} {event : UpdateThread.Event}
    {world : World Flash} (kept : Kept visit) (undisturbed : Undisturbed visit (.world event))
    (taken : UpdateThread.step platform visit.world event = some world) :
    Kept (visit.moved world) := by
  have other (waits : visit.page.Waits) : NoRequest event := by
    cases event with
    | updateRequest connection value => exact undisturbed waits
    | _ => trivial
  have observes (waits : visit.page.Waits) :
      (visit.moved world).outcome = visit.outcome.or (concluded visit.asked world) := if_pos waits
  constructor
  case course =>
    intro waits
    rw [observes waits]
    exact (kept.course waits).keeps (other waits) taken
  case watching =>
    intro watching
    have idle := kept.watching watching
    exact (idleStepped idle (other (Or.inr watching)) taken).web.trans idle
  case reading =>
    intro status read
    obtain ⟨watching, shown⟩ := kept.reading status read
    refine ⟨watching, shown.imp id ?_⟩
    rintro ⟨outcome, known, rest⟩
    exact ⟨outcome, by rw [observes (Or.inr watching), known, Option.some_or], rest⟩
  case told =>
    intro exit told
    have ended : ¬ visit.page.Waits := by
      have page : visit.page = .told exit := told
      simp [Page.Waits, page]
    have same : (visit.moved world).outcome = visit.outcome := if_neg ended
    rw [same]
    exact kept.told exit told

/-- The page asks, and the thread waits for its request. -/
theorem Kept.submit {platform : Platform Flash} {visit next : Visit Flash} {connection : Nat}
    {value : List Byte} (thread : visit.world.thread = .waitStart) (posts : visit.world.posts = [])
    (taken : step platform visit (.submit connection value) = some next) : Kept next := by
  simp only [step, Option.ite_none_left_eq_some, not_or] at taken
  obtain ⟨⟨quiet, _⟩, taken⟩ := taken
  obtain ⟨world, requested, rfl⟩ := Option.map_eq_some_iff.mp taken
  cases stepped requested with
  | updateRequest _ _ host idle found =>
    constructor
    case course =>
      intro _
      apply Course.requested
      · exact ⟨by rw [found]; rfl, rfl⟩
      · exact thread
      · exact posts
      · rfl
    case watching =>
      intro watching
      cases watching
    case reading =>
      intro status read
      have none : visit.reading = none := Option.not_isSome_iff_eq_none.mp quiet
      rw [none] at read
      cases read
    case told =>
      intro exit told
      cases told

/-- A poll is answered with what it has read. -/
theorem Kept.answer {platform : Platform Flash} {visit next : Visit Flash} (kept : Kept visit)
    (taken : step platform visit .answer = some next) : Kept next := by
  obtain ⟨status, read, taken⟩ := Option.bind_eq_some_iff.mp taken
  obtain ⟨text, answered, rfl⟩ := Option.map_eq_some_iff.mp taken
  obtain ⟨watching, shown⟩ := kept.reading status read
  rcases shown with rfl | ⟨outcome, known, rfl, answers⟩
  · rw [pollResult_progress answered]
    exact ⟨kept.course, kept.watching, by simp, kept.told⟩
  · obtain ⟨shown, same, result⟩ := pollResult_over visit.world.loop.tftp outcome.exit
    obtain rfl := Option.some.inj (same.symm.trans answered)
    rw [result]
    constructor
    case course =>
      intro waits
      simp [Page.Waits] at waits
    case watching =>
      intro watching
      cases watching
    case reading =>
      intro status read
      cases read
    case told =>
      intro exit told
      obtain rfl := Page.told.inj told
      exact ⟨outcome, known, rfl, answers⟩

/-- Every step keeps it, while no other request comes. -/
theorem Kept.keeps {platform : Platform Flash} (visit : Visit Flash) (event : Event)
    (next : Visit Flash) (kept : Kept visit) (undisturbed : Undisturbed visit event)
    (taken : step platform visit event = some next) : Kept next := by
  cases event with
  | world event =>
    simp only [step, Option.ite_none_left_eq_some] at taken
    obtain ⟨world, moved, rfl⟩ := Option.map_eq_some_iff.mp taken.2
    exact kept.world undisturbed moved
  | submit connection value => exact Kept.submit undisturbed.1 undisturbed.2 taken
  | posted =>
    simp only [step, Option.ite_none_right_eq_some, Option.some.injEq] at taken
    obtain ⟨⟨asking, idle⟩, rfl⟩ := taken
    refine ⟨fun _ => kept.course (Or.inl asking), fun _ => idle, ?_, ?_⟩
    · intro status read
      exact absurd (asking.symm.trans (kept.reading status read).1) (by simp)
    · intro exit told
      cases told
  | poll =>
    simp only [step, Option.ite_none_right_eq_some, Option.some.injEq] at taken
    obtain ⟨⟨watching, idle, _⟩, rfl⟩ := taken
    refine ⟨kept.course, kept.watching, ?_, kept.told⟩
    intro status read
    obtain rfl := Option.some.inj read
    exact ⟨watching, (kept.course (Or.inr watching)).reads idle⟩
  | answer => exact kept.answer taken

/-- Nothing was asked behind the creation of the threads. -/
theorem opened_kept (tftp : Tftp Flash) : Kept (opened tftp) := by
  constructor
  case course =>
    intro waits
    simp [Page.Waits, opened] at waits
  case watching =>
    intro watching
    cases watching
  case reading =>
    intro status read
    cases read
  case told =>
    intro exit told
    cases told

/-- In every order of the threads, the requests and the polls in which the page asks while
the thread waits, and no other request comes before it is told: what the page tells is how
the transfer that its own request started came out. With the verdict go the host, the file
and the configuration, so that a page is not told of the transfer of somebody else, nor of
an earlier one of its own. -/
theorem page_tells_own_outcome (platform : Platform Flash) (tftp : Tftp Flash)
    (events : List Event) (undisturbed : Guarded (step platform) Undisturbed (opened tftp) events) :
    Always (step platform) Truthful (opened tftp) events :=
  always_of_guarded Kept Truthful (fun _ kept => kept.told) Kept.keeps (opened_kept tftp) events
    undisturbed

/-- The sample file is chosen, sent in one block, and polled before and behind its end. -/
def sampleVisit : List Event :=
  [.world (.accept 0xc0a80002), .world .thread, .submit 0 (ascii "12%5Ca.bin"),
    .world .updateContinue, .world .updateContinue, .world .updateContinue, .posted, .poll, .answer,
    .world .thread, .world .thread, .world .thread, .world .thread,
    .world (.callback (dataPacket 1 zeroSumHead) 5000), .world .thread, .world .thread, .poll,
    .world .thread, .answer, .poll, .answer]

/-- Nothing comes in between. -/
theorem sampleVisit_tells_own_outcome :
    Always (step samplePlatform) Truthful (opened sampleClient) sampleVisit :=
  page_tells_own_outcome samplePlatform sampleClient sampleVisit (by decide +kernel)

/-- The page is told the success of its file. -/
example : (run (step samplePlatform) (opened sampleClient) sampleVisit).map (·.page) =
    some (.told .succeeded) := by decide +kernel

/-- Another request has failed, and the page asks before the thread has shown it. -/
def earlyVisit : List Event :=
  ([UpdateThread.Event.thread] ++ requestUpdate 0 (ascii "12%5Ca.bin") ++ threadSteps 4 ++
      [UpdateThread.Event.timeout] ++ threadSteps 2).map .world ++
    [.world (.accept 0xc0a80002), .submit 1 (ascii "12%5Ca.bin"), .world .updateContinue,
      .world .updateContinue, .world .updateContinue, .world .thread, .posted, .poll, .answer]

/-- It is told the failure of the other one. -/
example : (run (step samplePlatform) (opened sampleClient) earlyVisit).map (fun visit =>
    (visit.page, visit.outcome)) = some (.told .failed, none) := by decide +kernel

/-! ## What the page can still be told -/

/-- So many steps can bring the page to be told, with no other request in between. The steps
may be chosen, but a request is none of them. -/
def CanBeTold (platform : Platform Flash) (exit : Exit) (count : Nat) (visit : Visit Flash) :
    Prop :=
  ∃ further final, further.length ≤ count ∧ Guarded (step platform) Undisturbed visit further ∧
    run (step platform) visit further = some final ∧ final.page = .told exit

section telling
variable {platform : Platform Flash} {visit next : Visit Flash} {exit : Exit} {count : Nat}

/-- A step in front of those that bring the page to be told. -/
theorem CanBeTold.behind {event : Event} (can : CanBeTold platform exit count next)
    (taken : step platform visit event = some next) (undisturbed : Undisturbed visit event) :
    CanBeTold platform exit (count + 1) visit := by
  obtain ⟨further, final, short, guarded, completed, told⟩ := can
  refine ⟨event :: further, final, ?_, ?_, ?_, told⟩
  · rw [List.length_cons]
    omega
  · simp only [Guarded, taken]
    exact ⟨undisturbed, guarded⟩
  · simp only [run, taken]
    exact completed

/-- More steps can bring it there too. -/
theorem CanBeTold.mono {more : Nat} (can : CanBeTold platform exit count visit)
    (fewer : count ≤ more) : CanBeTold platform exit more visit := by
  obtain ⟨further, final, short, rest⟩ := can
  exact ⟨further, final, Nat.le_trans short fewer, rest⟩

/-- The page polls, and no request and no poll is under way. It stands between the answer of
one poll and the next. -/
structure Polls (visit : Visit Flash) : Prop where
  watching : visit.page = .watching
  idle : visit.world.web = .idle
  quiet : visit.reading = none

/-- An outcome that is shown is told by the next poll. -/
theorem shown_told (platform : Platform Flash) (polls : Polls visit)
    (shown : visit.world.loop.tftp.updateSsiStatus = exitShown exit) :
    CanBeTold platform exit 2 visit := by
  obtain ⟨text, answered, result⟩ := pollResult_over visit.world.loop.tftp exit
  have polled : step platform visit .poll =
      some { visit with reading := some (exitShown exit) } := by
    rw [step, if_pos ⟨polls.watching, polls.idle, polls.quiet⟩, shown]
  have told : step platform { visit with reading := some (exitShown exit) } .answer =
      some { visit with reading := none, page := .told exit } := by
    simp only [step, Option.bind_some, answered, Option.map_some, result]
  have there : CanBeTold platform exit 0 { visit with reading := none, page := .told exit } :=
    ⟨[], _, Nat.le_refl 0, trivial, rfl, rfl⟩
  exact (there.behind told trivial).behind polled trivial

/-- The thread goes on. -/
theorem thread_told {world : World Flash} (polls : Polls visit)
    (taken : threadStep platform visit.world = some world)
    (can : Polls (visit.moved world) → CanBeTold platform exit count (visit.moved world)) :
    CanBeTold platform exit (count + 1) visit := by
  have moved : step platform visit (.world .thread) = some (visit.moved world) := by
    simp [step, byWeb, UpdateThread.step, taken]
  have web : world.web = .idle := (IdleStepped.thread world taken).web.trans polls.idle
  exact (can ⟨polls.watching, web, polls.quiet⟩).behind moved trivial

/-- A failure that is not shown yet is shown in three steps of the thread. -/
theorem failing_told (platform : Platform Flash) (polls : Polls visit)
    (failing : Failing visit.world) : CanBeTold platform .failed 5 visit := by
  have status (visit : Visit Flash) (polls : Polls visit)
      (thread : visit.world.thread = .failStatus) : CanBeTold platform .failed 3 visit := by
    refine thread_told polls (by simp only [threadStep, thread]; rfl) ?_
    exact fun polls => shown_told platform polls rfl
  have name (visit : Visit Flash) (polls : Polls visit)
      (thread : visit.world.thread = .failName) : CanBeTold platform .failed 4 visit := by
    refine thread_told polls (by simp only [threadStep, thread]; rfl) ?_
    exact fun polls => status _ polls rfl
  rcases failing with ⟨thread, phase⟩ | thread | thread
  · refine thread_told polls (by simp only [threadStep, thread, phase]; rfl) ?_
    exact fun polls => name _ polls rfl
  · exact (name visit polls thread).mono (by decide)
  · exact (status visit polls thread).mono (by decide)

/-- A page that polls is told the outcome. -/
theorem polling_told (kept : Kept visit) (polls : Polls visit) {outcome : Outcome}
    (came : visit.outcome = some outcome) : CanBeTold platform outcome.exit 5 visit := by
  have course := kept.course (Or.inr polls.watching)
  rw [came] at course
  cases course with
  | failing _ failing doing failed answers => exact failed ▸ failing_told platform polls failing
  | ended _ ended shown answers => exact (shown_told platform polls shown).mono (by decide)

end telling

/-- A poll that is under way is answered first. -/
theorem reading_told {platform : Platform Flash} {visit : Visit Flash} (kept : Kept visit)
    {outcome : Outcome} (came : visit.outcome = some outcome) {status : SsiStatus}
    (read : visit.reading = some status) (size : visit.world.loop.tftp.totalFileLen ≠ 0) :
    CanBeTold platform outcome.exit 6 visit := by
  obtain ⟨watching, shown⟩ := kept.reading status read
  have idle := kept.watching watching
  rcases shown with rfl | ⟨own, known, rfl, _⟩
  · have computed : ∃ text,
        updateStatusSsiHandler visit.world.loop.tftp .updateDoing = some text := by
      simp [updateStatusSsiHandler, tftpGetProgressPercent, size]
    obtain ⟨text, answered⟩ := computed
    have goes : step platform visit .answer = some { visit with reading := none } := by
      simp only [step, read, Option.bind_some, answered, Option.map_some,
        pollResult_progress answered]
    have polls : Polls { visit with reading := none } := ⟨watching, idle, rfl⟩
    have further : Kept { visit with reading := none } := kept.answer goes
    exact (polling_told further polls came).behind goes trivial
  · obtain rfl := Option.some.inj (known.symm.trans came)
    obtain ⟨text, answered, result⟩ := pollResult_over visit.world.loop.tftp own.exit
    have goes : step platform visit .answer =
        some { visit with reading := none, page := .told own.exit } := by
      simp only [step, read, Option.bind_some, answered, Option.map_some, result]
    have there : CanBeTold platform own.exit 0
        { visit with reading := none, page := .told own.exit } :=
      ⟨[], _, Nat.le_refl 0, trivial, rfl, rfl⟩
    exact (there.behind goes trivial).mono (by decide)

/-- And it is told: from every state of such a run in which the transfer of the page has
come out, six steps are enough, unless a poll divides the progress by an announced size of
zero. The exception is a poll that was begun while the update was shown and is not answered,
because a size of zero has no percentage. -/
theorem page_can_be_told (platform : Platform Flash) (tftp : Tftp Flash) (events : List Event)
    (undisturbed : Guarded (step platform) Undisturbed (opened tftp) events) {visit : Visit Flash}
    (completed : run (step platform) (opened tftp) events = some visit) (waits : visit.page.Waits)
    {outcome : Outcome} (came : visit.outcome = some outcome)
    (answerable : visit.reading = none ∨ visit.world.loop.tftp.totalFileLen ≠ 0) :
    CanBeTold platform outcome.exit 6 visit := by
  have along : Always (step platform) Kept (opened tftp) events :=
    always_of_guarded Kept Kept (fun _ kept => kept) Kept.keeps (opened_kept tftp) events
      undisturbed
  have kept : Kept visit := always_final along completed
  cases read : visit.reading with
  | some status =>
    have size := answerable.resolve_left (by simp [read])
    exact reading_told kept came read size
  | none =>
    have course := kept.course waits
    rw [came] at course
    have idle : visit.world.web = .idle := by
      cases course with
      | failing idle => exact idle
      | ended idle => exact idle
    rcases waits with asking | watching
    · have goes : step platform visit .posted = some { visit with page := .watching } := by
        rw [step, if_pos ⟨asking, idle⟩]
      have further : Kept { visit with page := .watching } :=
        Kept.keeps visit .posted _ kept trivial goes
      exact (polling_told further ⟨rfl, idle, read⟩ came).behind goes trivial
    · exact (polling_told kept ⟨watching, idle, read⟩ came).mono (by decide)

/-- The sample file is asked for, and no datagram comes for five seconds. -/
def silentVisit : List Event :=
  [.world (.accept 0xc0a80002), .world .thread, .submit 0 (ascii "12%5Ca.bin"),
    .world .updateContinue, .world .updateContinue, .world .updateContinue, .world .thread,
    .world .thread, .world .thread, .world .thread, .world .timeout]

/-- The page can still be told its failure. -/
theorem silentVisit_can_be_told :
    ∃ visit, run (step samplePlatform) (opened sampleClient) silentVisit = some visit ∧
      CanBeTold samplePlatform .failed 6 visit := by
  have ends : (run (step samplePlatform) (opened sampleClient) silentVisit).map (fun visit =>
      (visit.page, visit.reading, visit.outcome)) =
        some (.asking, none, some ⟨.failed, 0xc0a80002, ascii "a.bin", []⟩) := by
    decide +kernel
  obtain ⟨visit, completed, facts⟩ := Option.map_eq_some_iff.mp ends
  simp only [Prod.mk.injEq] at facts
  obtain ⟨asking, quiet, came⟩ := facts
  exact ⟨visit, completed, page_can_be_told samplePlatform sampleClient silentVisit
    (by decide +kernel) completed (Or.inl asking) came (Or.inl quiet)⟩

end UcosProxy.UpdatePage
