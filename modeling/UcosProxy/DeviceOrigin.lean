import UcosProxy.PortFrames
import UcosProxy.Runs

/-!
# Whose configuration a write carries

There are two devices, the central and the remote one, and one `dev_id`. Every
reader asks for the id of the side chosen at that moment and overwrites it; a writer
uses whatever it is. The web server serves one request after the other, so a run is
any list of refreshes, choices of a side and port requests, with any outcome on the
link.

`past` is what the link gave to each refresh, latest first. From it alone follow the
id that was reported last and, for every array, the id under which it was filled
last, unless a failed refresh of its kind cleared it since. `writes_go_home_iff`
says that a write addresses the device its array was read from, along the whole run,
exactly when these two ids are the same before every write.
-/

namespace UcosProxy.DeviceOrigin

open UriParameters CgiAccess ControlRequire ControlTables PortArrays PortCgi PortFrames Runs

/-- A refresh with what the link gave to it. The side is taken as it stands when the refresh
begins. -/
structure Refresh where
  reader : Reader
  link : Link
  crRemoteChosen : Bool

/-- A configuration frame, and the device id in the request that filled the array it
was built from. -/
structure SentConfig where
  arg : WebDybArg
  readFrom : Option (BitVec 16)
deriving DecidableEq

/-- The web state with its histories: the refreshes, latest first, and the
configuration frames. -/
structure System where
  web : WebState
  past : List Refresh
  writes : List SentConfig

/-- What the web server may serve next. Refreshes, changes of the side and writes come in
any order, from any pages. -/
inductive Call
  | refresh (reader : Reader) (link : Link)
  | centRmt (params : List Param)
  | port (page : PortPage) (params : List Param) (link : Link)

/-- The web server before its first request. -/
def powerOn : System := ⟨zeroState, [], []⟩

section model
variable (codes : Codes)

/-- A configuration frame with the origin of its array. -/
def sentConfig (control : WebControl) (write : ConfigWrite) : SentConfig :=
  ⟨write.arg, (cached control write.kind write.board).readFrom⟩

/-- Serve one call. A handler that faults has no state behind it. -/
def originStep (system : System) : Call → Option System
  | .refresh reader link =>
    some { system with
      web := { system.web with
        control := (reader.read codes link system.web.crRemoteChosen system.web.control).2 }
      past := ⟨reader, link, system.web.crRemoteChosen⟩ :: system.past }
  | .centRmt params =>
    match centRmtCgiInterface params system.web with
    | .error _ => none
    | .ok served => some { system with web := served.web }
  | .port page params link =>
    match page.cgi codes link params system.web with
    | .error _ => none
    | .ok served =>
      some { system with
        web := served.web
        writes := system.writes ++ served.write.toList.map (sentConfig system.web.control) }

/-- The id that was reported last. -/
def lastDevice : List Refresh → BitVec 16
  | [] => 0
  | refresh :: earlier =>
    (heardDevice codes refresh.link refresh.crRemoteChosen).getD (lastDevice earlier)

/-- The id under which an array was filled last, if it was not cleared since. -/
def readUnder (kind : PortKind) (board : Board) : List Refresh → Option (BitVec 16)
  | [] => none
  | refresh :: earlier =>
    if refresh.reader.reads kind then
      match heardBoards codes refresh.link refresh.crRemoteChosen with
      | none => none
      | some (devId, boards) =>
        if boardContains boards board kind.tab ∧
            (refresh.link (configArg codes devId kind board)).isSome then some devId
        else readUnder kind board earlier
    else readUnder kind board earlier

/-- Every configuration frame addresses the device that its array was read from. Both the
central and the remote device answer on the same link, and only the id in the frame tells
them apart. -/
def WritesHome (system : System) : Prop :=
  ∀ sent ∈ system.writes, sent.readFrom = some sent.arg.devId

/-- Before a write, the id that was reported last is the one under which the board's
array was filled last, and the array was not cleared since. -/
def SameDevice (system : System) : Call → Prop
  | .port page params _ =>
    2 ≤ params.length → ∀ board : Board, boardOf params = board.val →
      readUnder codes (page.kind params) board system.past = some (lastDevice codes system.past)
  | _ => True

/-- The cached tables follow the refreshes. The origin that an array carries is history.
What is proved of it is that it follows from the refreshes alone. -/
structure Traced (system : System) : Prop where
  device : system.web.control.devId = lastDevice codes system.past
  arrays : ∀ kind board,
    (cached system.web.control kind board).readFrom = readUnder codes kind board system.past
  home : WritesHome system

variable {codes}

/-- An array behind a reader of its kind was read as the refresh says. -/
theorem refreshed_readFrom (refresh : Refresh) (earlier : List Refresh) (kind : PortKind)
    (board : Board) (before : ConfigArray kind.count kind.width)
    (reads : refresh.reader.reads kind = true)
    (traced : before.readFrom = readUnder codes kind board earlier) :
    (refreshed codes refresh.link refresh.crRemoteChosen kind board before).readFrom =
      readUnder codes kind board (refresh :: earlier) := by
  unfold refreshed readUnder
  rw [reads, if_pos rfl]
  cases heardBoards codes refresh.link refresh.crRemoteChosen with
  | none => rfl
  | some heard =>
    simp only [received]
    by_cases contains : boardContains heard.2 board kind.tab
    · cases refresh.link (configArg codes heard.1 kind board) with
      | none => simpa [contains] using traced
      | some reply => simp [contains]
    · simpa [contains] using traced

/-- A refresh keeps the tables traced. -/
theorem Traced.refreshes {system : System} (traced : Traced codes system) (reader : Reader)
    (link : Link) :
    Traced codes { system with
      web := { system.web with
        control := (reader.read codes link system.web.crRemoteChosen system.web.control).2 }
      past := ⟨reader, link, system.web.crRemoteChosen⟩ :: system.past } where
  device := by
    rw [read_devId, traced.device]
    rfl
  arrays := by
    intro kind board
    simp only [read_cached]
    cases reads : reader.reads kind with
    | true =>
      exact refreshed_readFrom ⟨reader, link, system.web.crRemoteChosen⟩ system.past kind board _ reads
        (traced.arrays kind board)
    | false =>
      rw [readUnder, reads]
      exact traced.arrays kind board
  home := traced.home

/-- A handler that leaves the tables alone keeps them traced, when the frames it
sends go home. -/
theorem Traced.serves {system : System} (traced : Traced codes system) (web : WebState)
    (writes : List SentConfig) (control : web.control = system.web.control)
    (home : ∀ sent ∈ writes, sent.readFrom = some sent.arg.devId) :
    Traced codes { system with web := web, writes := system.writes ++ writes } where
  device := by
    rw [control]
    exact traced.device
  arrays := by
    intro kind board
    rw [control]
    exact traced.arrays kind board
  home := by
    intro sent member
    rcases List.mem_append.mp member with earlier | new
    · exact traced.home sent earlier
    · exact home sent new

/-- A frame goes home exactly when the two ids are the same. -/
theorem Traced.sends_home_iff {system : System} (traced : Traced codes system) {kind : PortKind}
    {link : Link} {params : List Param} {write : ConfigWrite}
    (sends : Sends kind link params system.web.control write) :
    (sentConfig system.web.control write).readFrom =
        some (sentConfig system.web.control write).arg.devId ↔
      readUnder codes kind write.board system.past = some (lastDevice codes system.past) := by
  unfold sentConfig
  rw [sends.device, traced.arrays, traced.device, sends.kind]

/-- What a step that serves a port page does. -/
theorem originStep_port {system next : System} {page : PortPage} {params : List Param} {link : Link}
    (taken : originStep codes system (.port page params link) = some next) :
    ∃ served, Configured (page.kind params) link params system.web served ∧
      next = { system with
        web := served.web
        writes := system.writes ++ served.write.toList.map (sentConfig system.web.control) } := by
  cases ok : page.cgi codes link params system.web with
  | error fault => simp [originStep, ok] at taken
  | ok served =>
    simp only [originStep, ok] at taken
    exact ⟨served, page.cgi_configured ok, (Option.some.inj taken).symm⟩

/-- Every call keeps the tables traced and the frames home under the guard. -/
theorem Traced.keeps (system : System) (call : Call) (next : System) (traced : Traced codes system)
    (same : SameDevice codes system call) (taken : originStep codes system call = some next) :
    Traced codes next := by
  cases call with
  | refresh reader link =>
    obtain rfl := Option.some.inj taken
    exact traced.refreshes reader link
  | centRmt params =>
    cases served : centRmtCgiInterface params system.web with
    | error fault => simp [originStep, served] at taken
    | ok after =>
      simp only [originStep, served] at taken
      obtain rfl := Option.some.inj taken
      have aside := traced.serves after.web [] (centRmtCgiInterface_control served).1 (by simp)
      rwa [List.append_nil] at aside
  | port page params link =>
    obtain ⟨served, configured, rfl⟩ := originStep_port taken
    refine traced.serves served.web _ configured.control ?_
    intro sent member
    obtain ⟨write, written, rfl⟩ := List.mem_map.mp member
    rw [Option.mem_toList] at written
    have sends := configured.sends write written
    have long : 2 ≤ params.length := configured.writes.mp (Option.isSome_of_mem written)
    exact (traced.sends_home_iff sends).mpr (same long write.board sends.board)

/-- A step behind which every frame went home met the guard. -/
theorem Traced.needed (system : System) (call : Call) (next : System) (traced : Traced codes system)
    (taken : originStep codes system call = some next) (home : WritesHome next) :
    SameDevice codes system call := by
  cases call with
  | refresh reader link => trivial
  | centRmt params => trivial
  | port page params link =>
    intro long board number
    obtain ⟨served, configured, rfl⟩ := originStep_port taken
    obtain ⟨write, written, own, sends⟩ := configured.sent long number
    have went := home (sentConfig system.web.control write)
      (List.mem_append_right _ (by simp [written]))
    exact own ▸ (traced.sends_home_iff sends).mp went

theorem powerOn_traced : Traced codes powerOn where
  device := rfl
  arrays := by
    intro kind board
    cases kind <;> rfl
  home := by simp [WritesHome, powerOn]

/-- Along every run, each configuration goes back to the device it was read from exactly
when, before every write, the device id reported last is the one under which the board's
array was filled last and no failed refresh has cleared the array since. No condition on the
values is needed, and none on the order of pages; the calls are requests and refreshes of
any kind. -/
theorem writes_go_home_iff (calls : List Call) :
    Always (originStep codes) WritesHome powerOn calls ↔
      Guarded (originStep codes) (SameDevice codes) powerOn calls :=
  always_iff_guarded (Traced codes) WritesHome (fun _ traced => traced.home) Traced.keeps Traced.needed
    powerOn_traced calls

end model

/-- The central device has id 1 and the remote one id 2; the main board stands in the
first slot, and every configuration byte is zero. -/
def sampleLink : Link := fun arg =>
  if arg.cmdExt = 0x40 then some ⟨0, [1, 0]⟩
  else if arg.cmdExt = 0x4a then some ⟨0, [2, 0]⟩
  else if arg.cmdExt = 3 then some ⟨0, [1, 0, 0x32, 0x01, 0x06, 0x80]⟩
  else some ⟨0, []⟩

/-- A request that switches the first gigabit port on. -/
def sampleParams : List Param :=
  [⟨Bytes.ascii "ge", some (Bytes.ascii "G")⟩, ⟨Bytes.ascii "board", some (Bytes.ascii "0")⟩,
    ⟨Bytes.ascii "portno", some (Bytes.ascii "0")⟩,
    ⟨Bytes.ascii "eth_switch", some (Bytes.ascii cgistrEnable)⟩]

/-- The central ports are read, the remote side is chosen, the panel is polled, and
the port form of the central side is submitted. -/
def pollBetween : List Call :=
  [.refresh .eth sampleLink,
    .centRmt [⟨Bytes.ascii "cent_rmt", some (Bytes.ascii cgiRemoteString)⟩, ⟨[], none⟩],
    .refresh .panel sampleLink, .port .eth sampleParams sampleLink]

/-- The remote device gets the array of the central one. -/
theorem pollBetween_writes :
    (run (originStep sampleCodes) powerOn pollBetween).map
        (fun final => final.writes.map fun sent => (sent.readFrom, sent.arg.devId)) =
      some [(some 1, 2)] := by
  decide

/-- Some run writes the configuration of one device to the other. -/
theorem writes_do_not_always_go_home :
    ¬ ∀ calls, Always (originStep sampleCodes) WritesHome powerOn calls := by
  intro home
  obtain ⟨final, completed, writes⟩ := Option.map_eq_some_iff.mp pollBetween_writes
  have holds : WritesHome final := always_final (home pollBetween) completed
  obtain ⟨sent, only, same⟩ := List.map_eq_singleton_iff.mp writes
  have own := holds sent (by simp [only])
  obtain ⟨readFrom, devId⟩ := Prod.mk.inj same
  rw [readFrom, devId] at own
  exact absurd own (by decide)

end UcosProxy.DeviceOrigin
