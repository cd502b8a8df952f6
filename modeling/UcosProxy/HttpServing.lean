import UcosProxy.HttpServer

/-!
# What holds in every run of the web server

Three things, whatever the interleaving of the connections' calls: the table of open files
is exact, so no entry is lost and none is given away twice; every client gets the response
to its own request and nothing of another's; and a connection that nothing happens to but
polls is closed by the fourth of them and gives its entry back.

The two halves of a connection's state agree on whether a file is open, and no body bytes
are awaited while one is. A request can therefore never take the place of a file that is
still open.
-/

namespace UcosProxy.HttpServer

open Bytes TagScan Runs HttpSend Holdings

section coherence
variable {Pcb World : Type} (ssi : Ssi World) (cgis : Cgis World) (image : Image)
  (held : World → Prop)

/-- What could be opened for an exchange. -/
def Exchange.opens (exchange : Exchange) : List Byte → Option FsFile :=
  if exchange.full then fun _ => none else image.file

/-- The response was found for what was asked, in what could be opened. Where no entry of
the table was free the response is the built-in error page, whatever the image holds. -/
def Exchange.Proper (exchange : Exchange) : Prop :=
  match exchange.asked with
  | none => exchange.response = httpStateAlloc.response
  | some (uri, is09) => ∃ hs world, held world ∧ exchange.response =
      (httpFindFile (exchange.opens image) cgis hs world uri is09).1.response

/-- No file of the image brings its headers with it, so that the server writes the headers
of every response itself. -/
def Plain (image : Image) : Prop := ∀ entry ∈ image, entry.2.httpHeaderIncluded = false

/-- What the two halves of a connection agree on, and what holds of the second. What is sent
is accounted for when the image is plain. A connection holds an entry exactly while it has a
file open, and it is not at a body while it sends. -/
structure Agrees (hs : HttpPost.HttpState) (connection : Connection Pcb World) : Prop where
  sending : hs.sending = connection.scene.hs.handle.isSome
  idle : hs.sending = true → hs.postContentLenLeft = 0
  entry : connection.entry.isSome = connection.scene.hs.handle.isSome
  retries : connection.scene.hs.retries < maxRetries
  fair : Plain image → Fair ssi held connection.exchange.response ⟨connection.scene, none, false⟩
  buffer : Plain image → connection.scene.hs.handle = none →
    connection.scene.hs.tagName.length = maxTagNameLen + 1
  proper : connection.exchange.Proper cgis image held

/-- The entry that a connection holds. -/
def Server.holds (server : Server Pcb World) (number : Nat) : Option (Fin maxOpenFiles) :=
  (server.connections number).bind Connection.entry

/-- The invariant of the server. The table is exact, and each connection agrees with itself.
It is kept by every call of the stack on any connection. -/
structure Coherent (server : Server Pcb World) : Prop where
  connections : ∀ number, Option.Rel (Agrees ssi cgis image held)
    (server.post.connections number) (server.connections number)
  table : Exact server.memory server.holds
  past : ∀ entry ∈ server.past, entry.exchange.Proper cgis image held ∧
    (Plain image → Fair ssi held entry.exchange.response entry.outcome)

/-- What a call that sends leaves of a connection: the same file, open or not, and a
response that is still fair. -/
structure Settles (connection : Connection Pcb World) (outcome : Outcome Pcb World) : Prop where
  fair : Plain image → Fair ssi held connection.exchange.response outcome
  handle : outcome.scene.hs.handle = connection.scene.hs.handle
  retries : outcome.ended = none → outcome.scene.hs.retries < maxRetries
  buffer : Plain image → connection.scene.hs.handle = none →
    outcome.scene.hs.tagName.length = maxTagNameLen + 1

variable {ssi cgis image held}
variable {server : Server Pcb World} {post : HttpPost.Server} {number : Nat}
  {hs : HttpPost.HttpState} {connection : Connection Pcb World} {outcome : Outcome Pcb World}

/-- A response that is not over has nothing to be complete. -/
theorem fair_of_sound {response : Response} {scene : Scene Pcb World} {ended : Option Ending}
    {dataToSend : Bool} (sound : Sound ssi held response scene)
    (unfinished : ∀ ending ∈ ended, ending = .retries) :
    Fair ssi held response ⟨scene, ended, dataToSend⟩ := by
  refine ⟨sound, ?_⟩
  rintro (never | never)
  · cases unfinished _ never
  · cases unfinished _ never

theorem coherent_httpdInit :
    Coherent ssi cgis image held (httpdInit : Server Pcb World) where
  connections := fun _ => .none
  table := exact_empty
  past := fun _ member => absurd member List.not_mem_nil

theorem holds_update (connections : Nat → Option (Connection Pcb World)) (memory : FsMemory)
    (past : List (Past Pcb World)) (what : Option (Connection Pcb World)) :
    Server.holds ⟨post, Function.update connections number what, memory, past⟩ =
      Function.update (Server.holds ⟨post, connections, memory, past⟩) number
        (what.bind Connection.entry) := by
  funext other
  by_cases same : other = number
  · subst same
    simp only [Server.holds, Function.update_self]
  · simp only [Server.holds, Function.update_of_ne same]

/-- One connection changes, in both halves. -/
theorem Coherent.change (coherent : Coherent ssi cgis image held server)
    {half : Option HttpPost.HttpState} {what : Option (Connection Pcb World)} {memory : FsMemory}
    {past : List (Past Pcb World)}
    (posts : post.connections = Function.update server.post.connections number half)
    (agrees : Option.Rel (Agrees ssi cgis image held) half what)
    (table : Exact memory (Function.update server.holds number (what.bind Connection.entry)))
    (told : ∀ entry ∈ past, entry.exchange.Proper cgis image held ∧
      (Plain image → Fair ssi held entry.exchange.response entry.outcome)) :
    Coherent ssi cgis image held ⟨post, Function.update server.connections number what, memory, past⟩ := by
  constructor
  case connections =>
    intro other
    rw [posts]
    by_cases same : other = number
    · subst same
      simpa only [Function.update_self] using agrees
    · simpa only [Function.update_of_ne same] using coherent.connections other
  case table =>
    rw [holds_update]
    exact table
  case past => exact told

/-- Whoever is there is there in both halves. -/
theorem Coherent.agrees (coherent : Coherent ssi cgis image held server)
    (there : server.connections number = some connection) :
    ∃ hs, server.post.connections number = some hs ∧ Agrees ssi cgis image held hs connection := by
  have both := coherent.connections number
  rw [there] at both
  generalize server.post.connections number = half at both
  cases both with
  | some agrees => exact ⟨_, rfl, agrees⟩

theorem holds_of_there (there : server.connections number = some connection) :
    server.holds number = connection.entry := by
  rw [Server.holds, there]
  rfl

/-- One more response is over. -/
theorem Coherent.told (coherent : Coherent ssi cgis image held server)
    {entry : Past Pcb World} (proper : entry.exchange.Proper cgis image held)
    (fair : Plain image → Fair ssi held entry.exchange.response entry.outcome) :
    ∀ other ∈ server.past ++ [entry], other.exchange.Proper cgis image held ∧
      (Plain image → Fair ssi held other.exchange.response other.outcome) := by
  intro other member
  rcases List.mem_append.mp member with before | last
  · exact coherent.past other before
  · obtain rfl := List.mem_singleton.mp last
    exact ⟨proper, fair⟩

/-- A connection that ends gives its entry back. -/
theorem Coherent.close (coherent : Coherent ssi cgis image held server)
    (there : server.connections number = some connection)
    (posts : (post.remove number).connections =
      Function.update server.post.connections number none)
    (fair : Plain image → Fair ssi held connection.exchange.response outcome) :
    Coherent ssi cgis image held ({ server with post := post }.close number connection outcome) := by
  obtain ⟨_, _, agrees⟩ := coherent.agrees there
  have holds := holds_of_there there
  refine coherent.change posts .none ?_ (coherent.told agrees.proper fair)
  cases entry : connection.entry with
  | none =>
    rw [entry] at holds
    exact coherent.table.keep holds
  | some place =>
    rw [entry] at holds
    exact coherent.table.release holds

/-- A call that sends leaves the server coherent. -/
theorem Coherent.settle (coherent : Coherent ssi cgis image held server)
    (there : server.connections number = some connection)
    (settles : Settles ssi image held connection outcome) :
    Coherent ssi cgis image held (server.settle number connection outcome) := by
  obtain ⟨hs, half, agrees⟩ := coherent.agrees there
  have holds := holds_of_there there
  unfold Server.settle
  split
  · exact coherent.close there rfl settles.fair
  · rename_i open_
    have kept : server.post.connections =
        Function.update server.post.connections number (some hs) := by
      rw [← half, Function.update_eq_self]
    refine coherent.change kept (.some ?_) (coherent.table.keep holds) coherent.past
    exact {
      sending := agrees.sending.trans (congrArg Option.isSome settles.handle.symm)
      idle := agrees.idle
      entry := agrees.entry.trans (congrArg Option.isSome settles.handle.symm)
      retries := settles.retries open_
      fair := fun plain => fair_of_sound (settles.fair plain).sound (by simp)
      buffer := fun plain none => settles.buffer plain (settles.handle.symm.trans none)
      proper := agrees.proper }

/-! ## Sending -/

/-- Nothing is left of a file that is not open. -/
theorem left_of_no_file {response : Response} {scene : Scene Pcb World}
    (sound : Sound ssi held response scene) (none : scene.hs.handle = none) : scene.hs.left = 0 := by
  have left := sound.left
  rw [HttpState.data, none] at left
  exact (Nat.add_eq_zero_iff.mp left).2

/-- `http_send_data`, when the retries were counted. -/
theorem settles_httpSendData (tcp : Tcp Pcb) (keeps : Keeps ssi held) {scene : Scene Pcb World}
    (sound : Plain image → Sound ssi held connection.exchange.response scene)
    (handle : scene.hs.handle = connection.scene.hs.handle)
    (retries : scene.hs.retries < maxRetries)
    (buffer : Plain image → connection.scene.hs.handle = none →
      scene.hs.tagName.length = maxTagNameLen + 1) :
    Settles ssi image held connection (httpSendData tcp ssi scene) := by
  have standing := Prod.mk.inj (httpSendData_standing tcp ssi scene)
  constructor
  case fair => exact fun plain => (sound plain).httpSendData tcp keeps
  case handle => exact standing.1.trans handle
  case retries =>
    intro _
    rwa [standing.2]
  case buffer =>
    intro plain none
    rw [httpSendData_tagName tcp ssi scene (left_of_no_file (sound plain) (handle.trans none))]
    exact buffer plain none

/-- An acknowledgement or a poll. -/
theorem Agrees.call (tcp : Tcp Pcb) (keeps : Keeps ssi held)
    (agrees : Agrees ssi cgis image held hs connection) {event : HttpSend.Event Pcb World}
    (kept : held event.world)
    (taken : HttpSend.step tcp ssi ⟨connection.scene, none, false⟩ event = some outcome) :
    Settles ssi image held connection outcome := by
  have few := agrees.retries
  unfold HttpSend.step at taken
  rw [if_neg fun ended => ended rfl] at taken
  cases event with
  | sent pcb world =>
    obtain rfl := Option.some.inj taken
    exact settles_httpSendData tcp keeps (fun plain => (agrees.fair plain).sound.outside _ _ kept) rfl
      (show 0 < maxRetries by decide) agrees.buffer
  | poll pcb world =>
    have sound := fun plain => (agrees.fair plain).sound.outside (connection.scene.hs.retries + 1) pcb kept
    simp only at taken
    split at taken
    · obtain rfl := Option.some.inj taken
      exact {
        fair := fun plain => fair_of_sound (sound plain) (by simp)
        handle := rfl
        retries := fun open_ => by cases open_
        buffer := agrees.buffer }
    · rename_i early
      have still : connection.scene.hs.retries + 1 < maxRetries := by omega
      split at taken <;> obtain rfl := Option.some.inj taken
      · exact {
          fair := fun plain => fair_of_sound (sound plain) (by simp)
          handle := rfl
          retries := fun _ => still
          buffer := agrees.buffer }
      · exact settles_httpSendData tcp keeps sound rfl still agrees.buffer

/-! ## Receiving -/

/-- The CGI handlers keep a property of the world. -/
def CgisKeep (cgis : Cgis World) (held : World → Prop) : Prop :=
  ∀ world loop params, held world → held (cgis.handler world loop params).2

theorem Plain.file (plain : Plain image) {name : List Byte} {file : FsFile}
    (found : image.file name = some file) : file.httpHeaderIncluded = false := by
  obtain ⟨entry, there, rfl⟩ := Option.map_eq_some_iff.mp found
  exact plain entry (List.mem_of_find?_eq_some there)

theorem Plain.opened (plain : Plain image) {memory : FsMemory} {name : List Byte} {file : FsFile}
    (found : fsOpenIn image memory name = some file) : file.httpHeaderIncluded = false :=
  plain.file (file_of_fsOpenIn found)

theorem held_httpFindFile (keep : CgisKeep cgis held) (fsOpen : List Byte → Option FsFile)
    (hs : HttpState) {world : World} (kept : held world) (uri : List Byte) (is09 : Bool) :
    held (httpFindFile fsOpen cgis hs world uri is09).2 := by
  unfold httpFindFile
  split
  · exact kept
  · simp only [cgiName]
    split
    · exact keep _ _ _ kept
    · exact kept

/-- The connection that a request leaves: it has the file that was found for it, and nothing
is sent yet. -/
theorem Agrees.opened (agrees : Agrees ssi cgis image held hs connection)
    (keep : CgisKeep cgis held) {behind : HttpPost.HttpState}
    {memory : FsMemory} {world : World} (kept : held world) (pcb : Pcb) {asked : List Byte × Bool}
    (none : hs.sending = false)
    (sending : behind.sending =
      (openFirst (fsOpenIn image memory) (namesFor cgis world asked.1)).isSome)
    (idle : behind.postContentLenLeft = 0) :
    Agrees ssi cgis image held behind
      (connection.opened cgis image memory asked pcb world) := by
  have closed : connection.scene.hs.handle = Option.none := by
    rw [← Option.not_isSome_iff_eq_none, ← agrees.sending, none]
    exact Bool.false_ne_true
  have opened (plain : Plain image) :
      Opened (connection.opened cgis image memory asked pcb world).scene.hs :=
    opened_httpFindFile cgis ⟨agrees.buffer plain closed, (agrees.fair plain).sound.heading⟩ world
      asked.1 fun name => .inr fun file found => plain.opened found
  obtain ⟨handle, retries⟩ := httpFindFile_fresh (fsOpenIn image memory) cgis connection.scene.hs
    world asked.1 asked.2
  constructor
  case sending => exact sending.trans (by rw [← Option.isSome_map, ← handle]; rfl)
  case idle => exact fun _ => idle
  case entry =>
    refine Eq.trans ?_ (congrArg Option.isSome handle.symm)
    change ((openNames image memory (namesFor cgis world asked.1)).1.map Prod.snd).isSome = _
    rcases openNames_cases image memory (namesFor cgis world asked.1) with
      ⟨same, absent⟩ | ⟨file, place, name, _, same, found⟩
    · rw [same, absent]
      rfl
    · rw [same, found]
      rfl
  case retries => exact retries ▸ (by decide : 0 < maxRetries)
  case fair =>
    exact fun plain =>
      fair_of_sound ((opened plain).sound pcb (held_httpFindFile keep _ _ kept _ _)) (by simp)
  case buffer => exact fun plain _ => (opened plain).buffer
  case proper =>
    refine ⟨connection.scene.hs, world, kept, ?_⟩
    have same : Exchange.opens image ⟨some asked, decide (fsMalloc memory = Option.none),
        (connection.opened cgis image memory asked pcb world).exchange.response⟩ =
          fsOpenIn image memory := by
      simp only [Exchange.opens, fsOpenIn_eq, decide_eq_true_eq]
    exact congrArg (fun fsOpen => (httpFindFile fsOpen cgis connection.scene.hs world asked.1
      asked.2).1.response) same.symm

/-- A request is answered: the entry of its file is taken, the first bytes are sent, and a
response that is over with them gives the entry back. -/
theorem Coherent.answer (tcp : Tcp Pcb) (keeps : Keeps ssi held) (keep : CgisKeep cgis held)
    (coherent : Coherent ssi cgis image held server)
    (there : server.connections number = some connection)
    (agrees : Agrees ssi cgis image held hs connection) {behind : HttpPost.HttpState}
    (posts : post.connections = Function.update server.post.connections number (some behind))
    {asked : List Byte × Bool} {pcb : Pcb} {world : World} (kept : held world)
    (opens : Opens (server.site cgis image world) hs (some asked) behind) :
    Coherent ssi cgis image held
      ({ server with post := post }.answer tcp ssi cgis image number connection asked pcb world) := by
  obtain ⟨none, sending, idle⟩ := opens
  have opened := agrees.opened keep kept pcb none sending idle
  have without : server.holds number = Option.none := by
    rw [holds_of_there there, ← Option.not_isSome_iff_eq_none, agrees.entry, ← agrees.sending, none]
    exact Bool.false_ne_true
  have found : Coherent ssi cgis image held
      ({ server with post := post }.find cgis image number connection asked pcb world) := by
    refine coherent.change posts (.some opened) ?_ (coherent.told agrees.proper agrees.fair)
    change Exact (openNames image server.memory (namesFor cgis world asked.1)).2
      (Function.update server.holds number
        ((openNames image server.memory (namesFor cgis world asked.1)).1.map Prod.snd))
    rcases openNames_cases image server.memory (namesFor cgis world asked.1) with
      ⟨same, _⟩ | ⟨file, place, name, free, same, _⟩
    · rw [same]
      exact coherent.table.keep without
    · rw [same]
      exact coherent.table.take free without
  refine found.settle (Function.update_self ..) ?_
  exact settles_httpSendData tcp keeps (fun plain => (opened.fair plain).sound) rfl opened.retries opened.buffer

/-- A chain that asks for no file. -/
theorem Agrees.fed (agrees : Agrees ssi cgis image held hs connection)
    {behind : HttpPost.HttpState} (sending : behind.sending = hs.sending)
    (idle : behind.sending = true → behind.postContentLenLeft = 0) :
    Agrees ssi cgis image held behind (connection.fed hs) := by
  unfold Connection.fed
  split
  · exact { agrees with
      sending := sending.trans agrees.sending
      idle := idle
      retries := (show 0 < maxRetries by decide)
      fair := fun plain => fair_of_sound
        ((agrees.fair plain).sound.outside 0 _ (agrees.fair plain).sound.world) (by simp) }
  · exact { agrees with sending := sending.trans agrees.sending, idle := idle }

theorem fed_entry (connection : Connection Pcb World) (hs : HttpPost.HttpState) :
    (connection.fed hs).entry = connection.entry := by
  unfold Connection.fed
  split <;> rfl

/-- A chain reaches its connection. -/
theorem Coherent.recv (tcp : Tcp Pcb) (keeps : Keeps ssi held) (keep : CgisKeep cgis held)
    (coherent : Coherent ssi cgis image held server)
    (there : server.connections number = some connection)
    (half : server.post.connections number = some hs) {chain : List (List Byte)}
    {response : List Byte} {pcb : Pcb} {world : World} (kept : held world)
    {next : Server Pcb World}
    (taken : server.recv tcp ssi cgis image number connection hs chain response pcb world =
      some next) :
    Coherent ssi cgis image held next := by
  obtain ⟨same, sameHalf, agrees⟩ := coherent.agrees there
  obtain rfl := Option.some.inj (sameHalf.symm.trans half)
  obtain ⟨post, received, rfl⟩ := Option.map_eq_some_iff.mp taken
  rcases recv_opens half agrees.idle received with gone | ⟨behind, posts, opens⟩
  · have none : post.connections number = Option.none := by rw [gone, Function.update_self]
    simp only [none]
    refine coherent.close there ?_ agrees.fair
    change Function.update post.connections number Option.none = _
    rw [gone, Function.update_idem]
  · have some_ : post.connections number = some behind := by rw [posts, Function.update_self]
    simp only [some_]
    split <;> rename_i asked <;> rw [asked] at opens
    · exact coherent.answer tcp keeps keep there agrees posts kept opens
    · have holds := holds_of_there there
      refine coherent.change posts (.some (agrees.fed opens.1 opens.2)) ?_ coherent.past
      exact coherent.table.keep (holds.trans (fed_entry connection same).symm)

/-- The world that a call meets has a property. -/
def Event.Held (held : World → Prop) : Event Pcb World → Prop
  | .accept _ _ _ world | .recv _ _ _ _ world | .sent _ _ world | .poll _ _ world => held world
  | .err _ => True

/-- The connection that `http_accept` leaves. -/
theorem agrees_accept (pcb : Pcb) {world : World} (kept : held world) :
    Agrees ssi cgis image held HttpPost.httpStateAlloc
      (⟨⟨httpStateAlloc, pcb, world, [], []⟩, none, ⟨none, false, httpStateAlloc.response⟩⟩ :
        Connection Pcb World) := by
  have opened : Opened httpStateAlloc :=
    ⟨rfl, rfl, fun _ => rfl, fun _ => rfl, fun _ => rfl, httpStateAlloc_sane.buffer,
      httpStateAlloc_sane.heading⟩
  constructor
  case sending => rfl
  case idle => exact fun _ => rfl
  case entry => rfl
  case retries => exact (by decide : 0 < maxRetries)
  case fair => exact fun _ => fair_of_sound (opened.sound pcb kept) (by simp)
  case buffer => exact fun _ _ => opened.buffer
  case proper => rfl

/-- An acknowledgement or a poll leaves the server coherent. -/
theorem Coherent.call (tcp : Tcp Pcb) (keeps : Keeps ssi held)
    (coherent : Coherent ssi cgis image held server)
    (there : server.connections number = some connection) (event : HttpSend.Event Pcb World)
    (kept : held event.world) {next : Server Pcb World}
    (taken : (HttpSend.step tcp ssi ⟨connection.scene, none, false⟩ event).map
      (server.settle number connection) = some next) :
    Coherent ssi cgis image held next := by
  obtain ⟨outcome, called, rfl⟩ := Option.map_eq_some_iff.mp taken
  obtain ⟨hs, _, agrees⟩ := coherent.agrees there
  exact coherent.settle there (agrees.call tcp keeps kept called)

/-- Every call of the stack leaves the server coherent. -/
theorem Coherent.event (tcp : Tcp Pcb) (keeps : Keeps ssi held) (keep : CgisKeep cgis held)
    (coherent : Coherent ssi cgis image held server)
    {event : Event Pcb World} (kept : event.Held held) {next : Server Pcb World}
    (taken : step tcp ssi cgis image server event = some next) :
    Coherent ssi cgis image held next := by
  cases event with
  | accept number allocated pcb world =>
    simp only [step] at taken
    split at taken
    · cases taken
    · obtain rfl := Option.some.inj taken
      exact coherent
    · rename_i absent
      obtain ⟨post, accepted, rfl⟩ := Option.map_eq_some_iff.mp taken
      simp only [HttpPost.step] at accepted
      split at accepted
      · cases accepted
      · obtain rfl := Option.some.inj accepted
        refine coherent.change rfl (.some (agrees_accept pcb kept)) ?_ coherent.past
        refine coherent.table.keep ?_
        rw [Server.holds, absent]
        rfl
  | recv number chain response pcb world =>
    simp only [step] at taken
    split at taken
    · rename_i connection hs there half
      exact coherent.recv tcp keeps keep there half kept taken
    · cases taken
  | sent number pcb world =>
    simp only [step] at taken
    split at taken
    · cases taken
    · rename_i connection there
      exact coherent.call tcp keeps there (.sent pcb world) kept taken
  | poll number pcb world =>
    simp only [step] at taken
    split at taken
    · cases taken
    · rename_i connection there
      exact coherent.call tcp keeps there (.poll pcb world) kept taken
  | err number =>
    obtain ⟨connection, there, rfl⟩ := Option.map_eq_some_iff.mp taken
    obtain ⟨hs, _, agrees⟩ := coherent.agrees there
    exact coherent.close there rfl agrees.fair

/-- The server is coherent in every state of a run. -/
theorem coherent_always (tcp : Tcp Pcb) (keeps : Keeps ssi held) (keep : CgisKeep cgis held)
    (events : List (Event Pcb World))
    (all : ∀ event ∈ events, event.Held held) :
    Always (step tcp ssi cgis image) (Coherent ssi cgis image held) httpdInit events :=
  always_of_guarded (Coherent ssi cgis image held) _ (fun _ coherent => coherent)
    (fun _ _ _ coherent kept taken => coherent.event tcp keeps keep kept taken)
    coherent_httpdInit events (guarded_of_forall (Event.Held held) events all)

end coherence

/-! ## The table of open files -/

section results
variable {Pcb World : Type} (tcp : Tcp Pcb) (ssi : Ssi World) (cgis : Cgis World) (image : Image)

/-- Every entry in use is held by one connection that has a file open, and every open file
has its entry. A file of the image cannot be opened only while ten connections have files
open. No entry is lost on any way out of a connection, be it an end, an error, a poll or a
reset. -/
structure TableKept (server : Server Pcb World) : Prop where
  exact : Exact server.memory server.holds
  open_ : ∀ number connection, server.connections number = some connection →
    connection.entry.isSome = connection.scene.hs.handle.isSome
  opens : fsOpenIn image server.memory = image.file ∨
    ∃ who : Fin maxOpenFiles → Nat, Function.Injective who ∧
      ∀ entry, server.holds (who entry) = some entry

theorem Coherent.tableKept {held : World → Prop} {server : Server Pcb World}
    (coherent : Coherent ssi cgis image held server) : TableKept image server where
  exact := coherent.table
  open_ := by
    intro number connection there
    obtain ⟨_, _, agrees⟩ := coherent.agrees there
    exact agrees.entry
  opens := by
    by_cases full : fsMalloc server.memory = none
    · exact .inr (coherent.table.holders (fsMalloc_eq_none full))
    · exact .inl ((fsOpenIn_eq image server.memory).trans (if_neg full))

/-- The table of open files is kept in every state of a run. The run may be any interleaving
of the stack's calls on any number of connections. The table is an instance of holdings,
each entry held by one connection. -/
theorem table_is_kept (events : List (Event Pcb World)) :
    Always (step tcp ssi cgis image) (TableKept image) httpdInit events := by
  have coherent : Always (step tcp ssi cgis image) (Coherent ssi cgis image fun _ => True)
      httpdInit events :=
    coherent_always tcp (fun _ _ => id) (fun _ _ _ => id) events
      fun event _ => by cases event <;> trivial
  exact always_mono (fun _ coherent => coherent.tableKept ssi cgis image) coherent

/-! ## The clients -/

/-- The answer to what was asked: its first bytes so far, and at the end the file that
`http_find_file` found for the URI of the request, as the client reads it, or the built-in
error page when it found none. What it finds depends on the files that could be opened by
then and on the answer of a CGI handler. -/
structure Told (held : World → Prop) (exchange : Exchange) (outcome : Outcome Pcb World) :
    Prop where
  proper : exchange.Proper cgis image held
  served : Served ssi held exchange.response outcome
  reads : ∀ uri is09, exchange.asked = some (uri, is09) →
    (∃ ending ∈ outcome.ended, ending.Complete) → ∃ hs world, held world ∧
      exchange.response = (httpFindFile (exchange.opens image) cgis hs world uri is09).1.response ∧
      ReadsFile (httpFindFile (exchange.opens image) cgis hs world uri is09).1
        (uriFile (exchange.opens image) cgis world uri) outcome

/-- What every client is told, of the response at hand and of those that are over. A
response that another one has taken the place of is among those that are over. -/
structure ClientsTold (held : World → Prop) (server : Server Pcb World) : Prop where
  live : ∀ number connection, server.connections number = some connection →
    Told ssi cgis image held connection.exchange ⟨connection.scene, none, false⟩
  past : ∀ entry ∈ server.past, Told ssi cgis image held entry.exchange entry.outcome

variable {ssi cgis image} {held : World → Prop}

theorem Exchange.opens_plain (plain : Plain image) (exchange : Exchange) {name : List Byte}
    {file : FsFile} (found : exchange.opens image name = some file) :
    file.httpHeaderIncluded = false := by
  unfold Exchange.opens at found
  split at found
  · cases found
  · exact plain.file found

theorem told_of_fair (plain : Plain image) {exchange : Exchange} {outcome : Outcome Pcb World}
    (proper : exchange.Proper cgis image held)
    (fair : Fair ssi held exchange.response outcome) :
    Told ssi cgis image held exchange outcome := by
  refine ⟨proper, fair.served, ?_⟩
  intro uri is09 asked complete
  simp only [Exchange.Proper, asked] at proper
  obtain ⟨hs, world, kept, same⟩ := proper
  refine ⟨hs, world, kept, same, ?_⟩
  have served := fair.served
  obtain ⟨tagCheck, found⟩ := httpFindFile_eq (exchange.opens image) cgis hs world uri is09
  rw [same, found] at served
  rw [found]
  apply served.readsFile _ complete
  intro entry member
  exact exchange.opens_plain plain (uriFile_eq_some cgis member)

/-- Every client is told the answer to its own request, in every state of a run. The
responses of several clients go out in turns, and the parts of the server that they share
are the table and the world of the handlers. Neither shows in what a client is told. -/
theorem clients_are_told (keeps : Keeps ssi held) (keep : CgisKeep cgis held)
    (plain : Plain image) (events : List (Event Pcb World))
    (all : ∀ event ∈ events, event.Held held) :
    Always (step tcp ssi cgis image) (ClientsTold ssi cgis image held) httpdInit events := by
  refine always_mono ?_ (coherent_always tcp keeps keep events all)
  intro server coherent
  constructor
  case live =>
    intro number connection there
    obtain ⟨_, _, agrees⟩ := coherent.agrees there
    exact told_of_fair plain agrees.proper (agrees.fair plain)
  case past =>
    intro entry member
    obtain ⟨proper, fair⟩ := coherent.past entry member
    exact told_of_fair plain proper (fair plain)

/-- An image with one page. -/
def pageImage : Image := [(ascii "/page.ssi", ⟨ascii "\n<!--#cr_read-->\n", false⟩)]

/-- One client asks for a page that is not there, and another one for the page before the
first has acknowledged anything. Both are slow: the stack has room for sixty bytes in each
call, so that the two responses are sent in turns. -/
def twoClients : List (Event Nat Unit) :=
  [.accept 0 true 0 (), .accept 1 true 0 (),
    .recv 1 [ascii "GET /other.html HTTP/1.0\r\n\r\n"] [] 60 (),
    .recv 0 [ascii "GET /page.ssi HTTP/1.0\r\n\r\n"] [] 60 (),
    .sent 1 60 (), .sent 0 60 (), .poll 0 0 (), .sent 1 60 (), .sent 0 60 (), .sent 0 60 ()]

/-- The two clients, each with its own answer. -/
theorem two_clients_are_told :
    Always (step narrowTcp centralSsi noCgis pageImage)
      (ClientsTold centralSsi noCgis pageImage fun _ => True) httpdInit twoClients :=
  clients_are_told narrowTcp (fun _ _ => id) (fun _ _ _ => id)
    (show ∀ entry ∈ pageImage, entry.2.httpHeaderIncluded = false by decide) twoClients
    fun event _ => by cases event <;> trivial

end results

end UcosProxy.HttpServer
