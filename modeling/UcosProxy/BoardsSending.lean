import UcosProxy.BoardsPage
import UcosProxy.PortArrays
import UcosProxy.Runs
import UcosProxy.TagScan

/-!
# Sending the listing beside other requests

`http_send_data` parses `boards.shtml` as far as the send buffer takes it and goes on
in a later call, so any other request may be served between two bytes of the page. A
row is made when the parser completes its tag, out of the tables as they are then; the
first row reads them anew, and so do the panel, the port pages and the first row of
every other listing.

`own` is the history of a page: the tables as its own first row has read them. The
law is that the rows are those of the listing of these tables. It holds as long as
nobody changes the tables between the first row and the last one; failed and repeated
reads count as changes only when they leave other contents. The ninth tag is the
matter of the rendering, so at most seven marked slots are asked for as well.

The replies of the control board are an argument of every step that reads.
-/

namespace UcosProxy.BoardsSending

open Bytes Runs ControlTables PortArrays BoardsPage TagScan

/-- The table body of `boards.shtml`. The lines before and behind it hold no lead-in. -/
def boardsShtmlLines : List String :=
  ["\t\t\t\t\t\t\t<tbody>",
    "\t\t\t\t\t\t\t\t<!--#board_line1-->",
    "\t\t\t\t\t\t\t\t<!--#board_line2-->",
    "\t\t\t\t\t\t\t\t<!--#board_line3-->",
    "\t\t\t\t\t\t\t\t<!--#board_line4-->",
    "\t\t\t\t\t\t\t\t<!--#board_line5-->",
    "\t\t\t\t\t\t\t\t<!--#board_line6-->",
    "\t\t\t\t\t\t\t\t<!--#board_line7-->",
    "\t\t\t\t\t\t\t\t<!--#board_line8-->",
    "\t\t\t\t\t\t\t\t<!--#board_line9-->",
    "\t\t\t\t\t\t\t\t<!--#board_line10-->",
    "\t\t\t\t\t\t\t</tbody>"]

def boardsShtml : List Byte := boardsShtmlLines.flatMap fun line => ascii line ++ [10]

/-- A page on its way: what is left to parse, the tables of its first row, and the rows
that were made. -/
structure Page where
  rest : List Byte
  state : TagState
  own : Option WebControl
  rows : List (List Byte)

/-- The tables and the pages of all connections. The tables are shared by all connections,
and each page has its own place in its file and its own row counter. -/
structure Sending where
  control : WebControl
  crRemoteChosen : Bool
  pages : List Page

/-- What can happen between two bytes of a page. The server has one thread, so each of them
runs to its end before the next one comes. -/
inductive Event where
  /-- A connection asks for the page. -/
  | request
  /-- `http_send_data` parses one more byte of a page. -/
  | send (page : Nat) (link : Link)
  /-- A connection with a page on its way goes down. -/
  | close (page : Nat)
  /-- Another request reads the panel, the boards or the ports. -/
  | read (reader : Reader) (link : Link)
  /-- The main page chooses between the central and the remote device. -/
  | choose (remote : Bool)

section sending
variable (codes : Codes) (versionNtoa : Byte → List Byte)

/-- `web_read_boards_version` -/
def refresh (link : Link) (crRemoteChosen : Bool) (control : WebControl) : WebControl :=
  (webReadBoardsVersion codes link crRemoteChosen control).2

/-- The tag that the next byte of a page completes. -/
def Page.completes (page : Page) : Option (List Byte) :=
  page.rest.head?.bind fun byte => (scanByte page.state byte).2

/-- A page behind a byte that completes no tag. -/
def Page.skip (page : Page) (byte : Byte) : Page :=
  { page with rest := page.rest.tail, state := (scanByte page.state byte).1 }

/-- A page behind a byte that completes the tag of a row. -/
def Page.insert (page : Page) (byte : Byte) (tag : List Byte) (read : WebControl)
    (row : List Byte) : Page where
  rest := page.rest.tail
  state := (scanByte page.state byte).1
  own := if findSsi tag = some (.boardLine 1) then some read else page.own
  rows := page.rows ++ [row]

/-- One byte of a page. -/
def parse (link : Link) (sending : Sending) (page : Page) : Option (WebControl × Page) :=
  page.rest.head?.map fun byte =>
    match page.completes with
    | none => (sending.control, page.skip byte)
    | some tag =>
      let inserted := boardTagInsert versionNtoa (refresh codes link sending.crRemoteChosen)
        sending.control tag
      (inserted.1, page.insert byte tag inserted.1 inserted.2)

/-- One event. -/
def step (sending : Sending) : Event → Option Sending
  | .request => some { sending with pages := sending.pages ++ [⟨boardsShtml, .none, none, []⟩] }
  | .send index link =>
    sending.pages[index]?.bind fun page =>
      (parse codes versionNtoa link sending page).map fun (control, parsed) =>
        { sending with control := control, pages := sending.pages.set index parsed }
  | .close index =>
    sending.pages[index]?.map fun page =>
      { sending with pages := sending.pages.set index { page with rest := [] } }
  | .read reader link =>
    some { sending with control := (reader.read codes link sending.crRemoteChosen sending.control).2 }
  | .choose remote => some { sending with crRemoteChosen := remote }

/-- The rows of a page are those of the listing of its own tables. A page that has not read
anything has no rows, and one on its way has the first so many. -/
def Page.Own (page : Page) : Prop :=
  match page.own with
  | none => page.rows = []
  | some own => page.rows = (listing versionNtoa own).take page.rows.length

/-- Every page lists the tables of its own refresh. It is asked in every state, so a row
that came from another page's refresh is seen when it is sent, even if the page is never
finished. -/
def OwnRows (sending : Sending) : Prop := ∀ page ∈ sending.pages, page.Own versionNtoa

instance (page : Page) : Decidable (page.Own versionNtoa) := by
  unfold Page.Own
  split <;> infer_instance

instance (sending : Sending) : Decidable (OwnRows versionNtoa sending) :=
  inferInstanceAs (Decidable (∀ page ∈ sending.pages, page.Own versionNtoa))

/-- A page stands between its first row and its last one. Only then does a change of the
tables show, because the first row reads them anew and the last one has been sent. -/
def Page.Partway (page : Page) : Prop := page.own.isSome ∧ scanTags page.state page.rest ≠ []

instance (page : Page) : Decidable page.Partway := inferInstanceAs (Decidable (_ ∧ _))

/-- Two contents of the tables that the rows are made of agree. The rows are made of the
versions and the types; a refresh that finds the same again changes nothing that a page
could notice. -/
def SameTables (before after : WebControl) : Prop :=
  ∀ board, after.bulbVer board = before.bulbVer board ∧
    after.boardsExist.type board = before.boardsExist.type board

instance (before after : WebControl) : Decidable (SameTables before after) :=
  inferInstanceAs (Decidable (∀ _ : Board, _ ∧ _))

/-- Nothing changes the tables while a page stands between its rows, and no listing
begins with eight marked slots or more. -/
def KeepsTables (sending : Sending) : Event → Prop
  | .send index link =>
    ∀ page ∈ sending.pages[index]?, page.completes.bind findSsi = some (.boardLine 1) →
      (setSlots (refresh codes link sending.crRemoteChosen sending.control)).length < 8 ∧
        ((∃ other ∈ sending.pages, other.Partway) →
          SameTables sending.control
            (refresh codes link sending.crRemoteChosen sending.control))
  | .read reader link =>
    (∃ page ∈ sending.pages, page.Partway) →
      SameTables sending.control
        (reader.read codes link sending.crRemoteChosen sending.control).2
  | _ => True

instance (sending : Sending) : ∀ event, Decidable (KeepsTables codes sending event)
  | .request => isTrue trivial
  | .send _ _ => inferInstanceAs (Decidable (∀ page ∈ _, _ → _ ∧ (_ → _)))
  | .close _ => isTrue trivial
  | .read _ _ => inferInstanceAs (Decidable (_ → _))
  | .choose _ => isTrue trivial

/-- Nothing was requested yet. -/
def idle (control : WebControl) (crRemoteChosen : Bool) : Sending := ⟨control, crRemoteChosen, []⟩

/-! ## Rows of the same tables -/

/-- The tags of the page are the ten of the listing. -/
theorem scanTags_boardsShtml : scanTags .none boardsShtml = boardTags := by
  decide

theorem SameTables.trans {first second third : WebControl} (near : SameTables first second)
    (far : SameTables second third) : SameTables first third := by
  intro board
  exact ⟨(far board).1.trans (near board).1, (far board).2.trans (near board).2⟩

/-- A line shows nothing but the tables. -/
theorem SameTables.commonLine {before after : WebControl} (same : SameTables before after)
    (lineno : Nat) (counts : 0 < lineno) :
    boardCommonLineSsiHandler versionNtoa after lineno =
      boardCommonLineSsiHandler versionNtoa before lineno := by
  have bulbVer : after.bulbVer = before.bulbVer := funext fun board => (same board).1
  have type : after.boardsExist.type = before.boardsExist.type := funext fun board => (same board).2
  rw [commonLine_eq versionNtoa after lineno counts, commonLine_eq versionNtoa before lineno counts]
  have slots : setSlots after = setSlots before := by
    simp only [setSlots, bulbVer]
  have rows : boardRow versionNtoa after = boardRow versionNtoa before := by
    funext board
    simp only [boardRow, bulbVer, type]
  rw [slots, rows]

/-- The next tag of a page with so many rows, and the line it is sent to. -/
theorem tag_at {count : Nat} {tag : List Byte} {later : List (List Byte)}
    (tags : boardTags.drop count = tag :: later) :
    ∃ lineno, servedLines[count]? = some lineno ∧ findSsi tag = some (.boardLine lineno) ∧
      later = boardTags.drop (count + 1) := by
  have here : boardTags[count]? = some tag := by
    rw [← Nat.add_zero count, ← List.getElem?_drop, tags]
    rfl
  have rest : later = boardTags.drop (count + 1) := by
    rw [← List.drop_drop, tags]
    rfl
  have found : (servedLines.map fun lineno => some (SsiHandler.boardLine lineno))[count]? =
      some (findSsi tag) := by
    rw [← findSsi_boardTags, List.getElem?_map, here]
    rfl
  rw [List.getElem?_map] at found
  obtain ⟨lineno, served, line⟩ := Option.map_eq_some_iff.mp found
  exact ⟨lineno, served, line.symm, rest⟩

/-- Only the first tag reads the tables. -/
theorem servedLines_later {count lineno : Nat} (served : servedLines[count]? = some lineno) :
    0 < lineno ∧ (lineno = 1 ↔ count = 0) := by
  have bound : count < servedLines.length := by
    obtain ⟨inside, _⟩ := List.getElem?_eq_some_iff.mp served
    exact inside
  revert lineno
  revert count
  decide

/-- One row more of a listing without an eighth row. -/
theorem listing_take_succ (own : WebControl) (count lineno : Nat)
    (few : (setSlots own).length < 8) (served : servedLines[count]? = some lineno) :
    (listing versionNtoa own).take (count + 1) =
      (listing versionNtoa own).take count ++ [boardCommonLineSsiHandler versionNtoa own lineno] := by
  rw [← (servedLines_listing_iff versionNtoa own).mpr few, List.take_add_one, List.getElem?_map,
    served]
  rfl

/-! ## The law -/

/-- What a page can rely on between two steps: its rows are those of its own tables, and the
tables are still these as long as rows are missing. `few` keeps a listing off the handler
that is registered twice, and `tables` is what an event between two rows could break. -/
structure Page.Faithful (control : WebControl) (page : Page) : Prop where
  tags : scanTags page.state page.rest = [] ∨
    scanTags page.state page.rest = boardTags.drop page.rows.length
  fresh : page.own = none → page.rows = []
  few : ∀ own ∈ page.own, page.rows ≠ [] ∧ (setSlots own).length < 8
  listed : ∀ own ∈ page.own, page.rows = (listing versionNtoa own).take page.rows.length
  tables : ∀ own ∈ page.own, scanTags page.state page.rest ≠ [] → SameTables own control

/-- A page that is faithful lists its own tables. -/
theorem Page.Faithful.ownRows {control : WebControl} {page : Page}
    (faithful : page.Faithful versionNtoa control) : page.Own versionNtoa := by
  unfold Page.Own
  split
  case h_1 none => exact faithful.fresh none
  case h_2 own known => exact faithful.listed own known

/-- A page stays faithful when the tables change only once its rows are out. -/
theorem Page.Faithful.aside {before after : WebControl} {page : Page}
    (faithful : page.Faithful versionNtoa before) (keeps : page.Partway → SameTables before after) :
    page.Faithful versionNtoa after where
  tags := faithful.tags
  fresh := faithful.fresh
  few := faithful.few
  listed := faithful.listed
  tables := by
    intro own known missing
    have partway : page.Partway := ⟨by rw [Option.mem_def.mp known]; rfl, missing⟩
    exact (faithful.tables own known missing).trans (keeps partway)

/-- A page that goes down has no rows to come. -/
theorem Page.Faithful.close {control : WebControl} {page : Page}
    (faithful : page.Faithful versionNtoa control) :
    ({ page with rest := [] } : Page).Faithful versionNtoa control where
  tags := Or.inl rfl
  fresh := faithful.fresh
  few := faithful.few
  listed := faithful.listed
  tables := fun _ _ missing => absurd rfl missing

/-- A byte that completes no tag changes nothing about the rows. -/
theorem Page.Faithful.skip {control : WebControl} {page : Page} {byte : Byte} {rest : List Byte}
    (faithful : page.Faithful versionNtoa control) (bytes : page.rest = byte :: rest)
    (completes : (scanByte page.state byte).2 = none) :
    (page.skip byte).Faithful versionNtoa control := by
  have tags : scanTags page.state page.rest = scanTags (scanByte page.state byte).1 rest := by
    rw [bytes]
    exact scanTags_cons_none rest (Prod.ext rfl completes)
  have tail : (page.skip byte).rest = rest := congrArg List.tail bytes
  have same : scanTags (page.skip byte).state (page.skip byte).rest =
      scanTags page.state page.rest := by
    rw [tail, tags]
    rfl
  exact ⟨same ▸ faithful.tags, faithful.fresh, faithful.few, faithful.listed,
    fun own known missing => faithful.tables own known (same ▸ missing)⟩

/-- A byte that completes the tag of a row adds that row of the page's own tables. The
first row makes the tables its own; a later one finds them unchanged. -/
theorem Page.Faithful.insert {control : WebControl} {page : Page} {byte : Byte}
    {rest tag : List Byte} (faithful : page.Faithful versionNtoa control)
    (bytes : page.rest = byte :: rest) (completes : (scanByte page.state byte).2 = some tag)
    (refresh : WebControl → WebControl)
    (few : findSsi tag = some (.boardLine 1) → (setSlots (refresh control)).length < 8) :
    (page.insert byte tag (boardTagInsert versionNtoa refresh control tag).1
        (boardTagInsert versionNtoa refresh control tag).2).Faithful versionNtoa
      (boardTagInsert versionNtoa refresh control tag).1 := by
  have tags : scanTags page.state page.rest = tag :: scanTags (scanByte page.state byte).1 rest := by
    rw [bytes]
    exact scanTags_cons_some rest (Prod.ext rfl completes)
  have missing : scanTags page.state page.rest ≠ [] := by
    rw [tags]
    exact List.cons_ne_nil _ _
  have left := (faithful.tags.resolve_left missing).symm.trans tags
  obtain ⟨lineno, served, line, later⟩ := tag_at left
  obtain ⟨counts, first⟩ := servedLines_later served
  have tail : page.rest.tail = rest := congrArg List.tail bytes
  have remaining : scanTags (scanByte page.state byte).1 page.rest.tail =
      boardTags.drop (page.rows.length + 1) := by
    rw [tail, later]
  simp only [boardTagInsert, line, boardLineSsiHandler, Page.insert, Option.some.injEq,
    SsiHandler.boardLine.injEq] at few ⊢
  by_cases initial : lineno = 1
  · have empty : page.rows = [] := List.eq_nil_of_length_eq_zero (first.mp initial)
    have few := few initial
    simp only [initial, if_true]
    refine ⟨Or.inr ?_, ?_, ?_, ?_, ?_⟩
    · simpa only [List.length_append, List.length_singleton] using remaining
    · intro none
      cases none
    · intro own known
      obtain rfl := Option.some.inj known
      exact ⟨by simp, few⟩
    · intro own known
      obtain rfl := Option.some.inj known
      have served : servedLines[0]? = some 1 := rfl
      simp only [empty, List.nil_append, List.length_singleton]
      rw [listing_take_succ versionNtoa _ 0 1 few served, List.take_zero, List.nil_append]
    · intro own known _
      obtain rfl := Option.some.inj known
      exact fun board => ⟨rfl, rfl⟩
  · simp only [initial, if_false]
    refine ⟨Or.inr ?_, ?_, ?_, ?_, ?_⟩
    · simpa only [List.length_append, List.length_singleton] using remaining
    · intro none
      have empty := faithful.fresh none
      exact absurd (first.mpr (by rw [empty]; rfl)) initial
    · intro own known
      exact ⟨by simp, (faithful.few own known).2⟩
    · intro own known
      have row := (faithful.tables own known missing).commonLine versionNtoa lineno counts
      rw [List.length_append, List.length_singleton, row,
        listing_take_succ versionNtoa own _ lineno (faithful.few own known).2 served,
        ← faithful.listed own known]
    · intro own known _
      exact faithful.tables own known missing

/-- Every page is faithful to the tables. -/
def Faithful (sending : Sending) : Prop :=
  ∀ page ∈ sending.pages, page.Faithful versionNtoa sending.control

/-- A tag leaves the tables alone, unless it is that of the first row. -/
theorem boardTagInsert_control (refresh : WebControl → WebControl) (control : WebControl)
    (tag : List Byte) :
    (boardTagInsert versionNtoa refresh control tag).1 =
      if findSsi tag = some (.boardLine 1) then refresh control else control := by
  cases found : findSsi tag with
  | none => simp only [boardTagInsert, found, reduceCtorEq, if_false]
  | some handler =>
    cases handler with
    | boardLine lineno =>
      by_cases first : lineno = 1
      · simp only [boardTagInsert, found, boardLineSsiHandler, first, if_true]
      · simp only [boardTagInsert, found, boardLineSsiHandler, first, if_false, Option.some.injEq,
          SsiHandler.boardLine.injEq]
    | _ => simp only [boardTagInsert, found, Option.some.injEq, reduceCtorEq, if_false]

/-- A byte of a faithful page leaves it faithful, and reads the tables only with the tag
of the first row. -/
theorem Page.Faithful.parse {link : Link} {sending : Sending} {page parsed : Page}
    {control : WebControl} (faithful : page.Faithful versionNtoa sending.control)
    (few : page.completes.bind findSsi = some (.boardLine 1) →
      (setSlots (refresh codes link sending.crRemoteChosen sending.control)).length < 8)
    (taken : parse codes versionNtoa link sending page = some (control, parsed)) :
    parsed.Faithful versionNtoa control ∧
      (control = sending.control ∨
        page.completes.bind findSsi = some (.boardLine 1) ∧
          control = refresh codes link sending.crRemoteChosen sending.control) := by
  cases bytes : page.rest with
  | nil => simp [BoardsSending.parse, bytes] at taken
  | cons byte rest =>
    have completes : page.completes = (scanByte page.state byte).2 := by
      simp only [Page.completes, bytes, List.head?_cons, Option.bind_some]
    simp only [BoardsSending.parse, bytes, List.head?_cons, Option.map_some, Option.some.injEq,
      completes] at taken
    cases tag : (scanByte page.state byte).2 with
    | none =>
      simp only [tag] at taken
      obtain ⟨rfl, rfl⟩ := Prod.mk.inj taken
      exact ⟨faithful.skip versionNtoa bytes tag, Or.inl rfl⟩
    | some tag' =>
      rw [completes, tag, Option.bind_some] at few ⊢
      simp only [tag] at taken
      obtain ⟨rfl, rfl⟩ := Prod.mk.inj taken
      refine ⟨faithful.insert versionNtoa bytes tag _ few, ?_⟩
      rw [boardTagInsert_control]
      split
      case isTrue first => exact Or.inr ⟨first, rfl⟩
      case isFalse => exact Or.inl rfl

/-- Every event keeps the pages faithful when it keeps the tables. -/
theorem Faithful.keeps (sending : Sending) (event : Event) (next : Sending)
    (faithful : Faithful versionNtoa sending) (keeps : KeepsTables codes sending event)
    (taken : step codes versionNtoa sending event = some next) : Faithful versionNtoa next := by
  cases event with
  | request =>
    obtain rfl := Option.some.inj taken
    intro page member
    rcases List.mem_append.mp member with earlier | new
    · exact faithful page earlier
    · obtain rfl := List.mem_singleton.mp new
      refine ⟨Or.inr scanTags_boardsShtml, fun _ => rfl, ?_, ?_, ?_⟩
      · intro own known
        cases known
      · intro own known
        cases known
      · intro own known
        cases known
  | send index link =>
    obtain ⟨page, here, parsed⟩ := Option.bind_eq_some_iff.mp taken
    obtain ⟨⟨control, after⟩, parses, rfl⟩ := Option.map_eq_some_iff.mp parsed
    have member : page ∈ sending.pages := List.mem_of_getElem? here
    obtain ⟨kept, tables⟩ := (faithful page member).parse codes versionNtoa
      (fun first => (keeps page here first).1) parses
    intro other there
    rcases List.mem_or_eq_of_mem_set there with before | rfl
    · apply (faithful other before).aside
      intro partway
      rcases tables with same | ⟨first, read⟩
      · exact same ▸ fun _ => ⟨rfl, rfl⟩
      · exact read ▸ (keeps page here first).2 ⟨other, before, partway⟩
    · exact kept
  | close index =>
    obtain ⟨page, here, rfl⟩ := Option.map_eq_some_iff.mp taken
    intro other there
    rcases List.mem_or_eq_of_mem_set there with before | rfl
    · exact faithful other before
    · exact (faithful page (List.mem_of_getElem? here)).close
  | read reader link =>
    obtain rfl := Option.some.inj taken
    intro page member
    exact (faithful page member).aside versionNtoa fun partway => keeps ⟨page, member, partway⟩
  | choose remote =>
    obtain rfl := Option.some.inj taken
    exact faithful

/-- For every interleaving of pages, byte by byte, with each other and with any reads of any
outcome: the rows of every page are those of the listing that its own first row has read, as
long as nothing changes these tables while a page stands between its rows and no listing
begins with more than seven marked slots. The induction is over the events; a page between
its rows relies on the tables, and every other page on nothing. -/
theorem rows_of_own_refresh (control : WebControl) (crRemoteChosen : Bool) (events : List Event)
    (keeps : Guarded (step codes versionNtoa) (KeepsTables codes) (idle control crRemoteChosen) events) :
    Always (step codes versionNtoa) (OwnRows versionNtoa) (idle control crRemoteChosen) events :=
  always_of_guarded (Faithful versionNtoa) (OwnRows versionNtoa)
    (fun _ faithful page member => (faithful page member).ownRows)
    (Faithful.keeps codes versionNtoa) (fun _ member => by cases member) events keeps

end sending

/-- A control board with two boards of the main control type, which sends the same bytes
for every request. -/
def twoBoards : Link := fun _ =>
  some ⟨0, [0x03, 0x00, 0x32, 0x01, 0x06, 0x80, 0x32, 0x01, 0x06, 0x80] ++ List.replicate 32 0⟩

/-- A control board that does not answer. -/
def silent : Link := fun _ => none

/-- Two rows of a page, with a panel poll between them that reads what was read before. -/
def pageAndPoll : List Event :=
  [.request] ++ List.replicate 42 (.send 0 twoBoards) ++ [.read .panel twoBoards] ++
    List.replicate 28 (.send 0 silent)

/-- The run rule on a page with a poll in between. -/
theorem pageAndPoll_lists_own :
    Always (step sampleCodes fun _ => []) (OwnRows fun _ => []) (idle zeroControl false) pageAndPoll ∧
      (run (step sampleCodes fun _ => []) (idle zeroControl false) pageAndPoll).map
        (fun sending => sending.pages.map fun page => page.rows.length) = some [2] :=
  ⟨rows_of_own_refresh sampleCodes (fun _ => []) zeroControl false pageAndPoll (by decide +kernel),
    by decide⟩

section sending
variable (codes : Codes) (versionNtoa : Byte → List Byte)

/-- The guard cannot be dropped: a row made of tables that differ in it from those of the
page is not a row of the page's listing. -/
theorem foreign_row_is_shown (sending : Sending) (page : Page) (index : Nat) (link : Link)
    (own : WebControl) (tag : List Byte) (lineno : Nat) (here : sending.pages[index]? = some page)
    (faithful : page.Faithful versionNtoa own) (known : page.own = some own)
    (completes : page.completes = some tag) (line : findSsi tag = some (.boardLine lineno))
    (differs : boardCommonLineSsiHandler versionNtoa sending.control lineno ≠
      boardCommonLineSsiHandler versionNtoa own lineno) :
    ∃ next, step codes versionNtoa sending (.send index link) = some next ∧
      ¬ OwnRows versionNtoa next := by
  obtain ⟨byte, first, scanned⟩ := Option.bind_eq_some_iff.mp completes
  obtain ⟨rest, bytes⟩ := List.head?_eq_some_iff.mp first
  have tags : scanTags page.state page.rest = tag :: scanTags (scanByte page.state byte).1 rest := by
    rw [bytes]
    exact scanTags_cons_some rest (Prod.ext rfl scanned)
  have missing : scanTags page.state page.rest ≠ [] := by
    rw [tags]
    exact List.cons_ne_nil _ _
  obtain ⟨other, served, same, _⟩ :=
    tag_at ((faithful.tags.resolve_left missing).symm.trans tags)
  obtain rfl : lineno = other := by
    rw [line] at same
    exact SsiHandler.boardLine.inj (Option.some.inj same)
  have later : lineno ≠ 1 := by
    intro initial
    have empty := (servedLines_later served).2.mp initial
    exact (faithful.few own known).1 (List.eq_nil_of_length_eq_zero empty)
  let row := boardCommonLineSsiHandler versionNtoa sending.control lineno
  have parses : BoardsSending.parse codes versionNtoa link sending page =
      some (sending.control, page.insert byte tag sending.control row) := by
    simp only [BoardsSending.parse, first, Option.map_some, completes, boardTagInsert, line,
      boardLineSsiHandler, later, if_false, row]
  have stepped : step codes versionNtoa sending (.send index link) =
      some { sending with pages := sending.pages.set index (page.insert byte tag sending.control row) } := by
    simp only [step, here, Option.bind_some, parses, Option.map_some]
  refine ⟨_, stepped, ?_⟩
  intro lists
  have inside : index < sending.pages.length := (List.getElem?_eq_some_iff.mp here).choose
  have listed := lists (page.insert byte tag sending.control row)
    (List.mem_set inside _)
  simp only [Page.Own, Page.insert, line, Option.some.injEq, SsiHandler.boardLine.injEq, later,
    if_false, known, List.length_append, List.length_singleton] at listed
  rw [listing_take_succ versionNtoa own _ lineno (faithful.few own known).2 served,
    ← faithful.listed own known] at listed
  exact differs (List.singleton_inj.mp (List.append_cancel_left listed))

end sending

/-- A panel poll that nobody answers, between the first two rows of a page. -/
def failedPoll : List Event :=
  [.request] ++ List.replicate 42 (.send 0 twoBoards) ++ [.read .panel silent] ++
    List.replicate 28 (.send 0 twoBoards)

/-- The failed poll clears the tables, and the second board is not listed. -/
theorem failedPoll_drops_row :
    (run (step sampleCodes fun _ => []) (idle zeroControl false) failedPoll).map
      (fun sending => decide (OwnRows (fun _ => []) sending)) = some false := by
  decide +kernel

/-- Some page lists something else than its own first row has read. -/
theorem rows_are_not_always_own :
    ¬ ∀ (codes : Codes) (versionNtoa : Byte → List Byte) (control : WebControl)
        (crRemoteChosen : Bool) (events : List Event),
      Always (step codes versionNtoa) (OwnRows versionNtoa) (idle control crRemoteChosen) events := by
  intro lists
  obtain ⟨final, completed, fails⟩ := Option.map_eq_some_iff.mp failedPoll_drops_row
  have holds : OwnRows (fun _ => []) final :=
    always_final (lists sampleCodes (fun _ => []) zeroControl false failedPoll) completed
  exact of_decide_eq_false fails holds

end UcosProxy.BoardsSending
