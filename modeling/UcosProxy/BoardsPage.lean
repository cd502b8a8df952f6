import UcosProxy.Bytes
import UcosProxy.ControlTables

/-!
# The listing of the boards

A page takes its variable texts from handlers that `httpd_ssi_objs` finds by tag.
`boards.shtml` spreads its listing over ten tags, one a row; the handler of a row
counts through the marked slots of `bulb_ver` until it reaches its number, and so
does every column of the row. Only the first row's handler reads the boards anew.

`boardRows` is the sequence of texts that the ten tags get when nothing else runs in
between, and `listing` what they should be: a row for each marked slot, in the order
of the slots, and blanks behind them. The table sends the ninth tag to the handler
of the eighth row, so the two agree exactly as long as there is no eighth row.

`version_ntoa` is not part of the repository and stays a parameter. The size of the
insert buffer is not looked at here.
-/

namespace UcosProxy.BoardsPage

open Bytes ControlTables

/-- The functions that fill in a tag, under the name of each without
`_ssi_handler`. A board line is known by its number. -/
inductive SsiHandler where
  | loginUsrpasswd
  | panel
  | centRmtRead
  | accountStatus
  | netReadData
  | netConfigStatus
  | updateStatus
  | boardLine (lineno : Nat)
  | optReadData
  | optConfigStatus
  | ethReadData
  | ethConfigStatus
  | e1ReadData
  | e1ConfigStatus
deriving DecidableEq

/-- `struct httpd_ssi_class`. The handler is named and not called, because the same name
stands under several tags. -/
structure HttpdSsiClass where
  tag : List Byte
  handler : SsiHandler

def ssiObj (tag : String) (handler : SsiHandler) : HttpdSsiClass := ⟨ascii tag, handler⟩

/-- `httpd_ssi_objs`, with the handlers as the source names them: that of
`board_line9` is `board_line8_ssi_handler`. -/
def httpdSsiObjs : List HttpdSsiClass :=
  [ssiObj "login_usrpswd" .loginUsrpasswd,
    ssiObj "panel_bulb" .panel,
    ssiObj "cr_read" .centRmtRead,
    ssiObj "account_status" .accountStatus,
    ssiObj "net_read_data" .netReadData,
    ssiObj "net_config_status" .netConfigStatus,
    ssiObj "update_status" .updateStatus,
    ssiObj "board_line1" (.boardLine 1),
    ssiObj "board_line2" (.boardLine 2),
    ssiObj "board_line3" (.boardLine 3),
    ssiObj "board_line4" (.boardLine 4),
    ssiObj "board_line5" (.boardLine 5),
    ssiObj "board_line6" (.boardLine 6),
    ssiObj "board_line7" (.boardLine 7),
    ssiObj "board_line8" (.boardLine 8),
    ssiObj "board_line9" (.boardLine 8),
    ssiObj "board_line10" (.boardLine 10),
    ssiObj "opt_read_data" .optReadData,
    ssiObj "opt_config_status" .optConfigStatus,
    ssiObj "eth_read_data" .ethReadData,
    ssiObj "eth_config_status" .ethConfigStatus,
    ssiObj "e1_read_data" .e1ReadData,
    ssiObj "e1_config_status" .e1ConfigStatus]

/-- The search of `get_tag_insert`: the first entry whose tag is the name. -/
def findSsi (name : List Byte) : Option SsiHandler :=
  (httpdSsiObjs.find? fun entry => name = entry.tag).map HttpdSsiClass.handler

/-! ## A row -/

/-- `FORM_EMTPY` -/
def formEmtpy : List Byte := ascii "&nbsp;"

/-- `%d` of a number that is not negative. -/
def decimal (number : Nat) : List Byte := ascii (toString number)

/-- `fill_unit` -/
def fillUnit (text : List Byte) : List Byte := ascii "<td>" ++ text ++ ascii "</td>"

/-- `fill_row` -/
def fillRow (texts : List (List Byte)) : List Byte :=
  ascii "<tr>" ++ texts.flatMap fillUnit ++ ascii "</tr>"

/-- The search of `board_get_boardno_according_to_lineno`, with the marked slots
counted so far. -/
def searchLine (bulbVer : Board → WebBulbVer) (lineno : Nat) : Nat → List Board → Option Board
  | _, [] => none
  | sum, board :: rest =>
    if (bulbVer board).set ≠ 0 then
      if sum + 1 = lineno then some board else searchLine bulbVer lineno (sum + 1) rest
    else searchLine bulbVer lineno sum rest

/-- `board_get_boardno_according_to_lineno` -/
def boardGetBoardnoAccordingToLineno (control : WebControl) (lineno : Nat) : Option Board :=
  searchLine control.bulbVer lineno 0 (List.finRange maxBoardNo)

/-- `board_get_type_name`. The long names are written with character references; the
source's spelling of the empty cell is kept. -/
def boardGetTypeName (type : BitVec 32) (longname : Bool) : List Byte :=
  if longname then
    if type = gan111MainCtrl then ascii "GAN111&#20027;&#25511;&#26495;"
    else if type = gan1118E1 then ascii "8E1&#25509;&#21475;&#30424;"
    else formEmtpy
  else if type = gan111MainCtrl then ascii "GAN111"
  else if type = gan1118E1 then ascii "8E1"
  else formEmtpy

section rows
variable (versionNtoa : Byte → List Byte)

/-- A version column: a version of zero is shown as blank. -/
def versionText (ver : Byte) : List Byte :=
  if ver = 0 then formEmtpy else ascii "V" ++ versionNtoa ver

/-- The version of `board_column6_fpga_version`, one nibble a digit. -/
def fpgaText (ver : BitVec 16) : List Byte :=
  let nibble := fun shift => decimal (ver.toNat / 2 ^ shift % 16)
  if ver = 0 then formEmtpy
  else ascii "V" ++ nibble 4 ++ ascii "." ++ nibble 0 ++ nibble 12 ++ nibble 8

/-- The text of a column once its slot is found. Every column of the table looks for
the slot again, by the same search. -/
def boardColumn (control : WebControl) (lineno : Nat) (column : Board → List Byte) :
    Option (List Byte) :=
  (boardGetBoardnoAccordingToLineno control lineno).map column

def boardColumn1Slot (control : WebControl) (lineno : Nat) : Option (List Byte) :=
  boardColumn control lineno fun board => decimal (board.val + 1)

def boardColumn2Type (control : WebControl) (lineno : Nat) : Option (List Byte) :=
  boardColumn control lineno fun board => boardGetTypeName (control.boardsExist.type board) false

def boardColumn3BusinessType (control : WebControl) (lineno : Nat) : Option (List Byte) :=
  boardColumn control lineno fun board => boardGetTypeName (control.boardsExist.type board) true

def boardColumn4PcbVersion (control : WebControl) (lineno : Nat) : Option (List Byte) :=
  boardColumn control lineno fun board => versionText versionNtoa (control.bulbVer board).pcbVer

def boardColumn5SwVersion (control : WebControl) (lineno : Nat) : Option (List Byte) :=
  boardColumn control lineno fun board => versionText versionNtoa (control.bulbVer board).cpuAppVer

def boardColumn6FpgaVersion (control : WebControl) (lineno : Nat) : Option (List Byte) :=
  boardColumn control lineno fun board => fpgaText (control.bulbVer board).fpgaVer

def boardColumn7BootVersion (control : WebControl) (lineno : Nat) : Option (List Byte) :=
  boardColumn control lineno fun board => versionText versionNtoa (control.bulbVer board).bootVer

/-- `board_column8_state`, the one column that looks for no slot. -/
def boardColumn8State (_ : WebControl) (_ : Nat) : Option (List Byte) :=
  some (ascii "&#27491;&#24120;")

def boardColumnTable : List (WebControl → Nat → Option (List Byte)) :=
  [boardColumn1Slot, boardColumn2Type, boardColumn3BusinessType, boardColumn4PcbVersion versionNtoa,
    boardColumn5SwVersion versionNtoa, boardColumn6FpgaVersion, boardColumn7BootVersion versionNtoa,
    boardColumn8State]

/-- `board_common_line_ssi_handler`. A line without a board is one blank. -/
def boardCommonLineSsiHandler (control : WebControl) (lineno : Nat) : List Byte :=
  match boardGetBoardnoAccordingToLineno control lineno with
  | some _ =>
    fillRow ((boardColumnTable versionNtoa).filterMap fun column => column control lineno)
  | none => ascii " "

/-- The handler of a board line, behind `web_read_boards_version` for the first one. -/
def boardLineSsiHandler (refresh : WebControl → WebControl) (lineno : Nat) (control : WebControl) :
    WebControl × List Byte :=
  let read := if lineno = 1 then refresh control else control
  (read, boardCommonLineSsiHandler versionNtoa read lineno)

/-- `get_tag_insert` for the tags of the listing. Another handler is none of them. -/
def boardTagInsert (refresh : WebControl → WebControl) (control : WebControl) (tag : List Byte) :
    WebControl × List Byte :=
  match findSsi tag with
  | some (.boardLine lineno) => boardLineSsiHandler versionNtoa refresh lineno control
  | _ => (control, [])

/-- The tags in the table body of `boards.shtml`. -/
def boardTags : List (List Byte) :=
  ["board_line1", "board_line2", "board_line3", "board_line4", "board_line5", "board_line6",
    "board_line7", "board_line8", "board_line9", "board_line10"].map ascii

/-- The texts that tags get one after the other. -/
def tagInserts (refresh : WebControl → WebControl) :
    WebControl → List (List Byte) → List (List Byte)
  | _, [] => []
  | control, tag :: rest =>
    let (next, insert) := boardTagInsert versionNtoa refresh control tag
    insert :: tagInserts refresh next rest

/-- The listing of the page, rendered with nothing in between. -/
def boardRows (refresh : WebControl → WebControl) (control : WebControl) : List (List Byte) :=
  tagInserts versionNtoa refresh control boardTags

/-! ## What the listing should be -/

/-- The marked slots, in their order. -/
def setSlots (control : WebControl) : List Board :=
  (List.finRange maxBoardNo).filter fun board => (control.bulbVer board).set ≠ 0

/-- The row of a board. -/
def boardRow (control : WebControl) (board : Board) : List Byte :=
  fillRow
    [decimal (board.val + 1),
      boardGetTypeName (control.boardsExist.type board) false,
      boardGetTypeName (control.boardsExist.type board) true,
      versionText versionNtoa (control.bulbVer board).pcbVer,
      versionText versionNtoa (control.bulbVer board).cpuAppVer,
      fpgaText (control.bulbVer board).fpgaVer,
      versionText versionNtoa (control.bulbVer board).bootVer,
      ascii "&#27491;&#24120;"]

/-- A row for each marked slot in the order of the slots, and blanks up to ten. -/
def listing (control : WebControl) : List (List Byte) :=
  (setSlots control).map (boardRow versionNtoa control) ++
    List.replicate (boardTags.length - (setSlots control).length) (ascii " ")

/-! ## The lines that the tags are sent to -/

/-- The search finds the marked slot whose number behind the counted ones is asked for. -/
theorem searchLine_eq (bulbVer : Board → WebBulbVer) (lineno sum : Nat) (boards : List Board)
    (ahead : sum < lineno) :
    searchLine bulbVer lineno sum boards =
      (boards.filter fun board => (bulbVer board).set ≠ 0)[lineno - 1 - sum]? := by
  induction boards generalizing sum with
  | nil => rfl
  | cons board rest inductionHypothesis =>
    by_cases marked : (bulbVer board).set ≠ 0
    · rw [searchLine, if_pos marked, List.filter_cons_of_pos (by simpa using marked)]
      by_cases last : sum + 1 = lineno
      · rw [if_pos last, show lineno - 1 - sum = 0 by omega]
        rfl
      · rw [if_neg last, inductionHypothesis (sum + 1) (by omega),
          show lineno - 1 - sum = lineno - 1 - (sum + 1) + 1 by omega, List.getElem?_cons_succ]
    · rw [searchLine, if_neg marked, List.filter_cons_of_neg (by simpa using marked)]
      exact inductionHypothesis sum ahead

/-- The slot of a line is the marked slot of its number. -/
theorem boardno_eq (control : WebControl) (lineno : Nat) (counts : 0 < lineno) :
    boardGetBoardnoAccordingToLineno control lineno = (setSlots control)[lineno - 1]? :=
  searchLine_eq control.bulbVer lineno 0 _ counts

/-- A line shows the row of its slot, or a blank. -/
theorem commonLine_eq (control : WebControl) (lineno : Nat) (counts : 0 < lineno) :
    boardCommonLineSsiHandler versionNtoa control lineno =
      (((setSlots control)[lineno - 1]?).map (boardRow versionNtoa control)).getD (ascii " ") := by
  have slot := boardno_eq control lineno counts
  cases found : (setSlots control)[lineno - 1]? with
  | none =>
    rw [found] at slot
    simp only [boardCommonLineSsiHandler, slot, Option.map_none, Option.getD_none]
  | some board =>
    rw [found] at slot
    simp only [boardCommonLineSsiHandler, slot, Option.map_some, Option.getD_some,
      boardColumnTable, List.filterMap_cons, List.filterMap_nil, boardColumn1Slot,
      boardColumn2Type, boardColumn3BusinessType, boardColumn4PcbVersion, boardColumn5SwVersion,
      boardColumn6FpgaVersion, boardColumn7BootVersion, boardColumn8State, boardColumn]
    rfl

/-- Tags of other lines than the first leave the tables alone. -/
theorem tagInserts_lines (refresh : WebControl → WebControl) (control : WebControl)
    (tags : List (List Byte)) (lines : List Nat)
    (found : tags.map findSsi = lines.map fun lineno => some (.boardLine lineno))
    (later : ∀ lineno ∈ lines, lineno ≠ 1) :
    tagInserts versionNtoa refresh control tags =
      lines.map (boardCommonLineSsiHandler versionNtoa control) := by
  induction tags generalizing lines with
  | nil =>
    cases lines with
    | nil => rfl
    | cons lineno rest => cases found
  | cons tag rest inductionHypothesis =>
    cases lines with
    | nil => cases found
    | cons lineno further =>
      obtain ⟨first, others⟩ := List.cons.inj found
      have notFirst := later lineno List.mem_cons_self
      simp only [tagInserts, boardTagInsert, first, boardLineSsiHandler, if_neg notFirst,
        List.map_cons]
      rw [inductionHypothesis further others
        fun other member => later other (List.mem_cons_of_mem _ member)]

/-- The lines that the ten tags are sent to. -/
def servedLines : List Nat := [1, 2, 3, 4, 5, 6, 7, 8, 8, 10]

/-- The table finds the lines of the ten tags. -/
theorem findSsi_boardTags :
    boardTags.map findSsi = servedLines.map fun lineno => some (.boardLine lineno) := by
  decide

/-- The tag of the first line reads the tables anew. -/
theorem tagInserts_first (refresh : WebControl → WebControl) (control : WebControl)
    (tag : List Byte) (rest : List (List Byte)) (found : findSsi tag = some (.boardLine 1)) :
    tagInserts versionNtoa refresh control (tag :: rest) =
      boardCommonLineSsiHandler versionNtoa (refresh control) 1 ::
        tagInserts versionNtoa refresh (refresh control) rest := by
  simp only [tagInserts, boardTagInsert, found, boardLineSsiHandler, if_true]

/-- The page shows the served lines of the tables that its first line has read. -/
theorem boardRows_eq (refresh : WebControl → WebControl) (control : WebControl) :
    boardRows versionNtoa refresh control =
      servedLines.map (boardCommonLineSsiHandler versionNtoa (refresh control)) := by
  obtain ⟨first, others⟩ := List.cons.inj findSsi_boardTags
  have rest := tagInserts_lines versionNtoa refresh (refresh control) _ _ others (by decide)
  exact (tagInserts_first versionNtoa refresh control _ _ first).trans (congrArg (_ :: ·) rest)

/-! ## When the listing is right -/

/-- There are no more marked slots than slots. -/
theorem setSlots_length (control : WebControl) : (setSlots control).length ≤ maxBoardNo := by
  have bound := List.length_filter_le (fun board => (control.bulbVer board).set ≠ 0)
    (List.finRange maxBoardNo)
  rwa [List.length_finRange] at bound

/-- The listing is the sequence of all ten lines. -/
theorem listing_eq (control : WebControl) :
    listing versionNtoa control =
      (List.range' 1 boardTags.length).map (boardCommonLineSsiHandler versionNtoa control) := by
  have slots := setSlots_length control
  have tags : boardTags.length = 10 := rfl
  simp only [maxBoardNo] at slots
  apply List.ext_getElem
  · simp only [listing, List.length_append, List.length_map, List.length_replicate,
      List.length_range']
    omega
  · intro place inside _
    have bound : place < 10 := by
      simp only [listing, List.length_append, List.length_map, List.length_replicate] at inside
      omega
    rw [List.getElem_map, List.getElem_range', Nat.one_mul,
      commonLine_eq versionNtoa control (1 + place) (by omega), Nat.add_sub_cancel_left]
    by_cases marked : place < (setSlots control).length
    · simp only [listing]
      rw [List.getElem_append_left (by rwa [List.length_map]), List.getElem_map,
        List.getElem?_eq_getElem marked, Option.map_some, Option.getD_some]
    · simp only [listing]
      rw [List.getElem_append_right (by rw [List.length_map]; omega), List.getElem_replicate,
        List.getElem?_eq_none (by omega), Option.map_none, Option.getD_none]

/-- The number of a slot is one digit. -/
theorem decimal_slot (board : Board) :
    decimal (board.val + 1) = [BitVec.ofNat 8 (49 + board.val)] := by
  revert board
  decide

/-- The digit of its slot stands in every row. -/
theorem boardRow_digit (control : WebControl) (board : Board) :
    (boardRow versionNtoa control board)[8]? = some (BitVec.ofNat 8 (49 + board.val)) := by
  simp only [boardRow, fillRow, List.flatMap_cons, fillUnit, decimal_slot]
  rfl

/-- The rows of two boards differ. -/
theorem boardRow_injective (control : WebControl) (first second : Board)
    (same : boardRow versionNtoa control first = boardRow versionNtoa control second) :
    first = second := by
  have digits : some (BitVec.ofNat 8 (49 + first.val)) = some (BitVec.ofNat 8 (49 + second.val)) := by
    rw [← boardRow_digit versionNtoa control first, same, boardRow_digit]
  have values := congrArg BitVec.toNat (Option.some.inj digits)
  have small := first.isLt
  have other := second.isLt
  simp only [BitVec.toNat_ofNat, maxBoardNo] at values small other
  apply Fin.ext
  omega

/-- The eighth and the ninth line agree exactly when there is no eighth row. -/
theorem eighth_line_eq_iff (control : WebControl) :
    boardCommonLineSsiHandler versionNtoa control 8 =
        boardCommonLineSsiHandler versionNtoa control 9 ↔ (setSlots control).length < 8 := by
  rw [commonLine_eq versionNtoa control 8 (by decide), commonLine_eq versionNtoa control 9 (by decide)]
  constructor
  · intro same
    by_contra many
    have eighth : 7 < (setSlots control).length := by omega
    rw [List.getElem?_eq_getElem eighth, Option.map_some, Option.getD_some] at same
    by_cases ninth : 8 < (setSlots control).length
    · rw [List.getElem?_eq_getElem ninth, Option.map_some, Option.getD_some] at same
      have distinct : (setSlots control).Nodup := (List.nodup_finRange _).filter _
      have equal := boardRow_injective versionNtoa control _ _ same
      exact absurd ((distinct.getElem_inj_iff).mp equal) (by decide)
    · rw [List.getElem?_eq_none (by omega), Option.map_none, Option.getD_none] at same
      have digit := boardRow_digit versionNtoa control (setSlots control)[7]
      rw [same] at digit
      cases digit
  · intro few
    rw [List.getElem?_eq_none (by omega), List.getElem?_eq_none (by omega)]

/-- The served lines are the listing exactly when there is no eighth row. -/
theorem servedLines_listing_iff (control : WebControl) :
    servedLines.map (boardCommonLineSsiHandler versionNtoa control) = listing versionNtoa control ↔
      (setSlots control).length < 8 := by
  rw [listing_eq, ← eighth_line_eq_iff versionNtoa]
  have tags : List.range' 1 boardTags.length = [1, 2, 3, 4, 5, 6, 7, 8, 9, 10] := rfl
  rw [tags]
  constructor
  · intro same
    exact congrArg (fun rows => rows.getD 8 []) same
  · intro same
    simp only [servedLines, List.map_cons, List.map_nil, same]

/-- For every content of the tables behind the first line's refresh: the ten tags give one
row for each marked slot, in order and once, and blanks behind them, exactly when fewer than
eight slots are marked. With eight or nine the ninth tag shows the eighth row again, and a
ninth row is lost. The marks decide alone; what the rows say of each board does not matter.
The reason for eight is a handler that is registered twice. -/
theorem boardRows_listing_iff (refresh : WebControl → WebControl) (control : WebControl) :
    boardRows versionNtoa refresh control = listing versionNtoa (refresh control) ↔
      (setSlots (refresh control)).length < 8 := by
  rw [boardRows_eq]
  exact servedLines_listing_iff versionNtoa (refresh control)

end rows

/-- Nine boards of the type of the main control board, all marked. -/
def fullTables : WebControl :=
  { zeroControl with
    boardsExist := ⟨0x1ff, fun _ => gan111MainCtrl⟩
    bulbVer := fun _ => { zeroBulbVer with set := 1 } }

/-- With all slots marked the ninth tag shows the eighth board once more. -/
theorem ninth_board_is_not_listed :
    ¬ ∀ (versionNtoa : Byte → List Byte) (refresh : WebControl → WebControl) (control : WebControl),
      boardRows versionNtoa refresh control = listing versionNtoa (refresh control) := by
  intro complete
  have ninth := congrArg (fun rows => rows.getD 8 [])
    (complete (fun _ => []) (fun _ => fullTables) zeroControl)
  revert ninth
  decide

end UcosProxy.BoardsPage
