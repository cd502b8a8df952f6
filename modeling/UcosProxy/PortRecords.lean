import UcosProxy.AccountLogin
import UcosProxy.OutcomeTexts
import UcosProxy.PortFrames
import UcosProxy.Runs
import UcosProxy.TextPieces

/-!
# The ports as the server prints them

A read of a port page refreshes the tables and prints the ports into the insert buffer
of the connection, six characters a port: board and port as one character each, then
the configuration and the state in hexadecimal digits. Each record is written over the
NUL of the one before it. A page of Ethernet ports has the gigabit ports first, then a
separator, then the others.

The buffer is zeroed when the connection is set up. A handler that has no port to
print leaves it alone, so what the browser then gets depends on that.

The loops run to the amounts in the tables. `Reached.amounts` says that no amount
passes the end of its array, so that a list of the array's own ports is what they visit.
-/

namespace UcosProxy.PortRecords

open Bytes TextPieces ControlTables PortArrays PortFrames TagScan BoardsPage OutcomeTexts

/-! ## A record -/

/-- `ntoalpha`. Ten digits, then the small letters, then the capital ones; what has no
letter is a zero. -/
def ntoalpha (n : Nat) : Byte :=
  if n < 10 then BitVec.ofNat 8 (48 + n)
  else if n < 36 then BitVec.ofNat 8 (97 + (n - 10))
  else if n < 62 then BitVec.ofNat 8 (65 + (n - 36))
  else 48

/-- A digit of `%x`. -/
def lowerHexDigit (value : Nat) : Byte := BitVec.ofNat 8 (if value < 10 then 48 + value else 87 + value)

/-- `%02x` and `%04x` of a value that has no more digits than that. -/
def lowerHex : Nat → Nat → List Byte
  | 0, _ => []
  | digits + 1, value => lowerHexDigit (value / 16 ^ digits % 16) :: lowerHex digits value

/-- `opt_make_data`. Board and port are a letter each, and configuration and state two
digits each. -/
def optMakeData (board portno : Nat) (cfg state : Byte) : List Byte :=
  [ntoalpha board, ntoalpha portno] ++ lowerHex 2 cfg.toNat ++ lowerHex 2 state.toNat

/-- `eth_make_data` -/
def ethMakeData (board portno : Nat) (data : BitVec 16) : List Byte :=
  [ntoalpha board, ntoalpha portno] ++ lowerHex 4 data.toNat

/-- `e1_make_data` -/
def e1MakeData (board portno : Nat) (cfg state : Byte) : List Byte :=
  [ntoalpha board, ntoalpha portno] ++ lowerHex 2 cfg.toNat ++ lowerHex 2 state.toNat

/-! ## The ports of a page -/

/-- A port of some kind, by its board and its number. The number is within the ports that a
board has of that kind, so no port outside the tables can be named. -/
structure Port where
  kind : PortKind
  board : Board
  portno : Fin kind.count

/-- How many ports of a kind a board has. -/
def amount (control : WebControl) : PortKind → Board → Nat
  | .opt, board => (control.opt board).amount
  | .ge, board => (control.eth board).geAmount
  | .fe, board => (control.eth board).feAmount
  | .e1, board => (control.e1 board).amount

/-- The ports of a kind, board by board. -/
def kindPorts (control : WebControl) (kind : PortKind) : List Port :=
  (List.finRange maxBoardNo).flatMap fun board =>
    ((List.finRange kind.count).take (amount control kind board)).map fun portno =>
      ⟨kind, board, portno⟩

/-- The configuration word of a port. -/
def Port.config (control : WebControl) (port : Port) : BitVec port.kind.width :=
  (cached control port.kind port.board).words port.portno

/-- The state byte of a port; an Ethernet port has none. -/
def Port.state (control : WebControl) : Port → Option Byte
  | ⟨.opt, board, portno⟩ => some ((control.opt board).state portno)
  | ⟨.ge, _, _⟩ => none
  | ⟨.fe, _, _⟩ => none
  | ⟨.e1, board, portno⟩ => some ((control.e1 board).state portno)

/-- The record of a port. -/
def Port.record (control : WebControl) : Port → List Byte
  | ⟨.opt, board, portno⟩ =>
    optMakeData board portno ((control.opt board).config.words portno)
      ((control.opt board).state portno)
  | ⟨.ge, board, portno⟩ => ethMakeData board portno ((control.eth board).ge.words portno)
  | ⟨.fe, board, portno⟩ => ethMakeData board portno ((control.eth board).fe.words portno)
  | ⟨.e1, board, portno⟩ =>
    e1MakeData board portno ((control.e1 board).config.words portno) ((control.e1 board).state portno)

/-! ## The handlers of the tags -/

/-- The texts of a loop, each written behind the one before it and ended by a NUL. -/
def writeTexts (p : List Byte) (os : Nat) : List (List Byte) → List Byte
  | [] => p
  | text :: rest => writeTexts (overwrite p os (text ++ [0])) (os + text.length) rest

/-- What the three handlers do: refresh, and print the texts of the tables or the word
for a failure. -/
def readDataSsiHandler (read : WebControl → Int × WebControl) (texts : WebControl → List (List Byte))
    (control : WebControl) (p : List Byte) : WebControl × List Byte :=
  let refreshed := read control
  if refreshed.1 < 0 then (refreshed.2, overwrite p 0 (failStr ++ [0]))
  else (refreshed.2, writeTexts p 0 (texts refreshed.2))

/-- The records of the ports of a kind. -/
def records (control : WebControl) (kind : PortKind) : List (List Byte) :=
  (kindPorts control kind).map (Port.record control)

/-- What a page prints of the tables. -/
def pageTexts (control : WebControl) : PortPage → List (List Byte)
  | .opt => records control .opt
  | .eth => records control .ge ++ [ascii "_FE_"] ++ records control .fe
  | .e1 => records control .e1

section handlers
variable (codes : Codes) (link : ControlTables.Link) (crRemoteChosen : Bool)

/-- `opt_read_data_ssi_handler` -/
def optReadDataSsiHandler : WebControl → List Byte → WebControl × List Byte :=
  readDataSsiHandler (webReadOpt codes link crRemoteChosen) (pageTexts · .opt)

/-- `eth_read_data_ssi_handler` -/
def ethReadDataSsiHandler : WebControl → List Byte → WebControl × List Byte :=
  readDataSsiHandler (webReadEth codes link crRemoteChosen) (pageTexts · .eth)

/-- `e1_read_data_ssi_handler` -/
def e1ReadDataSsiHandler : WebControl → List Byte → WebControl × List Byte :=
  readDataSsiHandler (webReadE1 codes link crRemoteChosen) (pageTexts · .e1)

/-- `tag_insert` as `http_state_alloc` leaves it: 511 bytes and one. -/
def tagInsert : List Byte := List.replicate 512 0

/-- What `SSIHandler` inserts for a tag: the text that the tag's handler leaves in the
buffer. The other handlers are none of a read. -/
def readInsert (control : WebControl) (tag : List Byte) : List Byte :=
  match findSsi tag with
  | some .optReadData => text (optReadDataSsiHandler codes link crRemoteChosen control tagInsert).2
  | some .ethReadData => text (ethReadDataSsiHandler codes link crRemoteChosen control tagInsert).2
  | some .e1ReadData => text (e1ReadDataSsiHandler codes link crRemoteChosen control tagInsert).2
  | _ => []

/-- The reader behind a page. -/
def pageReader : PortPage → Reader
  | .opt => .opt
  | .eth => .eth
  | .e1 => .e1

/-- `assets/ajax/opt_read.ajax`, `eth_read.ajax` and `e1_read.ajax` -/
def readAjax : PortPage → List Byte
  | .opt => ascii "\n<!--#opt_read_data-->\n"
  | .eth => ascii "\n<!--#eth_read_data-->\n"
  | .e1 => ascii "\n<!--#e1_read_data-->\n"

/-- The body of a read. -/
def readBody (page : PortPage) (control : WebControl) : List Byte :=
  sendTags (readInsert codes link crRemoteChosen control) .none (readAjax page)

/-- The status of a read and the tables behind it. -/
def readPage (page : PortPage) (control : WebControl) : Int × WebControl :=
  (pageReader page).read codes link crRemoteChosen control

end handlers

/-- The ports of a page: the gigabit ports of all boards before the others. -/
def pagePorts (control : WebControl) : PortPage → List Port
  | .opt => kindPorts control .opt
  | .eth => kindPorts control .ge ++ kindPorts control .fe
  | .e1 => kindPorts control .e1

/-! ## The tables that refreshes leave -/

/-- A call of a reader, with what the link answers. The link is part of it, since it may
answer each call in another way. -/
structure Refresh where
  reader : Reader
  link : ControlTables.Link
  crRemoteChosen : Bool

/-- One refresh, whatever its status. -/
def refresh (codes : Codes) (control : WebControl) (call : Refresh) : Option WebControl :=
  some (call.reader.read codes call.link call.crRemoteChosen control).2

/-- The tables behind some refreshes of the zeroed ones. The boards, the replies and the
timeouts of each refresh are open. -/
def Reached (codes : Codes) (control : WebControl) : Prop :=
  ∃ calls, Runs.run (refresh codes) zeroControl calls = some control

/-- `MAX_OPT_PORT_AMOUNT`, `MAX_ETH_GE_PORT_AMOUNT`, `MAX_ETH_FE_PORT_AMOUNT` and
`MAX_E1_PORT_AMOUNT` -/
def maxAmount : PortKind → Nat
  | .opt => 2
  | .ge => 2
  | .fe => 6
  | .e1 => 8

/-- No board has more ports than its type. It holds of all tables that refreshes leave, and
it is what the sizes of the texts rest on. -/
structure AmountsFit (control : WebControl) : Prop where
  opt : ∀ board, (control.opt board).amount ≤ maxAmount .opt
  ge : ∀ board, (control.eth board).geAmount ≤ maxAmount .ge
  fe : ∀ board, (control.eth board).feAmount ≤ maxAmount .fe
  e1 : ∀ board, (control.e1 board).amount ≤ maxAmount .e1

/-- The bounds by kind. -/
theorem AmountsFit.amount_le {control : WebControl} (fits : AmountsFit control) (kind : PortKind)
    (board : Board) : amount control kind board ≤ maxAmount kind := by
  cases kind with
  | opt => exact fits.opt board
  | ge => exact fits.ge board
  | fe => exact fits.fe board
  | e1 => exact fits.e1 board

/-- No board has more ports of the kinds on a page than its type. -/
def PageFits (control : WebControl) : PortPage → Prop
  | .opt => ∀ board, amount control .opt board ≤ maxAmount .opt
  | .eth => (∀ board, amount control .ge board ≤ maxAmount .ge) ∧
      ∀ board, amount control .fe board ≤ maxAmount .fe
  | .e1 => ∀ board, amount control .e1 board ≤ maxAmount .e1

theorem AmountsFit.page {control : WebControl} (fits : AmountsFit control) (page : PortPage) :
    PageFits control page := by
  cases page with
  | opt => exact fits.opt
  | eth => exact ⟨fits.ge, fits.fe⟩
  | e1 => exact fits.e1

section amounts
variable (codes : Codes) (link : ControlTables.Link) (crRemoteChosen : Bool)

/-- A round sets the amount of its own ports. -/
theorem optRound_amount (control : WebControl) (board : Board) (entry : WebOpt) :
    (optRound codes link control board entry).amount ≤ 2 := by
  simp only [optRound]
  split
  · split
    · exact Nat.zero_le _
    · split
      · exact Nat.zero_le _
      · exact Nat.le_refl _
  · exact Nat.zero_le _

theorem geRound_amount (control : WebControl) (board : Board) (entry : WebEth) :
    (geRound codes link control board entry).geAmount ≤ 2 := by
  simp only [geRound]
  split
  · split
    · exact Nat.zero_le _
    · exact Nat.le_refl _
  · exact Nat.zero_le _

theorem feRound_amount (control : WebControl) (board : Board) (entry : WebEth) :
    (feRound codes link control board entry).feAmount ≤ 6 := by
  simp only [feRound]
  split
  · split
    · exact Nat.zero_le _
    · exact Nat.le_refl _
  · exact Nat.zero_le _

/-- The second loop leaves the amounts of the first one. -/
theorem feRound_geAmount (control : WebControl) (board : Board) (entry : WebEth) :
    (feRound codes link control board entry).geAmount = entry.geAmount := by
  simp only [feRound, webReadEthFeOneBoard]
  split
  · cases link (getArg codes control.devId (BitVec.ofNat 8 board) codes.ethFeConfig) <;> rfl
  · rfl

theorem e1Round_amount (control : WebControl) (board : Board) (entry : WebE1) :
    (e1Round codes link control board entry).amount ≤ 8 := by
  simp only [e1Round]
  split
  · split
    · exact Nat.zero_le _
    · exact Nat.le_refl _
  · exact Nat.zero_le _

/-- A reader of a table keeps the bounds when clearing and filling do. -/
theorem webReadTable_fits {clear fill : WebControl → WebControl} (control : WebControl)
    (fits : AmountsFit control) (clears : ∀ after, AmountsFit after → AmountsFit (clear after))
    (fills : ∀ after, AmountsFit after → AmountsFit (fill after)) :
    AmountsFit (webReadTable codes clear fill link crRemoteChosen control).2 := by
  have other (devId : BitVec 16) (boards : WebBoardsExist) :
      AmountsFit { control with devId := devId, boardsExist := boards } :=
    ⟨fits.opt, fits.ge, fits.fe, fits.e1⟩
  rw [webReadTable_eq]
  cases heardBoards codes link crRemoteChosen with
  | none => exact clears _ (other _ control.boardsExist)
  | some heard => exact fills _ (other _ _)

/-- Every reader keeps the bounds. -/
theorem read_fits (reader : Reader) (control : WebControl) (fits : AmountsFit control) :
    AmountsFit (reader.read codes link crRemoteChosen control).2 := by
  cases reader with
  | panel =>
    obtain ⟨bulbVer, moved⟩ := webReadPanel_moved codes link crRemoteChosen control
    simp only [Reader.read, moved]
    exact ⟨fits.opt, fits.ge, fits.fe, fits.e1⟩
  | boardsVersion =>
    apply webReadTable_fits _ _ _ _ fits
    · rintro after ⟨opt, ge, fe, e1⟩
      exact ⟨opt, ge, fe, e1⟩
    · rintro after ⟨opt, ge, fe, e1⟩
      exact ⟨opt, ge, fe, e1⟩
  | opt =>
    apply webReadTable_fits _ _ _ _ fits
    · rintro after ⟨_, ge, fe, e1⟩
      exact ⟨fun _ => Nat.zero_le _, ge, fe, e1⟩
    · rintro after ⟨_, ge, fe, e1⟩
      refine ⟨?_, ge, fe, e1⟩
      intro board
      simp only [forBoards_apply]
      exact optRound_amount codes link after board _
  | eth =>
    apply webReadTable_fits _ _ _ _ fits
    · rintro after ⟨opt, _, _, e1⟩
      exact ⟨opt, fun _ => Nat.zero_le _, fun _ => Nat.zero_le _, e1⟩
    · rintro after ⟨opt, _, _, e1⟩
      refine ⟨opt, ?_, ?_, e1⟩
      · intro board
        simp only [forBoards_apply, feRound_geAmount]
        exact geRound_amount codes link after board _
      · intro board
        simp only [forBoards_apply]
        exact feRound_amount codes link after board _
  | e1 =>
    apply webReadTable_fits _ _ _ _ fits
    · rintro after ⟨opt, ge, fe, _⟩
      exact ⟨opt, ge, fe, fun _ => Nat.zero_le _⟩
    · rintro after ⟨opt, ge, fe, _⟩
      refine ⟨opt, ge, fe, ?_⟩
      intro board
      simp only [forBoards_apply]
      exact e1Round_amount codes link after board _

end amounts

/-- No sequence of refreshes leaves more ports on a board than its type has. -/
theorem Reached.amounts {codes : Codes} {control : WebControl} (reached : Reached codes control) :
    AmountsFit control := by
  obtain ⟨calls, ran⟩ := reached
  have zeroed : AmountsFit zeroControl := by
    constructor <;> exact fun _ => Nat.zero_le _
  have keeps (before : WebControl) (call : Refresh) (after : WebControl) (fits : AmountsFit before)
      (stepped : refresh codes before call = some after) : AmountsFit after := by
    obtain rfl := Option.some.inj stepped
    exact read_fits codes call.link call.crRemoteChosen call.reader before fits
  have along := Runs.always_of_guarded AmountsFit AmountsFit (fun _ fits => fits)
    (fun before call after fits _ => keeps before call after fits) zeroed calls
    (Runs.guarded_true _ _ _)
  exact Runs.always_final along ran

/-! ## Which ports a page has -/

/-- A port is printed exactly when its number is below the amount of its board. -/
theorem mem_kindPorts (control : WebControl) (kind : PortKind) (port : Port) :
    port ∈ kindPorts control kind ↔
      port.kind = kind ∧ port.portno.val < amount control port.kind port.board := by
  simp only [kindPorts, List.mem_flatMap, List.mem_map, List.mem_take_iff_getElem]
  constructor
  · rintro ⟨board, _, portno, ⟨index, bound, rfl⟩, rfl⟩
    rw [List.getElem_finRange]
    exact ⟨rfl, (Nat.lt_min.mp bound).1⟩
  · rintro ⟨rfl, inside⟩
    refine ⟨port.board, List.mem_finRange _, port.portno, ⟨port.portno.val, ?_, ?_⟩, rfl⟩
    · rw [List.length_finRange]
      exact Nat.lt_min.mpr ⟨inside, port.portno.isLt⟩
    · rw [List.getElem_finRange]
      rfl

/-- One port is before another: on an earlier board, or on the same one with a smaller
number. -/
def Port.Before (first second : Port) : Prop :=
  first.board < second.board ∨ first.board = second.board ∧ first.portno.val < second.portno.val

/-- The ports of a kind come in their order, each of them once. -/
theorem kindPorts_ordered (control : WebControl) (kind : PortKind) :
    (kindPorts control kind).Pairwise Port.Before := by
  rw [kindPorts, List.pairwise_flatMap]
  constructor
  · intro board _
    rw [List.pairwise_map]
    apply List.Pairwise.imp _ ((List.pairwise_lt_finRange _).take)
    intro first second smaller
    exact Or.inr ⟨rfl, smaller⟩
  · apply List.Pairwise.imp _ (List.pairwise_lt_finRange _)
    rintro board next smaller first inFirst second inSecond
    obtain ⟨_, _, rfl⟩ := List.mem_map.mp inFirst
    obtain ⟨_, _, rfl⟩ := List.mem_map.mp inSecond
    exact Or.inl smaller

/-! ## What stands in the buffer -/

/-- The texts of a loop stand behind one another. -/
theorem writeTexts_zeros (texts : List (List Byte)) (written : List Byte) {free : Nat}
    (room : texts.flatten.length < free) :
    writeTexts (written ++ List.replicate free 0) written.length texts =
      (written ++ texts.flatten) ++ List.replicate (free - texts.flatten.length) 0 := by
  induction texts generalizing written free with
  | nil => simp [writeTexts]
  | cons text rest inductionHypothesis =>
    rw [List.flatten_cons, List.length_append] at room
    have first : text.length < free := by omega
    have others : rest.flatten.length < free - text.length := by omega
    rw [writeTexts, overwrite_zeros written text first, ← List.length_append,
      inductionHypothesis (written ++ text) others, List.flatten_cons, List.length_append,
      List.append_assoc written, Nat.sub_add_eq]

/-- The string in the buffer is all of the texts. -/
theorem text_writeTexts {texts : List (List Byte)} {free : Nat}
    (letters : ∀ byte ∈ texts.flatten, byte ≠ 0) (room : texts.flatten.length < free) :
    text (writeTexts (List.replicate free 0) 0 texts) = texts.flatten := by
  have stands := writeTexts_zeros texts [] room
  obtain ⟨behind, ended⟩ : ∃ behind, free - texts.flatten.length = behind + 1 :=
    ⟨free - texts.flatten.length - 1, by omega⟩
  simp only [List.nil_append, List.length_nil] at stands
  rw [stands, ended, List.replicate_succ, text, List.takeWhile_append_of_pos]
  · simp
  · intro byte member
    simpa using letters byte member

/-! ## The letters of the records -/

/-- Only digits of `%x` are in the text. The scripts cut the text at other letters, so none
of them comes up by accident. -/
def HexText (bytes : List Byte) : Prop := ∀ byte ∈ bytes, ∃ digit < 16, byte = lowerHexDigit digit

theorem lowerHex_hexText (digits value : Nat) : HexText (lowerHex digits value) := by
  induction digits with
  | zero => simp [HexText, lowerHex]
  | succ digits inductionHypothesis =>
    intro byte member
    rcases List.mem_cons.mp member with rfl | further
    · exact ⟨_, Nat.mod_lt _ (by decide), rfl⟩
    · exact inductionHypothesis byte further

theorem lowerHex_length (digits value : Nat) : (lowerHex digits value).length = digits := by
  induction digits with
  | zero => rfl
  | succ digits inductionHypothesis => rw [lowerHex, List.length_cons, inductionHypothesis]

theorem HexText.append {before behind : List Byte} (first : HexText before) (second : HexText behind) :
    HexText (before ++ behind) := by
  intro byte member
  rcases List.mem_append.mp member with inFirst | inSecond
  · exact first byte inFirst
  · exact second byte inSecond

/-- A board and a port below sixteen are one hexadecimal digit each. -/
theorem ntoalpha_digit (n : Nat) (small : n < 16) : ntoalpha n = lowerHexDigit n := by
  have all : ∀ n : Fin 16, ntoalpha n = lowerHexDigit n := by decide
  exact all ⟨n, small⟩

/-- No array has more than sixteen ports. -/
theorem count_le (kind : PortKind) : kind.count ≤ 16 := by
  cases kind <;> decide

/-- The head of a record. -/
theorem address_hexText (board : Board) {portno : Nat} (small : portno < 16) :
    HexText [ntoalpha board, ntoalpha portno] := by
  have boards : board.val < 16 := Nat.lt_of_lt_of_le board.isLt (by decide)
  intro byte member
  rcases List.mem_cons.mp member with rfl | further
  · exact ⟨_, boards, ntoalpha_digit _ boards⟩
  · obtain rfl := List.mem_singleton.mp further
    exact ⟨_, small, ntoalpha_digit _ small⟩

/-- A record is of hexadecimal digits throughout. -/
theorem record_hexText (control : WebControl) (port : Port) : HexText (port.record control) := by
  obtain ⟨kind, board, portno⟩ := port
  have address := address_hexText board (Nat.lt_of_lt_of_le portno.isLt (count_le kind))
  cases kind with
  | opt => exact (address.append (lowerHex_hexText _ _)).append (lowerHex_hexText _ _)
  | ge => exact address.append (lowerHex_hexText _ _)
  | fe => exact address.append (lowerHex_hexText _ _)
  | e1 => exact (address.append (lowerHex_hexText _ _)).append (lowerHex_hexText _ _)

/-- A record has six characters. -/
theorem record_length (control : WebControl) (port : Port) : (port.record control).length = 6 := by
  obtain ⟨kind, board, portno⟩ := port
  cases kind <;>
    simp only [Port.record, optMakeData, ethMakeData, e1MakeData, List.length_append,
      List.length_cons, List.length_nil, lowerHex_length]

theorem records_length (control : WebControl) (kind : PortKind) :
    ∀ record ∈ records control kind, record.length = 6 := by
  intro record member
  obtain ⟨port, _, rfl⟩ := List.mem_map.mp member
  exact record_length control port

theorem records_hexText (control : WebControl) (kind : PortKind) :
    HexText (records control kind).flatten := by
  intro byte member
  obtain ⟨record, isRecord, inside⟩ := List.mem_flatten.mp member
  obtain ⟨port, _, rfl⟩ := List.mem_map.mp isRecord
  exact record_hexText control port byte inside

/-! ## The body of a read -/

/-- The boards together have at most nine times the ports of one. -/
theorem records_size {control : WebControl} {kind : PortKind}
    (bound : ∀ board, amount control kind board ≤ maxAmount kind) :
    (records control kind).flatten.length ≤ 54 * maxAmount kind := by
  have ports : (kindPorts control kind).length ≤ maxBoardNo * maxAmount kind := by
    rw [kindPorts, List.length_flatMap]
    refine (List.sum_le_card_nsmul _ (maxAmount kind) ?_).trans ?_
    · intro size member
      obtain ⟨board, _, rfl⟩ := List.mem_map.mp member
      rw [List.length_map, List.length_take]
      exact (Nat.min_le_left _ _).trans (bound board)
    · rw [List.length_map, List.length_finRange]
      exact Nat.le_refl _
  have boards : maxBoardNo = 9 := rfl
  rw [boards] at ports
  rw [length_flatten_pieces (records_length control kind), records, List.length_map]
  omega

/-- The texts of a page and a NUL fit the insert buffer. -/
theorem pageTexts_size {control : WebControl} {page : PortPage} (fits : PageFits control page) :
    (pageTexts control page).flatten.length < 512 := by
  have separator : (ascii "_FE_").length = 4 := by decide
  cases page with
  | opt =>
    have opt := records_size fits
    simp only [maxAmount] at opt
    simp only [pageTexts]
    omega
  | eth =>
    have ge := records_size fits.1
    have fe := records_size fits.2
    simp only [maxAmount] at ge fe
    simp only [pageTexts, List.flatten_append, List.flatten_singleton, List.length_append]
    omega
  | e1 =>
    have e1 := records_size fits
    simp only [maxAmount] at e1
    simp only [pageTexts]
    omega

/-- The name of the tag of a page. -/
def pageTag : PortPage → List Byte
  | .opt => ascii "opt_read_data"
  | .eth => ascii "eth_read_data"
  | .e1 => ascii "e1_read_data"

/-- A page up to the end of its tag. -/
def pageHead : PortPage → List Byte
  | .opt => ascii "\n<!--#opt_read_data-->"
  | .eth => ascii "\n<!--#eth_read_data-->"
  | .e1 => ascii "\n<!--#e1_read_data-->"

section body
variable (codes : Codes) (link : ControlTables.Link) (crRemoteChosen : Bool)

/-- The insert goes out between the tag and the end of its line. -/
theorem readBody_eq (page : PortPage) (control : WebControl) :
    readBody codes link crRemoteChosen page control =
      pageHead page ++ readInsert codes link crRemoteChosen control (pageTag page) ++ [10] := by
  have split : ∃ before, readAjax page = before ++ 62 :: [10] ∧ pageHead page = before ++ [62] ∧
      scanQuiet .none before = some (.leadout (pageTag page) 2) := by
    cases page with
    | opt =>
      refine ⟨ascii "\n<!--#opt_read_data--", ?_⟩
      decide
    | eth =>
      refine ⟨ascii "\n<!--#eth_read_data--", ?_⟩
      decide
    | e1 =>
      refine ⟨ascii "\n<!--#e1_read_data--", ?_⟩
      decide
  obtain ⟨before, whole, head, quiet⟩ := split
  have tag : scanByte (.leadout (pageTag page) 2) 62 = (.none, some (pageTag page)) := rfl
  have rest : scanQuiet .none [10] = some .none := by decide
  rw [readBody, whole, sendTags_one _ quiet tag rest, head]
  simp only [List.append_assoc, List.cons_append, List.nil_append]

/-- Behind a refresh that succeeds the insert is the text of the tables. -/
theorem readInsert_eq (page : PortPage) (control : WebControl)
    (success : 0 ≤ (readPage codes link crRemoteChosen page control).1)
    (fits : PageFits (readPage codes link crRemoteChosen page control).2 page) :
    readInsert codes link crRemoteChosen control (pageTag page) =
      (pageTexts (readPage codes link crRemoteChosen page control).2 page).flatten := by
  have letters (kind : PortKind) (tables : WebControl) :
      ∀ byte ∈ (records tables kind).flatten, byte ≠ 0 := by
    intro byte member
    obtain ⟨digit, small, rfl⟩ := records_hexText tables kind byte member
    have all : ∀ digit : Fin 16, lowerHexDigit digit ≠ 0 := by decide
    exact all ⟨digit, small⟩
  have noNul (tables : WebControl) : ∀ byte ∈ (pageTexts tables page).flatten, byte ≠ 0 := by
    cases page with
    | opt => exact letters .opt tables
    | eth =>
      intro byte member
      simp only [pageTexts, List.flatten_append, List.flatten_singleton, List.mem_append] at member
      rcases member with (ge | separator) | fe
      · exact letters .ge tables byte ge
      · revert byte
        decide
      · exact letters .fe tables byte fe
    | e1 => exact letters .e1 tables
  have printed (read : WebControl → Int × WebControl) (succeeds : 0 ≤ (read control).1)
      (bounds : PageFits (read control).2 page) :
      text (readDataSsiHandler read (pageTexts · page) control tagInsert).2 =
        (pageTexts (read control).2 page).flatten := by
    simp only [readDataSsiHandler, if_neg (Int.not_lt.mpr succeeds), tagInsert]
    exact text_writeTexts (noNul _) (pageTexts_size bounds)
  cases page with
  | opt =>
    have known : findSsi (pageTag .opt) = some .optReadData := by decide
    rw [readInsert, known]
    exact printed _ success fits
  | eth =>
    have known : findSsi (pageTag .eth) = some .ethReadData := by decide
    rw [readInsert, known]
    exact printed _ success fits
  | e1 =>
    have known : findSsi (pageTag .e1) = some .e1ReadData := by decide
    rw [readInsert, known]
    exact printed _ success fits

end body

end UcosProxy.PortRecords
