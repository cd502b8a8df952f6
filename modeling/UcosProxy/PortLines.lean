import UcosProxy.PortRecords

/-!
# The ports as the pages read them

`opt.js`, `eth.js` and `e1.js` look for the end of the tag in the response, and
`eth.js` for the separator, divide what follows by the length of a record, and show a
line for each record: every column takes its characters out of the record and its bits
out of the number that they spell.

The functions of the language that they use are given first, for the arguments that
they are called with. A number is an integer or NaN; the bitwise operators read it
modulo 2^32.
-/

namespace UcosProxy.PortLines

open Bytes TextPieces PortArrays PortFrames PortRecords
open AccountLogin (isNaN isStrWhiteSpace responseText)

/-! ## The language -/

/-- `indexOf`; -1 when the word is nowhere in the text. -/
def indexOf (text word : List Char) : Int :=
  match place word text with
  | none => -1
  | some index => index

/-- `match` with an expression that is a plain word. -/
def matchWord (text word : List Char) : Bool := (place word text).isSome

/-- The position that an argument of `slice` means: a negative one counts from the end. -/
def slicePlace (text : List Char) (position : Int) : Nat :=
  (if position < 0 then max (text.length + position) 0 else position).toNat

/-- `slice` -/
def slice (text : List Char) (start stop : Int) : List Char :=
  between text (slicePlace text start) (slicePlace text stop)

/-- The value of a hexadecimal digit. -/
def hexDigitValue (letter : Char) : Option Nat :=
  if '0' ≤ letter ∧ letter ≤ '9' then some (letter.toNat - 48)
  else if 'a' ≤ letter ∧ letter ≤ 'f' then some (letter.toNat - 87)
  else if 'A' ≤ letter ∧ letter ≤ 'F' then some (letter.toNat - 55)
  else none

/-- The number that the digits at the head of a text spell, behind the digits so far. -/
def hexNumber : Option Nat → List Char → Option Nat
  | number, [] => number
  | number, letter :: rest =>
    match hexDigitValue letter with
    | none => number
    | some digit => hexNumber (some (16 * number.getD 0 + digit)) rest

/-- A hexadecimal number may start with `0x`. -/
def skipPrefix : List Char → List Char
  | '0' :: 'x' :: rest => rest
  | '0' :: 'X' :: rest => rest
  | text => text

/-- `parseInt` with the radix 16; `none` is NaN. -/
def parseInt16 (text : List Char) : Option Int :=
  match text.dropWhile isStrWhiteSpace with
  | '-' :: rest => (hexNumber none (skipPrefix rest)).map fun number : Nat => -(number : Int)
  | '+' :: rest => (hexNumber none (skipPrefix rest)).map fun number : Nat => (number : Int)
  | rest => (hexNumber none (skipPrefix rest)).map fun number : Nat => (number : Int)

/-- The operand of a bitwise operator: NaN is zero. -/
def toInt32 (number : Option Int) : BitVec 32 := BitVec.ofInt 32 (number.getD 0)

/-- `cfg & (1 << bit)` as a condition. -/
def flag (cfg : BitVec 32) (bit : Nat) : Bool := cfg &&& (1#32 <<< bit) != 0

/-- A number in a text. -/
def numberText (number : Option Nat) : String :=
  match number with
  | none => "NaN"
  | some value => toString value

/-- `parseInt(size / port_len)`: the quotient without its fraction. -/
def portNo (size : Int) : Int := size.tdiv 6

/-! ## The columns -/

/-- `alphaton`: the number of a digit; a letter makes no number, so that the
differences with it are NaN. White space counts as zero. -/
def alphaton (alpha : Option Char) : Option Nat :=
  match alpha with
  | none => some 0
  | some alpha =>
    if !isNaN alpha then some (if alpha.isDigit then alpha.toNat - 48 else 0)
    else if 'a' ≤ alpha ∧ alpha ≤ 'z' then none
    else if 'A' ≤ alpha ∧ alpha ≤ 'Z' then none
    else some 0

/-- The number at the place of a configuration byte. -/
def byteCfg (msg : List Char) : BitVec 32 := toInt32 (parseInt16 (slice msg 2 4))

/-- The number at the place of a state byte. -/
def byteState (msg : List Char) : BitVec 32 := toInt32 (parseInt16 (slice msg 4 6))

/-- The number at the place of a configuration of two bytes. -/
def halfWordCfg (msg : List Char) : BitVec 32 := toInt32 (parseInt16 (slice msg 2 6))

/-- The text for a bit that is set, or the other one. -/
def either (cfg : BitVec 32) (bit : Nat) (one zero : String) : String :=
  if flag cfg bit then one else zero

/-- The position of a port, counted from one. -/
def portPos (middle : String) (msg : List Char) : String :=
  numberText ((alphaton msg[0]?).map (· + 1)) ++ middle ++
    numberText ((alphaton msg[1]?).map (· + 1))

/-- The text of the two loop bits. -/
def loopText (cfg : BitVec 32) : String :=
  if flag cfg 1 ∧ flag cfg 2 then "双向环回"
  else if flag cfg 1 then "线路环回"
  else if flag cfg 2 then "设备环回"
  else "正常工作"

def optName (i : Nat) : String := "OPT_" ++ toString (i + 1)
def optPos (msg : List Char) : String := portPos "_OPT_" msg
def optSwitch (msg : List Char) : String := either (byteCfg msg) 7 "启用" "关断"
def optLoop (msg : List Char) : String := loopText (byteCfg msg)
def optTrap (msg : List Char) : String := either (byteCfg msg) 0 "抑制告警上报" "允许告警上报"
def optLof (msg : List Char) : String := either (byteState msg) 0 "告警" "正常"
def optNop (msg : List Char) : String := either (byteState msg) 1 "告警" "正常"
/-- `opt_LOOP`, the state of a loop -/
def optLoopState (msg : List Char) : String := either (byteState msg) 2 "告警" "正常"

def ethName (ge : Bool) (i : Nat) : String := (if ge then "GTH_" else "ETH_") ++ toString (i + 1)
def ethPos (ge : Bool) (msg : List Char) : String := portPos (if ge then "_GTH_" else "_ETH_") msg
def ethSwitch (msg : List Char) : String := either (halfWordCfg msg) 15 "启用" "关断"
def ethLink (msg : List Char) : String := either (halfWordCfg msg) 7 "已连接" "未连接"
def ethWorkMode (msg : List Char) : String := either (halfWordCfg msg) 3 "自动协商" "强制"
def ethDuplex (msg : List Char) : String := either (halfWordCfg msg) 4 "全双工" "半双工"
def ethFctrl (msg : List Char) : String := either (halfWordCfg msg) 14 "开启" "关闭"
def ethTrap (msg : List Char) : String := either (halfWordCfg msg) 13 "抑制告警上报" "允许告警上报"

/-- `eth_speed`: the fourth value of the two bits has no text. -/
def ethSpeed (msg : List Char) : String :=
  let speed := (halfWordCfg msg &&& (3#32 <<< 5)).sshiftRight 5
  if speed = 0 then "10M" else if speed = 1 then "100M" else if speed = 2 then "1000M" else ""

def e1Name (i : Nat) : String := "E1_" ++ toString (i + 1)
def e1Pos (msg : List Char) : String := portPos "_E1_" msg
def e1Switch (msg : List Char) : String := either (byteCfg msg) 7 "启用" "关断"
def e1Loop (msg : List Char) : String := loopText (byteCfg msg)
def e1Trap (msg : List Char) : String := either (byteCfg msg) 0 "抑制告警上报" "允许告警上报"
def e1Los (msg : List Char) : String := either (byteState msg) 0 "告警" "正常"
def e1Ais (msg : List Char) : String := either (byteState msg) 1 "告警" "正常"
/-- `e1_LOOP` -/
def e1LoopState (msg : List Char) : String := either (byteState msg) 2 "告警" "正常"

/-! ## The lines -/

/-- A line of a page's table: the kind of its port, its number and its record. It is what
the script takes a line apart into, before it fills the form in. -/
structure Line where
  kind : PortKind
  line : Nat
  msg : List Char

/-- The cells of a line, the button left out: what the functions of `opt_col_arr`,
`eth_col_arr` and `e1_col_arr` return. -/
def Line.cells : Line → List String
  | ⟨.opt, i, msg⟩ =>
    [optName i, optPos msg, optSwitch msg, optLoop msg, optTrap msg, optLof msg, optNop msg,
      optLoopState msg]
  | ⟨.ge, i, msg⟩ =>
    ["", ethName true i, ethPos true msg, "", ethSwitch msg, ethLink msg, ethWorkMode msg,
      ethSpeed msg, ethDuplex msg, ethFctrl msg, ethTrap msg]
  | ⟨.fe, i, msg⟩ =>
    ["", ethName false i, ethPos false msg, "", ethSwitch msg, ethLink msg, ethWorkMode msg,
      ethSpeed msg, ethDuplex msg, ethFctrl msg, ethTrap msg]
  | ⟨.e1, i, msg⟩ =>
    [e1Name i, e1Pos msg, e1Switch msg, e1Loop msg, e1Trap msg, e1Los msg, e1Ais msg,
      e1LoopState msg]

/-- The number that the columns take the configuration's bits from. -/
def Line.cfg : Line → BitVec 32
  | ⟨.opt, _, msg⟩ => byteCfg msg
  | ⟨.ge, _, msg⟩ => halfWordCfg msg
  | ⟨.fe, _, msg⟩ => halfWordCfg msg
  | ⟨.e1, _, msg⟩ => byteCfg msg

/-- The number that the columns take the state's bits from. -/
def Line.state : Line → Option (BitVec 32)
  | ⟨.opt, _, msg⟩ => some (byteState msg)
  | ⟨.ge, _, _⟩ => none
  | ⟨.fe, _, _⟩ => none
  | ⟨.e1, _, msg⟩ => some (byteState msg)

/-- A loop over the lines of a kind. -/
def linesFrom (kind : PortKind) (data : List Char) (start count : Int) : List Line :=
  (List.range count.toNat).map fun line =>
    ⟨kind, line, slice data (start + line * 6) (start + (line + 1) * 6)⟩

/-- The lines of a page whose records are all of one kind. -/
def readLines (kind : PortKind) (data : List Char) : Option (List Line) :=
  if matchWord data "fail".toList then none
  else
    let dataStart := indexOf data "-->".toList + 3
    some (linesFrom kind data dataStart (portNo (data.length - dataStart)))

/-- `opt_read_data`; `none` is the prompt for a failure. -/
def optReadData : List Char → Option (List Line) := readLines .opt

/-- `e1_read_data` -/
def e1ReadData : List Char → Option (List Line) := readLines .e1

/-- `eth_read_data`. The two kinds of ports stand behind two words, and their numbers are
computed from where these stand. -/
def ethReadData (data : List Char) : Option (List Line) :=
  if matchWord data "fail".toList then none
  else
    let dataStart := indexOf data "-->".toList + 3
    let feStart := indexOf data "_FE_".toList + 4
    let gePortNo := portNo (indexOf data "_FE_".toList - indexOf data "-->".toList - 3)
    let fePortNo := portNo (data.length - indexOf data "_FE_".toList - 4)
    some (linesFrom .ge data dataStart gePortNo ++ linesFrom .fe data feStart fePortNo)

/-- The lines that a page shows of a response. -/
def pageReadData : PortPage → List Char → Option (List Line)
  | .opt => optReadData
  | .eth => ethReadData
  | .e1 => e1ReadData

/-! ## Reading a number back -/

/-- The letter of a hexadecimal digit. -/
def hexLetter (digit : Nat) : Char := Char.ofNat (lowerHexDigit digit).toNat

/-- What the scripts make of a hexadecimal digit, and what it is not. -/
theorem hexLetter_read {digit : Nat} (small : digit < 16) :
    hexDigitValue (hexLetter digit) = some digit ∧ isStrWhiteSpace (hexLetter digit) = false ∧
      hexLetter digit ∉ ['-', '+', 'x', 'X', 'l', '_'] := by
  have all : ∀ digit : Fin 16, hexDigitValue (hexLetter digit) = some digit.val ∧
      isStrWhiteSpace (hexLetter digit) = false ∧
        hexLetter digit ∉ ['-', '+', 'x', 'X', 'l', '_'] := by decide
  exact all ⟨digit, small⟩

/-- A letter of a hexadecimal text. -/
theorem hexText_letter {bytes : List Byte} (hex : HexText bytes) {letter : Char}
    (member : letter ∈ responseText bytes) : ∃ digit < 16, letter = hexLetter digit := by
  obtain ⟨byte, inside, rfl⟩ := List.mem_map.mp member
  obtain ⟨digit, small, rfl⟩ := hex byte inside
  exact ⟨digit, small, rfl⟩

/-- The digits of a number continue a number. -/
theorem hexNumber_lowerHex (digits value start : Nat) :
    hexNumber (some start) (responseText (lowerHex digits value)) =
      some (16 ^ digits * start + value % 16 ^ digits) := by
  induction digits generalizing start with
  | zero => simp [lowerHex, responseText, hexNumber, Nat.mod_one]
  | succ digits inductionHypothesis =>
    have digit := (hexLetter_read (Nat.mod_lt (value / 16 ^ digits) (by decide : 0 < 16))).1
    have step : hexNumber (some start) (responseText (lowerHex (digits + 1) value)) =
        hexNumber (some (16 * start + value / 16 ^ digits % 16))
          (responseText (lowerHex digits value)) := by
      simp only [hexLetter] at digit
      simp only [lowerHex, responseText, List.map_cons, hexNumber, digit, Option.getD_some]
    rw [step, inductionHypothesis, Nat.mod_pow_succ, Nat.pow_succ, Nat.mul_add, ← Nat.mul_assoc,
      Nat.add_assoc, Nat.add_comm (_ * _) (value % _)]

/-- Without a sign or a prefix a hexadecimal text is just its digits. -/
theorem parseInt16_hexText {bytes : List Byte} (hex : HexText bytes) :
    parseInt16 (responseText bytes) =
      (hexNumber none (responseText bytes)).map fun number : Nat => (number : Int) := by
  have letters : ∀ letter ∈ responseText bytes, isStrWhiteSpace letter = false ∧
      letter ∉ ['-', '+', 'x', 'X', 'l', '_'] := by
    intro letter member
    obtain ⟨digit, small, rfl⟩ := hexText_letter hex member
    exact (hexLetter_read small).2
  have plain : (responseText bytes).dropWhile isStrWhiteSpace = responseText bytes := by
    cases text : responseText bytes with
    | nil => rfl
    | cons letter rest =>
      have first := (letters letter (text ▸ List.mem_cons_self)).1
      rw [List.dropWhile_cons_of_neg (by simp [first])]
  have unprefixed : skipPrefix (responseText bytes) = responseText bytes := by
    unfold skipPrefix
    split
    · rename_i rest text
      have second := (letters 'x' (by simp [text])).2
      exact absurd (by decide) second
    · rename_i rest text
      have second := (letters 'X' (by simp [text])).2
      exact absurd (by decide) second
    · rfl
  unfold parseInt16
  rw [plain]
  split
  · rename_i rest text
    have sign := (letters '-' (by simp [text])).2
    exact absurd (by decide) sign
  · rename_i rest text
    have sign := (letters '+' (by simp [text])).2
    exact absurd (by decide) sign
  · rw [unprefixed]

/-- Printed digits are parsed to the number that was printed. -/
theorem parseInt16_lowerHex (digits value : Nat) (fits : value < 16 ^ (digits + 1)) :
    parseInt16 (responseText (lowerHex (digits + 1) value)) = some (value : Int) := by
  have started : hexNumber none (responseText (lowerHex (digits + 1) value)) =
      hexNumber (some 0) (responseText (lowerHex (digits + 1) value)) := by
    have digit := (hexLetter_read (Nat.mod_lt (value / 16 ^ digits) (by decide : 0 < 16))).1
    simp only [hexLetter] at digit
    simp only [lowerHex, responseText, List.map_cons, hexNumber, digit, Option.getD_none,
      Option.getD_some]
  rw [parseInt16_hexText (lowerHex_hexText _ _), started, hexNumber_lowerHex, Nat.mod_eq_of_lt fits,
    Nat.mul_zero, Nat.zero_add, Option.map_some]

/-- A printed word is the operand of the bitwise operators again. -/
theorem toInt32_lowerHex {width : Nat} (digits : Nat) (word : BitVec width)
    (fits : 2 ^ width ≤ 16 ^ (digits + 1)) :
    toInt32 (parseInt16 (responseText (lowerHex (digits + 1) word.toNat))) = word.setWidth 32 := by
  rw [parseInt16_lowerHex digits _ (Nat.lt_of_lt_of_le word.isLt fits), toInt32, Option.getD_some,
    BitVec.ofInt_natCast, BitVec.ofNat_toNat]

/-! ## Reading a record -/

/-- What is cut between two counted positions. -/
theorem slice_between (before middle behind : List Char) (start stop : Int)
    (first : start = before.length) (last : stop = before.length + middle.length) :
    slice (before ++ middle ++ behind) start stop = middle := by
  have startPlace : slicePlace (before ++ middle ++ behind) start = before.length := by
    rw [slicePlace, if_neg (by omega), first, Int.toNat_natCast]
  have stopPlace : slicePlace (before ++ middle ++ behind) stop = before.length + middle.length := by
    rw [slicePlace, if_neg (by omega), last]
    omega
  rw [slice, startPlace, stopPlace, List.append_assoc]
  have counted := between_append before (middle ++ behind) 0 middle.length
  rw [Nat.add_zero] at counted
  rw [counted, between, List.take_left' rfl, List.drop_zero]

theorem responseText_length (bytes : List Byte) : (responseText bytes).length = bytes.length :=
  List.length_map _

/-- The two numbers of a record with a state. -/
theorem byteRecord_read (board portno : Nat) (cfg state : Byte) :
    byteCfg (responseText (optMakeData board portno cfg state)) = cfg.setWidth 32 ∧
      byteState (responseText (optMakeData board portno cfg state)) = state.setWidth 32 := by
  have split : responseText (optMakeData board portno cfg state) =
      responseText [ntoalpha board, ntoalpha portno] ++ responseText (lowerHex 2 cfg.toNat) ++
        responseText (lowerHex 2 state.toNat) := by
    rw [optMakeData, AccountLogin.responseText_append, AccountLogin.responseText_append]
  have lengths (word : Byte) : (responseText (lowerHex 2 word.toNat)).length = 2 := by
    rw [responseText_length, lowerHex_length]
  constructor
  · rw [byteCfg, split, slice_between _ _ _ 2 4 rfl (by rw [lengths]; rfl)]
    exact toInt32_lowerHex 1 cfg (by decide)
  · rw [byteState, split, ← List.append_nil (_ ++ _ ++ _), slice_between _ _ _ 4 6
      (by rw [List.length_append, lengths]; rfl) (by rw [List.length_append, lengths, lengths]; rfl)]
    exact toInt32_lowerHex 1 state (by decide)

/-- The number of a record without a state. -/
theorem halfWordRecord_read (board portno : Nat) (data : BitVec 16) :
    halfWordCfg (responseText (ethMakeData board portno data)) = data.setWidth 32 := by
  have split : responseText (ethMakeData board portno data) =
      responseText [ntoalpha board, ntoalpha portno] ++ responseText (lowerHex 4 data.toNat) ++ [] := by
    rw [ethMakeData, AccountLogin.responseText_append, List.append_nil]
  have length : (responseText (lowerHex 4 data.toNat)).length = 4 := by
    rw [responseText_length, lowerHex_length]
  rw [halfWordCfg, split, slice_between _ _ _ 2 6 rfl (by rw [length]; rfl)]
  exact toInt32_lowerHex 3 data (by decide)

/-- A number of one digit is read back. -/
theorem alphaton_ntoalpha (n : Nat) (small : n < 10) :
    alphaton (some (Char.ofNat (ntoalpha n).toNat)) = some n := by
  have all : ∀ n : Fin 10, alphaton (some (Char.ofNat (ntoalpha n).toNat)) = some n.val := by
    decide
  exact all ⟨n, small⟩

/-! ## Reading a page -/

/-- The quotient of a row of records, with less than a record behind it. -/
theorem portNo_eq (count behind : Nat) (short : behind < 6) :
    portNo ((count * 6 + behind : Nat) : Int) = count := by
  rw [portNo, Int.tdiv_eq_ediv_of_nonneg (Int.natCast_nonneg _)]
  omega

/-- A loop over the right number of records shows each of them. -/
theorem linesFrom_eq (kind : PortKind) (before behind : List Char) {pieces : List (List Char)}
    (equal : ∀ piece ∈ pieces, piece.length = 6) (start count : Int) (first : start = before.length)
    (all : count = pieces.length) :
    linesFrom kind (before ++ (pieces.flatten ++ behind)) start count =
      pieces.mapIdx fun line msg => ⟨kind, line, msg⟩ := by
  have number : count.toNat = pieces.length := by omega
  apply List.ext_getElem
  · rw [linesFrom, List.length_map, List.length_range, List.length_mapIdx, number]
  · intro line inside other
    have counted : line < pieces.length := by
      rwa [List.length_mapIdx] at other
    have place (position : Nat) : slicePlace (before ++ (pieces.flatten ++ behind))
        (start + position * 6) = before.length + position * 6 := by
      rw [slicePlace, if_neg (by omega)]
      omega
    have startPlace := place line
    have stopPlace := place (line + 1)
    simp only [Int.natCast_add, Int.natCast_one] at stopPlace
    simp only [linesFrom, List.getElem_map, List.getElem_range, List.getElem_mapIdx, slice,
      startPlace, stopPlace, between_append, between_piece equal behind counted]

/-- A text without an l is no failure. -/
theorem matchWord_fail {data : List Char} (absent : 'l' ∉ data) :
    matchWord data "fail".toList = false := by
  rw [matchWord, place_eq_none (by decide : 'l' ∈ "fail".toList) absent, Option.isSome_none]

/-- What a word's place in the head of a text says to `indexOf`. -/
theorem indexOf_head {head word : List Char} {index : Nat} (rest : List Char)
    (found : place word head = some index) : indexOf (head ++ rest) word = index := by
  rw [indexOf, place_append rest found]

section reading
variable {head : List Char} {index : Nat}

/-- A page of one kind shows every record, and is no failure. -/
theorem readLines_eq (kind : PortKind) {pieces : List (List Char)}
    (found : place "-->".toList head = some index) (ends : index + 3 = head.length)
    (equal : ∀ piece ∈ pieces, piece.length = 6)
    (quiet : 'l' ∉ head ++ (pieces.flatten ++ ['\n'])) :
    readLines kind (head ++ (pieces.flatten ++ ['\n'])) =
      some (pieces.mapIdx fun line msg => ⟨kind, line, msg⟩) := by
  have start : indexOf (head ++ (pieces.flatten ++ ['\n'])) "-->".toList + 3 = head.length := by
    rw [indexOf_head _ found]
    omega
  have size : ((head ++ (pieces.flatten ++ ['\n'])).length : Int) - head.length =
      (pieces.length * 6 + 1 : Nat) := by
    simp only [List.length_append, length_flatten_pieces equal, List.length_singleton]
    omega
  have count := portNo_eq pieces.length 1 (by decide)
  rw [← size] at count
  simp only [readLines, matchWord_fail quiet, Bool.false_eq_true, if_false, start]
  rw [linesFrom_eq kind head ['\n'] equal _ _ rfl count]

/-- The page of the Ethernet ports shows the records before the separator and those
behind it. -/
theorem ethReadData_eq {ge fe : List (List Char)}
    (found : place "-->".toList head = some index) (ends : index + 3 = head.length)
    (apart : Apart "_FE_".toList head) (equalGe : ∀ piece ∈ ge, piece.length = 6)
    (equalFe : ∀ piece ∈ fe, piece.length = 6) (absent : '_' ∉ ge.flatten)
    (quiet : 'l' ∉ head ++ (ge.flatten ++ ("_FE_".toList ++ (fe.flatten ++ ['\n'])))) :
    ethReadData (head ++ (ge.flatten ++ ("_FE_".toList ++ (fe.flatten ++ ['\n'])))) =
      some ((ge.mapIdx fun line msg => ⟨.ge, line, msg⟩) ++
        fe.mapIdx fun line msg => ⟨.fe, line, msg⟩) := by
  have separator : "_FE_".toList.length = 4 := by decide
  have apartGe : Apart "_FE_".toList ge.flatten := by
    have word : "_FE_".toList = '_' :: "FE_".toList := by decide
    rw [word]
    exact apart_of_not_mem absent
  have middle : indexOf (head ++ (ge.flatten ++ ("_FE_".toList ++ (fe.flatten ++ ['\n']))))
      "_FE_".toList = (head.length + ge.length * 6 : Nat) := by
    rw [indexOf, place_behind _ apart, place_behind _ apartGe, place_append_self, Option.map_some,
      Option.map_some, length_flatten_pieces equalGe]
    rfl
  have front := indexOf_head (ge.flatten ++ ("_FE_".toList ++ (fe.flatten ++ ['\n']))) found
  have countGe := portNo_eq ge.length 0 (by decide)
  have countFe := portNo_eq fe.length 1 (by decide)
  have sizeGe : ((head.length + ge.length * 6 : Nat) : Int) - index - 3 =
      (ge.length * 6 + 0 : Nat) := by omega
  have sizeFe : ((head ++ (ge.flatten ++ ("_FE_".toList ++ (fe.flatten ++ ['\n'])))).length : Int) -
      (head.length + ge.length * 6 : Nat) - 4 = (fe.length * 6 + 1 : Nat) := by
    simp only [List.length_append, length_flatten_pieces equalGe, length_flatten_pieces equalFe,
      separator, List.length_singleton]
    omega
  have geLines := linesFrom_eq .ge head ("_FE_".toList ++ (fe.flatten ++ ['\n'])) equalGe
    (index + 3) ge.length (by omega) rfl
  have feLines := linesFrom_eq .fe (head ++ (ge.flatten ++ "_FE_".toList)) ['\n'] equalFe
    ((head.length + ge.length * 6 : Nat) + 4) fe.length
    (by simp only [List.length_append, length_flatten_pieces equalGe, separator]; omega) rfl
  simp only [List.append_assoc] at feLines
  simp only [ethReadData, matchWord_fail quiet, Bool.false_eq_true, if_false, middle, front, sizeGe,
    sizeFe, countGe, countFe, geLines, feLines]

end reading

/-- The line that a page should show for a port. -/
def lineOf (control : ControlTables.WebControl) (line : Nat) (port : Port) : Line :=
  ⟨port.kind, line, responseText (port.record control)⟩

/-- The lines of the ports of a kind. -/
def kindLines (control : ControlTables.WebControl) (kind : PortKind) : List Line :=
  (kindPorts control kind).mapIdx (lineOf control)

/-- The lines of a page, in the order of its ports. -/
def pageLines (control : ControlTables.WebControl) : PortPage → List Line
  | .opt => kindLines control .opt
  | .eth => kindLines control .ge ++ kindLines control .fe
  | .e1 => kindLines control .e1

/-- The pieces of a response that are records. -/
def recordTexts (control : ControlTables.WebControl) (kind : PortKind) : List (List Char) :=
  (records control kind).map responseText

theorem recordTexts_length (control : ControlTables.WebControl) (kind : PortKind) :
    ∀ piece ∈ recordTexts control kind, piece.length = 6 := by
  intro piece member
  obtain ⟨record, isRecord, rfl⟩ := List.mem_map.mp member
  rw [responseText_length, records_length control kind record isRecord]

theorem recordTexts_flatten (control : ControlTables.WebControl) (kind : PortKind) :
    responseText (records control kind).flatten = (recordTexts control kind).flatten :=
  List.map_flatten

/-- Neither an l nor an underscore is in a record. -/
theorem recordTexts_absent (control : ControlTables.WebControl) (kind : PortKind) :
    'l' ∉ (recordTexts control kind).flatten ∧ '_' ∉ (recordTexts control kind).flatten := by
  rw [← recordTexts_flatten]
  have letter (letter : Char) (member : letter ∈ responseText (records control kind).flatten) :
      letter ∉ ['-', '+', 'x', 'X', 'l', '_'] := by
    obtain ⟨digit, small, rfl⟩ := hexText_letter (records_hexText control kind) member
    exact (hexLetter_read small).2.2
  constructor
  · intro member
    exact letter 'l' member (by decide)
  · intro member
    exact letter '_' member (by decide)

/-- The lines of the records of a kind are those of its ports. -/
theorem mapIdx_recordTexts (control : ControlTables.WebControl) (kind : PortKind) :
    ((recordTexts control kind).mapIdx fun line msg => (⟨kind, line, msg⟩ : Line)) =
      kindLines control kind := by
  have own : ∀ port ∈ kindPorts control kind, port.kind = kind := by
    intro port member
    obtain ⟨board, _, inside⟩ := List.mem_flatMap.mp member
    obtain ⟨portno, _, rfl⟩ := List.mem_map.mp inside
    rfl
  apply List.ext_getElem
  · simp only [kindLines, recordTexts, records, List.length_mapIdx, List.length_map]
  · intro line inside other
    have counted : line < (kindPorts control kind).length := by
      rwa [kindLines, List.length_mapIdx] at other
    simp only [kindLines, recordTexts, records, List.getElem_mapIdx, List.getElem_map, lineOf,
      own _ (List.getElem_mem counted)]

/-- The text of a page up to the end of its tag: where the tag ends, and what is not in
it. -/
theorem pageHead_text (page : PortPage) :
    (∃ index, place "-->".toList (responseText (pageHead page)) = some index ∧
      index + 3 = (responseText (pageHead page)).length) ∧
    'l' ∉ responseText (pageHead page) ∧ Apart "_FE_".toList (responseText (pageHead page)) := by
  refine ⟨⟨(responseText (pageHead page)).length - 3, ?_⟩, ?_⟩
  · cases page <;> decide
  · cases page <;> decide

section page
variable (codes : ControlTables.Codes) (link : ControlTables.Link) (crRemoteChosen : Bool)

/-- The response to a read that succeeds is shown as the lines of the ports that the
tables then hold. -/
theorem pageReadData_eq (page : PortPage) (control : ControlTables.WebControl)
    (success : 0 ≤ (readPage codes link crRemoteChosen page control).1)
    (fits : PageFits (readPage codes link crRemoteChosen page control).2 page) :
    pageReadData page (responseText (readBody codes link crRemoteChosen page control)) =
      some (pageLines (readPage codes link crRemoteChosen page control).2 page) := by
  obtain ⟨⟨index, found, ends⟩, quietHead, apart⟩ := pageHead_text page
  rw [readBody_eq, readInsert_eq codes link crRemoteChosen page control success fits]
  generalize (readPage codes link crRemoteChosen page control).2 = after
  have lengths := recordTexts_length after
  have absent := recordTexts_absent after
  have lineEnd : responseText [10] = ['\n'] := rfl
  simp only [AccountLogin.responseText_append, lineEnd, List.append_assoc]
  have oneKind (kind : PortKind) (shown : pageTexts after page = records after kind) :
      readLines kind (responseText (pageHead page) ++
        (responseText (pageTexts after page).flatten ++ ['\n'])) = some (kindLines after kind) := by
    rw [shown, recordTexts_flatten, ← mapIdx_recordTexts]
    apply readLines_eq kind found ends (lengths kind)
    simp only [List.mem_append, not_or]
    exact ⟨quietHead, (absent kind).1, by decide⟩
  cases page with
  | opt => exact oneKind .opt rfl
  | eth =>
    have separator : responseText (ascii "_FE_") = "_FE_".toList := by decide
    simp only [pageReadData, pageTexts, pageLines, List.flatten_append, List.flatten_singleton,
      AccountLogin.responseText_append, recordTexts_flatten, separator, List.append_assoc]
    rw [← mapIdx_recordTexts, ← mapIdx_recordTexts]
    apply ethReadData_eq found ends apart (lengths .ge) (lengths .fe) (absent .ge).2
    simp only [List.mem_append, not_or]
    exact ⟨quietHead, (absent .ge).1, by decide, (absent .fe).1, by decide⟩
  | e1 => exact oneKind .e1 rfl

end page

end UcosProxy.PortLines
