import UcosProxy.PortArrays

/-!
# The control structure in memory

`struct web_ctrl_comm` is one block of memory: the two semaphores, the slot for the
frame, the device id, the list of boards and the four tables. Here it is the bytes
from `frame.body` on, with the offsets that the compiler gives the fields, so that a
copy that is longer than the body reaches the tables.

A reader is a program over that memory. Between two of its steps a frame may be
captured, so a program is not a function of the memory at its start: each step looks
at the memory as it is then. A call of `ctrl_require` is one node with two ways on.

`Program.Sound` is what the tables ask of a reader: it writes inside the structure,
never over an amount but with a number that the amount's array has room for. All five
readers are sound.

The size of the frame's header is a parameter, because `hj_nm.h` is not part of the
repository. Bit-fields, `u8` and packed structures are not aligned, `u16` to two
bytes, `int` to four.
-/

namespace UcosProxy.ControlMemory

open Bytes ControlRequire ControlTables PortArrays

/-! ## Offsets -/

/-- The next multiple of an alignment. -/
def alignUp (offset align : Nat) : Nat := (offset + (align - 1)) / align * align

section layout
variable (headSize : Nat)

/-- Where `frame.body` begins, behind two pointers and the header. -/
def bodyAt : Nat := 8 + headSize

/-- `sizeof(web_control->frame.body)` -/
def bodySize : Nat := 256

def devIdAt : Nat := alignUp (bodyAt headSize + bodySize) 2 - bodyAt headSize

def boardsExistAt : Nat := devIdAt headSize + 2

def bulbVerAt : Nat :=
  alignUp (bodyAt headSize + boardsExistAt headSize + 40) 4 - bodyAt headSize

def optAt : Nat := bulbVerAt headSize + maxBoardNo * 20

def ethAt : Nat := alignUp (bodyAt headSize + optAt headSize + maxBoardNo * 17) 2 - bodyAt headSize

def e1At : Nat := ethAt headSize + maxBoardNo * 44

/-- The end of `struct web_ctrl_comm`, without padding. -/
def controlEnd : Nat := e1At headSize + maxBoardNo * 33

/-- Where the amount of a kind of ports of a board stands. -/
def amountAt (kind : PortKind) (board : Board) : Nat :=
  match kind with
  | .opt => optAt headSize + 17 * board + 16
  | .ge => ethAt headSize + 44 * board + 8
  | .fe => ethAt headSize + 44 * board + 42
  | .e1 => e1At headSize + 33 * board + 32

/-- The fields follow one another behind the body. It is read off the declaration of the
structure, with a head of any size. -/
structure InOrder : Prop where
  devId : bodySize ≤ devIdAt headSize
  boardsExist : boardsExistAt headSize = devIdAt headSize + 2
  bulbVer : boardsExistAt headSize + 40 ≤ bulbVerAt headSize
  opt : optAt headSize = bulbVerAt headSize + 180
  eth : optAt headSize + 153 ≤ ethAt headSize
  e1 : e1At headSize = ethAt headSize + 396
  controlEnd : controlEnd headSize = e1At headSize + 297

theorem inOrder : InOrder headSize where
  devId := by
    simp only [devIdAt, alignUp, bodyAt]
    omega
  boardsExist := rfl
  bulbVer := by
    simp only [bulbVerAt, alignUp]
    omega
  opt := rfl
  eth := by
    simp only [ethAt, alignUp, maxBoardNo]
    omega
  e1 := rfl
  controlEnd := rfl

/-- Every amount lies behind the frame's body and inside the structure. -/
theorem amountAt_inside (kind : PortKind) (board : Board) :
    bodySize ≤ amountAt headSize kind board ∧ amountAt headSize kind board < controlEnd headSize := by
  obtain ⟨devId, boardsExist, bulbVer, opt, eth, e1, ends⟩ := inOrder headSize
  have few : (board : Nat) < 9 := board.isLt
  cases kind <;> simp only [amountAt] <;> omega

end layout

/-! ## Readers as programs -/

/-- The rest of a reader. Each constructor is a place at which a reader stops, writes or
branches, and a reader is run step by step beside other ones. -/
inductive Program
  | ret (value : Int)
  | require (arg : BitVec 16 → WebDybArg) (dst size : Nat) (reply timeout : Program)
  | write (offset : Nat) (source : List Byte) (next : Program)
  | contains (board : Board) (tab : List (BitVec 32)) (yes no : Program)

section readers
variable (codes : Codes) (headSize : Nat)

/-- `web_read_device_id` -/
def webReadDeviceId (crRemoteChosen : Bool) (reply timeout : Program) : Program :=
  .require (fun _ => deviceIdArg codes crRemoteChosen) (devIdAt headSize) 2 reply timeout

/-- `web_read_board_exist` -/
def webReadBoardExist (reply timeout : Program) : Program :=
  .require (boardExistArg codes) (boardsExistAt headSize) 40 reply timeout

/-- `ctrl_require` for one board, into its entry of a table. -/
def readBoard (board : Board) (cmdExt : BitVec 16) (dst size : Nat) (reply timeout : Program) :
    Program :=
  .require (fun devId => getArg codes devId (BitVec.ofNat 8 board) cmdExt) dst size reply timeout

/-- `web_read_bulb_ver_one_board` -/
def webReadBulbVerOneBoard (board : Board) (reply timeout : Program) : Program :=
  readBoard codes board codes.bulbVer (bulbVerAt headSize + 20 * board) 16 reply timeout

/-- `web_read_opt_config_one_board` -/
def webReadOptConfigOneBoard (board : Board) (reply timeout : Program) : Program :=
  readBoard codes board codes.optConfig (optAt headSize + 17 * board) 8 reply timeout

/-- `web_read_opt_state_one_board` -/
def webReadOptStateOneBoard (board : Board) (reply timeout : Program) : Program :=
  readBoard codes board codes.optState (optAt headSize + 17 * board + 8) 8 reply timeout

/-- `web_read_eth_ge_one_board` -/
def webReadEthGeOneBoard (board : Board) (reply timeout : Program) : Program :=
  readBoard codes board codes.ethGeConfig (ethAt headSize + 44 * board) 8 reply timeout

/-- `web_read_eth_fe_one_board` -/
def webReadEthFeOneBoard (board : Board) (reply timeout : Program) : Program :=
  readBoard codes board codes.ethFeConfig (ethAt headSize + 44 * board + 10) 32 reply timeout

/-- `web_read_e1_one_board` -/
def webReadE1OneBoard (board : Board) (reply timeout : Program) : Program :=
  readBoard codes board codes.e1ConfigState (e1At headSize + 33 * board) 32 reply timeout

/-- `memset` of a table to zero. -/
def clearTable (offset size : Nat) (next : Program) : Program :=
  .write offset (List.replicate size 0) next

/-- Assignment to an amount. -/
def setAmount (kind : PortKind) (board : Board) (amount : Byte) (next : Program) : Program :=
  .write (amountAt headSize kind board) [amount] next

/-- Assignment to `bulb_ver[board].set` -/
def setBulbVer (board : Board) (set : Byte) (next : Program) : Program :=
  .write (bulbVerAt headSize + 20 * board + 16) [set, 0, 0, 0] next

/-- A loop over all boards. -/
def forEachBoard (round : Board → Program → Program) (next : Program) : Program :=
  (List.finRange maxBoardNo).foldr round next

/-- The device id and the list of boards, and only then a table. -/
def webReadTable (offset size : Nat) (fill : Program) (crRemoteChosen : Bool) : Program :=
  webReadDeviceId codes headSize crRemoteChosen
    (webReadBoardExist codes headSize fill (clearTable offset size (.ret (-1))))
    (clearTable offset size (.ret (-1)))

/-- `web_read_panel` -/
def webReadPanel (crRemoteChosen : Bool) : Program :=
  let clear := clearTable (bulbVerAt headSize) (maxBoardNo * 20) (.ret (-1))
  webReadDeviceId codes headSize crRemoteChosen
    (webReadBulbVerOneBoard codes headSize 0 (.ret 0) clear) clear

/-- A round of `web_read_boards_version`. -/
def bulbVerRound (board : Board) (next : Program) : Program :=
  .contains board boardsContainBoardsMng
    (webReadBulbVerOneBoard codes headSize board (setBulbVer headSize board 1 next)
      (setBulbVer headSize board 0 next))
    (setBulbVer headSize board 0 next)

/-- `web_read_boards_version` -/
def webReadBoardsVersion : Bool → Program :=
  webReadTable codes headSize (bulbVerAt headSize) (maxBoardNo * 20)
    (forEachBoard (bulbVerRound codes headSize) (.ret 0))

/-- A round of `web_read_opt`. -/
def optRound (board : Board) (next : Program) : Program :=
  .contains board boardsContainOpt
    (webReadOptConfigOneBoard codes headSize board
      (webReadOptStateOneBoard codes headSize board
        (setAmount headSize .opt board 2 next) (setAmount headSize .opt board 0 next))
      (setAmount headSize .opt board 0 next))
    (setAmount headSize .opt board 0 next)

/-- `web_read_opt` -/
def webReadOpt : Bool → Program :=
  webReadTable codes headSize (optAt headSize) (maxBoardNo * 17)
    (forEachBoard (optRound codes headSize) (.ret 0))

/-- A round of the first loop of `web_read_eth`. -/
def geRound (board : Board) (next : Program) : Program :=
  .contains board boardsContainEthGe
    (webReadEthGeOneBoard codes headSize board
      (setAmount headSize .ge board 2 next) (setAmount headSize .ge board 0 next))
    (setAmount headSize .ge board 0 next)

/-- A round of the second loop of `web_read_eth`. -/
def feRound (board : Board) (next : Program) : Program :=
  .contains board boardsContainEthFe
    (webReadEthFeOneBoard codes headSize board
      (setAmount headSize .fe board 6 next) (setAmount headSize .fe board 0 next))
    (setAmount headSize .fe board 0 next)

/-- `web_read_eth` -/
def webReadEth : Bool → Program :=
  webReadTable codes headSize (ethAt headSize) (maxBoardNo * 44)
    (forEachBoard (geRound codes headSize) (forEachBoard (feRound codes headSize) (.ret 0)))

/-- A round of `web_read_e1`. -/
def e1Round (board : Board) (next : Program) : Program :=
  .contains board boardsContainE1
    (webReadE1OneBoard codes headSize board
      (setAmount headSize .e1 board 8 next) (setAmount headSize .e1 board 0 next))
    (setAmount headSize .e1 board 0 next)

/-- `web_read_e1` -/
def webReadE1 : Bool → Program :=
  webReadTable codes headSize (e1At headSize) (maxBoardNo * 33)
    (forEachBoard (e1Round codes headSize) (.ret 0))

/-- The program of a reader. -/
def readerProgram : Reader → Bool → Program
  | .panel => webReadPanel codes headSize
  | .boardsVersion => webReadBoardsVersion codes headSize
  | .opt => webReadOpt codes headSize
  | .eth => webReadEth codes headSize
  | .e1 => webReadE1 codes headSize

end readers

/-! ## What the tables ask of a reader -/

section sound
variable (headSize : Nat)

/-- What is written lies inside the structure, and no amount it falls on is larger
than the amount's array. -/
structure Spares (offset : Nat) (source : List Byte) : Prop where
  inside : offset + source.length ≤ controlEnd headSize
  amounts : ∀ kind board, offset ≤ amountAt headSize kind board →
    amountAt headSize kind board < offset + source.length →
      (source.getD (amountAt headSize kind board - offset) 0).toNat ≤ kind.count

/-- A region inside the structure without an amount. A capture that stays in such a region
leaves every amount as it was. -/
structure Apart (offset size : Nat) : Prop where
  inside : offset + size ≤ controlEnd headSize
  amounts : ∀ kind board, amountAt headSize kind board < offset ∨
    offset + size ≤ amountAt headSize kind board

/-- Every step of the program spares the amounts. -/
def Program.Sound : Program → Prop
  | .ret _ => True
  | .require _ dst size reply timeout => Apart headSize dst size ∧ reply.Sound ∧ timeout.Sound
  | .write offset source next => Spares headSize offset source ∧ next.Sound
  | .contains _ _ yes no => yes.Sound ∧ no.Sound

/-- Whatever is copied into a region without an amount. -/
theorem Apart.spares {offset size : Nat} (apart : Apart headSize offset size) (source : List Byte)
    (fits : source.length ≤ size) : Spares headSize offset source where
  inside := by
    have inside := apart.inside
    omega
  amounts := by
    intro kind board behind before
    have aside := apart.amounts kind board
    omega

/-- A region is apart from the amounts when it is apart from those of each table. -/
theorem apart_of_tables {offset size : Nat} (inside : offset + size ≤ controlEnd headSize)
    (tables : ∀ board, board < 9 →
      (optAt headSize + 17 * board + 16 < offset ∨ offset + size ≤ optAt headSize + 17 * board + 16) ∧
      (ethAt headSize + 44 * board + 8 < offset ∨ offset + size ≤ ethAt headSize + 44 * board + 8) ∧
      (ethAt headSize + 44 * board + 42 < offset ∨ offset + size ≤ ethAt headSize + 44 * board + 42) ∧
      (e1At headSize + 33 * board + 32 < offset ∨ offset + size ≤ e1At headSize + 33 * board + 32)) :
    Apart headSize offset size where
  inside := inside
  amounts := by
    intro kind board
    obtain ⟨opt, ge, fe, e1⟩ := tables board board.isLt
    cases kind with
    | opt => exact opt
    | ge => exact ge
    | fe => exact fe
    | e1 => exact e1

/-- Zeros are within every bound. -/
theorem clearTable_sound {offset size : Nat} {next : Program}
    (inside : offset + size ≤ controlEnd headSize) (sound : next.Sound headSize) :
    (clearTable offset size next).Sound headSize := by
  refine ⟨⟨?_, ?_⟩, sound⟩
  · rw [List.length_replicate]
    exact inside
  · intro kind board _ _
    rw [List.getD_eq_getElem?_getD, List.getElem?_replicate]
    split <;> exact Nat.zero_le _

/-- An amount that its array has room for. -/
theorem setAmount_sound {kind : PortKind} {board : Board} {amount : Byte} {next : Program}
    (room : amount.toNat ≤ kind.count) (sound : next.Sound headSize) :
    (setAmount headSize kind board amount next).Sound headSize := by
  have inside := (amountAt_inside headSize kind board).2
  refine ⟨⟨inside, ?_⟩, sound⟩
  intro other index behind before
  -- No two amounts share a byte.
  have same : amountAt headSize other index = amountAt headSize kind board := by
    simp only [List.length_singleton] at before
    omega
  have kinds : other = kind := by
    obtain ⟨devId, boardsExist, bulbVer, opt, eth, e1, ends⟩ := inOrder headSize
    have few : (board : Nat) < 9 := board.isLt
    have fewOther : (index : Nat) < 9 := index.isLt
    cases kind <;> cases other <;> simp only [amountAt] at same <;> first | rfl | omega
  subst kinds
  rw [same, Nat.sub_self]
  exact room

/-- The flag of a bulb entry is no amount. -/
theorem setBulbVer_sound {board : Board} {set : Byte} {next : Program}
    (sound : next.Sound headSize) : (setBulbVer headSize board set next).Sound headSize := by
  obtain ⟨devId, boardsExist, bulbVer, opt, eth, e1, ends⟩ := inOrder headSize
  have few : (board : Nat) < 9 := board.isLt
  have apart : Apart headSize (bulbVerAt headSize + 20 * board + 16) 4 := by
    apply apart_of_tables
    · omega
    · intro index fewer
      omega
  exact ⟨apart.spares headSize _ (Nat.le_refl 4), sound⟩

/-- A loop is sound when each of its rounds leaves a sound program sound. -/
theorem forEachBoard_sound {round : Board → Program → Program} {next : Program}
    (rounds : ∀ board next, next.Sound headSize → (round board next).Sound headSize)
    (sound : next.Sound headSize) : (forEachBoard round next).Sound headSize := by
  unfold forEachBoard
  induction List.finRange maxBoardNo with
  | nil => exact sound
  | cons board rest inductionHypothesis => exact rounds board _ inductionHypothesis

/-- What the readers copy into is apart from the amounts: the device id, the list of
boards, and in each table the arrays of a board. -/
structure CopiesApart : Prop where
  devId : Apart headSize (devIdAt headSize) 2
  boardsExist : Apart headSize (boardsExistAt headSize) 40
  bulbVer : ∀ board : Board, Apart headSize (bulbVerAt headSize + 20 * board) 16
  optConfig : ∀ board : Board, Apart headSize (optAt headSize + 17 * board) 8
  optState : ∀ board : Board, Apart headSize (optAt headSize + 17 * board + 8) 8
  ge : ∀ board : Board, Apart headSize (ethAt headSize + 44 * board) 8
  fe : ∀ board : Board, Apart headSize (ethAt headSize + 44 * board + 10) 32
  e1 : ∀ board : Board, Apart headSize (e1At headSize + 33 * board) 32

theorem copiesApart : CopiesApart headSize := by
  obtain ⟨devId, boardsExist, bulbVer, opt, eth, e1, ends⟩ := inOrder headSize
  constructor
  case devId | boardsExist =>
    apply apart_of_tables
    · omega
    · intro index fewer
      omega
  all_goals
    intro board
    have few : (board : Nat) < 9 := board.isLt
    apply apart_of_tables
    · omega
    · intro index fewer
      omega

/-- Every table that is cleared lies inside the structure. -/
theorem tables_inside :
    bulbVerAt headSize + maxBoardNo * 20 ≤ controlEnd headSize ∧
      optAt headSize + maxBoardNo * 17 ≤ controlEnd headSize ∧
      ethAt headSize + maxBoardNo * 44 ≤ controlEnd headSize ∧
      e1At headSize + maxBoardNo * 33 ≤ controlEnd headSize := by
  obtain ⟨devId, boardsExist, bulbVer, opt, eth, e1, ends⟩ := inOrder headSize
  simp only [maxBoardNo]
  omega

variable (codes : Codes)

/-- A table's reader is sound when its table is cleared inside the structure and
filled by a sound program. -/
theorem webReadTable_sound {offset size : Nat} {fill : Program} (crRemoteChosen : Bool)
    (inside : offset + size ≤ controlEnd headSize) (filled : fill.Sound headSize) :
    (webReadTable codes headSize offset size fill crRemoteChosen).Sound headSize := by
  have copies := copiesApart headSize
  have cleared : (clearTable offset size (.ret (-1))).Sound headSize :=
    clearTable_sound headSize inside trivial
  exact ⟨copies.devId, ⟨copies.boardsExist, filled, cleared⟩, cleared⟩

/-- A round that reads one array of a board and then sets its amount. -/
theorem arrayRound_sound {kind : PortKind} {board : Board} {tab : List (BitVec 32)}
    {cmdExt : BitVec 16} {dst size : Nat} {amount : Byte} {next : Program}
    (apart : Apart headSize dst size) (room : amount.toNat ≤ kind.count)
    (sound : next.Sound headSize) :
    (Program.contains board tab
      (readBoard codes board cmdExt dst size (setAmount headSize kind board amount next)
        (setAmount headSize kind board 0 next))
      (setAmount headSize kind board 0 next)).Sound headSize := by
  have none : (setAmount headSize kind board 0 next).Sound headSize :=
    setAmount_sound headSize (Nat.zero_le _) sound
  exact ⟨⟨apart, setAmount_sound headSize room sound, none⟩, none⟩

/-- Every reader is sound. -/
theorem readerProgram_sound (reader : Reader) (crRemoteChosen : Bool) :
    (readerProgram codes headSize reader crRemoteChosen).Sound headSize := by
  have copies := copiesApart headSize
  obtain ⟨bulbVer, opt, eth, e1⟩ := tables_inside headSize
  cases reader with
  | panel =>
    have cleared : (clearTable (bulbVerAt headSize) (maxBoardNo * 20) (.ret (-1))).Sound headSize :=
      clearTable_sound headSize bulbVer trivial
    exact ⟨copies.devId, ⟨copies.bulbVer 0, trivial, cleared⟩, cleared⟩
  | boardsVersion =>
    apply webReadTable_sound headSize codes crRemoteChosen bulbVer
    apply forEachBoard_sound
    · intro board next sound
      have set (value : Byte) : (setBulbVer headSize board value next).Sound headSize :=
        setBulbVer_sound headSize sound
      exact ⟨⟨copies.bulbVer board, set 1, set 0⟩, set 0⟩
    · trivial
  | opt =>
    apply webReadTable_sound headSize codes crRemoteChosen opt
    apply forEachBoard_sound
    · intro board next sound
      have none : (setAmount headSize .opt board 0 next).Sound headSize :=
        setAmount_sound headSize (Nat.zero_le _) sound
      have both : (setAmount headSize .opt board 2 next).Sound headSize :=
        setAmount_sound headSize (by decide) sound
      exact ⟨⟨copies.optConfig board, ⟨copies.optState board, both, none⟩, none⟩, none⟩
    · trivial
  | eth =>
    apply webReadTable_sound headSize codes crRemoteChosen eth
    apply forEachBoard_sound
    · intro board next
      exact arrayRound_sound headSize codes (copies.ge board) (by decide)
    · apply forEachBoard_sound
      · intro board next
        exact arrayRound_sound headSize codes (copies.fe board) (by decide)
      · trivial
  | e1 =>
    apply webReadTable_sound headSize codes crRemoteChosen e1
    apply forEachBoard_sound
    · intro board next
      exact arrayRound_sound headSize codes (copies.e1 board) (by decide)
    · trivial

end sound

end UcosProxy.ControlMemory
