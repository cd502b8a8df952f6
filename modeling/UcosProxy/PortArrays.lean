import UcosProxy.ControlTables

/-!
# Configuration arrays by port kind

Four kinds of ports have a configuration array for each board: optical, gigabit and
fast Ethernet, and E1. This module reads the tables by kind and says once what any
reader does to any array: it clears the arrays of its own kinds when the device id
or the list of boards does not come, and otherwise replaces exactly the arrays whose
board is listed with a matching type and answers, by the bytes of that answer.
-/

namespace UcosProxy.PortArrays

open ControlRequire ControlTables

inductive PortKind
  | opt
  | ge
  | fe
  | e1
deriving DecidableEq

/-- What holds of every kind is decided kind by kind. -/
instance forallPortKindDecidable (holds : PortKind → Prop) [∀ kind, Decidable (holds kind)] :
    Decidable (∀ kind, holds kind) :=
  decidable_of_iff (holds .opt ∧ holds .ge ∧ holds .fe ∧ holds .e1)
    ⟨fun ⟨opt, ge, fe, e1⟩ kind => by cases kind <;> assumption,
      fun all => ⟨all .opt, all .ge, all .fe, all .e1⟩⟩

namespace PortKind

/-- Length of a configuration array. -/
def count : PortKind → Nat
  | .opt => 8
  | .ge => 4
  | .fe => 16
  | .e1 => 8

/-- Width of a port's configuration word. -/
def width : PortKind → Nat
  | .opt => 8
  | .ge => 16
  | .fe => 16
  | .e1 => 8

/-- The boards with such ports. -/
def tab : PortKind → List (BitVec 32)
  | .opt => boardsContainOpt
  | .ge => boardsContainEthGe
  | .fe => boardsContainEthFe
  | .e1 => boardsContainE1

/-- The command that reads and writes the configuration. -/
def cmdExt (codes : Codes) : PortKind → BitVec 16
  | .opt => codes.optConfig
  | .ge => codes.ethGeConfig
  | .fe => codes.ethFeConfig
  | .e1 => codes.e1ConfigState

/-- The configuration array at the head of a frame's body. -/
def decode : (kind : PortKind) → List Byte → Fin kind.count → BitVec kind.width
  | .opt => octets 8
  | .ge => halfWords 4
  | .fe => halfWords 16
  | .e1 => octets 8

end PortKind

/-- The configuration array of a board. -/
abbrev PortArray (kind : PortKind) := Fin kind.count → BitVec kind.width

/-- The configuration array of a board as the tables hold it. -/
def cached (control : WebControl) : (kind : PortKind) → Board → ConfigArray kind.count kind.width
  | .opt, board => (control.opt board).config
  | .ge, board => (control.eth board).ge
  | .fe, board => (control.eth board).fe
  | .e1, board => (control.e1 board).config

/-- The operations that refresh a table. Each reads some of the tables, and leaves the
others as they were. -/
inductive Reader
  | panel
  | boardsVersion
  | opt
  | eth
  | e1
deriving DecidableEq

/-- Run a reader. -/
def Reader.read (codes : Codes) : Reader → Link → Bool → WebControl → Int × WebControl
  | .panel => webReadPanel codes
  | .boardsVersion => webReadBoardsVersion codes
  | .opt => webReadOpt codes
  | .eth => webReadEth codes
  | .e1 => webReadE1 codes

/-- The arrays that a reader refreshes. -/
def Reader.reads : Reader → PortKind → Bool
  | .opt, .opt => true
  | .eth, .ge => true
  | .eth, .fe => true
  | .e1, .e1 => true
  | _, _ => false

section refresh
variable (codes : Codes) (link : Link) (crRemoteChosen : Bool)

/-- The device id that the link reports. -/
def heardDevice : Option (BitVec 16) :=
  (link (deviceIdArg codes crRemoteChosen)).map fun reply => word16 reply.body 0

/-- The device id and the list of boards, if both come. -/
def heardBoards : Option (BitVec 16 × WebBoardsExist) :=
  (heardDevice codes link crRemoteChosen).bind fun devId =>
    (link (boardExistArg codes devId)).map fun reply => (devId, boardsOf reply)

/-- The request for the configuration array of a board. -/
def configArg (devId : BitVec 16) (kind : PortKind) (board : Board) : WebDybArg :=
  getArg codes devId (BitVec.ofNat 8 board) (kind.cmdExt codes)

/-- An array behind the round of its board. -/
def received (devId : BitVec 16) (boards : WebBoardsExist) (kind : PortKind) (board : Board)
    (before : ConfigArray kind.count kind.width) : ConfigArray kind.count kind.width :=
  if boardContains boards board kind.tab then
    match link (configArg codes devId kind board) with
    | none => before
    | some reply => ⟨kind.decode reply.body, some devId⟩
  else before

/-- An array behind a reader of its kind. -/
def refreshed (kind : PortKind) (board : Board) (before : ConfigArray kind.count kind.width) :
    ConfigArray kind.count kind.width :=
  match heardBoards codes link crRemoteChosen with
  | none => zeroArray kind.count kind.width
  | some (devId, boards) => received codes link devId boards kind board before

/-- A reader of a table clears it or fills it. -/
theorem webReadTable_eq (clear fill : WebControl → WebControl) (control : WebControl) :
    webReadTable codes clear fill link crRemoteChosen control =
      match heardBoards codes link crRemoteChosen with
      | none =>
        (-1, clear { control with
          devId := (heardDevice codes link crRemoteChosen).getD control.devId })
      | some (devId, boards) => (0, fill { control with devId := devId, boardsExist := boards }) := by
  unfold webReadTable webReadDeviceId heardBoards heardDevice
  cases link (deviceIdArg codes crRemoteChosen) with
  | none => rfl
  | some device =>
    simp only [Option.map_some, Option.bind_some, Option.getD_some, webReadBoardExist]
    rcases Option.eq_none_or_eq_some (link (boardExistArg codes (word16 device.body 0))) with
      lost | ⟨reply, came⟩
    · simp [lost]
    · simp [came]

/-- What the round of a board does to its array. -/
theorem optRound_config (control : WebControl) (board : Board) (entry : WebOpt) :
    (optRound codes link control board entry).config =
      received codes link control.devId control.boardsExist .opt board entry.config := by
  unfold optRound received webReadOptConfigOneBoard webReadOptStateOneBoard
  by_cases contains : boardContains control.boardsExist board boardsContainOpt
  · simp only [contains, if_true, PortKind.tab, configArg, PortKind.cmdExt]
    cases link (getArg codes control.devId (BitVec.ofNat 8 board) codes.optConfig) with
    | none => rfl
    | some reply =>
      cases link (getArg codes control.devId (BitVec.ofNat 8 board) codes.optState) with
      | none => rfl
      | some state => rfl
  · simp only [contains, PortKind.tab]
    rfl

theorem geRound_ge (control : WebControl) (board : Board) (entry : WebEth) :
    (geRound codes link control board entry).ge =
      received codes link control.devId control.boardsExist .ge board entry.ge := by
  unfold geRound received webReadEthGeOneBoard
  by_cases contains : boardContains control.boardsExist board boardsContainEthGe
  · simp only [contains, if_true, PortKind.tab, configArg, PortKind.cmdExt]
    cases link (getArg codes control.devId (BitVec.ofNat 8 board) codes.ethGeConfig) with
    | none => rfl
    | some reply => rfl
  · simp only [contains, PortKind.tab]
    rfl

theorem feRound_fe (control : WebControl) (board : Board) (entry : WebEth) :
    (feRound codes link control board entry).fe =
      received codes link control.devId control.boardsExist .fe board entry.fe := by
  unfold feRound received webReadEthFeOneBoard
  by_cases contains : boardContains control.boardsExist board boardsContainEthFe
  · simp only [contains, if_true, PortKind.tab, configArg, PortKind.cmdExt]
    cases link (getArg codes control.devId (BitVec.ofNat 8 board) codes.ethFeConfig) with
    | none => rfl
    | some reply => rfl
  · simp only [contains, PortKind.tab]
    rfl

theorem e1Round_config (control : WebControl) (board : Board) (entry : WebE1) :
    (e1Round codes link control board entry).config =
      received codes link control.devId control.boardsExist .e1 board entry.config := by
  unfold e1Round received webReadE1OneBoard
  by_cases contains : boardContains control.boardsExist board boardsContainE1
  · simp only [contains, if_true, PortKind.tab, configArg, PortKind.cmdExt]
    cases link (getArg codes control.devId (BitVec.ofNat 8 board) codes.e1ConfigState) with
    | none => rfl
    | some reply => rfl
  · simp only [contains, PortKind.tab]
    rfl

/-- The first loop leaves the fast ports alone, and the second one the others. -/
theorem geRound_fe (control : WebControl) (board : Board) (entry : WebEth) :
    (geRound codes link control board entry).fe = entry.fe := by
  unfold geRound webReadEthGeOneBoard
  split
  · cases link (getArg codes control.devId (BitVec.ofNat 8 board) codes.ethGeConfig) <;> rfl
  · rfl

theorem feRound_ge (control : WebControl) (board : Board) (entry : WebEth) :
    (feRound codes link control board entry).ge = entry.ge := by
  unfold feRound webReadEthFeOneBoard
  split
  · cases link (getArg codes control.devId (BitVec.ofNat 8 board) codes.ethFeConfig) <;> rfl
  · rfl

/-- A reader of a table takes over the device id that the link reports, and fills or
clears only through its two table operations. -/
theorem webReadTable_devId {clear fill : WebControl → WebControl} (control : WebControl)
    (clears : ∀ control, (clear control).devId = control.devId)
    (fills : ∀ control, (fill control).devId = control.devId) :
    (webReadTable codes clear fill link crRemoteChosen control).2.devId =
      (heardDevice codes link crRemoteChosen).getD control.devId := by
  rw [webReadTable_eq]
  unfold heardBoards
  cases heardDevice codes link crRemoteChosen with
  | none => exact clears _
  | some devId =>
    simp only [Option.bind_some]
    cases link (boardExistArg codes devId) with
    | none => exact clears _
    | some reply => exact fills _

/-- The panel's reader takes over the device id and touches no other table than its
own. -/
theorem webReadPanel_moved (control : WebControl) :
    ∃ bulbVer, (webReadPanel codes link crRemoteChosen control).2 =
      { control with
        devId := (heardDevice codes link crRemoteChosen).getD control.devId
        bulbVer := bulbVer } := by
  unfold webReadPanel webReadDeviceId heardDevice
  rcases Option.eq_none_or_eq_some (link (deviceIdArg codes crRemoteChosen)) with lost | ⟨reply, came⟩
  · simp only [lost, Option.map_none, Option.getD_none]
    exact ⟨_, rfl⟩
  · simp only [came, Option.map_some, Option.getD_some]
    rcases Option.eq_none_or_eq_some
      (webReadBulbVerOneBoard codes link (word16 reply.body 0) 0 (control.bulbVer 0)) with
      lost | ⟨entry, came⟩
    · simp only [lost]
      exact ⟨_, rfl⟩
    · simp only [came]
      exact ⟨_, rfl⟩

/-- Every reader takes over the device id that the link reports. -/
theorem read_devId (reader : Reader) (control : WebControl) :
    (reader.read codes link crRemoteChosen control).2.devId =
      (heardDevice codes link crRemoteChosen).getD control.devId := by
  cases reader with
  | panel =>
    obtain ⟨bulbVer, moved⟩ := webReadPanel_moved codes link crRemoteChosen control
    simp only [Reader.read, moved]
  | _ => exact webReadTable_devId codes link crRemoteChosen control (fun _ => rfl) (fun _ => rfl)

/-- What a reader of a table does to the arrays it refreshes. -/
theorem webReadTable_refreshed {clear fill : WebControl → WebControl} {kind : PortKind}
    (control : WebControl) (board : Board)
    (clears : ∀ control, cached (clear control) kind board = zeroArray kind.count kind.width)
    (fills : ∀ control, cached (fill control) kind board =
      received codes link control.devId control.boardsExist kind board (cached control kind board)) :
    cached (webReadTable codes clear fill link crRemoteChosen control).2 kind board =
      refreshed codes link crRemoteChosen kind board (cached control kind board) := by
  rw [webReadTable_eq]
  unfold refreshed
  cases heardBoards codes link crRemoteChosen with
  | none => exact clears _
  | some heard =>
    have other (devId : BitVec 16) (boards : WebBoardsExist) :
        cached { control with devId := devId, boardsExist := boards } kind board =
          cached control kind board := by
      cases kind <;> rfl
    refine (fills _).trans ?_
    rw [other]

/-- A reader of a table leaves the other arrays as they are. -/
theorem webReadTable_aside {clear fill : WebControl → WebControl} {kind : PortKind}
    (control : WebControl) (board : Board)
    (clears : ∀ control, cached (clear control) kind board = cached control kind board)
    (fills : ∀ control, cached (fill control) kind board = cached control kind board) :
    cached (webReadTable codes clear fill link crRemoteChosen control).2 kind board =
      cached control kind board := by
  rw [webReadTable_eq]
  have other (devId : BitVec 16) (boards : WebBoardsExist) :
      cached { control with devId := devId, boardsExist := boards } kind board =
        cached control kind board := by
    cases kind <;> rfl
  cases heardBoards codes link crRemoteChosen with
  | none => exact (clears _).trans (other _ control.boardsExist)
  | some heard => exact (fills _).trans (other _ _)

/-- Every reader refreshes the arrays of its own kinds and no other. -/
theorem read_cached (reader : Reader) (control : WebControl) (kind : PortKind) (board : Board) :
    cached (reader.read codes link crRemoteChosen control).2 kind board =
      if reader.reads kind then refreshed codes link crRemoteChosen kind board (cached control kind board)
      else cached control kind board := by
  cases reader with
  | panel =>
    obtain ⟨bulbVer, moved⟩ := webReadPanel_moved codes link crRemoteChosen control
    simp only [Reader.read, moved]
    cases kind <;> rfl
  | boardsVersion =>
    cases kind <;>
      exact webReadTable_aside codes link crRemoteChosen control board (fun _ => rfl) (fun _ => rfl)
  | opt =>
    cases kind with
    | opt =>
      refine webReadTable_refreshed codes link crRemoteChosen control board (fun _ => rfl) ?_
      intro after
      simp only [cached, forBoards_apply]
      exact optRound_config codes link after board (after.opt board)
    | _ => exact webReadTable_aside codes link crRemoteChosen control board (fun _ => rfl) (fun _ => rfl)
  | eth =>
    cases kind with
    | ge =>
      refine webReadTable_refreshed codes link crRemoteChosen control board (fun _ => rfl) ?_
      intro after
      simp only [cached, forBoards_apply, feRound_ge]
      exact geRound_ge codes link after board (after.eth board)
    | fe =>
      refine webReadTable_refreshed codes link crRemoteChosen control board (fun _ => rfl) ?_
      intro after
      simp only [cached, forBoards_apply]
      rw [feRound_fe, geRound_fe]
    | _ => exact webReadTable_aside codes link crRemoteChosen control board (fun _ => rfl) (fun _ => rfl)
  | e1 =>
    cases kind with
    | e1 =>
      refine webReadTable_refreshed codes link crRemoteChosen control board (fun _ => rfl) ?_
      intro after
      simp only [cached, forBoards_apply]
      exact e1Round_config codes link after board (after.e1 board)
    | _ => exact webReadTable_aside codes link crRemoteChosen control board (fun _ => rfl) (fun _ => rfl)

end refresh

end UcosProxy.PortArrays
