import UcosProxy.ControlRequire

/-!
# The cached tables of the control board

`web_control` caches what the control board reported last: the device id, the list
of boards, and a table each for the bulbs, the optical, the Ethernet and the E1
ports. The readers refresh one table; the writers send one board's configuration
array and leave every table as it is.

A reader is run against a link that says, for each frame `ctrl_require` may send,
whether a reply came back in time and what then stands in the slot; these are the two
outcomes of an undisturbed call, `answered_read` and `unanswered_call`. All requests
of one call differ in their board or their command, so a link is any pattern of
timeouts and replies. Words are little-endian, as the processor stores them.

Each configuration array carries the history `readFrom`, the device id in the
request whose reply filled it; `none` after a `memset`.

The command codes stand in `hj_nm.h`, which is not part of the repository, and are
parameters here.
-/

namespace UcosProxy.ControlTables

open ControlRequire

/-- `MAX_BOARD_NO` -/
abbrev maxBoardNo : Nat := 9

/-- A board number that a table may be indexed with. -/
abbrev Board := Fin maxBoardNo

/-- There is a first slot. -/
instance : NeZero maxBoardNo := ⟨by decide⟩

/-- The codes that the requests carry. Their values are in a header that the repository does
not have, so every result holds for any of them. -/
structure Codes where
  setconfig : BitVec 8
  getconfigparam : BitVec 8
  paramAlterid : BitVec 16
  paramRemoteAlterid : BitVec 16
  boardExist : BitVec 16
  bulbVer : BitVec 16
  optConfig : BitVec 16
  optState : BitVec 16
  ethGeConfig : BitVec 16
  ethFeConfig : BitVec 16
  e1ConfigState : BitVec 16

/-- What stands in the slot when `ctrl_require` returns 0: the status and the memory
from the frame's body on, which no copy here leaves. -/
structure Reply where
  cmdStatus : Nat
  body : List Byte
deriving DecidableEq

/-- The outcome of `ctrl_require` for each frame; `none` is the timeout. -/
abbrev Link := WebDybArg → Option Reply

/-- A `u16` in memory. -/
def word16 (bytes : List Byte) (offset : Nat) : BitVec 16 :=
  bytes.getD (offset + 1) 0 ++ bytes.getD offset 0

/-- A `u32` in memory. -/
def word32 (bytes : List Byte) (offset : Nat) : BitVec 32 :=
  word16 bytes (offset + 2) ++ word16 bytes offset

/-- An array of `u8` in memory. -/
def octets (count : Nat) (bytes : List Byte) : Fin count → Byte :=
  fun index => bytes.getD index 0

/-- An array of `u16` in memory. -/
def halfWords (count : Nat) (bytes : List Byte) : Fin count → BitVec 16 :=
  fun index => word16 bytes (2 * index)

/-- The memory of an array of `u16`. -/
def halfWordBytes : List (BitVec 16) → List Byte
  | [] => []
  | word :: rest => word.setWidth 8 :: (word >>> 8).setWidth 8 :: halfWordBytes rest

/-- `struct web_boards_exist` -/
structure WebBoardsExist where
  exist : BitVec 16
  type : Board → BitVec 32

/-- `struct web_bulb_ver`; its frame without the reserved bytes. -/
structure WebBulbVer where
  bulb : BitVec 16
  bootVer : Byte
  cpuAppVer : Byte
  fpgaVer : BitVec 16
  pcbVer : Byte
  set : Nat
deriving DecidableEq

/-- A configuration array and where it was read. Where it was read is history, and no
function of the source looks at it. -/
structure ConfigArray (count width : Nat) where
  words : Fin count → BitVec width
  readFrom : Option (BitVec 16)
deriving DecidableEq

/-- `struct web_opt` -/
structure WebOpt where
  config : ConfigArray 8 8
  state : Fin 8 → Byte
  amount : Nat

/-- `struct web_eth` -/
structure WebEth where
  ge : ConfigArray 4 16
  geAmount : Nat
  fe : ConfigArray 16 16
  feAmount : Nat

/-- `struct web_e1`; its reserved bytes are never read. -/
structure WebE1 where
  config : ConfigArray 8 8
  state : Fin 8 → Byte
  amount : Nat

/-- The cached part of `struct web_ctrl_comm`. There is one record for all connections, and
every refresh writes over the one before. -/
structure WebControl where
  devId : BitVec 16
  boardsExist : WebBoardsExist
  bulbVer : Board → WebBulbVer
  opt : Board → WebOpt
  eth : Board → WebEth
  e1 : Board → WebE1

/-- An array of zeros, read from nowhere. -/
def zeroArray (count width : Nat) : ConfigArray count width := ⟨fun _ => 0, none⟩

def zeroBulbVer : WebBulbVer := ⟨0, 0, 0, 0, 0, 0⟩

def zeroOpt : WebOpt := ⟨zeroArray 8 8, fun _ => 0, 0⟩

def zeroEth : WebEth := ⟨zeroArray 4 16, 0, zeroArray 16 16, 0⟩

def zeroE1 : WebE1 := ⟨zeroArray 8 8, fun _ => 0, 0⟩

/-- `web_control` behind the `memset` of `ctrl_web_control_comm_init`. -/
def zeroControl : WebControl where
  devId := 0
  boardsExist := ⟨0, fun _ => 0⟩
  bulbVer := fun _ => zeroBulbVer
  opt := fun _ => zeroOpt
  eth := fun _ => zeroEth
  e1 := fun _ => zeroE1

def gan111MainCtrl : BitVec 32 := 0x80060132

def gan1118E1 : BitVec 32 := 0x80020008

def boardsContainBoardsMng : List (BitVec 32) := [gan111MainCtrl, gan1118E1]

def boardsContainOpt : List (BitVec 32) := [gan111MainCtrl]

def boardsContainEthGe : List (BitVec 32) := [gan111MainCtrl]

def boardsContainEthFe : List (BitVec 32) := [gan111MainCtrl]

def boardsContainE1 : List (BitVec 32) := [gan1118E1]

/-- `ctrl_check_contain_iftype` -/
def ctrlCheckContainIftype (type : BitVec 32) (tab : List (BitVec 32)) : Bool := tab.contains type

/-- The test at the head of every reader's loop: the board is there and of a type in
the table. -/
def boardContains (boards : WebBoardsExist) (board : Board) (tab : List (BitVec 32)) : Bool :=
  boards.exist.getLsbD board && ctrlCheckContainIftype (boards.type board) tab

/-- A loop over all boards whose round touches its own entry only. -/
def forBoards {Entry : Type} (round : Board → Entry → Entry) (table : Board → Entry) : Board → Entry :=
  (List.finRange maxBoardNo).foldl
    (fun table board => Function.update table board (round board (table board))) table

/-- The rounds behind one another change each listed entry once. -/
theorem foldl_update {Index Entry : Type} [DecidableEq Index] (round : Index → Entry → Entry)
    (order : List Index) (distinct : order.Nodup) (table : Index → Entry) (index : Index) :
    order.foldl (fun table index => Function.update table index (round index (table index))) table
        index = if index ∈ order then round index (table index) else table index := by
  induction order generalizing table with
  | nil => simp
  | cons head rest inductionHypothesis =>
    obtain ⟨absent, distinctRest⟩ := List.nodup_cons.mp distinct
    rw [List.foldl_cons, inductionHypothesis distinctRest]
    by_cases same : index = head
    · subst same
      simp [absent]
    · simp [same, Function.update_of_ne]

/-- The loop runs every board's round on that board's entry. -/
@[simp] theorem forBoards_apply {Entry : Type} (round : Board → Entry → Entry)
    (table : Board → Entry) (board : Board) :
    forBoards round table board = round board (table board) := by
  unfold forBoards
  rw [foldl_update round _ (List.nodup_finRange _)]
  simp

section readers
variable (codes : Codes)

/-- The request of a reader for one board, or with `0xff` for all of them. -/
def getArg (devId : BitVec 16) (board : BitVec 8) (cmdExt : BitVec 16) : WebDybArg where
  devId := devId
  board := board
  intf := 0xff
  cmdId := codes.getconfigparam
  cmdExt := cmdExt
  buf := none
  len := 0

/-- The request for the device id, which depends on the side that is chosen. -/
def deviceIdArg (crRemoteChosen : Bool) : WebDybArg where
  devId := 0xffff
  board := 0
  intf := 0xff
  cmdId := codes.setconfig
  cmdExt := if crRemoteChosen then codes.paramRemoteAlterid else codes.paramAlterid
  buf := some [0, 1, 2, 3, 0, 0, 0, 0]
  len := 8

/-- The request for the list of boards. -/
def boardExistArg (devId : BitVec 16) : WebDybArg := getArg codes devId 0xff codes.boardExist

/-- `web_read_device_id`. Without a reply the old id stays. -/
def webReadDeviceId (link : Link) (crRemoteChosen : Bool) (control : WebControl) : Int × WebControl :=
  match link (deviceIdArg codes crRemoteChosen) with
  | none => (-1, control)
  | some reply => (0, { control with devId := word16 reply.body 0 })

/-- `struct web_boards_exist` in a reply. -/
def boardsOf (reply : Reply) : WebBoardsExist :=
  ⟨word16 reply.body 0, fun board => word32 reply.body (2 + 4 * board)⟩

/-- `web_read_board_exist`. Without a reply the old listing stays. -/
def webReadBoardExist (link : Link) (control : WebControl) : Int × WebControl :=
  match link (boardExistArg codes control.devId) with
  | none => (-1, control)
  | some reply => (0, { control with boardsExist := boardsOf reply })

/-- The device id and the list of boards, and only then a table: what
`web_read_boards_version`, `web_read_opt`, `web_read_eth` and `web_read_e1` do, each
with its own table to clear or to fill. -/
def webReadTable (clear fill : WebControl → WebControl) (link : Link) (crRemoteChosen : Bool)
    (control : WebControl) : Int × WebControl :=
  let device := webReadDeviceId codes link crRemoteChosen control
  if device.1 < 0 then (-1, clear device.2)
  else
    let exist := webReadBoardExist codes link device.2
    if exist.1 < 0 then (-1, clear exist.2) else (0, fill exist.2)

/-- `web_read_bulb_ver_one_board`: the entry with its new frame, if one came. -/
def webReadBulbVerOneBoard (link : Link) (devId : BitVec 16) (board : Board) (entry : WebBulbVer) :
    Option WebBulbVer :=
  (link (getArg codes devId (BitVec.ofNat 8 board) codes.bulbVer)).map fun reply =>
    { entry with
      bulb := word16 reply.body 0
      bootVer := reply.body.getD 6 0
      cpuAppVer := reply.body.getD 7 0
      fpgaVer := word16 reply.body 8
      pcbVer := reply.body.getD 10 0 }

/-- `memset` of the bulb table. -/
def clearBulbVer (control : WebControl) : WebControl :=
  { control with bulbVer := fun _ => zeroBulbVer }

/-- `web_read_panel`. It reads the first board only, and clears the table where it reads
nothing. -/
def webReadPanel (link : Link) (crRemoteChosen : Bool) (control : WebControl) : Int × WebControl :=
  let device := webReadDeviceId codes link crRemoteChosen control
  if device.1 < 0 then (-1, clearBulbVer device.2)
  else
    match webReadBulbVerOneBoard codes link device.2.devId 0 (device.2.bulbVer 0) with
    | none => (-1, clearBulbVer device.2)
    | some entry => (0, { device.2 with bulbVer := Function.update device.2.bulbVer 0 entry })

/-- A round of `web_read_boards_version`. -/
def bulbVerRound (link : Link) (control : WebControl) (board : Board) (entry : WebBulbVer) :
    WebBulbVer :=
  if boardContains control.boardsExist board boardsContainBoardsMng then
    match webReadBulbVerOneBoard codes link control.devId board entry with
    | none => { entry with set := 0 }
    | some entry => { entry with set := 1 }
  else { entry with set := 0 }

/-- `web_read_boards_version` -/
def webReadBoardsVersion : Link → Bool → WebControl → Int × WebControl := fun link =>
  webReadTable codes clearBulbVer
    (fun control => { control with bulbVer := forBoards (bulbVerRound codes link control) control.bulbVer })
    link

/-- `web_read_opt_config_one_board` -/
def webReadOptConfigOneBoard (link : Link) (devId : BitVec 16) (board : Board) (entry : WebOpt) :
    Option WebOpt :=
  (link (getArg codes devId (BitVec.ofNat 8 board) codes.optConfig)).map fun reply =>
    { entry with config := ⟨octets 8 reply.body, some devId⟩ }

/-- `web_read_opt_state_one_board` -/
def webReadOptStateOneBoard (link : Link) (devId : BitVec 16) (board : Board) (entry : WebOpt) :
    Option WebOpt :=
  (link (getArg codes devId (BitVec.ofNat 8 board) codes.optState)).map fun reply =>
    { entry with state := octets 8 reply.body }

/-- A round of `web_read_opt`. A reply that does not come leaves the arrays as they
are and takes the amount away. -/
def optRound (link : Link) (control : WebControl) (board : Board) (entry : WebOpt) : WebOpt :=
  if boardContains control.boardsExist board boardsContainOpt then
    match webReadOptConfigOneBoard codes link control.devId board entry with
    | none => { entry with amount := 0 }
    | some entry =>
      match webReadOptStateOneBoard codes link control.devId board entry with
      | none => { entry with amount := 0 }
      | some entry => { entry with amount := 2 }
  else { entry with amount := 0 }

/-- `web_read_opt` -/
def webReadOpt : Link → Bool → WebControl → Int × WebControl := fun link =>
  webReadTable codes (fun control => { control with opt := fun _ => zeroOpt })
    (fun control => { control with opt := forBoards (optRound codes link control) control.opt }) link

/-- `web_read_eth_ge_one_board` -/
def webReadEthGeOneBoard (link : Link) (devId : BitVec 16) (board : Board) (entry : WebEth) :
    Option WebEth :=
  (link (getArg codes devId (BitVec.ofNat 8 board) codes.ethGeConfig)).map fun reply =>
    { entry with ge := ⟨halfWords 4 reply.body, some devId⟩ }

/-- `web_read_eth_fe_one_board` -/
def webReadEthFeOneBoard (link : Link) (devId : BitVec 16) (board : Board) (entry : WebEth) :
    Option WebEth :=
  (link (getArg codes devId (BitVec.ofNat 8 board) codes.ethFeConfig)).map fun reply =>
    { entry with fe := ⟨halfWords 16 reply.body, some devId⟩ }

/-- A round of the first loop of `web_read_eth`. -/
def geRound (link : Link) (control : WebControl) (board : Board) (entry : WebEth) : WebEth :=
  if boardContains control.boardsExist board boardsContainEthGe then
    match webReadEthGeOneBoard codes link control.devId board entry with
    | none => { entry with geAmount := 0 }
    | some entry => { entry with geAmount := 2 }
  else { entry with geAmount := 0 }

/-- A round of the second loop of `web_read_eth`. -/
def feRound (link : Link) (control : WebControl) (board : Board) (entry : WebEth) : WebEth :=
  if boardContains control.boardsExist board boardsContainEthFe then
    match webReadEthFeOneBoard codes link control.devId board entry with
    | none => { entry with feAmount := 0 }
    | some entry => { entry with feAmount := 6 }
  else { entry with feAmount := 0 }

/-- `web_read_eth`. The gigabit ports of all boards are read before the others of any. -/
def webReadEth : Link → Bool → WebControl → Int × WebControl := fun link =>
  webReadTable codes (fun control => { control with eth := fun _ => zeroEth })
    (fun control => { control with
      eth := forBoards (feRound codes link control) (forBoards (geRound codes link control) control.eth) })
    link

/-- `web_read_e1_one_board`. One reply carries the configuration and, behind it, the state. -/
def webReadE1OneBoard (link : Link) (devId : BitVec 16) (board : Board) (entry : WebE1) :
    Option WebE1 :=
  (link (getArg codes devId (BitVec.ofNat 8 board) codes.e1ConfigState)).map fun reply =>
    { entry with
      config := ⟨octets 8 reply.body, some devId⟩
      state := octets 8 (reply.body.drop 8) }

/-- A round of `web_read_e1`. -/
def e1Round (link : Link) (control : WebControl) (board : Board) (entry : WebE1) : WebE1 :=
  if boardContains control.boardsExist board boardsContainE1 then
    match webReadE1OneBoard codes link control.devId board entry with
    | none => { entry with amount := 0 }
    | some entry => { entry with amount := 8 }
  else { entry with amount := 0 }

/-- `web_read_e1` -/
def webReadE1 : Link → Bool → WebControl → Int × WebControl := fun link =>
  webReadTable codes (fun control => { control with e1 := fun _ => zeroE1 })
    (fun control => { control with e1 := forBoards (e1Round codes link control) control.e1 }) link

/-- The request of a writer for one board. -/
def setArg (devId : BitVec 16) (board : Board) (cmdExt : BitVec 16) (buf : List Byte)
    (len : BitVec 16) : WebDybArg where
  devId := devId
  board := BitVec.ofNat 8 board
  intf := 0xff
  cmdId := codes.setconfig
  cmdExt := cmdExt
  buf := some buf
  len := len

/-- What `web_write_opt`, `web_write_eth` and `web_write_e1` make of the outcome. -/
def writeStatus (outcome : Option Reply) : Int :=
  match outcome with
  | none => -1
  | some reply => if reply.cmdStatus ≠ 0 then -1 else 0

/-- The frame of `web_write_opt`: eight of the sixteen words that its caller has. -/
def webWriteOptArg (control : WebControl) (board : Board) (buf : Fin 16 → Byte) : WebDybArg :=
  setArg codes control.devId board codes.optConfig (List.ofFn buf) 8

/-- The frame of `web_write_eth`: four or sixteen half-words. -/
def webWriteEthArg (ge : Bool) (control : WebControl) (board : Board) (buf : Fin 16 → BitVec 16) :
    WebDybArg :=
  setArg codes control.devId board (if ge then codes.ethGeConfig else codes.ethFeConfig)
    (halfWordBytes (List.ofFn buf)) (if ge then 8 else 32)

/-- The frame of `web_write_e1`: the configuration, and the state and the reserved
bytes that its caller left zero. -/
def webWriteE1Arg (control : WebControl) (board : Board) (buf : Fin 8 → Byte) : WebDybArg :=
  setArg codes control.devId board codes.e1ConfigState (List.ofFn buf ++ List.replicate 24 0) 32

end readers

/-- Codes that tell the requests apart, for the runs on fixed inputs. -/
def sampleCodes : Codes := ⟨1, 2, 0x40, 0x4a, 3, 4, 5, 6, 7, 8, 9⟩

end UcosProxy.ControlTables
