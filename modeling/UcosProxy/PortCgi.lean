import UcosProxy.BitFields
import UcosProxy.CgiAccess
import UcosProxy.PortArrays

/-!
# Port configuration requests

`opt_cgi_interface`, `eth_cgi_interface` and `e1_cgi_interface` share one plan: look
up the board and the port, copy the board's cached configuration array, let each
recognised parameter change its bits of the addressed port, and send the whole array.
The plan is given once. Each handler keeps its own fields, buffer and frame, in the
order in which the source goes through them.

A request is described by what its parameters assign: one assignment to the bits of
the addressed port, composed from the recognised values. The frame that a handler
sends carries the cached array with that assignment and nothing else.
-/

namespace UcosProxy.PortCgi

open Bytes UriParameters CgiAccess BitFields ControlRequire ControlTables PortArrays

/-- A parameter that configures some bits: `pfunc` is the assignment of a recognised
value. -/
structure PortField (width : Nat) where
  cginame : String
  pfunc : List Byte → Option (Assignment width)

/-- The first token that the value starts with, in the order of the source. -/
def recognise {width : Nat} (tokens : List (String × Assignment width)) (value : List Byte) :
    Option (Assignment width) :=
  (tokens.find? fun token => mystrncmp value (ascii token.1)).map Prod.snd

section tokens

def cgistrEnable : String := "%E5%90%AF"
def cgistrDisable : String := "%E5%85%B3"
def cgistrOpen : String := "%E5%BC%80"
def cgistrClose : String := "%E5%85%B3"
def cgistrTrapMask : String := "%E6%8A%91"
def cgistrTrapNomask : String := "%E5%85%81"
def cgistrLoopNormal : String := "%E6%AD%A3"
def cgistrLoopCircuit : String := "%E7%BA%BF"
def cgistrLoopDevice : String := "%E8%AE%BE"
def cgistrLoopDouble : String := "%E5%8F%8C"
def cgistrForce : String := "%E5%BC%BA"
def cgistrAutoNego : String := "%E8%87%AA"
def cgistrDuplexHalf : String := "%E5%8D%8A"
def cgistrDuplexFull : String := "%E5%85%A8"

/-- `CGI_REMOTE_STRING` -/
def cgiRemoteString : String := "%E8%BF%9C"

end tokens

section fields

/-- The two loop bits of an optical or E1 port. -/
def loopBits (circLoop devLoop : Nat) : Assignment 8 :=
  (Assignment.field 8 1 1 circLoop).andThen (Assignment.field 8 2 1 devLoop)

/-- `opt_write_frame_switch` -/
def optWriteFrameSwitch : List Byte → Option (Assignment 8) :=
  recognise [(cgistrEnable, .field 8 7 1 1), (cgistrDisable, .field 8 7 1 0)]

/-- `opt_write_frame_trap_mask` -/
def optWriteFrameTrapMask : List Byte → Option (Assignment 8) :=
  recognise [(cgistrTrapMask, .field 8 0 1 1), (cgistrTrapNomask, .field 8 0 1 0)]

/-- `opt_write_frame_loop` -/
def optWriteFrameLoop : List Byte → Option (Assignment 8) :=
  recognise [(cgistrLoopNormal, loopBits 0 0), (cgistrLoopCircuit, loopBits 1 0),
    (cgistrLoopDevice, loopBits 0 1), (cgistrLoopDouble, loopBits 1 1)]

/-- `eth_write_frame_switch` -/
def ethWriteFrameSwitch : List Byte → Option (Assignment 16) :=
  recognise [(cgistrEnable, .field 16 15 1 1), (cgistrDisable, .field 16 15 1 0)]

/-- `eth_write_frame_auto_nego` -/
def ethWriteFrameAutoNego : List Byte → Option (Assignment 16) :=
  recognise [(cgistrAutoNego, .field 16 3 1 1), (cgistrForce, .field 16 3 1 0)]

/-- `eth_write_frame_bandwidth` -/
def ethWriteFrameBandwidth : List Byte → Option (Assignment 16) :=
  recognise [("10M", .field 16 5 2 0), ("100M", .field 16 5 2 1), ("1000M", .field 16 5 2 2)]

/-- `eth_write_frame_duplex` -/
def ethWriteFrameDuplex : List Byte → Option (Assignment 16) :=
  recognise [(cgistrDuplexHalf, .field 16 4 1 0), (cgistrDuplexFull, .field 16 4 1 1)]

/-- `eth_write_frame_flow_ctrl` -/
def ethWriteFrameFlowCtrl : List Byte → Option (Assignment 16) :=
  recognise [(cgistrOpen, .field 16 14 1 1), (cgistrClose, .field 16 14 1 0)]

/-- `eth_write_frame_trap_mask` -/
def ethWriteFrameTrapMask : List Byte → Option (Assignment 16) :=
  recognise [(cgistrTrapMask, .field 16 13 1 1), (cgistrTrapNomask, .field 16 13 1 0)]

/-- `e1_write_frame_switch` -/
def e1WriteFrameSwitch : List Byte → Option (Assignment 8) :=
  recognise [(cgistrEnable, .field 8 7 1 1), (cgistrDisable, .field 8 7 1 0)]

/-- `e1_write_frame_trap_mask` -/
def e1WriteFrameTrapMask : List Byte → Option (Assignment 8) :=
  recognise [(cgistrTrapMask, .field 8 0 1 1), (cgistrTrapNomask, .field 8 0 1 0)]

/-- `e1_write_frame_loop`: unlike an optical port, an E1 port has no double loop. -/
def e1WriteFrameLoop : List Byte → Option (Assignment 8) :=
  recognise [(cgistrLoopNormal, loopBits 0 0), (cgistrLoopCircuit, loopBits 1 0),
    (cgistrLoopDevice, loopBits 0 1)]

def optFields : List (PortField 8) :=
  [⟨"opt_switch", optWriteFrameSwitch⟩, ⟨"opt_trap_mask", optWriteFrameTrapMask⟩,
    ⟨"opt_loop", optWriteFrameLoop⟩]

def ethFields : List (PortField 16) :=
  [⟨"eth_switch", ethWriteFrameSwitch⟩, ⟨"eth_auto_nego", ethWriteFrameAutoNego⟩,
    ⟨"eth_bandwidth", ethWriteFrameBandwidth⟩, ⟨"eth_duplex", ethWriteFrameDuplex⟩,
    ⟨"eth_flow_ctrl", ethWriteFrameFlowCtrl⟩, ⟨"eth_trap_mask", ethWriteFrameTrapMask⟩]

def e1Fields : List (PortField 8) :=
  [⟨"e1_switch", e1WriteFrameSwitch⟩, ⟨"e1_trap_mask", e1WriteFrameTrapMask⟩,
    ⟨"e1_loop", e1WriteFrameLoop⟩]

/-- The fields of a port, by kind. -/
def kindFields : (kind : PortKind) → List (PortField kind.width)
  | .opt => optFields
  | .ge => ethFields
  | .fe => ethFields
  | .e1 => e1Fields

end fields

section plan
variable {width count : Nat}

/-- `opt_write_frame`, `eth_write_frame` and `e1_write_frame`: only a lookup that
fails is checked. The port number indexes the buffer when a value is recognised. -/
def writeFrame (params : List Param) (portno : Int) (buf : Fin count → BitVec width)
    (field : PortField width) : Except Fault (Fin count → BitVec width) :=
  match findCgiParameter (ascii field.cginame) params with
  | none => .ok buf
  | some iIndex => do
    let value ← pcValue params (some iIndex)
    match field.pfunc value with
    | none => .ok buf
    | some assignment => do
      let port ← tableIndex .badPort count portno
      .ok (assignAt assignment port buf)

/-- The fields one after the other. -/
def writeFrames (params : List Param) (portno : Int) :
    List (PortField width) → (Fin count → BitVec width) → Except Fault (Fin count → BitVec width)
  | [], buf => .ok buf
  | field :: rest, buf => do
    let buf ← writeFrame params portno buf field
    writeFrames params portno rest buf

/-- What the three handlers do up to the frame: `board` and `portno` are whatever
`atoi` makes of the two values. -/
def configure (fields : List (PortField width)) (load : Board → Fin count → BitVec width)
    (frame : Board → (Fin count → BitVec width) → WebDybArg) (params : List Param) :
    Except Fault (Board × WebDybArg) := do
  let boardText ← valueOf "board" params
  let portText ← valueOf "portno" params
  let board ← tableIndex .badBoard maxBoardNo (atoi boardText)
  let buf ← writeFrames params (atoi portText) fields (load board)
  .ok (board, frame board buf)

/-- A zeroed buffer with an array copied over its head. -/
def padded (size : Nat) (words : Fin count → BitVec width) : Fin size → BitVec width :=
  fun index => if inside : index.val < count then words ⟨index, inside⟩ else 0

end plan

/-- `web_control` and the globals of the port pages. The three states are what the pages
show of the last write, each of its own page. -/
structure WebState where
  control : WebControl
  crRemoteChosen : Bool
  optConfigState : Int
  ethConfigState : Int
  e1ConfigState : Int

/-- `web_control_comm_init`, and globals that start at zero. -/
def zeroState : WebState := ⟨zeroControl, false, 0, 0, 0⟩

/-- A configuration frame that was sent, and what the writer returned. It is kept as a
value, so that a result can say what a request has sent and to whom. -/
structure ConfigWrite where
  kind : PortKind
  board : Board
  arg : WebDybArg
  ret : Int
deriving DecidableEq

/-- The page that a handler names, the state it leaves and the frame it sent. At most one
frame is sent for a request, and none for one that is refused. -/
structure Served where
  page : String
  web : WebState
  write : Option ConfigWrite

/-- `cent_rmt_cgi_interface`. Any value that does not start with the remote side's word
chooses the central one. -/
def centRmtCgiInterface (params : List Param) (web : WebState) : Except Fault Served :=
  if params.length < 2 then .ok ⟨"/assets/ajax/cr_read.ajax", web, none⟩
  else do
    let side ← valueOf "cent_rmt" params
    .ok ⟨"/assets/ajax/cr_write.ajax",
      { web with crRemoteChosen := mystrncmp side (ascii cgiRemoteString) }, none⟩

section handlers
variable (codes : Codes) (link : Link) (params : List Param) (web : WebState)

/-- `opt_cgi_interface`. A request with no more than one parameter is a read, and its tag
does the reading. -/
def optCgiInterface : Except Fault Served :=
  if params.length < 2 then .ok ⟨"/assets/ajax/opt_read.ajax", web, none⟩
  else do
    let (board, arg) ← configure optFields
      (fun board => padded 16 (web.control.opt board).config.words)
      (webWriteOptArg codes web.control) params
    let ret := writeStatus (link arg)
    .ok ⟨"/assets/ajax/opt_write.ajax", { web with optConfigState := ret },
      some ⟨.opt, board, arg, ret⟩⟩

/-- `eth_cgi_interface`: a gigabit port when the value of `ge` starts with a G. -/
def ethCgiInterface : Except Fault Served :=
  if params.length < 2 then .ok ⟨"/assets/ajax/eth_read.ajax", web, none⟩
  else do
    let ge ← valueOf "ge" params
    let ethConfigGe := ge.head? == some 71
    let (board, arg) ← configure ethFields
      (fun board => if ethConfigGe then padded 16 (web.control.eth board).ge.words
        else padded 16 (web.control.eth board).fe.words)
      (webWriteEthArg codes ethConfigGe web.control) params
    let ret := writeStatus (link arg)
    .ok ⟨"/assets/ajax/eth_write.ajax", { web with ethConfigState := ret },
      some ⟨if ethConfigGe then .ge else .fe, board, arg, ret⟩⟩

/-- `e1_cgi_interface`. It is the optical page's handler with other fields, and a table that
needs no padding. -/
def e1CgiInterface : Except Fault Served :=
  if params.length < 2 then .ok ⟨"/assets/ajax/e1_read.ajax", web, none⟩
  else do
    let (board, arg) ← configure e1Fields (fun board => (web.control.e1 board).config.words)
      (webWriteE1Arg codes web.control) params
    let ret := writeStatus (link arg)
    .ok ⟨"/assets/ajax/e1_write.ajax", { web with e1ConfigState := ret },
      some ⟨.e1, board, arg, ret⟩⟩

end handlers

/-! ## What the plan does -/

section spec
variable {width count : Nat}

/-- What a field's parameter assigns; nothing when it is absent or not recognised. -/
def PortField.assigned (field : PortField width) (params : List Param) : Assignment width :=
  (((namedParam field.cginame params).bind Param.value).bind field.pfunc).getD Assignment.keep

/-- What a request assigns to the port that it addresses. -/
def assigned (params : List Param) : List (PortField width) → Assignment width
  | [] => Assignment.keep
  | field :: rest => (field.assigned params).andThen (assigned params rest)

/-- The accesses of one field: a value is read only where it is not NULL, and a port is
indexed only inside the buffer. A value that is not one of the field's is read and then
dropped, without a look at the buffer. -/
def FieldSafe (size : Nat) (params : List Param) (portno : Int) (field : PortField width) : Prop :=
  ∀ param, namedParam field.cginame params = some param → ∃ value, param.value = some value ∧
    (field.pfunc value ≠ none → 0 ≤ portno ∧ portno < size)

/-- The text of a named value; empty when there is none. -/
def textOf (name : String) (params : List Param) : List Byte :=
  ((namedParam name params).bind Param.value).getD []

/-- The number in `board`. -/
def boardOf (params : List Param) : Int := atoi (textOf "board" params)

/-- The number in `portno`. -/
def portOf (params : List Param) : Int := atoi (textOf "portno" params)

/-- Assigning at an index that the array has. -/
theorem assignAt_tableIndex (portno : Int) (assignment : Assignment width)
    (buf out : Fin count → BitVec width) :
    (tableIndex .badPort count portno >>= fun port => Except.ok (assignAt assignment port buf)) =
        .ok out ↔
      (0 ≤ portno ∧ portno < count) ∧ out = assignAt assignment portno.toNat buf := by
  rw [bind_eq_ok]
  constructor
  · rintro ⟨port, indexed, same⟩
    have exact := (tableIndex_eq_ok_iff _ _ _ _).mp indexed
    have bound := port.isLt
    subst exact
    exact ⟨by omega, (Except.ok.inj same).symm⟩
  · rintro ⟨inside, rfl⟩
    refine ⟨⟨portno.toNat, by omega⟩, ?_, rfl⟩
    rw [tableIndex_eq_ok_iff]
    simp only
    omega

/-- One field changes the addressed port by what its parameter assigns. -/
theorem writeFrame_eq_ok_iff (params : List Param) (portno : Int) (buf out : Fin count → BitVec width)
    (field : PortField width) :
    writeFrame params portno buf field = .ok out ↔
      FieldSafe count params portno field ∧
        out = assignAt (field.assigned params) portno.toNat buf := by
  unfold writeFrame FieldSafe PortField.assigned
  cases found : findCgiParameter (ascii field.cginame) params with
  | none =>
    have absent := (findCgiParameter_eq_none_iff _ _).mp found
    simp [absent, eq_comm]
  | some iIndex =>
    have value : pcValue params (some iIndex) = valueOf field.cginame params := by
      rw [valueOf, found]
    simp only [value]
    rw [bind_eq_ok]
    simp only [valueOf_eq_ok_iff]
    cases named : namedParam field.cginame params with
    | none =>
      rw [(findCgiParameter_eq_none_iff _ _).mpr named] at found
      cases found
    | some param =>
      cases text : param.value with
      | none => simp [text]
      | some text' =>
        cases recognised : field.pfunc text' with
        | none => simp [text, recognised, eq_comm]
        | some assignment => simp [text, recognised, assignAt_tableIndex]

/-- The fields together change the addressed port by what the request assigns. -/
theorem writeFrames_eq_ok_iff (params : List Param) (portno : Int) (fields : List (PortField width))
    (buf out : Fin count → BitVec width) :
    writeFrames params portno fields buf = .ok out ↔
      (∀ field ∈ fields, FieldSafe count params portno field) ∧
        out = assignAt (assigned params fields) portno.toNat buf := by
  induction fields generalizing buf with
  | nil => simp [writeFrames, assigned, eq_comm]
  | cons field rest inductionHypothesis =>
    simp only [writeFrames, bind_eq_ok, inductionHypothesis, writeFrame_eq_ok_iff, assigned,
      List.forall_mem_cons]
    constructor
    · rintro ⟨after, ⟨first, rfl⟩, others, rfl⟩
      exact ⟨⟨first, others⟩, assignAt_andThen _ _ _ _⟩
    · rintro ⟨⟨first, others⟩, rfl⟩
      exact ⟨_, ⟨first, rfl⟩, others, (assignAt_andThen _ _ _ _).symm⟩

/-- Where the plan goes through, it sends the frame of the loaded array with the
request's assignment at its port. -/
theorem configure_eq_ok_iff (fields : List (PortField width)) (load : Board → Fin count → BitVec width)
    (frame : Board → (Fin count → BitVec width) → WebDybArg) (params : List Param) (board : Board)
    (arg : WebDybArg) :
    configure fields load frame params = .ok (board, arg) ↔
      (HasValue "board" params ∧ HasValue "portno" params ∧ boardOf params = board.val ∧
        ∀ field ∈ fields, FieldSafe count params (portOf params) field) ∧
      arg = frame board (assignAt (assigned params fields) (portOf params).toNat (load board)) := by
  unfold configure
  simp only [bind_eq_ok, valueOf_eq_ok_iff, tableIndex_eq_ok_iff, writeFrames_eq_ok_iff, HasValue,
    boardOf, portOf, textOf, Except.ok.injEq, Prod.mk.injEq]
  constructor
  · rintro ⟨boardText, hasBoard, portText, hasPort, found, number, buf, ⟨fieldsSafe, rfl⟩, rfl, rfl⟩
    simp only [hasBoard, hasPort, Option.getD_some]
    exact ⟨⟨⟨_, rfl⟩, ⟨_, rfl⟩, number, fieldsSafe⟩, trivial⟩
  · rintro ⟨⟨⟨boardText, hasBoard⟩, ⟨portText, hasPort⟩, number, fieldsSafe⟩, rfl⟩
    simp only [hasBoard, hasPort, Option.getD_some] at number fieldsSafe ⊢
    exact ⟨boardText, rfl, portText, rfl, board, number, _, ⟨fieldsSafe, rfl⟩, rfl, rfl⟩

end spec

end UcosProxy.PortCgi
