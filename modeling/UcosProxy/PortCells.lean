import UcosProxy.PortLines

/-!
# The bit-fields behind the columns

The server keeps a port's configuration and state as unions of a number and of
bit-fields, which the compiler lays out from the least significant bit on; the pages
test bits of the number by positions that were copied by hand. The columns of a line
are given here once more, as functions of the bit-fields, and `lineOf_cells` says that
a page shows exactly them.
-/

namespace UcosProxy.PortCells

open Bytes BitFields ControlTables PortArrays PortFrames PortRecords PortLines
open AccountLogin (responseText)

/-! ## The unions -/

/-- The named bits of `union web_opt_config` and of `union web_e1_config`. The two unions
name the same bits, so one record serves for both. -/
structure ByteConfig where
  trapMask : Nat
  circLoop : Nat
  devLoop : Nat
  enable : Nat

/-- `union web_opt_config` -/
def webOptConfig (byte : Byte) : ByteConfig where
  trapMask := content 0 1 byte
  circLoop := content 1 1 byte
  devLoop := content 2 1 byte
  enable := content 7 1 byte

/-- `union web_e1_config` -/
def webE1Config (byte : Byte) : ByteConfig where
  trapMask := content 0 1 byte
  circLoop := content 1 1 byte
  devLoop := content 2 1 byte
  enable := content 7 1 byte

/-- `union web_opt_state` -/
structure WebOptState where
  lof : Nat
  nop : Nat
  loop : Nat

def webOptState (byte : Byte) : WebOptState := ⟨content 0 1 byte, content 1 1 byte, content 2 1 byte⟩

/-- `union web_e1_state` -/
structure WebE1State where
  los : Nat
  ais : Nat
  loop : Nat

def webE1State (byte : Byte) : WebE1State := ⟨content 0 1 byte, content 1 1 byte, content 2 1 byte⟩

/-- `union web_eth_config` -/
structure WebEthConfig where
  autoNego : Nat
  fullDuplex : Nat
  bandwidth : Nat
  link : Nat
  trapMask : Nat
  flowCtrl : Nat
  enable : Nat

def webEthConfig (halfWord : BitVec 16) : WebEthConfig where
  autoNego := content 3 1 halfWord
  fullDuplex := content 4 1 halfWord
  bandwidth := content 5 2 halfWord
  link := content 7 1 halfWord
  trapMask := content 13 1 halfWord
  flowCtrl := content 14 1 halfWord
  enable := content 15 1 halfWord

/-! ## The texts of the fields -/

/-- The text for a bit-field that is one, or the other one. -/
def shown (field : Nat) (one zero : String) : String := if field = 1 then one else zero

def enableShown (field : Nat) : String := shown field "启用" "关断"

def trapShown (field : Nat) : String := shown field "抑制告警上报" "允许告警上报"

def alarmShown (field : Nat) : String := shown field "告警" "正常"

def loopShown (circLoop devLoop : Nat) : String :=
  if circLoop = 1 ∧ devLoop = 1 then "双向环回"
  else if circLoop = 1 then "线路环回"
  else if devLoop = 1 then "设备环回"
  else "正常工作"

def modeShown (autoNego : Nat) : String := shown autoNego "自动协商" "强制"

def duplexShown (fullDuplex : Nat) : String := shown fullDuplex "全双工" "半双工"

def flowShown (flowCtrl : Nat) : String := shown flowCtrl "开启" "关闭"

def speedShown (bandwidth : Nat) : String :=
  if bandwidth = 0 then "10M" else if bandwidth = 1 then "100M"
  else if bandwidth = 2 then "1000M" else ""

/-- The position of a port, counted from one. -/
def posShown (middle : String) (board portno : Nat) : String :=
  toString (board + 1) ++ middle ++ toString (portno + 1)

/-- The cells of an Ethernet port. -/
def ethCells (namePrefix middle : String) (line board portno : Nat) (config : WebEthConfig) :
    List String :=
  ["", namePrefix ++ toString (line + 1), posShown middle board portno, "",
    enableShown config.enable, shown config.link "已连接" "未连接", modeShown config.autoNego,
    speedShown config.bandwidth, duplexShown config.fullDuplex, flowShown config.flowCtrl,
    trapShown config.trapMask]

/-- What a line should show of a port. -/
def portCells (control : WebControl) (line : Nat) : Port → List String
  | ⟨.opt, board, portno⟩ =>
    let config := webOptConfig ((control.opt board).config.words portno)
    let state := webOptState ((control.opt board).state portno)
    ["OPT_" ++ toString (line + 1), posShown "_OPT_" board portno, enableShown config.enable,
      loopShown config.circLoop config.devLoop, trapShown config.trapMask, alarmShown state.lof,
      alarmShown state.nop, alarmShown state.loop]
  | ⟨.ge, board, portno⟩ =>
    ethCells "GTH_" "_GTH_" line board portno (webEthConfig ((control.eth board).ge.words portno))
  | ⟨.fe, board, portno⟩ =>
    ethCells "ETH_" "_ETH_" line board portno (webEthConfig ((control.eth board).fe.words portno))
  | ⟨.e1, board, portno⟩ =>
    let config := webE1Config ((control.e1 board).config.words portno)
    let state := webE1State ((control.e1 board).state portno)
    ["E1_" ++ toString (line + 1), posShown "_E1_" board portno, enableShown config.enable,
      loopShown config.circLoop config.devLoop, trapShown config.trapMask, alarmShown state.los,
      alarmShown state.ais, alarmShown state.loop]

/-! ## The bits that the columns test -/

/-- A bit of a number that is tested. -/
theorem flag_eq {width : Nat} (word : BitVec width) {bit : Nat} (inside : bit < 32) :
    flag (word.setWidth 32) bit = word.getLsbD bit := by
  rw [flag, ← BitVec.twoPow_eq, BitVec.and_twoPow, BitVec.getLsbD_setWidth, decide_eq_true inside,
    Bool.true_and]
  cases word.getLsbD bit with
  | true =>
    have value : (BitVec.twoPow 32 bit).toNat = 2 ^ bit := BitVec.toNat_twoPow_of_lt inside
    have positive : 0 < 2 ^ bit := Nat.two_pow_pos bit
    rw [if_pos rfl, bne_iff_ne]
    intro zero
    have empty : (0 : BitVec 32).toNat = 2 ^ bit := zero ▸ value
    exact absurd empty (Nat.ne_of_lt positive)
  | false => rfl

/-- A column of one bit shows the bit-field at its position. -/
theorem either_eq {width : Nat} (word : BitVec width) {bit : Nat} (inside : bit < 32)
    (one zero : String) : either (word.setWidth 32) bit one zero = shown (content bit 1 word) one zero := by
  rw [either, shown, flag_eq word inside, content_one]
  cases word.getLsbD bit <;> rfl

theorem loopText_eq (byte : Byte) :
    loopText (byte.setWidth 32) = loopShown (content 1 1 byte) (content 2 1 byte) := by
  rw [loopText, loopShown, flag_eq byte (by decide), flag_eq byte (by decide), content_one, content_one]
  cases byte.getLsbD 1 <;> cases byte.getLsbD 2 <;> rfl

/-- The two bits of the speed. -/
theorem speed_eq (word : BitVec 16) :
    (word.setWidth 32 &&& (3#32 <<< 5)).sshiftRight 5 = BitVec.ofNat 32 (content 5 2 word) := by
  have bits : word.setWidth 32 &&& (3#32 <<< 5) =
      (if word.getLsbD 5 then BitVec.twoPow 32 5 else 0) |||
        (if word.getLsbD 6 then BitVec.twoPow 32 6 else 0) := by
    have mask : 3#32 <<< 5 = BitVec.twoPow 32 5 ||| BitVec.twoPow 32 6 := by decide
    rw [mask, BitVec.and_or_distrib_left, BitVec.and_twoPow, BitVec.and_twoPow]
    simp only [BitVec.getLsbD_setWidth]
    rfl
  have field : content 5 2 word = (word.getLsbD 5).toNat + 2 * (word.getLsbD 6).toNat := by
    rw [← content_one, ← content_one]
    simp only [content]
    omega
  rw [bits, field]
  cases word.getLsbD 5 <;> cases word.getLsbD 6 <;> decide

/-! ## What a line shows -/

/-- The board and the port at the head of a record, one digit each. -/
theorem address_read (board : Board) (portno : Nat) (digit : portno < 10) (rest : List Byte) :
    alphaton (responseText ([ntoalpha board, ntoalpha portno] ++ rest))[0]? = some board.val ∧
      alphaton (responseText ([ntoalpha board, ntoalpha portno] ++ rest))[1]? = some portno := by
  have boards : board.val < 10 := Nat.lt_trans board.isLt (by decide)
  exact ⟨alphaton_ntoalpha board boards, alphaton_ntoalpha portno digit⟩

/-- A record starts with its board and its port. -/
theorem record_head (control : WebControl) (port : Port) :
    ∃ rest, port.record control = [ntoalpha port.board, ntoalpha port.portno] ++ rest := by
  obtain ⟨kind, board, portno⟩ := port
  cases kind with
  | opt => exact ⟨_, List.append_assoc _ _ _⟩
  | ge => exact ⟨_, rfl⟩
  | fe => exact ⟨_, rfl⟩
  | e1 => exact ⟨_, List.append_assoc _ _ _⟩

/-- The board and the port of a line. -/
theorem lineOf_address (control : WebControl) (line : Nat) (port : Port)
    (digit : port.portno.val < 10) :
    alphaton (lineOf control line port).msg[0]? = some port.board.val ∧
      alphaton (lineOf control line port).msg[1]? = some port.portno.val := by
  obtain ⟨rest, head⟩ := record_head control port
  rw [lineOf, head]
  exact address_read port.board port.portno digit rest

/-- The position column. -/
theorem portPos_eq (middle : String) (control : WebControl) (line : Nat) (port : Port)
    (digit : port.portno.val < 10) :
    portPos middle (lineOf control line port).msg = posShown middle port.board port.portno := by
  obtain ⟨board, portno⟩ := lineOf_address control line port digit
  rw [portPos, board, portno, posShown]
  rfl

/-- The numbers behind the columns are the configuration and the state. -/
theorem lineOf_numbers (control : WebControl) (line : Nat) (port : Port) :
    (lineOf control line port).cfg = (port.config control).setWidth 32 ∧
      (lineOf control line port).state = (port.state control).map (·.setWidth 32) := by
  obtain ⟨kind, board, portno⟩ := port
  cases kind with
  | opt =>
    have read := byteRecord_read board portno ((control.opt board).config.words portno)
      ((control.opt board).state portno)
    exact ⟨read.1, congrArg some read.2⟩
  | ge => exact ⟨halfWordRecord_read board portno _, rfl⟩
  | fe => exact ⟨halfWordRecord_read board portno _, rfl⟩
  | e1 =>
    have read := byteRecord_read board portno ((control.e1 board).config.words portno)
      ((control.e1 board).state portno)
    exact ⟨read.1, congrArg some read.2⟩

/-- The configuration columns of an optical port show its bit-fields. -/
theorem opt_columns {msg : List Char} {cfg : Byte} (read : byteCfg msg = cfg.setWidth 32) :
    optSwitch msg = enableShown (webOptConfig cfg).enable ∧
      optLoop msg = loopShown (webOptConfig cfg).circLoop (webOptConfig cfg).devLoop ∧
        optTrap msg = trapShown (webOptConfig cfg).trapMask := by
  refine ⟨?_, ?_, ?_⟩
  · rw [optSwitch, read, either_eq cfg (by decide)]
    rfl
  · rw [optLoop, read, loopText_eq]
    rfl
  · rw [optTrap, read, either_eq cfg (by decide)]
    rfl

/-- The state columns of an optical port show its bit-fields. -/
theorem opt_alarms {msg : List Char} {state : Byte} (read : byteState msg = state.setWidth 32) :
    optLof msg = alarmShown (webOptState state).lof ∧
      optNop msg = alarmShown (webOptState state).nop ∧
        optLoopState msg = alarmShown (webOptState state).loop := by
  refine ⟨?_, ?_, ?_⟩
  · rw [optLof, read, either_eq state (by decide)]
    rfl
  · rw [optNop, read, either_eq state (by decide)]
    rfl
  · rw [optLoopState, read, either_eq state (by decide)]
    rfl

/-- The columns of an E1 port are those of an optical one under other names. -/
theorem e1_columns {msg : List Char} {cfg : Byte} (read : byteCfg msg = cfg.setWidth 32) :
    e1Switch msg = enableShown (webE1Config cfg).enable ∧
      e1Loop msg = loopShown (webE1Config cfg).circLoop (webE1Config cfg).devLoop ∧
        e1Trap msg = trapShown (webE1Config cfg).trapMask :=
  opt_columns read

theorem e1_alarms {msg : List Char} {state : Byte} (read : byteState msg = state.setWidth 32) :
    e1Los msg = alarmShown (webE1State state).los ∧
      e1Ais msg = alarmShown (webE1State state).ais ∧
        e1LoopState msg = alarmShown (webE1State state).loop :=
  opt_alarms read

/-- The columns of an Ethernet port that a form shows too. -/
theorem eth_columns {msg : List Char} {cfg : BitVec 16} (read : halfWordCfg msg = cfg.setWidth 32) :
    ethSwitch msg = enableShown (webEthConfig cfg).enable ∧
      ethWorkMode msg = modeShown (webEthConfig cfg).autoNego ∧
        ethSpeed msg = speedShown (webEthConfig cfg).bandwidth ∧
          ethDuplex msg = duplexShown (webEthConfig cfg).fullDuplex ∧
            ethFctrl msg = flowShown (webEthConfig cfg).flowCtrl ∧
              ethTrap msg = trapShown (webEthConfig cfg).trapMask := by
  refine ⟨?_, ?_, ?_, ?_, ?_, ?_⟩
  · rw [ethSwitch, read, either_eq cfg (by decide)]
    rfl
  · rw [ethWorkMode, read, either_eq cfg (by decide)]
    rfl
  · have small : content 5 2 cfg < 4 := Nat.mod_lt _ (by decide)
    have speeds : ∀ speed : Fin 4,
        (if BitVec.ofNat 32 speed = 0 then "10M" else if BitVec.ofNat 32 speed = 1 then "100M"
          else if BitVec.ofNat 32 speed = 2 then "1000M" else "") = speedShown speed := by
      decide
    simp only [ethSpeed, read, speed_eq]
    exact speeds ⟨_, small⟩
  · rw [ethDuplex, read, either_eq cfg (by decide)]
    rfl
  · rw [ethFctrl, read, either_eq cfg (by decide)]
    rfl
  · rw [ethTrap, read, either_eq cfg (by decide)]
    rfl

theorem ethLink_eq {msg : List Char} {cfg : BitVec 16} (read : halfWordCfg msg = cfg.setWidth 32) :
    ethLink msg = shown (webEthConfig cfg).link "已连接" "未连接" := by
  rw [ethLink, read, either_eq cfg (by decide)]
  rfl

/-- A line shows the bit-fields of its port. -/
theorem lineOf_cells (control : WebControl) (line : Nat) (port : Port)
    (digit : port.portno.val < 10) :
    (lineOf control line port).cells = portCells control line port := by
  have pos (middle : String) := portPos_eq middle control line port digit
  obtain ⟨cfg, state⟩ := lineOf_numbers control line port
  obtain ⟨kind, board, portno⟩ := port
  simp only [lineOf] at pos cfg state
  cases kind with
  | opt =>
    obtain ⟨switch, loop, trap⟩ := opt_columns cfg
    obtain ⟨lof, nop, loopState⟩ := opt_alarms (Option.some.inj state)
    simp only [lineOf, Line.cells, portCells, optPos, pos, switch, loop, trap, lof, nop, loopState]
    rfl
  | ge =>
    obtain ⟨switch, mode, speed, duplex, fctrl, trap⟩ := eth_columns cfg
    simp only [lineOf, Line.cells, portCells, ethCells, ethPos, if_true, pos, switch, mode, speed,
      duplex, fctrl, trap, ethLink_eq cfg]
    rfl
  | fe =>
    obtain ⟨switch, mode, speed, duplex, fctrl, trap⟩ := eth_columns cfg
    simp only [lineOf, Line.cells, portCells, ethCells, ethPos, Bool.false_eq_true, if_false, pos,
      switch, mode, speed, duplex, fctrl, trap, ethLink_eq cfg]
    rfl
  | e1 =>
    obtain ⟨switch, loop, trap⟩ := e1_columns cfg
    obtain ⟨los, ais, loopState⟩ := e1_alarms (Option.some.inj state)
    simp only [lineOf, Line.cells, portCells, e1Pos, pos, switch, loop, trap, los, ais, loopState]
    rfl

end UcosProxy.PortCells
