import UcosProxy.PortCells

/-!
# The forms of the ports

A click on a line fills a form with the texts of its columns and posts it as it then
stands. A column whose text is not among the options of its field leaves the field
without a choice, and the post carries an empty text: the third bandwidth, a gigabit on
a fast port, both loops of an E1 port. The handler recognises a text by its first
escapes and leaves the bits of a field alone whose text it does not recognise, so that
a form posted unchanged stores what the port had before, for every word that it had.

`port_pages_round_trip` joins the way out and the way back, for all tables that
refreshes can leave.
-/

namespace UcosProxy.PortForms

open Bytes UriParameters FormEncoding CgiAccess BitFields ControlRequire ControlTables PortArrays
open PortCgi PortFrames CgiSafety PortRecords PortLines PortCells
open AccountLogin (responseText)

/-! ## The forms -/

/-- What a field submits that is set to a text: the text if it is an option. -/
def select (options : List String) (value : String) : String := if value ∈ options then value else ""

/-- The options of `opt_sw`, `eth_sw` and `e1_sw`. -/
def swOptions : List String := ["启用", "关断"]

/-- The options of `opt_trap`, `eth_trap` and `e1_trap`. -/
def trapOptions : List String := ["允许告警上报", "抑制告警上报"]

def optLoopOptions : List String := ["正常工作", "线路环回", "设备环回", "双向环回"]

def e1LoopOptions : List String := ["正常工作", "线路环回", "设备环回"]

def ethModeOptions : List String := ["自动协商", "强制"]

/-- `eth_modal` appends the gigabit for a gigabit port and removes it for another. -/
def ethSpeedOptions (ge : Bool) : List String := if ge then ["10M", "100M", "1000M"] else ["10M", "100M"]

def ethDuplexOptions : List String := ["全双工", "半双工"]

def ethFctrlOptions : List String := ["开启", "关闭"]

/-- The post of `opt_modal`; its title is only shown. -/
def optModal (brd prt : Option Nat) (sw trap loop : String) : List Field :=
  [⟨"board", (numberText brd).toList⟩, ⟨"portno", (numberText prt).toList⟩,
    ⟨"opt_switch", (select swOptions sw).toList⟩,
    ⟨"opt_trap_mask", (select trapOptions trap).toList⟩,
    ⟨"opt_loop", (select optLoopOptions loop).toList⟩, ⟨"end", "NULL".toList⟩]

/-- The post of `eth_modal`. -/
def ethModal (ge : Bool) (brd prt : Option Nat) (sw mode speed duplex fctrl trap : String) :
    List Field :=
  [⟨"ge", (if ge then "G" else "F").toList⟩, ⟨"board", (numberText brd).toList⟩,
    ⟨"portno", (numberText prt).toList⟩, ⟨"eth_switch", (select swOptions sw).toList⟩,
    ⟨"eth_auto_nego", (select ethModeOptions mode).toList⟩,
    ⟨"eth_bandwidth", (select (ethSpeedOptions ge) speed).toList⟩,
    ⟨"eth_duplex", (select ethDuplexOptions duplex).toList⟩,
    ⟨"eth_flow_ctrl", (select ethFctrlOptions fctrl).toList⟩,
    ⟨"eth_trap_mask", (select trapOptions trap).toList⟩, ⟨"end", "NULL".toList⟩]

/-- The post of `e1_modal`. -/
def e1Modal (brd prt : Option Nat) (sw trap loop : String) : List Field :=
  [⟨"board", (numberText brd).toList⟩, ⟨"portno", (numberText prt).toList⟩,
    ⟨"e1_switch", (select swOptions sw).toList⟩,
    ⟨"e1_trap_mask", (select trapOptions trap).toList⟩,
    ⟨"e1_loop", (select e1LoopOptions loop).toList⟩, ⟨"end", "NULL".toList⟩]

/-- The post behind a line, confirmed as it is filled in: `local_opt_modal`,
`local_eth_modal` and `local_e1_modal`. -/
def localModal : Line → List Field
  | ⟨.opt, _, msg⟩ =>
    optModal (alphaton msg[0]?) (alphaton msg[1]?) (optSwitch msg) (optTrap msg) (optLoop msg)
  | ⟨.ge, _, msg⟩ =>
    ethModal true (alphaton msg[0]?) (alphaton msg[1]?) (ethSwitch msg) (ethWorkMode msg)
      (ethSpeed msg) (ethDuplex msg) (ethFctrl msg) (ethTrap msg)
  | ⟨.fe, _, msg⟩ =>
    ethModal false (alphaton msg[0]?) (alphaton msg[1]?) (ethSwitch msg) (ethWorkMode msg)
      (ethSpeed msg) (ethDuplex msg) (ethFctrl msg) (ethTrap msg)
  | ⟨.e1, _, msg⟩ =>
    e1Modal (alphaton msg[0]?) (alphaton msg[1]?) (e1Switch msg) (e1Trap msg) (e1Loop msg)

/-! ## What the server reads of a form -/

/-- The names of a form: the server tells them apart and does not cut them. The server cuts
a body at `&` and `=`, so a name with such a sign in it would not come back. -/
structure FormNames (names : List String) : Prop where
  distinct : (names.map ascii).Nodup
  uncut : ∀ name ∈ names, Uncut (ascii name)
  room : names.length ≤ maxCgiParameters
  two : 2 ≤ names.length

def optNames : List String := ["board", "portno", "opt_switch", "opt_trap_mask", "opt_loop", "end"]

def ethNames : List String :=
  ["ge", "board", "portno", "eth_switch", "eth_auto_nego", "eth_bandwidth", "eth_duplex",
    "eth_flow_ctrl", "eth_trap_mask", "end"]

def e1Names : List String := ["board", "portno", "e1_switch", "e1_trap_mask", "e1_loop", "end"]

theorem optNames_form : FormNames optNames := by
  constructor <;> decide

theorem ethNames_form : FormNames ethNames := by
  constructor <;> decide

theorem e1Names_form : FormNames e1Names := by
  constructor <;> decide

/-- The server reads the fields of such a form. -/
theorem extract_form {form : List Field} {names : List String} (ok : FormNames names)
    (named : form.map Field.name = names) :
    extractUriParameters (param form) = form.map Field.read := by
  subst named
  have room := ok.room
  have two := ok.two
  rw [List.length_map] at room two
  apply extractUriParameters_param form room
  · rintro rfl
    simp at two
  · intro field member
    exact ok.uncut _ (List.mem_map_of_mem member)

/-- A field of the form is found by its name. -/
theorem form_value {form : List Field} {names : List String} (ok : FormNames names)
    (named : form.map Field.name = names) {field : Field} (index : Nat)
    (here : form[index]? = some field) :
    (namedParam field.name (form.map Field.read)).bind Param.value = some (formValue field.value) := by
  have distinct := ok.distinct
  have member := List.mem_of_getElem? here
  subst named
  clear ok here
  induction form with
  | nil => cases member
  | cons head rest inductionHypothesis =>
    obtain ⟨other, further⟩ := List.nodup_cons.mp distinct
    rcases List.mem_cons.mp member with rfl | inRest
    · simp [namedParam, Field.read]
    · have passed : ascii head.name ≠ ascii field.name := by
        intro same
        exact other (same ▸ List.mem_map_of_mem (List.mem_map_of_mem inRest))
      have found := inductionHypothesis inRest further
      simpa [namedParam, Field.read, passed] using found

/-! ## Forms that change nothing -/

section unchanged
variable {width : Nat}

/-- A field that is submitted and stores, if anything, what the word already has. What a
form shows and what the server stores are two tables of texts, written down in two
languages; the field is where they have to meet. -/
def Leaves (params : List Param) (word : BitVec width) (field : PortField width) : Prop :=
  ∃ value, (namedParam field.cginame params).bind Param.value = some value ∧
    ((field.pfunc value).getD Assignment.keep).apply word = word

theorem Leaves.assigned {params : List Param} {word : BitVec width} {field : PortField width}
    (leaves : Leaves params word field) : (field.assigned params).apply word = word := by
  obtain ⟨value, found, kept⟩ := leaves
  rwa [PortField.assigned, found, Option.bind_some]

/-- Such a field is read safely where its port is one of the buffer. -/
theorem Leaves.safe {params : List Param} {word : BitVec width} {field : PortField width}
    (leaves : Leaves params word field) (size : Nat) (portno : Int)
    (inside : 0 ≤ portno ∧ portno < size) : FieldSafe size params portno field := by
  intro param named
  obtain ⟨value, found, _⟩ := leaves
  rw [named, Option.bind_some] at found
  exact ⟨value, found, fun _ => inside⟩

/-- Fields that each leave the word leave it together. -/
theorem assigned_unchanged {params : List Param} {word : BitVec width}
    {fields : List (PortField width)} (leaves : ∀ field ∈ fields, Leaves params word field) :
    (assigned params fields).apply word = word := by
  induction fields with
  | nil => exact Assignment.keep_apply word
  | cons field rest inductionHypothesis =>
    rw [PortCgi.assigned, Assignment.andThen_apply, (leaves field List.mem_cons_self).assigned]
    exact inductionHypothesis fun other member => leaves other (List.mem_cons_of_mem _ member)

/-- A field whose text stands for a bit-field's value, or is not recognised, leaves a
word with that value. -/
theorem Leaves.of_content {params : List Param} {word : BitVec width} {field : PortField width}
    (options : List String) (text : Nat → String) (offset size : Nat)
    (found : (namedParam field.cginame params).bind Param.value =
      some (formValue (select options (text (content offset size word))).toList))
    (each : ∀ value : Fin (2 ^ size),
      field.pfunc (formValue (select options (text value)).toList) =
          some (.field width offset size value) ∨
        field.pfunc (formValue (select options (text value)).toList) = none) :
    Leaves params word field := by
  refine ⟨_, found, ?_⟩
  have small : content offset size word < 2 ^ size := Nat.mod_lt _ (Nat.two_pow_pos size)
  rcases each ⟨_, small⟩ with stored | ignored
  · rw [stored, Option.getD_some]
    exact Assignment.field_content offset size word
  · rw [ignored, Option.getD_none, Assignment.keep_apply]

/-- The same for the two loop bits. -/
theorem Leaves.of_loop {params : List Param} {word : Byte} {field : PortField 8}
    (options : List String)
    (found : (namedParam field.cginame params).bind Param.value =
      some (formValue (select options (loopShown (content 1 1 word) (content 2 1 word))).toList))
    (each : ∀ circLoop devLoop : Fin 2,
      field.pfunc (formValue (select options (loopShown circLoop devLoop)).toList) =
          some (loopBits circLoop devLoop) ∨
        field.pfunc (formValue (select options (loopShown circLoop devLoop)).toList) = none) :
    Leaves params word field := by
  refine ⟨_, found, ?_⟩
  have circLoop : content 1 1 word < 2 := Nat.mod_lt _ (by decide)
  have devLoop : content 2 1 word < 2 := Nat.mod_lt _ (by decide)
  rcases each ⟨_, circLoop⟩ ⟨_, devLoop⟩ with stored | ignored
  · rw [stored, Option.getD_some, loopBits, Assignment.andThen_apply, Assignment.field_content,
      Assignment.field_content]
  · rw [ignored, Option.getD_none, Assignment.keep_apply]

end unchanged

/-! ## The fields of a form shown from a port -/

/-- The optical form filled in from a word. -/
def optFilled (brd prt : Option Nat) (cfg : Byte) : List Field :=
  optModal brd prt (enableShown (webOptConfig cfg).enable) (trapShown (webOptConfig cfg).trapMask)
    (loopShown (webOptConfig cfg).circLoop (webOptConfig cfg).devLoop)

/-- The Ethernet form filled in from a word. -/
def ethFilled (ge : Bool) (brd prt : Option Nat) (cfg : BitVec 16) : List Field :=
  ethModal ge brd prt (enableShown (webEthConfig cfg).enable) (modeShown (webEthConfig cfg).autoNego)
    (speedShown (webEthConfig cfg).bandwidth) (duplexShown (webEthConfig cfg).fullDuplex)
    (flowShown (webEthConfig cfg).flowCtrl) (trapShown (webEthConfig cfg).trapMask)

/-- The E1 form filled in from a word. -/
def e1Filled (brd prt : Option Nat) (cfg : Byte) : List Field :=
  e1Modal brd prt (enableShown (webE1Config cfg).enable) (trapShown (webE1Config cfg).trapMask)
    (loopShown (webE1Config cfg).circLoop (webE1Config cfg).devLoop)

section filled
variable (brd prt : Option Nat)

/-- An optical form filled in from a word leaves that word. -/
theorem opt_leaves (cfg : Byte) :
    ∀ field ∈ optFields, Leaves ((optFilled brd prt cfg).map Field.read) cfg field := by
  have read (index : Nat) (field : Field) (here : (optFilled brd prt cfg)[index]? = some field) :=
    form_value optNames_form rfl index here
  have switch := read 2 ⟨"opt_switch", (select swOptions (enableShown (content 7 1 cfg))).toList⟩ rfl
  have trap := read 3 ⟨"opt_trap_mask", (select trapOptions (trapShown (content 0 1 cfg))).toList⟩ rfl
  have loop := read 4 ⟨"opt_loop",
    (select optLoopOptions (loopShown (content 1 1 cfg) (content 2 1 cfg))).toList⟩ rfl
  intro field member
  simp only [optFields, List.mem_cons, List.not_mem_nil, or_false] at member
  rcases member with rfl | rfl | rfl
  · exact .of_content swOptions enableShown 7 1 switch (by decide)
  · exact .of_content trapOptions trapShown 0 1 trap (by decide)
  · exact .of_loop optLoopOptions loop (by decide)

/-- An E1 form leaves its word too: the text for both loops is no option. -/
theorem e1_leaves (cfg : Byte) :
    ∀ field ∈ e1Fields, Leaves ((e1Filled brd prt cfg).map Field.read) cfg field := by
  have read (index : Nat) (field : Field) (here : (e1Filled brd prt cfg)[index]? = some field) :=
    form_value e1Names_form rfl index here
  have switch := read 2 ⟨"e1_switch", (select swOptions (enableShown (content 7 1 cfg))).toList⟩ rfl
  have trap := read 3 ⟨"e1_trap_mask", (select trapOptions (trapShown (content 0 1 cfg))).toList⟩ rfl
  have loop := read 4 ⟨"e1_loop",
    (select e1LoopOptions (loopShown (content 1 1 cfg) (content 2 1 cfg))).toList⟩ rfl
  intro field member
  simp only [e1Fields, List.mem_cons, List.not_mem_nil, or_false] at member
  rcases member with rfl | rfl | rfl
  · exact .of_content swOptions enableShown 7 1 switch (by decide)
  · exact .of_content trapOptions trapShown 0 1 trap (by decide)
  · exact .of_loop e1LoopOptions loop (by decide)

/-- An Ethernet form leaves its word on either kind of port: the speeds that it cannot
show are no options. -/
theorem eth_leaves (ge : Bool) (cfg : BitVec 16) :
    ∀ field ∈ ethFields, Leaves ((ethFilled ge brd prt cfg).map Field.read) cfg field := by
  have read (index : Nat) (field : Field) (here : (ethFilled ge brd prt cfg)[index]? = some field) :=
    form_value ethNames_form rfl index here
  have switch := read 3 ⟨"eth_switch", (select swOptions (enableShown (content 15 1 cfg))).toList⟩ rfl
  have mode := read 4 ⟨"eth_auto_nego", (select ethModeOptions (modeShown (content 3 1 cfg))).toList⟩
    rfl
  have speed := read 5 ⟨"eth_bandwidth",
    (select (ethSpeedOptions ge) (speedShown (content 5 2 cfg))).toList⟩ rfl
  have duplex := read 6 ⟨"eth_duplex",
    (select ethDuplexOptions (duplexShown (content 4 1 cfg))).toList⟩ rfl
  have fctrl := read 7 ⟨"eth_flow_ctrl",
    (select ethFctrlOptions (flowShown (content 14 1 cfg))).toList⟩ rfl
  have trap := read 8 ⟨"eth_trap_mask",
    (select trapOptions (trapShown (content 13 1 cfg))).toList⟩ rfl
  intro field member
  simp only [ethFields, List.mem_cons, List.not_mem_nil, or_false] at member
  rcases member with rfl | rfl | rfl | rfl | rfl | rfl
  · exact .of_content swOptions enableShown 15 1 switch (by decide)
  · exact .of_content ethModeOptions modeShown 3 1 mode (by decide)
  · refine .of_content (ethSpeedOptions ge) speedShown 5 2 speed ?_
    cases ge with
    | true => decide
    | false => decide
  · exact .of_content ethDuplexOptions duplexShown 4 1 duplex (by decide)
  · exact .of_content ethFctrlOptions flowShown 14 1 fctrl (by decide)
  · exact .of_content trapOptions trapShown 13 1 trap (by decide)

end filled

/-- The form behind a line is the one that its port's word fills in. -/
theorem localModal_eq (control : WebControl) (line : Nat) (port : Port)
    (digit : port.portno.val < 10) :
    localModal (lineOf control line port) =
      match port with
      | ⟨.opt, board, portno⟩ =>
        optFilled (some board) (some portno) ((control.opt board).config.words portno)
      | ⟨.ge, board, portno⟩ =>
        ethFilled true (some board) (some portno) ((control.eth board).ge.words portno)
      | ⟨.fe, board, portno⟩ =>
        ethFilled false (some board) (some portno) ((control.eth board).fe.words portno)
      | ⟨.e1, board, portno⟩ =>
        e1Filled (some board) (some portno) ((control.e1 board).config.words portno) := by
  obtain ⟨brd, prt⟩ := lineOf_address control line port digit
  obtain ⟨cfg, _⟩ := lineOf_numbers control line port
  obtain ⟨kind, board, portno⟩ := port
  simp only [lineOf] at brd prt cfg
  cases kind with
  | opt =>
    obtain ⟨switch, loop, trap⟩ := opt_columns cfg
    simp only [lineOf, localModal, brd, prt, switch, loop, trap]
    rfl
  | ge =>
    obtain ⟨switch, mode, speed, duplex, fctrl, trap⟩ := eth_columns cfg
    simp only [lineOf, localModal, brd, prt, switch, mode, speed, duplex, fctrl, trap]
    rfl
  | fe =>
    obtain ⟨switch, mode, speed, duplex, fctrl, trap⟩ := eth_columns cfg
    simp only [lineOf, localModal, brd, prt, switch, mode, speed, duplex, fctrl, trap]
    rfl
  | e1 =>
    obtain ⟨switch, loop, trap⟩ := e1_columns cfg
    simp only [lineOf, localModal, brd, prt, switch, loop, trap]
    rfl

/-! ## A form that is posted unchanged -/

/-- The page of a kind of ports. -/
def pageOf : PortKind → PortPage
  | .opt => .opt
  | .ge => .eth
  | .fe => .eth
  | .e1 => .e1

/-- A frame that carries the array which the tables have for a port's board. It is the frame
that the device gets which is asked, and not the buffer on the way. -/
structure Stores (control : WebControl) (port : Port) (write : ConfigWrite) : Prop where
  kind : write.kind = port.kind
  board : write.board = port.board
  array : port.kind.decode (ctrlSendDybFrame write.arg).body =
    (cached control port.kind port.board).words

/-- A number of one digit that is submitted is read back. -/
theorem atoi_numberText {n : Nat} (small : n < 10) :
    atoi (formValue (numberText (some n)).toList) = n := by
  have all : ∀ n : Fin 10, atoi (formValue (numberText (some n.val)).toList) = n.val := by
    decide
  exact all ⟨n, small⟩

/-- A post that names a port and leaves its word. The form's own texts are what is read: the
numbers of board and port are printed by the script and parsed by the server. -/
structure Filled (control : WebControl) (port : Port) (params : List Param) : Prop where
  two : 2 ≤ params.length
  board : (namedParam "board" params).bind Param.value =
    some (formValue (numberText (some port.board.val)).toList)
  portno : (namedParam "portno" params).bind Param.value =
    some (formValue (numberText (some port.portno.val)).toList)
  ge : pageOf port.kind = .eth → HasValue "ge" params
  kind : (pageOf port.kind).kind params = port.kind
  leaves : ∀ field ∈ kindFields port.kind, Leaves params (port.config control) field

section post
variable {control : WebControl} {port : Port} {params : List Param}

/-- The numbers that the server takes from the post. -/
theorem Filled.numbers (filled : Filled control port params) (digit : port.portno.val < 10) :
    boardOf params = port.board.val ∧ portOf params = port.portno.val := by
  have boards : port.board.val < 10 := Nat.lt_trans port.board.isLt (by decide)
  constructor
  · rw [boardOf, textOf, filled.board, Option.getD_some, atoi_numberText boards]
  · rw [portOf, textOf, filled.portno, Option.getD_some, atoi_numberText digit]

/-- Every access of the handler is covered. -/
theorem Filled.request (filled : Filled control port params) (digit : port.portno.val < 10) (size : Nat)
    (room : port.portno.val < size) : PortRequest size (kindFields port.kind) params := by
  obtain ⟨board, portno⟩ := filled.numbers digit
  refine ⟨⟨_, filled.board⟩, ⟨_, filled.portno⟩, ?_, ?_⟩
  · have inside := port.board.isLt
    omega
  · intro field member
    apply (filled.leaves field member).safe
    omega

/-- The handler serves the post. -/
theorem Filled.safe (filled : Filled control port params) (digit : port.portno.val < 10) (codes : Codes)
    (link : ControlTables.Link) (web : WebState) :
    Safe ((pageOf port.kind).cgi codes link params web) := by
  have request := filled.request digit
  have ge := filled.ge
  obtain ⟨kind, board, portno⟩ := port
  let env : CgiHandlers.Environment := { sampleEnvironment with codes := codes, link := link }
  have small : portno.val < 16 := Nat.lt_of_lt_of_le portno.isLt (count_le kind)
  cases kind with
  | opt => exact (@safe_opt_iff env params web).mpr fun _ => request 16 small
  | ge => exact (@safe_eth_iff env params web).mpr fun _ => ⟨ge rfl, request 16 small⟩
  | fe => exact (@safe_eth_iff env params web).mpr fun _ => ⟨ge rfl, request 16 small⟩
  | e1 => exact (@safe_e1_iff env params web).mpr fun _ => request 8 portno.isLt

/-- A served post that names a port and leaves its word sends the array of the tables. -/
theorem Filled.stores (filled : Filled control port params) (digit : port.portno.val < 10)
    {codes : Codes} {link : ControlTables.Link} {web : WebState} {served : Served}
    (same : web.control = control)
    (ok : (pageOf port.kind).cgi codes link params web = .ok served) :
    ∃ write, served.write = some write ∧ Stores control port write := by
  have configured := PortPage.cgi_configured (pageOf port.kind) ok
  obtain ⟨board, portno⟩ := filled.numbers digit
  obtain ⟨write, sent, boards, sends⟩ := configured.sent filled.two board
  have kind : write.kind = port.kind := sends.kind.trans filled.kind
  refine ⟨write, sent, kind, boards, ?_⟩
  have array := sends.array
  rw [same, portno, Int.toNat_natCast, boards] at array
  rw [kind] at array
  rw [array]
  apply assignAt_of_apply_eq
  intro index here
  have addressed : index = port.portno := Fin.ext here
  rw [addressed]
  exact assigned_unchanged filled.leaves

end post

/-- The server reads the form behind a line as a post that names the line's port and
leaves its word. -/
theorem localModal_filled (control : WebControl) (line : Nat) (port : Port)
    (digit : port.portno.val < 10) :
    extractUriParameters (param (localModal (lineOf control line port))) =
        (localModal (lineOf control line port)).map Field.read ∧
      Filled control port ((localModal (lineOf control line port)).map Field.read) := by
  rw [localModal_eq control line port digit]
  obtain ⟨kind, board, portno⟩ := port
  cases kind with
  | opt =>
    refine ⟨extract_form optNames_form rfl, ?_⟩
    have read (index : Nat) (field : Field) (here : (optFilled (some board) (some portno)
        ((control.opt board).config.words portno))[index]? = some field) :=
      form_value optNames_form rfl index here
    constructor
    · exact optNames_form.two
    · exact read 0 ⟨"board", (numberText (some board)).toList⟩ rfl
    · exact read 1 ⟨"portno", (numberText (some portno)).toList⟩ rfl
    · rintro ⟨⟩
    · rfl
    · exact opt_leaves _ _ _
  | ge =>
    refine ⟨extract_form ethNames_form rfl, ?_⟩
    have read (index : Nat) (field : Field) (here : (ethFilled true (some board) (some portno)
        ((control.eth board).ge.words portno))[index]? = some field) :=
      form_value ethNames_form rfl index here
    have ge := read 0 ⟨"ge", "G".toList⟩ rfl
    constructor
    · exact ethNames_form.two
    · exact read 1 ⟨"board", (numberText (some board)).toList⟩ rfl
    · exact read 2 ⟨"portno", (numberText (some portno)).toList⟩ rfl
    · exact fun _ => ⟨_, ge⟩
    · have first : ((formValue "G".toList).head? == some 71) = true := by decide
      simp only [pageOf, PortPage.kind, textOf, ge, Option.getD_some, first, if_true]
    · exact eth_leaves _ _ true _
  | fe =>
    refine ⟨extract_form ethNames_form rfl, ?_⟩
    have read (index : Nat) (field : Field) (here : (ethFilled false (some board) (some portno)
        ((control.eth board).fe.words portno))[index]? = some field) :=
      form_value ethNames_form rfl index here
    have ge := read 0 ⟨"ge", "F".toList⟩ rfl
    constructor
    · exact ethNames_form.two
    · exact read 1 ⟨"board", (numberText (some board)).toList⟩ rfl
    · exact read 2 ⟨"portno", (numberText (some portno)).toList⟩ rfl
    · exact fun _ => ⟨_, ge⟩
    · have first : ((formValue "F".toList).head? == some 71) = false := by decide
      simp only [pageOf, PortPage.kind, textOf, ge, Option.getD_some, first, Bool.false_eq_true,
        if_false]
    · exact eth_leaves _ _ false _
  | e1 =>
    refine ⟨extract_form e1Names_form rfl, ?_⟩
    have read (index : Nat) (field : Field) (here : (e1Filled (some board) (some portno)
        ((control.e1 board).config.words portno))[index]? = some field) :=
      form_value e1Names_form rfl index here
    constructor
    · exact e1Names_form.two
    · exact read 0 ⟨"board", (numberText (some board)).toList⟩ rfl
    · exact read 1 ⟨"portno", (numberText (some portno)).toList⟩ rfl
    · rintro ⟨⟩
    · rfl
    · exact e1_leaves _ _ _

/-! ## Both ways -/

/-- A line shows a port, and its form posted unchanged stores what the port has. A user who
opens a line and submits it without a change thereby writes nothing new. -/
structure RoundTrip (codes : Codes) (control : WebControl) (line : Line) (port : Port) : Prop where
  kind : line.kind = port.kind
  board : alphaton line.msg[0]? = some port.board.val
  portno : alphaton line.msg[1]? = some port.portno.val
  cfg : line.cfg = (port.config control).setWidth 32
  state : line.state = (port.state control).map (·.setWidth 32)
  cells : line.cells = portCells control line.line port
  posted : ∀ (link : ControlTables.Link) (web : WebState), web.control = control →
    ∃ served write,
      (pageOf port.kind).cgi codes link (extractUriParameters (param (localModal line))) web =
          .ok served ∧
        served.write = some write ∧ Stores control port write

/-- A line that is made of a port returns it. -/
theorem lineOf_roundTrip (codes : Codes) (control : WebControl) (line : Nat) (port : Port)
    (digit : port.portno.val < 10) : RoundTrip codes control (lineOf control line port) port := by
  obtain ⟨board, portno⟩ := lineOf_address control line port digit
  obtain ⟨cfg, state⟩ := lineOf_numbers control line port
  obtain ⟨read, filled⟩ := localModal_filled control line port digit
  refine ⟨rfl, board, portno, cfg, state, lineOf_cells control line port digit, ?_⟩
  intro link web same
  rw [read]
  obtain ⟨served, ok⟩ := filled.safe digit codes link web
  obtain ⟨write, sent, stores⟩ := filled.stores digit same ok
  exact ⟨served, write, ok, sent, stores⟩

/-- A relation between numbered images and their origins holds of the whole lists. -/
theorem forall₂_mapIdx {α β : Type} {related : β → α → Prop} {image : Nat → α → β} {origins : List α}
    (each : ∀ index, ∀ origin ∈ origins, related (image index origin) origin) :
    List.Forall₂ related (origins.mapIdx image) origins := by
  induction origins generalizing image with
  | nil => exact List.Forall₂.nil
  | cons origin rest inductionHypothesis =>
    rw [List.mapIdx_cons]
    refine List.Forall₂.cons (each 0 origin List.mem_cons_self) (inductionHypothesis ?_)
    exact fun index other member => each (index + 1) other (List.mem_cons_of_mem _ member)

/-- The lines of the ports of a kind return them. -/
theorem kindLines_roundTrip (codes : Codes) {control : WebControl} (fits : AmountsFit control)
    (kind : PortKind) :
    List.Forall₂ (RoundTrip codes control) (kindLines control kind) (kindPorts control kind) := by
  apply forall₂_mapIdx
  intro line port member
  obtain ⟨_, inside⟩ := (mem_kindPorts control kind port).mp member
  have bound := fits.amount_le port.kind port.board
  have few : maxAmount port.kind ≤ 8 := by
    cases port.kind <;> decide
  exact lineOf_roundTrip codes control line port (by omega)

/-- A page shows the ports of its kinds whose number is below the amount of their board. -/
def Holds (control : WebControl) (page : PortPage) (port : Port) : Prop :=
  pageOf port.kind = page ∧ port.portno.val < amount control port.kind port.board

/-- The order of a page: the gigabit ports before the others, and ports of a kind by board
and number. The script tells the two kinds apart by the separator alone. -/
def Port.InOrder (first second : Port) : Prop :=
  first.kind = .ge ∧ second.kind = .fe ∨ first.kind = second.kind ∧ Port.Before first second

/-- The ports of a page are the ones that it should show, in its order. -/
theorem pagePorts_spec (control : WebControl) (page : PortPage) :
    (∀ port, port ∈ pagePorts control page ↔ Holds control page port) ∧
      (pagePorts control page).Pairwise Port.InOrder := by
  have member := mem_kindPorts control
  have ordered (kind : PortKind) : (kindPorts control kind).Pairwise Port.InOrder := by
    apply List.Pairwise.imp_of_mem _ (kindPorts_ordered control kind)
    intro first second inFirst inSecond before
    have same := ((member kind first).mp inFirst).1.trans ((member kind second).mp inSecond).1.symm
    exact Or.inr ⟨same, before⟩
  have one (kind : PortKind) (only : ∀ other, pageOf other = pageOf kind ↔ other = kind) (port : Port) :
      port ∈ kindPorts control kind ↔ Holds control (pageOf kind) port := by
    rw [member, Holds, only]
  cases page with
  | opt =>
    refine ⟨one .opt ?_, ordered .opt⟩
    intro other
    cases other <;> simp [pageOf]
  | eth =>
    constructor
    · rintro ⟨kind, board, portno⟩
      simp only [pagePorts, List.mem_append, member, Holds]
      cases kind <;> simp [pageOf]
    · rw [pagePorts, List.pairwise_append]
      refine ⟨ordered .ge, ordered .fe, ?_⟩
      intro first inFirst second inSecond
      exact Or.inl ⟨((member .ge first).mp inFirst).1, ((member .fe second).mp inSecond).1⟩
  | e1 =>
    refine ⟨one .e1 ?_, ordered .e1⟩
    intro other
    cases other <;> simp [pageOf]

/-- For all tables that refreshes leave and every read of a port page that succeeds,
whatever the link answers: the response is shown as lines and not as a failure, one line for
each port that the tables then hold and in the order of the ports, each line with the port's
board, number, configuration and state; and each line's form, posted as it is filled in,
makes the handler send the configuration that the tables hold. It goes through the handler's
text, the script's parser, the form that it fills in and the handler of the post. Words of
any content are covered, also those that no option of the form shows. -/
theorem port_pages_round_trip (codes : Codes) (control : WebControl) (reached : Reached codes control)
    (page : PortPage) (link : ControlTables.Link) (crRemoteChosen : Bool)
    (success : 0 ≤ (readPage codes link crRemoteChosen page control).1) :
    let after := (readPage codes link crRemoteChosen page control).2
    ∃ lines ports,
      pageReadData page (responseText (readBody codes link crRemoteChosen page control)) = some lines ∧
        List.Forall₂ (RoundTrip codes after) lines ports ∧
          (∀ port, port ∈ ports ↔ Holds after page port) ∧ ports.Pairwise Port.InOrder := by
  intro after
  have fits : AmountsFit after :=
    read_fits codes link crRemoteChosen (pageReader page) control reached.amounts
  have read := pageReadData_eq codes link crRemoteChosen page control success (fits.page page)
  refine ⟨_, pagePorts after page, read, ?_, pagePorts_spec after page⟩
  have kinds := kindLines_roundTrip codes fits
  cases page with
  | opt => exact kinds .opt
  | eth => exact List.rel_append (kinds .ge) (kinds .fe)
  | e1 => exact kinds .e1

/-- A link that reports one main control board and answers every request. -/
def mainBoardLink : ControlTables.Link := fun _ => some ⟨0, [1, 0, 0x32, 0x01, 0x06, 0x80]⟩

/-- The Ethernet ports of one main control board. -/
theorem mainBoard_round_trip :
    let after := (readPage sampleCodes mainBoardLink false .eth zeroControl).2
    ∃ lines ports,
      pageReadData .eth (responseText (readBody sampleCodes mainBoardLink false .eth zeroControl)) =
          some lines ∧
        List.Forall₂ (RoundTrip sampleCodes after) lines ports ∧
          (∀ port, port ∈ ports ↔ Holds after .eth port) ∧ ports.Pairwise Port.InOrder :=
  port_pages_round_trip sampleCodes zeroControl ⟨[], rfl⟩ .eth mainBoardLink false (by decide)

end UcosProxy.PortForms
