import UcosProxy.CgiSafety
import UcosProxy.PortFrames

/-!
# What a configuration request changes

A port's configuration word is a record of settings, each in its own bits: some have one
bit, the bandwidth and the loop have two. The layout and the meaning of each setting's
values are stated here on their own, and the fields that the handlers go through are
shown to be these settings. No two of a kind share a bit, so the order in which they are
stored does not matter, and what a request does to one of them is independent of all
others.

The parameters of a request come in any order, with any others among them, as long as no
name comes twice. A lookup then finds the same parameter wherever it stands.
-/

namespace UcosProxy.PortChanges

open Bytes UriParameters CgiAccess BitFields ControlRequire ControlTables PortArrays PortCgi
  PortFrames CgiSafety

/-! ## The settings of a port -/

/-- A setting: its parameter, its bits, and the number that each value stands for. A
value is known by how it starts. -/
structure Setting where
  cginame : String
  offset : Nat
  size : Nat
  values : List (String × Nat)

/-- A port that is enabled or shut down. -/
def switchSetting (cginame : String) (bit : Nat) : Setting :=
  ⟨cginame, bit, 1, [(cgistrEnable, 1), (cgistrDisable, 0)]⟩

/-- A port whose traps are masked. -/
def trapMaskSetting (cginame : String) (bit : Nat) : Setting :=
  ⟨cginame, bit, 1, [(cgistrTrapMask, 1), (cgistrTrapNomask, 0)]⟩

/-- The loops of a port: the circuit's is bit 1, the device's bit 2. -/
def loopSetting (cginame : String) (double : List (String × Nat)) : Setting :=
  ⟨cginame, 1, 2,
    [(cgistrLoopNormal, 0), (cgistrLoopCircuit, 1), (cgistrLoopDevice, 2)] ++ double⟩

/-- The settings of an Ethernet port. -/
def ethSettings : List Setting :=
  [switchSetting "eth_switch" 15,
    ⟨"eth_auto_nego", 3, 1, [(cgistrAutoNego, 1), (cgistrForce, 0)]⟩,
    ⟨"eth_bandwidth", 5, 2, [("10M", 0), ("100M", 1), ("1000M", 2)]⟩,
    ⟨"eth_duplex", 4, 1, [(cgistrDuplexHalf, 0), (cgistrDuplexFull, 1)]⟩,
    ⟨"eth_flow_ctrl", 14, 1, [(cgistrOpen, 1), (cgistrClose, 0)]⟩,
    trapMaskSetting "eth_trap_mask" 13]

/-- The settings of a port of a kind. -/
def kindSettings : PortKind → List Setting
  | .opt => [switchSetting "opt_switch" 7, trapMaskSetting "opt_trap_mask" 0,
      loopSetting "opt_loop" [(cgistrLoopDouble, 3)]]
  | .ge => ethSettings
  | .fe => ethSettings
  | .e1 => [switchSetting "e1_switch" 7, trapMaskSetting "e1_trap_mask" 0,
      loopSetting "e1_loop" []]

/-- The number that a request asks a setting to have: none when the parameter is absent
or its value is not one of the setting's. -/
def Setting.requested (setting : Setting) (params : List Param) : Option Nat :=
  ((namedParam setting.cginame params).bind Param.value).bind fun text =>
    (setting.values.find? fun value => mystrncmp text (ascii value.1)).map Prod.snd

/-- A bit is none of the setting's. Such a bit is status, or reserved, or another setting's. -/
def Setting.Outside (setting : Setting) (index : Nat) : Prop :=
  index < setting.offset ∨ setting.offset + setting.size ≤ index

instance (setting : Setting) (index : Nat) : Decidable (setting.Outside index) :=
  inferInstanceAs (Decidable (_ ∨ _))

/-- Two settings share no bit. It is what makes the order of the fields immaterial. -/
def Setting.Apart (setting other : Setting) : Prop :=
  setting.offset + setting.size ≤ other.offset ∨ other.offset + other.size ≤ setting.offset

instance (setting other : Setting) : Decidable (setting.Apart other) :=
  inferInstanceAs (Decidable (_ ∨ _))

/-- A setting lies inside its word, and its numbers inside the setting. A larger number
would lose its upper bits in the field, and no value asks for one. -/
structure Setting.Fits (width : Nat) (setting : Setting) : Prop where
  inside : setting.offset + setting.size ≤ width
  small : ∀ value ∈ setting.values, value.2 < 2 ^ setting.size

/-- The settings of a kind fit their word and share no bit. -/
theorem kindSettings_apart (kind : PortKind) : (kindSettings kind).Pairwise Setting.Apart := by
  cases kind <;> decide

theorem kindSettings_fit (kind : PortKind) :
    ∀ setting ∈ kindSettings kind, setting.Fits kind.width := by
  have inside : ∀ kind, ∀ setting ∈ kindSettings kind,
      setting.offset + setting.size ≤ PortKind.width kind := by decide
  have small : ∀ kind, ∀ setting ∈ kindSettings kind, ∀ value ∈ setting.values,
      value.2 < 2 ^ setting.size := by decide
  exact fun setting member => ⟨inside kind setting member, small kind setting member⟩

/-- The field that stores a setting. -/
def Setting.portField (width : Nat) (setting : Setting) : PortField width where
  cginame := setting.cginame
  pfunc := recognise (setting.values.map fun value =>
    (value.1, .field width setting.offset setting.size value.2))

/-- The two loop bits are one number of two. -/
theorem loopBits_eq (circLoop devLoop : Fin 2) :
    loopBits circLoop devLoop = .field 8 1 2 (circLoop + 2 * devLoop) := by
  revert circLoop devLoop
  decide

/-- The handlers go through the settings of their kind. -/
theorem kindFields_eq (kind : PortKind) :
    kindFields kind = (kindSettings kind).map (Setting.portField kind.width) := by
  have normal : loopBits 0 0 = .field 8 1 2 0 := loopBits_eq 0 0
  have circuit : loopBits 1 0 = .field 8 1 2 1 := loopBits_eq 1 0
  have device : loopBits 0 1 = .field 8 1 2 2 := loopBits_eq 0 1
  have double : loopBits 1 1 = .field 8 1 2 3 := loopBits_eq 1 1
  cases kind with
  | opt =>
    simp only [kindFields, optFields, optWriteFrameSwitch, optWriteFrameTrapMask, optWriteFrameLoop,
      normal, circuit, device, double]
    rfl
  | ge => rfl
  | fe => rfl
  | e1 =>
    simp only [kindFields, e1Fields, e1WriteFrameSwitch, e1WriteFrameTrapMask, e1WriteFrameLoop,
      normal, circuit, device]
    rfl

/-! ## What a request does to a word -/

section word
variable {width : Nat} {params : List Param}

/-- A setting's field stores the number that its value stands for. -/
theorem Setting.pfunc_eq (setting : Setting) (text : List Byte) :
    (setting.portField width).pfunc text =
      ((setting.values.find? fun value => mystrncmp text (ascii value.1)).map Prod.snd).map
        (.field width setting.offset setting.size) := by
  simp only [portField, recognise, List.find?_map, Option.map_map]
  rfl

/-- What a setting's field assigns: the number that is asked for, or nothing. -/
theorem Setting.assigned_eq (setting : Setting) (params : List Param) :
    (setting.portField width).assigned params =
      ((setting.requested params).map (.field width setting.offset setting.size)).getD
        Assignment.keep := by
  have name : (setting.portField width).cginame = setting.cginame := rfl
  unfold PortField.assigned Setting.requested
  rw [name]
  cases (namedParam setting.cginame params).bind Param.value with
  | none => rfl
  | some text => simp only [Option.bind_some, Setting.pfunc_eq]

/-- A request asks for numbers that fit the setting. -/
theorem Setting.requested_small {setting : Setting} (fits : setting.Fits width) {number : Nat}
    (asked : setting.requested params = some number) : number < 2 ^ setting.size := by
  obtain ⟨text, _, recognised⟩ := Option.bind_eq_some_iff.mp asked
  obtain ⟨value, found, rfl⟩ := Option.map_eq_some_iff.mp recognised
  exact fits.small value (List.mem_of_find?_eq_some found)

/-- One setting changes its own bits only. -/
theorem Setting.assigned_outside (setting : Setting) (params : List Param) (word : BitVec width)
    {index : Nat} (outside : setting.Outside index) :
    (((setting.portField width).assigned params).apply word).getLsbD index = word.getLsbD index := by
  rw [setting.assigned_eq]
  cases setting.requested params with
  | none =>
    simp only [Option.map_none, Option.getD_none, Assignment.keep_apply]
  | some number =>
    simp only [Option.map_some, Option.getD_some]
    by_cases bound : index < width
    · rw [Assignment.getLsbD_field_apply _ _ _ _ _ bound, if_neg]
      unfold Outside at outside
      omega
    · rw [BitVec.getLsbD_of_ge _ _ (Nat.le_of_not_lt bound),
        BitVec.getLsbD_of_ge _ _ (Nat.le_of_not_lt bound)]

/-- One setting takes the number that is asked for. -/
theorem Setting.assigned_content {setting : Setting} (fits : setting.Fits width)
    (word : BitVec width) :
    content setting.offset setting.size (((setting.portField width).assigned params).apply word) =
      (setting.requested params).getD (content setting.offset setting.size word) := by
  rw [setting.assigned_eq]
  cases asked : setting.requested params with
  | none => simp only [Option.map_none, Option.getD_none, Assignment.keep_apply]
  | some number =>
    simp only [Option.map_some, Option.getD_some]
    exact content_field_same word fits.inside (Setting.requested_small fits asked)

/-- All settings together change none but their own bits. -/
theorem assigned_outside (settings : List Setting) (params : List Param) (word : BitVec width)
    {index : Nat} (outside : ∀ setting ∈ settings, setting.Outside index) :
    ((assigned params (settings.map (Setting.portField width))).apply word).getLsbD index =
      word.getLsbD index := by
  induction settings generalizing word with
  | nil => simp only [List.map_nil, assigned, Assignment.keep_apply]
  | cons setting rest inductionHypothesis =>
    rw [List.map_cons, assigned, Assignment.andThen_apply,
      inductionHypothesis _ fun other member => outside other (List.mem_cons_of_mem _ member),
      setting.assigned_outside params word (outside setting List.mem_cons_self)]

/-- Each of several settings takes the number that is asked for, whatever the others
take. -/
theorem assigned_content {settings : List Setting} (apart : settings.Pairwise Setting.Apart)
    (fit : ∀ setting ∈ settings, setting.Fits width) (word : BitVec width) (setting : Setting)
    (member : setting ∈ settings) :
    content setting.offset setting.size
        ((assigned params (settings.map (Setting.portField width))).apply word) =
      (setting.requested params).getD (content setting.offset setting.size word) := by
  induction settings generalizing word with
  | nil => cases member
  | cons first rest inductionHypothesis =>
    obtain ⟨firstApart, restApart⟩ := List.pairwise_cons.mp apart
    have later : ∀ other ∈ rest, other.Fits width := fun other inside =>
      fit other (List.mem_cons_of_mem _ inside)
    rw [List.map_cons, assigned, Assignment.andThen_apply]
    rcases List.mem_cons.mp member with rfl | inside
    · -- The settings behind it leave the bits of the first one.
      rw [← Setting.assigned_content (fit setting List.mem_cons_self) word]
      apply content_congr
      intro index behind before
      apply assigned_outside
      intro other inside
      have away := firstApart other inside
      unfold Setting.Apart at away
      unfold Setting.Outside
      omega
    · rw [inductionHypothesis restApart later _ inside]
      congr 1
      apply content_congr
      intro index behind before
      apply Setting.assigned_outside
      have away := firstApart setting inside
      unfold Setting.Apart at away
      unfold Setting.Outside
      omega

end word

/-! ## The order of the parameters -/

section order
variable {params params' : List Param}

/-- Where no name comes twice, a lookup finds the same in any order. -/
theorem namedParam_perm (permuted : params.Perm params')
    (distinct : (params.map Param.name).Nodup) (name : String) :
    namedParam name params = namedParam name params' := by
  apply List.find?_eq_find?_of_perm permuted
  intro first named second named'
  simp only [Set.mem_ofPred_eq, decide_eq_true_eq] at named named'
  exact List.inj_on_of_nodup_map distinct named.1 named'.1 (named.2.trans named'.2.symm)

/-- The value of a name is that of the parameter it finds. -/
theorem valueOf_congr {name : String} (same : namedParam name params = namedParam name params') :
    valueOf name params = valueOf name params' := by
  unfold valueOf pcValue
  rw [findCgiParameter_bind, findCgiParameter_bind, same]

/-- One field depends on the parameter it finds. -/
theorem writeFrame_congr {width count : Nat} (portno : Int) (buf : Fin count → BitVec width)
    (field : PortField width)
    (same : namedParam field.cginame params = namedParam field.cginame params') :
    writeFrame params portno buf field = writeFrame params' portno buf field := by
  have values := valueOf_congr same
  have absent := findCgiParameter_eq_none_iff field.cginame params
  have absent' := findCgiParameter_eq_none_iff field.cginame params'
  rw [same] at absent
  unfold writeFrame
  unfold valueOf at values
  cases found : findCgiParameter (ascii field.cginame) params with
  | none =>
    have none' := absent'.mpr (absent.mp found)
    rw [none']
  | some iIndex =>
    cases found' : findCgiParameter (ascii field.cginame) params' with
    | none =>
      have none := absent.mpr (absent'.mp found')
      rw [none] at found
      cases found
    | some iIndex' =>
      rw [found, found'] at values
      simp only [values]

/-- The whole plan depends on what the names find. -/
theorem configure_congr {width count : Nat} (fields : List (PortField width))
    (load : Board → Fin count → BitVec width)
    (frame : Board → (Fin count → BitVec width) → WebDybArg)
    (same : ∀ name, namedParam name params = namedParam name params') :
    configure fields load frame params = configure fields load frame params' := by
  have frames (portno : Int) (buf : Fin count → BitVec width) :
      writeFrames params portno fields buf = writeFrames params' portno fields buf := by
    induction fields generalizing buf with
    | nil => rfl
    | cons field rest inductionHypothesis =>
      simp only [writeFrames, writeFrame_congr portno buf field (same field.cginame),
        inductionHypothesis]
  unfold configure
  simp only [valueOf_congr (same "board"), valueOf_congr (same "portno"), frames]

/-- A handler serves the same whatever the order of the parameters. -/
theorem cgi_perm (codes : Codes) (link : Link) (web : WebState) (page : PortPage)
    (permuted : params.Perm params') (distinct : (params.map Param.name).Nodup) :
    page.cgi codes link params' web = page.cgi codes link params web := by
  have same (name : String) : namedParam name params' = namedParam name params :=
    (namedParam_perm permuted distinct name).symm
  cases page with
  | opt =>
    simp only [PortPage.cgi, optCgiInterface, permuted.length_eq, configure_congr _ _ _ same]
  | eth =>
    simp only [PortPage.cgi, ethCgiInterface, permuted.length_eq, valueOf_congr (same "ge"),
      configure_congr _ _ _ same]
  | e1 =>
    simp only [PortPage.cgi, e1CgiInterface, permuted.length_eq, configure_congr _ _ _ same]

end order

/-! ## The frame of a request -/

/-- Between the cached array and the one in the frame, nothing but the addressed port
differs, in it nothing but its settings, and each of these has the number that is asked for,
or else the one it had. It is stated on the settings' own bits, so it says what a device
makes of the frame, and does not repeat how the handler builds it. -/
structure PortChange (params : List Param) (kind : PortKind) (port : Fin kind.count)
    (before after : PortArray kind) : Prop where
  others : ∀ other, other ≠ port → after other = before other
  settings : ∀ setting ∈ kindSettings kind,
    content setting.offset setting.size (after port) =
      (setting.requested params).getD (content setting.offset setting.size (before port))
  reserved : ∀ index, (∀ setting ∈ kindSettings kind, setting.Outside index) →
    (after port).getLsbD index = (before port).getLsbD index

/-- The assignment of a request makes such a change. -/
theorem assignAt_portChange (params : List Param) (kind : PortKind) (port : Fin kind.count)
    (before : PortArray kind) :
    PortChange params kind port before
      (assignAt (assigned params (kindFields kind)) port.val before) := by
  have addressed : assignAt (assigned params (kindFields kind)) port.val before port =
      (assigned params ((kindSettings kind).map (Setting.portField kind.width))).apply
        (before port) := by
    rw [kindFields_eq]
    exact if_pos rfl
  constructor
  case others =>
    intro other different
    exact if_neg fun same => different (Fin.ext same)
  case settings =>
    intro setting member
    rw [addressed]
    exact assigned_content (kindSettings_apart kind) (kindSettings_fit kind) _ setting member
  case reserved =>
    intro index outside
    rw [addressed]
    exact assigned_outside _ params _ outside

/-- A request names its board and its port, on the Ethernet page also the kind of port, no
name twice, and every value is there. A repeated name is left out because the lookup takes
the first of them, and the order would then show. -/
structure Request (page : PortPage) (params : List Param) : Prop where
  board : ascii "board" ∈ params.map Param.name
  portno : ascii "portno" ∈ params.map Param.name
  ge : page = .eth → ascii "ge" ∈ params.map Param.name
  distinct : (params.map Param.name).Nodup
  values : ∀ param ∈ params, param.value ≠ none

section request
variable {page : PortPage} {params : List Param}

/-- Every name that is there has a value. -/
theorem Request.hasValue (request : Request page params) {name : String}
    (named : ascii name ∈ params.map Param.name) : HasValue name params := by
  obtain ⟨param, member, same⟩ := List.mem_map.mp named
  cases found : namedParam name params with
  | none =>
    have absent := List.find?_eq_none.mp found param member
    simp [same] at absent
  | some first =>
    have value := request.values first (List.mem_of_find?_eq_some found)
    obtain ⟨text, given⟩ := Option.ne_none_iff_exists'.mp value
    exact ⟨text, by rw [found, Option.bind_some, given]⟩

/-- A request is no read. -/
theorem Request.two (request : Request page params) : 2 ≤ params.length :=
  two_le_length request.board request.portno (by decide)

/-- A field's value is never NULL, so it is read safely where the port is one of the
buffer. -/
theorem Request.fieldSafe (request : Request page params) {width : Nat} (size : Nat)
    (field : PortField width) (inside : 0 ≤ portOf params ∧ portOf params < size) :
    FieldSafe size params (portOf params) field := by
  intro param found
  obtain ⟨text, given⟩ :=
    Option.ne_none_iff_exists'.mp (request.values param (List.mem_of_find?_eq_some found))
  exact ⟨text, given, fun _ => inside⟩

/-- A request for a board of the table and a port of its array is served. -/
theorem Request.safe (request : Request page params) (codes : Codes) (link : Link) (web : WebState)
    {board : Board} {port : Fin (page.kind params).count} (boardNumber : boardOf params = board.val)
    (portNumber : portOf params = port.val) : Safe (page.cgi codes link params web) := by
  let env : CgiHandlers.Environment := { sampleEnvironment with codes := codes, link := link }
  have boardBound := board.isLt
  have portBound := port.isLt
  have covered {width : Nat} (size : Nat) (fields : List (PortField width))
      (room : (page.kind params).count ≤ size) : PortRequest size fields params :=
    ⟨request.hasValue request.board, request.hasValue request.portno, by omega,
      fun field _ => request.fieldSafe size field (by omega)⟩
  have small : (page.kind params).count ≤ 16 := by
    cases page.kind params <;> decide
  cases page with
  | opt => exact (@safe_opt_iff env params web).mpr fun _ => covered 16 _ small
  | eth =>
    exact (@safe_eth_iff env params web).mpr fun _ =>
      ⟨request.hasValue (request.ge rfl), covered 16 _ small⟩
  | e1 => exact (@safe_e1_iff env params web).mpr fun _ => covered 8 _ (Nat.le_refl 8)

end request

/-- Every configuration request for a port of the tables sends the cached array with the
changes it asks for and no other, in whatever order its parameters come. The cached array
may hold anything, and the reply to the frame may be any. Parameters that no field looks at
may stand anywhere in the list. -/
theorem request_changes_port (codes : Codes) (link : Link) (web : WebState) (page : PortPage)
    (params : List Param) (board : Board) (port : Fin (page.kind params).count)
    (request : Request page params) (boardNumber : boardOf params = board.val)
    (portNumber : portOf params = port.val) :
    ∃ served write, page.cgi codes link params web = .ok served ∧ served.write = some write ∧
      write.kind = page.kind params ∧ write.board = board ∧
      PortChange params (page.kind params) port (cached web.control (page.kind params) board).words
        ((page.kind params).decode (ctrlSendDybFrame write.arg).body) ∧
      ∀ params', params.Perm params' → page.cgi codes link params' web = .ok served := by
  obtain ⟨served, ok⟩ := request.safe codes link web boardNumber portNumber
  have configured := PortPage.cgi_configured page ok
  obtain ⟨write, sent, boards, sends⟩ := configured.sent request.two boardNumber
  refine ⟨served, write, ok, sent, sends.kind, boards, ?_, ?_⟩
  · have array := sends.array
    rw [portNumber, Int.toNat_natCast, boards] at array
    rw [sends.kind] at array
    rw [array]
    exact assignAt_portChange params _ port _
  · intro params' permuted
    rw [cgi_perm codes link web page permuted request.distinct]
    exact ok

/-- A main control board whose second optical port is enabled. -/
def enabledLink : Link := fun _ => some ⟨0, [1, 0x80, 0x32, 0x01, 0x06, 0x80]⟩

/-- The state behind a read of its optical ports. -/
def enabledState : WebState :=
  { zeroState with control := (webReadOpt sampleCodes enabledLink false zeroControl).2 }

/-- A request that disables this port, with a parameter that no field looks at. -/
def optRequest : List Param :=
  [⟨ascii "portno", some (ascii "1")⟩, ⟨ascii "opt_switch", some (ascii cgistrDisable)⟩,
    ⟨ascii "end", some []⟩, ⟨ascii "board", some (ascii "0")⟩]

/-- It is served, and only its switch is changed: from one to zero. -/
theorem optRequest_changes_port :
    (content 7 1 ((cached enabledState.control .opt 0).words (1 : Fin 8)) = 1 ∧
        (switchSetting "opt_switch" 7).requested optRequest = some 0) ∧
      ∃ served write,
        PortPage.opt.cgi sampleCodes enabledLink optRequest enabledState = .ok served ∧
        served.write = some write ∧ write.kind = .opt ∧ write.board = 0 ∧
        PortChange optRequest .opt (1 : Fin 8) (cached enabledState.control .opt 0).words
          (PortKind.opt.decode (ctrlSendDybFrame write.arg).body) ∧
        ∀ params', optRequest.Perm params' →
          PortPage.opt.cgi sampleCodes enabledLink params' enabledState = .ok served :=
  ⟨by decide, request_changes_port sampleCodes enabledLink enabledState .opt optRequest 0 (1 : Fin 8)
    ⟨by decide, by decide, by decide, by decide, by decide⟩ (by decide) (by decide)⟩

end UcosProxy.PortChanges
