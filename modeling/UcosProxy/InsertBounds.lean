import UcosProxy.PortRecords

/-!
# How far the insert buffer is written

`SSIHandler` hands a tag's handler the insert buffer of 512 bytes with its length, and
the handlers look at the buffer only. Here each handler is the list of its copies, every
one with the place where it begins and the bytes that it writes, the NUL of a `strcpy` or
`sprintf` among them. The copies are tied to the texts of the pages and of the listing:
carried out one after the other they leave just these.

The pages of ports print up to the amounts in the tables, so their bound rests on what
the readers may leave there. A row of the listing is short whatever the tables hold; its
columns are first packed into a buffer on the stack, each with its NUL.
-/

namespace UcosProxy.InsertBounds

open Bytes ControlTables PortArrays PortFrames BoardsPage OutcomeTexts PortRecords

/-! ## Copies -/

/-- A copy into a buffer. The handlers' string functions are taken apart into such copies,
the closing NUL included. -/
structure Write where
  offset : Nat
  bytes : List Byte

/-- `strcpy` or `sprintf` to an offset. -/
def strcpy (offset : Nat) (text : List Byte) : Write := ⟨offset, text ++ [0]⟩

/-- `strncpy` of as many bytes as the text has. -/
def strncpy (offset : Nat) (text : List Byte) : Write := ⟨offset, text⟩

/-- The buffer behind a copy. -/
def Write.apply (p : List Byte) (write : Write) : List Byte := overwrite p write.offset write.bytes

/-- A copy that stays inside a buffer. Where it starts does not matter, only how far it
reaches. -/
def Write.Within (size : Nat) (write : Write) : Prop := write.offset + write.bytes.length ≤ size

/-- The size of `tag_insert` and of the listing's own buffer. -/
def bufferSize : Nat := 512

/-! ## The handlers as copies -/

/-- The records of a loop. -/
def textWrites (os : Nat) : List (List Byte) → List Write
  | [] => []
  | text :: rest => strcpy os text :: textWrites (os + text.length) rest

/-- `opt_read_data_ssi_handler`, `eth_read_data_ssi_handler` and
`e1_read_data_ssi_handler` -/
def readDataWrites (read : WebControl → Int × WebControl) (texts : WebControl → List (List Byte))
    (control : WebControl) : List Write :=
  let refreshed := read control
  if refreshed.1 < 0 then [strcpy 0 failStr] else textWrites 0 (texts refreshed.2)

/-- `fill_unit` -/
def unitWrites (offset : Nat) (text : List Byte) : List Write :=
  [strcpy offset (ascii "<td>"), strcpy (offset + 4) text,
    strncpy (offset + 4 + text.length) (ascii "</td>")]

/-- The loop of `fill_row`, up to its last unit. -/
def unitsWrites (offset : Nat) : List (List Byte) → List Write
  | [] => []
  | text :: rest => unitWrites offset text ++ unitsWrites (offset + (text.length + 9)) rest

/-- Where the loop of `fill_row` ends. -/
def unitsEnd (offset : Nat) (texts : List (List Byte)) : Nat :=
  texts.foldl (fun offset text => offset + (text.length + 9)) offset

/-- `fill_row` -/
def rowWrites (texts : List (List Byte)) : List Write :=
  strcpy 0 (ascii "<tr>") :: unitsWrites 4 texts ++ [strcpy (unitsEnd 4 texts) (ascii "</tr>")]

/-- The columns of `board_common_line_ssi_handler` in its own buffer: the next one begins
behind the NUL of the one before. -/
def packedWrites (os : Nat) : List (List Byte) → List Write
  | [] => []
  | text :: rest => strcpy os text :: packedWrites (os + (text.length + 1)) rest

section listing
variable (versionNtoa : Byte → List Byte) (control : WebControl) (lineno : Nat)

/-- The texts of the columns of a line. -/
def columnTexts : List (List Byte) :=
  (boardColumnTable versionNtoa).filterMap fun column => column control lineno

/-- `board_common_line_ssi_handler`, into the insert buffer. -/
def lineWrites : List Write :=
  match boardGetBoardnoAccordingToLineno control lineno with
  | some _ => rowWrites (columnTexts versionNtoa control lineno)
  | none => [strcpy 0 (ascii " ")]

/-- `board_common_line_ssi_handler`, into its own buffer. -/
def scratchWrites : List Write :=
  match boardGetBoardnoAccordingToLineno control lineno with
  | some _ => packedWrites 0 (columnTexts versionNtoa control lineno)
  | none => []

end listing

/-! ## What the copies leave -/

/-- The records are written by these copies. -/
theorem writeTexts_eq (texts : List (List Byte)) (p : List Byte) (os : Nat) :
    writeTexts p os texts = (textWrites os texts).foldl Write.apply p := by
  induction texts generalizing p os with
  | nil => rfl
  | cons text rest inductionHypothesis => exact inductionHypothesis _ _

/-- The handlers of the port pages are these copies. -/
theorem readDataSsiHandler_eq (read : WebControl → Int × WebControl)
    (texts : WebControl → List (List Byte)) (control : WebControl) (p : List Byte) :
    (readDataSsiHandler read texts control p).2 =
      (readDataWrites read texts control).foldl Write.apply p := by
  unfold readDataSsiHandler readDataWrites
  by_cases failed : (read control).1 < 0
  · simp only [failed, if_true]
    rfl
  · simp only [failed, if_false, writeTexts_eq]

/-- A copy behind what a buffer begins with. -/
theorem begins_write {start p : List Byte} (begins : start <+: p) (source : List Byte) :
    start ++ source <+: Write.apply p ⟨start.length, source⟩ := by
  have head : p.take start.length = start := (List.prefix_iff_eq_take.mp begins).symm
  rw [Write.apply, overwrite, head]
  exact List.prefix_append _ _

/-- A string behind what a buffer begins with: its NUL is for the next copy. -/
theorem begins_strcpy {start p : List Byte} (begins : start <+: p) (text : List Byte) :
    start ++ text <+: Write.apply p (strcpy start.length text) := by
  have written := begins_write begins (text ++ [0])
  rw [← List.append_assoc] at written
  exact (List.prefix_append _ _).trans written

/-- The units of a row stand behind one another. -/
theorem begins_units (texts : List (List Byte)) {start p : List Byte} (begins : start <+: p) :
    start ++ texts.flatMap fillUnit <+: (unitsWrites start.length texts).foldl Write.apply p ∧
      (start ++ texts.flatMap fillUnit).length = unitsEnd start.length texts := by
  induction texts generalizing start p with
  | nil => simpa [unitsWrites, unitsEnd] using begins
  | cons text rest inductionHypothesis =>
    have opened := begins_strcpy begins (ascii "<td>")
    have four : (start ++ ascii "<td>").length = start.length + 4 := by
      rw [List.length_append]
      rfl
    have named := begins_strcpy opened text
    have filled : (start ++ ascii "<td>" ++ text).length = start.length + 4 + text.length := by
      rw [List.length_append, four]
    have closed := begins_write named (ascii "</td>")
    have unit : start ++ ascii "<td>" ++ text ++ ascii "</td>" = start ++ fillUnit text := by
      simp only [fillUnit, List.append_assoc]
    have next : (start ++ fillUnit text).length = start.length + (text.length + 9) := by
      rw [← unit, List.length_append, filled]
      have five : (ascii "</td>").length = 5 := by decide
      omega
    rw [unit, filled, four] at closed
    have further := inductionHypothesis closed
    rw [next] at further
    simp only [List.flatMap_cons, unitsWrites, List.foldl_append, ← List.append_assoc]
    exact further

/-- A row and its NUL stand at the head of the buffer. -/
theorem begins_row (texts : List (List Byte)) (p : List Byte) :
    fillRow texts ++ [0] <+: (rowWrites texts).foldl Write.apply p := by
  have opened := begins_strcpy (List.nil_prefix (l := p)) (ascii "<tr>")
  obtain ⟨units, length⟩ := begins_units texts opened
  have closed := begins_write units (ascii "</tr>" ++ [0])
  have four : (([] : List Byte) ++ ascii "<tr>").length = 4 := by decide
  rw [length, four, ← List.append_assoc] at closed
  simp only [rowWrites, List.cons_append, List.foldl_cons, List.foldl_append, List.foldl_nil]
  exact closed

/-- A line's text and its NUL stand at the head of the buffer. -/
theorem begins_line (versionNtoa : Byte → List Byte) (control : WebControl) (lineno : Nat)
    (p : List Byte) :
    boardCommonLineSsiHandler versionNtoa control lineno ++ [0] <+:
      (lineWrites versionNtoa control lineno).foldl Write.apply p := by
  unfold boardCommonLineSsiHandler lineWrites
  cases boardGetBoardnoAccordingToLineno control lineno with
  | none => exact begins_write (List.nil_prefix (l := p)) (ascii " " ++ [0])
  | some board => exact begins_row (columnTexts versionNtoa control lineno) p

/-! ## How far the copies reach -/

/-- The bytes that texts take, with so many others behind each. -/
def reach (extra : Nat) (texts : List (List Byte)) : Nat :=
  (texts.map fun text => text.length + extra).sum

/-- A copy inside a buffer is inside every larger one. -/
theorem Write.Within.mono {write : Write} {size larger : Nat} (within : write.Within size)
    (le : size ≤ larger) : write.Within larger := Nat.le_trans within le

/-- `strcpy` ends with its NUL. -/
theorem strcpy_within {offset size : Nat} {text : List Byte} (room : offset + text.length < size) :
    (strcpy offset text).Within size := by
  simp only [Write.Within, strcpy, List.length_append, List.length_singleton]
  omega

/-- The records end with the NUL of the last one. -/
theorem textWrites_within (texts : List (List Byte)) (os : Nat) :
    ∀ write ∈ textWrites os texts, write.Within (os + texts.flatten.length + 1) := by
  induction texts generalizing os with
  | nil => simp [textWrites]
  | cons text rest inductionHypothesis =>
    intro write member
    rw [List.flatten_cons, List.length_append]
    rcases List.mem_cons.mp member with rfl | later
    · exact strcpy_within (by omega)
    · exact (inductionHypothesis _ write later).mono (by omega)

/-- A unit ends with its closing tag, which has no NUL. -/
theorem unitWrites_within (offset : Nat) (text : List Byte) :
    ∀ write ∈ unitWrites offset text, write.Within (offset + (text.length + 9)) := by
  have opening : (ascii "<td>").length = 4 := by decide
  have closing : (ascii "</td>").length = 5 := by decide
  simp only [unitWrites, List.forall_mem_cons, Write.Within, strcpy, strncpy, List.length_append,
    List.length_singleton, opening, closing, List.not_mem_nil, false_imp_iff, implies_true, and_true]
  omega

/-- The units end where the loop ends. -/
theorem unitsWrites_within (texts : List (List Byte)) (offset : Nat) :
    unitsEnd offset texts = offset + reach 9 texts ∧
      ∀ write ∈ unitsWrites offset texts, write.Within (offset + reach 9 texts) := by
  induction texts generalizing offset with
  | nil => simp [unitsWrites, unitsEnd, reach]
  | cons text rest inductionHypothesis =>
    obtain ⟨ends, within⟩ := inductionHypothesis (offset + (text.length + 9))
    have sum : reach 9 (text :: rest) = text.length + 9 + reach 9 rest := by simp [reach]
    rw [sum, ← Nat.add_assoc]
    refine ⟨ends, ?_⟩
    intro write member
    rcases List.mem_append.mp member with first | later
    · exact (unitWrites_within offset text write first).mono (by omega)
    · exact within write later

/-- A row ends with the NUL behind its closing tag. -/
theorem rowWrites_within (texts : List (List Byte)) :
    ∀ write ∈ rowWrites texts, write.Within (reach 9 texts + 10) := by
  have opening : (ascii "<tr>").length = 4 := by decide
  have closing : (ascii "</tr>").length = 5 := by decide
  obtain ⟨ends, within⟩ := unitsWrites_within texts 4
  intro write member
  rcases List.mem_append.mp member with front | last
  · rcases List.mem_cons.mp front with rfl | inUnits
    · exact strcpy_within (by omega)
    · exact (within write inUnits).mono (by omega)
  · obtain rfl := List.mem_singleton.mp last
    exact strcpy_within (by omega)

/-- The packed columns end with the NUL of the last one. -/
theorem packedWrites_within (texts : List (List Byte)) (os : Nat) :
    ∀ write ∈ packedWrites os texts, write.Within (os + reach 1 texts) := by
  induction texts generalizing os with
  | nil => simp [packedWrites]
  | cons text rest inductionHypothesis =>
    have sum : reach 1 (text :: rest) = text.length + 1 + reach 1 rest := by simp [reach]
    intro write member
    rw [sum]
    rcases List.mem_cons.mp member with rfl | later
    · exact strcpy_within (by omega)
    · exact (inductionHypothesis _ write later).mono (by omega)

/-! ## The columns of a line -/

section columns
variable {versionNtoa : Byte → List Byte} (control : WebControl)

/-- The texts of a row, one by one. -/
theorem columnTexts_eq {lineno : Nat} {board : Board}
    (found : boardGetBoardnoAccordingToLineno control lineno = some board) :
    columnTexts versionNtoa control lineno =
      [decimal (board.val + 1),
        boardGetTypeName (control.boardsExist.type board) false,
        boardGetTypeName (control.boardsExist.type board) true,
        versionText versionNtoa (control.bulbVer board).pcbVer,
        versionText versionNtoa (control.bulbVer board).cpuAppVer,
        fpgaText (control.bulbVer board).fpgaVer,
        versionText versionNtoa (control.bulbVer board).bootVer,
        ascii "&#27491;&#24120;"] := by
  simp only [columnTexts, boardColumnTable, List.filterMap_cons, List.filterMap_nil, boardColumn1Slot,
    boardColumn2Type, boardColumn3BusinessType, boardColumn4PcbVersion, boardColumn5SwVersion,
    boardColumn6FpgaVersion, boardColumn7BootVersion, boardColumn8State, boardColumn, found,
    Option.map_some]

/-- The names of the types are short. -/
theorem typeName_length (type : BitVec 32) :
    (boardGetTypeName type false).length ≤ 6 ∧ (boardGetTypeName type true).length ≤ 30 := by
  unfold boardGetTypeName
  constructor
  · simp only [Bool.false_eq_true, if_false]
    split
    · decide
    · split <;> decide
  · simp only [if_true]
    split
    · decide
    · split <;> decide

/-- A version is a letter before what `version_ntoa` gives. -/
theorem versionText_length (short : ∀ ver, (versionNtoa ver).length ≤ 7) (ver : Byte) :
    (versionText versionNtoa ver).length ≤ 8 := by
  unfold versionText
  split
  · decide
  · have letter : (ascii "V").length = 1 := by decide
    have text := short ver
    rw [List.length_append]
    omega

/-- A nibble has two digits at most. -/
theorem decimal_nibble (value : Nat) : (decimal (value % 16)).length ≤ 2 := by
  have all : ∀ nibble : Fin 16, (decimal nibble.val).length ≤ 2 := by decide
  exact all ⟨value % 16, Nat.mod_lt _ (by decide)⟩

theorem fpgaText_length (ver : BitVec 16) : (fpgaText ver).length ≤ 10 := by
  unfold fpgaText
  split
  · decide
  · have letter : (ascii "V").length = 1 := by decide
    have dot : (ascii ".").length = 1 := by decide
    have first := decimal_nibble (ver.toNat / 2 ^ 4)
    have second := decimal_nibble (ver.toNat / 2 ^ 0)
    have third := decimal_nibble (ver.toNat / 2 ^ 12)
    have fourth := decimal_nibble (ver.toNat / 2 ^ 8)
    simp only [List.length_append]
    omega

/-- The columns of a line together. -/
theorem columnTexts_reach (short : ∀ ver, (versionNtoa ver).length ≤ 7) (extra : Nat) {lineno : Nat}
    {board : Board} (found : boardGetBoardnoAccordingToLineno control lineno = some board) :
    reach extra (columnTexts versionNtoa control lineno) ≤ 87 + 8 * extra := by
  have slot : (decimal (board.val + 1)).length = 1 := by
    rw [decimal_slot]
    rfl
  obtain ⟨name, longName⟩ := typeName_length (control.boardsExist.type board)
  have pcb := versionText_length short (control.bulbVer board).pcbVer
  have app := versionText_length short (control.bulbVer board).cpuAppVer
  have fpga := fpgaText_length (control.bulbVer board).fpgaVer
  have boot := versionText_length short (control.bulbVer board).bootVer
  have state : (ascii "&#27491;&#24120;").length = 16 := by decide
  rw [columnTexts_eq control found]
  simp only [reach, List.map_cons, List.map_nil, List.sum_cons, List.sum_nil, slot, state]
  omega

/-- A line stays inside both buffers. -/
theorem line_within (short : ∀ ver, (versionNtoa ver).length ≤ 7) (lineno : Nat) :
    (∀ write ∈ lineWrites versionNtoa control lineno, write.Within bufferSize) ∧
      ∀ write ∈ scratchWrites versionNtoa control lineno, write.Within bufferSize := by
  have size : bufferSize = 512 := rfl
  unfold lineWrites scratchWrites
  cases found : boardGetBoardnoAccordingToLineno control lineno with
  | none => simp [Write.Within, strcpy, size, ascii]
  | some board =>
    have columns := columnTexts_reach control short
    constructor
    · intro write member
      have bound := columns 9 found
      exact (rowWrites_within _ write member).mono (by omega)
    · intro write member
      have bound := columns 1 found
      exact (packedWrites_within _ 0 write member).mono (by omega)

end columns

/-! ## The handlers -/

section handlers
variable (codes : Codes) (link : ControlTables.Link) (crRemoteChosen : Bool)

/-- The handler of a page's tag. -/
def pageHandler : PortPage → WebControl → List Byte → WebControl × List Byte
  | .opt => optReadDataSsiHandler codes link crRemoteChosen
  | .eth => ethReadDataSsiHandler codes link crRemoteChosen
  | .e1 => e1ReadDataSsiHandler codes link crRemoteChosen

/-- Its copies. -/
def pageWrites (page : PortPage) (control : WebControl) : List Write :=
  readDataWrites (readPage codes link crRemoteChosen page) (pageTexts · page) control

/-- The handler of a page is its copies. -/
theorem pageHandler_eq (page : PortPage) (control : WebControl) (p : List Byte) :
    (pageHandler codes link crRemoteChosen page control p).2 =
      (pageWrites codes link crRemoteChosen page control).foldl Write.apply p := by
  cases page <;> exact readDataSsiHandler_eq _ _ control p

/-- A page stays inside the buffer when the tables have no more ports than their types. -/
theorem page_within (page : PortPage) {control : WebControl} (fits : AmountsFit control) :
    ∀ write ∈ pageWrites codes link crRemoteChosen page control, write.Within bufferSize := by
  have size : bufferSize = 512 := rfl
  have behind : AmountsFit (readPage codes link crRemoteChosen page control).2 :=
    read_fits codes link crRemoteChosen (pageReader page) control fits
  have room := pageTexts_size (behind.page page)
  intro write member
  unfold pageWrites readDataWrites at member
  by_cases failed : (readPage codes link crRemoteChosen page control).1 < 0
  · simp only [failed, if_true, List.mem_singleton] at member
    have fail : failStr.length = 4 := by decide
    rw [member]
    exact strcpy_within (by omega)
  · simp only [failed, if_false] at member
    exact (textWrites_within _ 0 write member).mono (by omega)

end handlers

/-- In every state that the readers can leave: the copies of the port pages' handlers and of
every line of the listing stay inside the insert buffer, and the packed columns inside
theirs. The tables may be any that the readers leave, and the refresh in front of the copies
may come out any way. The texts of the versions come from outside the repository, and are
asked to be at most seven bytes long. -/
theorem inserts_fit (codes : Codes) (versionNtoa : Byte → List Byte)
    (short : ∀ ver, (versionNtoa ver).length ≤ 7) (control : WebControl)
    (reached : Reached codes control) (link : ControlTables.Link) (crRemoteChosen : Bool) :
    (∀ page p,
      (pageHandler codes link crRemoteChosen page control p).2 =
          (pageWrites codes link crRemoteChosen page control).foldl Write.apply p ∧
        ∀ write ∈ pageWrites codes link crRemoteChosen page control, write.Within bufferSize) ∧
    ∀ lineno p,
      let refresh := fun control => (webReadBoardsVersion codes link crRemoteChosen control).2
      let line := boardLineSsiHandler versionNtoa refresh lineno control
      line.2 ++ [0] <+: (lineWrites versionNtoa line.1 lineno).foldl Write.apply p ∧
        (∀ write ∈ lineWrites versionNtoa line.1 lineno, write.Within bufferSize) ∧
        ∀ write ∈ scratchWrites versionNtoa line.1 lineno, write.Within bufferSize := by
  constructor
  · intro page p
    exact ⟨pageHandler_eq codes link crRemoteChosen page control p,
      page_within codes link crRemoteChosen page reached.amounts⟩
  · intro lineno p refresh line
    exact ⟨begins_line versionNtoa line.1 lineno p, line_within line.1 short lineno⟩

/-- A link that reports nine main control boards and answers every request. -/
def fullLink : ControlTables.Link := fun _ =>
  some ⟨0, [0xff, 0x01] ++ (List.replicate 9 [0x32, 0x01, 0x06, 0x80]).flatten⟩

/-- All nine are listed and all their ports are printed. -/
theorem fullLink_inserts_fit :
    let control := (webReadBoardsVersion sampleCodes fullLink false zeroControl).2
    (∀ page p,
      (pageHandler sampleCodes fullLink false page control p).2 =
          (pageWrites sampleCodes fullLink false page control).foldl Write.apply p ∧
        ∀ write ∈ pageWrites sampleCodes fullLink false page control, write.Within bufferSize) ∧
    ∀ lineno p,
      let refresh := fun control => (webReadBoardsVersion sampleCodes fullLink false control).2
      let line := boardLineSsiHandler (fun _ => ascii "1.20") refresh lineno control
      line.2 ++ [0] <+: (lineWrites (fun _ => ascii "1.20") line.1 lineno).foldl Write.apply p ∧
        (∀ write ∈ lineWrites (fun _ => ascii "1.20") line.1 lineno, write.Within bufferSize) ∧
        ∀ write ∈ scratchWrites (fun _ => ascii "1.20") line.1 lineno, write.Within bufferSize :=
  inserts_fit sampleCodes (fun _ => ascii "1.20") (fun _ => by decide) _
    ⟨[⟨.boardsVersion, fullLink, false⟩], rfl⟩ fullLink false

/-- The last record of nine boards with Ethernet ports ends 437 bytes into the buffer. -/
example : ((pageWrites sampleCodes fullLink false .eth zeroControl).map
    fun write => write.offset + write.bytes.length).max? = some 437 := by
  decide +kernel

end UcosProxy.InsertBounds
