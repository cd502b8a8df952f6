import UcosProxy.TagScan

/-!
# Sending a response

The send side of `httpd.c`. A connection with a file goes through `http_send_data`
again and again: when its request has been parsed, when the peer has acknowledged
bytes, and on every poll. Each call gives the stack what it takes at the moment,
first the three header strings, then the file. A file that is not checked for tags is
passed on; in one that is, the bytes are parsed before they are sent, and the text of
a tag's handler is sent behind the tag, while the parser stands still.

Everything lies in `struct http_state` between two calls. The file, the parsed and the
tag end pointers are offsets into the file's data. `fs_open` sets the index of a file
behind its last byte, so the call that would read a block of it is never reached and
is left out. The tag handlers may answer anything at any time: they work on a world of
their own.

The stack is a parameter. It says how much room its buffer has and takes a piece of
data or refuses it; `http_write` halves a piece that is refused for lack of memory.
Which flags a piece is written with, and when the stack transmits it, is left out.

What `tcp_write` took, the texts that were asked for and how the response ended are
history.
-/

namespace UcosProxy.HttpSend

open Bytes TagScan

/-- `err_t`, as far as the senders tell its values apart. -/
inductive ErrT where
  | ok
  | mem
  | other
deriving DecidableEq

/-- What the senders use of the stack. The stack is not modelled beyond these. What a result
needs of it, say that a send buffer has room, is a hypothesis that names the function. -/
structure Tcp (Pcb : Type) where
  /-- `tcp_sndbuf` -/
  sndbuf : Pcb → Nat
  /-- `tcp_mss` -/
  mss : Pcb → Nat
  /-- `snd_queuelen` has reached `TCP_SND_QUEUELEN`. -/
  queueFull : Pcb → Bool
  /-- `tcp_write` -/
  write : Pcb → List Byte → ErrT × Pcb

/-- What the senders use of the tags: their names, and `SSIHandler` with the index of
one. -/
structure Ssi (World : Type) where
  tags : List (List Byte)
  handler : World → Nat → List Byte × World

/-- `struct fs_file` as `fs_open` fills it in. A file with its own header is sent as it is,
and one without gets the generated strings. -/
structure FsFile where
  data : List Byte
  httpHeaderIncluded : Bool
deriving DecidableEq

/-- `enum tag_check_state` -/
inductive TagCheckState where
  | none
  | leadin
  | found
  | leadout
  | sending
deriving DecidableEq

/-- `struct http_state`, as far as a response is sent. `file` is NULL exactly when
`handle` is. -/
structure HttpState where
  handle : Option FsFile
  file : Nat
  left : Nat
  retries : Nat
  parsed : Nat
  tagEnd : Nat
  parseLeft : Nat
  tagIndex : Nat
  /-- `tag_insert`, up to `tag_insert_len` -/
  tagInsert : List Byte
  tagCheck : Bool
  tagNameLen : Nat
  tagName : List Byte
  tagState : TagCheckState
  hdrs : List (List Byte)
  hdrPos : Nat
  hdrIndex : Nat
deriving DecidableEq

/-- `NUM_FILE_HDR_STRINGS` -/
def numFileHdrStrings : Nat := 3

/-- `HTTPD_MAX_RETRIES` -/
def maxRetries : Nat := 4

/-- `LWIP_HTTPD_MAX_TAG_INSERT_LEN` -/
def maxTagInsertLen : Nat := 511

/-- `UNKNOWN_TAG1_TEXT` -/
def unknownTag1 : List Byte := ascii "<b>***UNKNOWN TAG "

/-- `UNKNOWN_TAG2_TEXT` -/
def unknownTag2 : List Byte := ascii "***</b>"

/-- `http_state_alloc` -/
def httpStateAlloc : HttpState where
  handle := none
  file := 0
  left := 0
  retries := 0
  parsed := 0
  tagEnd := 0
  parseLeft := 0
  tagIndex := 0
  tagInsert := []
  tagCheck := false
  tagNameLen := 0
  tagName := List.replicate (maxTagNameLen + 1) 0
  tagState := .none
  hdrs := []
  hdrPos := 0
  hdrIndex := numFileHdrStrings

/-- The bytes of the open file. -/
def HttpState.data (hs : HttpState) : List Byte := (hs.handle.map FsFile.data).getD []

/-- `*hs->parsed` -/
def HttpState.parsedByte (hs : HttpState) : Byte := hs.data.getD hs.parsed 0

/-- The header string at hand. -/
def HttpState.hdr (hs : HttpState) : List Byte := hs.hdrs.getD hs.hdrIndex []

/-! ## Writing -/

/-- What `http_write` leaves: the control block, its answer and the length. The length is
what was taken in the end, after the halvings for lack of memory. -/
structure Written (Pcb : Type) where
  pcb : Pcb
  err : ErrT
  len : Nat

/-- A connection with the code around it, and its history. A response is followed by its
history: nothing that the source does depends on it. -/
structure Scene (Pcb World : Type) where
  hs : HttpState
  pcb : Pcb
  world : World
  /-- History: the bytes that `tcp_write` took. -/
  sent : List Byte
  /-- History: the tags whose text was asked for, each with its text. -/
  inserts : List (List Byte × List Byte)

/-- The local variables of `http_send_data` beside its connection. They live as long as one
call, and the helpers of the call pass them on. -/
structure Turn (Pcb World : Type) where
  scene : Scene Pcb World
  len : Nat
  err : ErrT
  dataToSend : Bool

/-- The call of `http_close_conn` that a response has ended with. The first two end a
response that was sent, or that had nothing to send, and the third gives one up. -/
inductive Ending where
  | noFile
  | endOfFile
  | retries
deriving DecidableEq

/-- What a call leaves. A connection that has ended is freed, and only its history
counts. -/
structure Outcome (Pcb World : Type) where
  scene : Scene Pcb World
  ended : Option Ending
  dataToSend : Bool

section sending
variable {Pcb World : Type} (tcp : Tcp Pcb) (ssi : Ssi World)

/-- The length that `http_write` tries next. -/
def shorterLen (pcb : Pcb) (len : Nat) : Nat :=
  if tcp.sndbuf pcb = 0 ∨ tcp.queueFull pcb = true then 1 else len / 2

theorem shorterLen_lt {pcb : Pcb} {len : Nat} (again : 1 < shorterLen tcp pcb len) :
    shorterLen tcp pcb len < len := by
  unfold shorterLen at again ⊢
  split <;> split at again <;> omega

/-- `http_write`: one byte alone is tried only when one byte was asked for. The length is
halved as long as the stack has no memory for it, and the stack is asked anew each time. -/
def httpWrite (source : List Byte) (len : Nat) (pcb : Pcb) : Written Pcb :=
  match tcp.write pcb (source.take len) with
  | (.ok, behind) => ⟨behind, .ok, len⟩
  | (.mem, behind) =>
    if 1 < shorterLen tcp behind len then httpWrite source (shorterLen tcp behind len) behind
    else ⟨behind, .mem, shorterLen tcp behind len⟩
  | (.other, behind) => ⟨behind, .other, len⟩
termination_by len
decreasing_by exact shorterLen_lt tcp ‹_›

/-- Send as much of the file as `len` says, from the first unsent byte on. -/
def sendFile (turn : Turn Pcb World) : Turn Pcb World :=
  let hs := turn.scene.hs
  let source := hs.data.drop hs.file
  let written := httpWrite tcp source turn.len turn.scene.pcb
  if written.err = .ok then
    { scene := { turn.scene with
        hs := { hs with file := hs.file + written.len, left := hs.left - written.len }
        pcb := written.pcb
        sent := turn.scene.sent ++ source.take written.len }
      len := written.len
      err := .ok
      dataToSend := true }
  else { turn with
    scene := { turn.scene with pcb := written.pcb }
    len := written.len
    err := written.err }

/-- Send as much of the insert as `len` says, from the first unsent byte on. -/
def sendInsert (turn : Turn Pcb World) : Turn Pcb World :=
  let hs := turn.scene.hs
  let source := hs.tagInsert.drop hs.tagIndex
  let written := httpWrite tcp source turn.len turn.scene.pcb
  if written.err = .ok then
    { scene := { turn.scene with
        hs := { hs with tagIndex := hs.tagIndex + written.len }
        pcb := written.pcb
        sent := turn.scene.sent ++ source.take written.len }
      len := written.len
      err := .ok
      dataToSend := true }
  else { turn with
    scene := { turn.scene with pcb := written.pcb }
    len := written.len
    err := written.err }

/-- The room for some bytes: the send buffer, and at most two segments. -/
def roomFor (pcb : Pcb) (bytes : Nat) : Nat := min (min (tcp.sndbuf pcb) bytes) (2 * tcp.mss pcb)

/-! ## Headers -/

/-- One header string, or what room there is for it. -/
def sendHeader (turn : Turn Pcb World) : Turn Pcb World × Nat :=
  let hs := turn.scene.hs
  let rest := hs.hdr.length - hs.hdrPos
  let asked := min turn.len rest
  let source := hs.hdr.drop hs.hdrPos
  let written := httpWrite tcp source asked turn.scene.pcb
  let sendlen := if written.err = .ok then written.len else 0
  let pos := hs.hdrPos + sendlen
  let next :=
    if pos = hs.hdr.length then { hs with hdrIndex := hs.hdrIndex + 1, hdrPos := 0 }
    else { hs with hdrPos := pos }
  let scene := { turn.scene with
    hs := next
    pcb := written.pcb
    sent := turn.scene.sent ++ source.take sendlen }
  (⟨scene, turn.len - sendlen, written.err,
    turn.dataToSend || decide (written.err = .ok ∧ asked ≠ written.len)⟩, sendlen)

/-- The loop over the header strings, with the length that was sent last. -/
def sendHeaders (turn : Turn Pcb World) (sendlen : Nat) : Turn Pcb World :=
  if turn.len = 0 ∨ numFileHdrStrings ≤ turn.scene.hs.hdrIndex ∨ sendlen = 0 then turn
  else sendHeaders (sendHeader tcp turn).1 (sendHeader tcp turn).2
termination_by turn.len + if sendlen = 0 then 0 else 1
decreasing_by
  rename_i going
  simp only [not_or] at going
  have behind : (sendHeader tcp turn).1.len = turn.len - (sendHeader tcp turn).2 := rfl
  rw [behind, if_neg going.2.2]
  split <;> omega

/-! ## Tags -/

/-- The text for a tag's name, and the world behind the handler. A name that is not
registered is echoed. -/
def insertFor (name : List Byte) (world : World) : List Byte × World :=
  match ssi.tags.findIdx? (name = ·) with
  | some loop => ssi.handler world loop
  | none =>
    (unknownTag1 ++ name.take (maxTagInsertLen - (unknownTag1.length + unknownTag2.length)) ++
      unknownTag2, world)

/-- `get_tag_insert`. The handler is called on the world as it stands, and may change it. -/
def getTagInsert (hs : HttpState) (world : World) : List Byte × World :=
  insertFor ssi (text hs.tagName) world

/-- The parser moves on to the next byte. -/
def HttpState.nextByte (hs : HttpState) : HttpState :=
  { hs with parseLeft := hs.parseLeft - 1, parsed := hs.parsed + 1 }

/-- `case TAG_NONE` -/
def tagNone (hs : HttpState) : HttpState :=
  if some hs.parsedByte = tagLeadIn[0]? then
    { hs.nextByte with tagState := .leadin, tagIndex := 1 }
  else hs.nextByte

/-- `case TAG_LEADIN`: at the end of the lead-in no byte is used up. -/
def tagLeadin (hs : HttpState) : HttpState :=
  if hs.tagIndex = tagLeadIn.length then { hs with tagIndex := 0, tagState := .found }
  else if some hs.parsedByte = tagLeadIn[hs.tagIndex]? then
    { hs.nextByte with tagIndex := hs.tagIndex + 1 }
  else { hs.nextByte with tagState := .none }

/-- `case TAG_FOUND`. The name may be padded with blanks on both sides; one that is too long
or empty is no tag. -/
def tagFound (hs : HttpState) : HttpState :=
  if hs.tagIndex = 0 ∧ isTagBlank hs.parsedByte then hs.nextByte
  else if some hs.parsedByte = tagLeadOut[0]? ∨ isTagBlank hs.parsedByte then
    if hs.tagIndex = 0 then { hs.nextByte with tagState := .none }
    else { hs.nextByte with
      tagState := .leadout
      tagNameLen := hs.tagIndex
      tagName := overwrite hs.tagName hs.tagIndex [0]
      tagIndex := if some hs.parsedByte = tagLeadOut[0]? then 1 else 0 }
  else if hs.tagIndex < maxTagNameLen then
    { hs.nextByte with
      tagName := overwrite hs.tagName hs.tagIndex [hs.parsedByte]
      tagIndex := hs.tagIndex + 1 }
  else { hs.nextByte with tagState := .none }

/-- The last byte of the lead-out: the text is asked for, and the file up to the tag's
end is sent. -/
def tagComplete (turn : Turn Pcb World) : Turn Pcb World :=
  let hs := turn.scene.hs.nextByte
  let answer := getTagInsert ssi hs turn.scene.world
  let found := { turn.scene with
    hs := { hs with
      tagInsert := answer.1, tagIndex := 0, tagState := .sending, tagEnd := hs.parsed }
    world := answer.2
    inserts := turn.scene.inserts ++ [(hs.tagName.take hs.tagNameLen, answer.1)] }
  if hs.file < hs.parsed then
    sendFile tcp { turn with scene := found, len := min turn.len (hs.parsed - hs.file) }
  else { turn with scene := found }

/-- `case TAG_LEADOUT`. At its last byte the tag is complete, and its text is asked for. -/
def tagLeadout (turn : Turn Pcb World) : Turn Pcb World :=
  let hs := turn.scene.hs
  let go := fun next : HttpState => { turn with scene := { turn.scene with hs := next } }
  if hs.tagIndex = 0 ∧ isTagBlank hs.parsedByte then go hs.nextByte
  else if some hs.parsedByte = tagLeadOut[hs.tagIndex]? then
    if hs.tagIndex = tagLeadOut.length - 1 then tagComplete tcp ssi turn
    else go { hs.nextByte with tagIndex := hs.tagIndex + 1 }
  else go { hs.nextByte with tagState := .none }

/-- `case TAG_SENDING`: the file up to the tag's end, then the text behind it. The tag
itself is part of the file, and is sent with it. -/
def tagSending (turn : Turn Pcb World) : Turn Pcb World :=
  let hs := turn.scene.hs
  if hs.file < hs.tagEnd then
    sendFile tcp { turn with len := min turn.len (hs.tagEnd - hs.file) }
  else if hs.tagIndex < hs.tagInsert.length then
    sendInsert tcp { turn with len := min turn.len (hs.tagInsert.length - hs.tagIndex) }
  else { turn with
    scene := { turn.scene with hs := { hs with tagIndex := 0, tagState := .none } } }

/-- One turn of the parser's loop. -/
def switchTag (turn : Turn Pcb World) : Turn Pcb World :=
  let go := fun next : HttpState => { turn with scene := { turn.scene with hs := next } }
  match turn.scene.hs.tagState with
  | .none => go (tagNone turn.scene.hs)
  | .leadin => go (tagLeadin turn.scene.hs)
  | .found => go (tagFound turn.scene.hs)
  | .leadout => tagLeadout tcp ssi turn
  | .sending => tagSending tcp turn

/-! ## What a call can do -/

/-- A piece that `http_write` sends is no longer than was asked for, and not empty. -/
theorem httpWrite_len (source : List Byte) (len : Nat) (pcb : Pcb)
    (taken : (httpWrite tcp source len pcb).err = .ok) :
    (httpWrite tcp source len pcb).len ≤ len ∧
      (0 < len → 0 < (httpWrite tcp source len pcb).len) := by
  fun_induction httpWrite tcp source len pcb with
  | case1 => exact ⟨Nat.le_refl _, id⟩
  | case2 len pcb behind _ again inductionHypothesis =>
    obtain ⟨most, some⟩ := inductionHypothesis taken
    have shorter := shorterLen_lt tcp again
    exact ⟨by omega, fun _ => some (by omega)⟩
  | case3 => cases taken
  | case4 => cases taken

/-- What sending a part of the file can come to. A refused part leaves the place in the
file, so that the same bytes are tried again. -/
inductive FileSent (turn : Turn Pcb World) : Turn Pcb World → Prop
  | refused (pcb : Pcb) (len : Nat) (err : ErrT) (failed : err ≠ .ok) :
    FileSent turn { turn with
      scene := { turn.scene with pcb := pcb }
      len := len
      err := err }
  | taken (pcb : Pcb) (count : Nat) (most : count ≤ turn.len) (some : 0 < turn.len → 0 < count) :
    FileSent turn
      { scene := { turn.scene with
          hs := { turn.scene.hs with
            file := turn.scene.hs.file + count, left := turn.scene.hs.left - count }
          pcb := pcb
          sent := turn.scene.sent ++ (turn.scene.hs.data.drop turn.scene.hs.file).take count }
        len := count
        err := .ok
        dataToSend := true }

theorem fileSent (turn : Turn Pcb World) : FileSent turn (sendFile tcp turn) := by
  by_cases taken : (httpWrite tcp (turn.scene.hs.data.drop turn.scene.hs.file) turn.len
      turn.scene.pcb).err = .ok
  · obtain ⟨most, some⟩ := httpWrite_len tcp _ _ _ taken
    simp only [sendFile, if_pos taken]
    exact .taken _ _ most some
  · simp only [sendFile, if_neg taken]
    exact .refused _ _ _ taken

/-- What sending a part of the insert can come to. It is the law of the file for the other
pointer: both count what the stack has taken. -/
inductive InsertSent (turn : Turn Pcb World) : Turn Pcb World → Prop
  | refused (pcb : Pcb) (len : Nat) (err : ErrT) (failed : err ≠ .ok) :
    InsertSent turn { turn with
      scene := { turn.scene with pcb := pcb }
      len := len
      err := err }
  | taken (pcb : Pcb) (count : Nat) (most : count ≤ turn.len) (some : 0 < turn.len → 0 < count) :
    InsertSent turn
      { scene := { turn.scene with
          hs := { turn.scene.hs with tagIndex := turn.scene.hs.tagIndex + count }
          pcb := pcb
          sent := turn.scene.sent ++
            (turn.scene.hs.tagInsert.drop turn.scene.hs.tagIndex).take count }
        len := count
        err := .ok
        dataToSend := true }

theorem insertSent (turn : Turn Pcb World) : InsertSent turn (sendInsert tcp turn) := by
  by_cases taken : (httpWrite tcp (turn.scene.hs.tagInsert.drop turn.scene.hs.tagIndex) turn.len
      turn.scene.pcb).err = .ok
  · obtain ⟨most, some⟩ := httpWrite_len tcp _ _ _ taken
    simp only [sendInsert, if_pos taken]
    exact .taken _ _ most some
  · simp only [sendInsert, if_neg taken]
    exact .refused _ _ _ taken

/-! ## The loop over a page -/

/-- The bytes of the tag at hand that are still to be sent, and whether the loop goes on:
the measure of the turns that use up no byte of the page. -/
def Turn.pending (turn : Turn Pcb World) : Nat :=
  let hs := turn.scene.hs
  (match hs.tagState with
    | .sending => (hs.tagEnd - hs.file) + (hs.tagInsert.length - hs.tagIndex) + 2
    | .leadin => 1
    | _ => 0) + if turn.err = .ok then 1 else 0

/-- Sending of the file leaves the parser alone. -/
theorem FileSent.parser {turn behind : Turn Pcb World} (sent : FileSent turn behind) :
    behind.scene.hs.parseLeft = turn.scene.hs.parseLeft ∧
      behind.scene.hs.tagState = turn.scene.hs.tagState := by
  cases sent with
  | refused => exact ⟨rfl, rfl⟩
  | taken => exact ⟨rfl, rfl⟩

theorem tagNone_parseLeft (hs : HttpState) : (tagNone hs).parseLeft = hs.parseLeft - 1 := by
  unfold tagNone
  split <;> rfl

theorem tagFound_parseLeft (hs : HttpState) : (tagFound hs).parseLeft = hs.parseLeft - 1 := by
  unfold tagFound
  repeat' split
  all_goals rfl

theorem tagComplete_parseLeft (turn : Turn Pcb World) :
    (tagComplete tcp ssi turn).scene.hs.parseLeft = turn.scene.hs.parseLeft - 1 := by
  simp only [tagComplete]
  split
  · exact (fileSent tcp _).parser.1
  · rfl

theorem tagLeadout_parseLeft (turn : Turn Pcb World) :
    (tagLeadout tcp ssi turn).scene.hs.parseLeft = turn.scene.hs.parseLeft - 1 := by
  simp only [tagLeadout]
  split
  · rfl
  · split
    · split
      · exact tagComplete_parseLeft tcp ssi turn
      · rfl
    · rfl

/-- What is sent of the file in front of a tag's end is not pending any more. -/
theorem FileSent.pending_lt {turn behind : Turn Pcb World} (sent : FileSent turn behind)
    (sending : turn.scene.hs.tagState = .sending) (going : turn.err = .ok) (room : turn.len ≠ 0)
    (unsent : turn.scene.hs.file < turn.scene.hs.tagEnd) : behind.pending < turn.pending := by
  cases sent with
  | refused pcb len err failed => simp [Turn.pending, sending, going, failed]
  | taken pcb count most some =>
    have moved : 0 < count := some (by omega)
    simp only [Turn.pending, sending, going]
    omega

/-- What is sent of the text is not pending any more. -/
theorem InsertSent.pending_lt {turn behind : Turn Pcb World} (sent : InsertSent turn behind)
    (sending : turn.scene.hs.tagState = .sending) (going : turn.err = .ok) (room : turn.len ≠ 0)
    (rest : turn.scene.hs.tagIndex < turn.scene.hs.tagInsert.length) :
    behind.scene.hs.parseLeft = turn.scene.hs.parseLeft ∧ behind.pending < turn.pending := by
  cases sent with
  | refused pcb len err failed => simp [Turn.pending, sending, going, failed]
  | taken pcb count most some =>
    have moved : 0 < count := some (by omega)
    refine ⟨rfl, ?_⟩
    simp only [Turn.pending, sending, going]
    omega

/-- A turn while a tag's text is on its way comes nearer to its end. -/
theorem tagSending_lt (turn : Turn Pcb World) (sending : turn.scene.hs.tagState = .sending)
    (going : turn.err = .ok) (room : turn.len ≠ 0) :
    (tagSending tcp turn).scene.hs.parseLeft = turn.scene.hs.parseLeft ∧
      (tagSending tcp turn).pending < turn.pending := by
  simp only [tagSending]
  by_cases unsent : turn.scene.hs.file < turn.scene.hs.tagEnd
  · rw [if_pos unsent]
    have sent := fileSent tcp
      { turn with len := min turn.len (turn.scene.hs.tagEnd - turn.scene.hs.file) }
    exact ⟨sent.parser.1, sent.pending_lt sending going (by simp only; omega) unsent⟩
  · rw [if_neg unsent]
    by_cases rest : turn.scene.hs.tagIndex < turn.scene.hs.tagInsert.length
    · rw [if_pos rest]
      have sent := insertSent tcp
        { turn with len := min turn.len (turn.scene.hs.tagInsert.length - turn.scene.hs.tagIndex) }
      exact sent.pending_lt sending going (by simp only; omega) rest
    · rw [if_neg rest]
      refine ⟨rfl, ?_⟩
      simp only [Turn.pending, sending]
      omega

/-- A turn parses a byte, or comes nearer to the next one. -/
theorem switchTag_lt (turn : Turn Pcb World) (left : turn.scene.hs.parseLeft ≠ 0)
    (going : turn.err = .ok) (room : turn.len ≠ 0) :
    (switchTag tcp ssi turn).scene.hs.parseLeft < turn.scene.hs.parseLeft ∨
      (switchTag tcp ssi turn).scene.hs.parseLeft = turn.scene.hs.parseLeft ∧
        (switchTag tcp ssi turn).pending < turn.pending := by
  cases state : turn.scene.hs.tagState with
  | none =>
    simp only [switchTag, state, tagNone_parseLeft]
    omega
  | leadin =>
    simp only [switchTag, state, tagLeadin]
    split
    · refine .inr ⟨rfl, ?_⟩
      simp only [Turn.pending, state]
      omega
    · split <;> exact .inl (Nat.sub_one_lt left)
  | found =>
    simp only [switchTag, state, tagFound_parseLeft]
    omega
  | leadout =>
    simp only [switchTag, state, tagLeadout_parseLeft]
    omega
  | sending =>
    simp only [switchTag, state]
    exact .inr (tagSending_lt tcp turn state going room)

/-- The loop over the page, and whether it has returned for lack of room. -/
def parseTags (turn : Turn Pcb World) : Turn Pcb World × Bool :=
  if turn.scene.hs.parseLeft ≠ 0 ∧ turn.err = .ok then
    if turn.len = 0 then (turn, true) else parseTags (switchTag tcp ssi turn)
  else (turn, false)
termination_by (turn.scene.hs.parseLeft, turn.pending)
decreasing_by
  rename_i going room
  exact Prod.lex_iff.mpr (switchTag_lt tcp ssi turn going.1 going.2 room)

/-! ## The call -/

/-- The end of `http_send_data`: at the end of the file the connection is closed. -/
def finishSending (turn : Turn Pcb World) : Outcome Pcb World :=
  if turn.scene.hs.left = 0 then ⟨turn.scene, some .endOfFile, false⟩
  else ⟨turn.scene, none, turn.dataToSend⟩

/-- Parse on, and send what is parsed unless a tag's text is on its way. -/
def parsePage (turn : Turn Pcb World) : Outcome Pcb World :=
  match parseTags tcp ssi turn with
  | (behind, true) => ⟨behind.scene, none, behind.dataToSend⟩
  | (behind, false) =>
    let hs := behind.scene.hs
    if hs.tagState ≠ .sending ∧ hs.file < hs.parsed then
      finishSending (sendFile tcp { behind with
        len := roomFor tcp behind.scene.pcb (hs.parsed - hs.file) })
    else finishSending behind

/-- A page that is checked for tags: first what is parsed already. -/
def sendPage (turn : Turn Pcb World) : Outcome Pcb World :=
  let hs := turn.scene.hs
  if hs.file < hs.parsed then
    let behind := sendFile tcp { turn with
      len := roomFor tcp turn.scene.pcb (hs.parsed - hs.file) }
    if tcp.sndbuf behind.scene.pcb = 0 then ⟨behind.scene, none, behind.dataToSend⟩
    else parsePage tcp ssi behind
  else parsePage tcp ssi { turn with len := tcp.sndbuf turn.scene.pcb }

/-- `http_send_data` behind the headers. Nothing left to send ends the connection. A file
that is not checked for tags goes out as it is. -/
def sendData (turn : Turn Pcb World) : Outcome Pcb World :=
  let hs := turn.scene.hs
  if hs.left = 0 then
    ⟨turn.scene, some (if hs.handle = none then .noFile else .endOfFile), false⟩
  else if hs.tagCheck = false then
    finishSending (sendFile tcp { turn with len := roomFor tcp turn.scene.pcb hs.left })
  else sendPage tcp ssi turn

/-- `http_send_data`. The headers come first, and the page is begun in the same call when
they have all been taken. Without a file there is nothing behind them. -/
def httpSendData (scene : Scene Pcb World) : Outcome Pcb World :=
  if scene.hs.hdrIndex < numFileHdrStrings then
    let room := tcp.sndbuf scene.pcb
    let behind := sendHeaders tcp ⟨scene, room, .ok, false⟩ room
    if behind.scene.hs.hdrIndex < numFileHdrStrings ∨ behind.scene.hs.handle = none then
      ⟨behind.scene, none, true⟩
    else sendData tcp ssi behind
  else sendData tcp ssi ⟨scene, 0, .ok, false⟩

/-- The stack's calls on a connection with a response, each with the control block and
the world as they are by then. -/
inductive Event (Pcb World : Type) where
  /-- `http_sent` -/
  | sent (pcb : Pcb) (world : World)
  /-- `http_poll` -/
  | poll (pcb : Pcb) (world : World)

/-- One call. A connection that has ended gets none. -/
def step (state : Outcome Pcb World) (event : Event Pcb World) : Option (Outcome Pcb World) :=
  if state.ended ≠ none then none
  else
    let hs := state.scene.hs
    match event with
    | .sent pcb world =>
      some (httpSendData tcp ssi
        { state.scene with hs := { hs with retries := 0 }, pcb := pcb, world := world })
    | .poll pcb world =>
      let scene := { state.scene with
        hs := { hs with retries := hs.retries + 1 }
        pcb := pcb
        world := world }
      if hs.retries + 1 = maxRetries then some ⟨scene, some .retries, false⟩
      else if hs.handle = none then some ⟨scene, none, false⟩
      else some (httpSendData tcp ssi scene)

/-- A response at its start: `http_recv` sends what the stack takes at once. -/
def respond (hs : HttpState) (pcb : Pcb) (world : World) : Outcome Pcb World :=
  httpSendData tcp ssi ⟨hs, pcb, world, [], []⟩

end sending

end UcosProxy.HttpSend
