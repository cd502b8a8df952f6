import UcosProxy.HttpParsing
import UcosProxy.Runs

/-!
# What a client receives

A response is the headers, and behind them the file, or for a file that is checked for
tags the file with a text woven in behind each tag. This module proves that the bytes
given to the stack are such a response from its first byte on, wherever the send
buffer, the stack's refusals and the two segments' limit cut it, and whatever the
handlers answer in between: no byte is lost, sent twice or out of order, and every tag's
handler is called once.

The one gap is at the end of a page. Behind its last byte the parser's loop does not
run again, so a tag that ends with the page is sent and its text is not.
-/

namespace UcosProxy.HttpSend

open Bytes TagScan Runs Weaving

/-! ## The response -/

/-- What a client should receive. It is a value and not a run, so it says what is right
before anything is sent. -/
structure Response where
  headers : List Byte
  page : List Byte
  tagCheck : Bool

/-- The header bytes that are still to be sent. -/
def HttpState.headersLeft (hs : HttpState) : List Byte :=
  ((hs.hdrs.take numFileHdrStrings).drop hs.hdrIndex).flatten.drop hs.hdrPos

/-- There is a byte of every header string left to send, from the one at hand on. -/
def HttpState.Lettered (hs : HttpState) : Prop :=
  hs.hdrIndex < numFileHdrStrings →
    hs.hdrPos < hs.hdr.length ∧
      ∀ index, hs.hdrIndex < index → index < numFileHdrStrings → hs.hdrs.getD index [] ≠ []

/-- The response that a connection is about to send. -/
def HttpState.response (hs : HttpState) : Response where
  headers := hs.headersLeft
  page := hs.data
  tagCheck := hs.handle.isSome && hs.tagCheck

/-- The tags that a response has texts for. -/
def Response.tags (response : Response) : List (List Byte) :=
  if response.tagCheck then pageTags response.page else []

/-- The body with given texts. -/
def Response.body (response : Response) (texts : List (List Byte)) : List Byte :=
  if response.tagCheck then weave scanByte .none response.page texts else response.page

/-- The texts that reach the client: not the last one of a page that ends with a tag. -/
def Response.shown (response : Response) (texts : List (List Byte)) : List (List Byte) :=
  if response.tagCheck && endsWithTag response.page then texts.dropLast else texts

/-! ## A response that is being sent -/

/-- The part of the body that has been sent: as far as the parser has come when there are
tags, else the first bytes of the file. -/
def BodySent (response : Response) (hs : HttpState) (inserts : List (List Byte × List Byte))
    (body : List Byte) : Prop :=
  if response.tagCheck then Checked hs inserts body
  else inserts = [] ∧ body = hs.data.take hs.file

section sound
variable {Pcb World : Type} (tcp : Tcp Pcb) (ssi : Ssi World) (held : World → Prop)
  {response : Response}

/-- A property of the world that the handlers of the tags keep. The world is whatever the
handlers read and write, and other tasks may have moved it between two calls. -/
def Keeps : Prop := ∀ world loop, held world → held (ssi.handler world loop).2

/-- Every text is what was answered for its tag in a world with the property. The world is
one that the run came through, and not one that is chosen afterwards. -/
def Answered (inserts : List (List Byte × List Byte)) : Prop :=
  ∀ entry ∈ inserts, ∃ world, held world ∧ entry.2 = (insertFor ssi (text entry.1) world).1

/-- What is sent of a response: headers, and behind all of them the body. Nothing is sent
twice and nothing is left out, whatever `tcp_write` took of what it was offered. -/
structure Sound (response : Response) (scene : Scene Pcb World) : Prop where
  page : scene.hs.data = response.page
  tagCheck : (scene.hs.handle.isSome && scene.hs.tagCheck) = response.tagCheck
  left : scene.hs.file + scene.hs.left = scene.hs.data.length
  world : held scene.world
  answered : Answered ssi held scene.inserts
  heading : scene.hs.Lettered
  parts : ∃ head body, scene.sent = head ++ body ∧
    head ++ scene.hs.headersLeft = response.headers ∧
    (scene.hs.hdrIndex < numFileHdrStrings → body = []) ∧
    BodySent response scene.hs scene.inserts body

/-- A response behind its headers. From here on the call has only the page and its inserts
to send. -/
structure Paged (response : Response) (scene : Scene Pcb World) : Prop
    extends Sound ssi held response scene where
  headers : numFileHdrStrings ≤ scene.hs.hdrIndex

theorem hdrIndex_of_frame {hs other : HttpState} (frame : other.frame = hs.frame) :
    other.hdrIndex = hs.hdrIndex :=
  congrArg (fun fields => fields.2.2.2.1) frame

theorem headersLeft_of_frame {hs other : HttpState} (frame : other.frame = hs.frame) :
    other.headersLeft = hs.headersLeft :=
  congrArg (fun fields =>
    ((fields.2.1.take numFileHdrStrings).drop fields.2.2.2.1).flatten.drop fields.2.2.1) frame

variable {ssi held} {scene next : Scene Pcb World} {turn behind : Turn Pcb World}

/-- Behind the headers the body grows by what is sent. -/
theorem Paged.grow (paged : Paged ssi held response scene) (frame : next.hs.frame = scene.hs.frame)
    (left : next.hs.file + next.hs.left = scene.hs.file + scene.hs.left)
    (world : held next.world) (answered : Answered ssi held next.inserts) (more : List Byte) (sent : next.sent = scene.sent ++ more)
    (grown : ∀ body, BodySent response scene.hs scene.inserts body →
      BodySent response next.hs next.inserts (body ++ more)) : Paged ssi held response next := by
  obtain ⟨head, body, split, heading, _, bodySent⟩ := paged.parts
  have data := data_of_frame frame
  have index := hdrIndex_of_frame frame
  have headers := paged.headers
  constructor
  case headers => exact index ▸ headers
  case toSound =>
    constructor
    case page => exact data.trans paged.page
    case tagCheck =>
      exact (congrArg (fun fields => fields.1.isSome && fields.2.2.2.2) frame).trans paged.tagCheck
    case left => rw [left, data, paged.left]
    case world => exact world
    case answered => exact answered
    case heading =>
      intro early
      omega
    case parts =>
      refine ⟨head, body ++ more, ?_, ?_, ?_, grown body bodySent⟩
      · rw [sent, split, List.append_assoc]
      · rw [headersLeft_of_frame frame, heading]
      · intro early
        omega

/-- A turn that parses and sends nothing. -/
theorem Paged.quiet (paged : Paged ssi held response turn.scene) (tagCheck : response.tagCheck = true)
    {hs : HttpState} (frame : hs.frame = turn.scene.hs.frame)
    (left : hs.file + hs.left = turn.scene.hs.file + turn.scene.hs.left)
    (checked : ∀ body, Checked turn.scene.hs turn.scene.inserts body →
      Checked hs turn.scene.inserts body) :
    Paged ssi held response { turn.scene with hs := hs } := by
  refine paged.grow frame left paged.world paged.answered [] (List.append_nil _).symm ?_
  intro body bodySent
  rw [BodySent, if_pos tagCheck] at bodySent ⊢
  rw [List.append_nil]
  exact checked body bodySent

/-- What may be sent of the file: for a page that is checked, what is parsed. -/
def Response.ready (response : Response) (hs : HttpState) : Nat :=
  if response.tagCheck then hs.parsed - hs.file else hs.left

/-- Sending a part of the file that may be sent. -/
theorem Paged.fileSent (paged : Paged ssi held response turn.scene) (sent : FileSent turn behind)
    (inside : turn.len ≤ response.ready turn.scene.hs) : Paged ssi held response behind.scene := by
  cases sent with
  | refused pcb len err failed =>
    refine paged.grow rfl rfl paged.world paged.answered [] (List.append_nil _).symm ?_
    intro body bodySent
    rwa [List.append_nil]
  | taken pcb count most some =>
    obtain ⟨_, body, _, _, _, bodySent⟩ := paged.parts
    have whole := paged.left
    have enough : count ≤ turn.scene.hs.left := by
      unfold Response.ready at inside
      split at inside
      · rename_i tagCheck
        rw [BodySent, if_pos tagCheck] at bodySent
        have := bodySent.parsed
        omega
      · omega
    refine paged.grow rfl ?_ paged.world paged.answered _ rfl ?_
    · change turn.scene.hs.file + count + (turn.scene.hs.left - count) = _
      omega
    · intro body bodySent
      unfold BodySent at bodySent ⊢
      unfold Response.ready at inside
      split
      · rename_i tagCheck
        rw [if_pos tagCheck] at bodySent inside
        exact bodySent.send _ (by omega)
      · rename_i plain
        rw [if_neg plain] at bodySent
        obtain ⟨none, taken⟩ := bodySent
        refine ⟨none, ?_⟩
        change _ = turn.scene.hs.data.take (turn.scene.hs.file + count)
        rw [taken, List.take_add]

/-- A tag's text leaves the property of the world. -/
theorem Keeps.insertFor (keeps : Keeps ssi held) (name : List Byte) {world : World}
    (before : held world) : held (insertFor ssi name world).2 := by
  unfold HttpSend.insertFor
  split
  · exact keeps world _ before
  · exact before

/-- The byte that completes a tag, and what is sent up to it. -/
theorem Paged.tagComplete (keeps : Keeps ssi held) (paged : Paged ssi held response turn.scene)
    (tagCheck : response.tagCheck = true) (left : turn.scene.hs.parseLeft ≠ 0)
    (quiet : turn.scene.hs.tagState ≠ .sending)
    (completed : ∀ body, Checked turn.scene.hs turn.scene.inserts body →
      scanByte (after scanByte .none (turn.scene.hs.data.take turn.scene.hs.parsed))
          turn.scene.hs.parsedByte =
        (.none, some (turn.scene.hs.tagName.take turn.scene.hs.tagNameLen)))
    (name : text turn.scene.hs.tagName =
      text (turn.scene.hs.tagName.take turn.scene.hs.tagNameLen)) :
    Paged ssi held response (tagComplete tcp ssi turn).scene := by
  have found : Paged ssi held response { turn.scene with
      hs := { turn.scene.hs.nextByte with
        tagInsert := (getTagInsert ssi turn.scene.hs.nextByte turn.scene.world).1
        tagIndex := 0
        tagState := .sending
        tagEnd := turn.scene.hs.nextByte.parsed }
      world := (getTagInsert ssi turn.scene.hs.nextByte turn.scene.world).2
      inserts := turn.scene.inserts ++ [(turn.scene.hs.tagName.take turn.scene.hs.tagNameLen,
        (getTagInsert ssi turn.scene.hs.nextByte turn.scene.world).1)] } := by
    refine paged.grow rfl rfl (keeps.insertFor _ paged.world) ?_ [] (List.append_nil _).symm ?_
    · intro entry member
      rcases List.mem_append.mp member with before | last
      · exact paged.answered entry before
      · obtain rfl := List.mem_singleton.mp last
        exact ⟨turn.scene.world, paged.world, by rw [← name]; rfl⟩
    · intro body bodySent
      rw [BodySent, if_pos tagCheck] at bodySent ⊢
      rw [List.append_nil]
      exact bodySent.complete left quiet _ (completed body bodySent)
  simp only [HttpSend.tagComplete]
  split
  · refine Paged.fileSent ?_ (HttpSend.fileSent tcp _) ?_
    · exact found
    · rw [Response.ready, if_pos tagCheck]
      exact Nat.min_le_right _ _
  · exact found

/-- A turn while a tag's text is on its way. -/
theorem Paged.tagSending (paged : Paged ssi held response turn.scene)
    (tagCheck : response.tagCheck = true) (left : turn.scene.hs.parseLeft ≠ 0)
    (sending : turn.scene.hs.tagState = .sending) :
    Paged ssi held response (tagSending tcp turn).scene := by
  obtain ⟨_, body, _, _, _, bodySent⟩ := paged.parts
  rw [BodySent, if_pos tagCheck] at bodySent
  have behind := (bodySent.tag sending).1
  simp only [HttpSend.tagSending]
  by_cases unsent : turn.scene.hs.file < turn.scene.hs.tagEnd
  · rw [if_pos unsent]
    refine Paged.fileSent ?_ (HttpSend.fileSent tcp _) ?_
    · exact paged
    · rw [Response.ready, if_pos tagCheck, ← behind]
      exact Nat.min_le_right _ _
  · rw [if_neg unsent]
    by_cases rest : turn.scene.hs.tagIndex < turn.scene.hs.tagInsert.length
    · rw [if_pos rest]
      generalize sent : HttpSend.sendInsert tcp _ = behind
      have cases := insertSent tcp { turn with
        len := min turn.len (turn.scene.hs.tagInsert.length - turn.scene.hs.tagIndex) }
      rw [sent] at cases
      cases cases with
      | refused pcb len err failed =>
        exact paged.grow rfl rfl paged.world paged.answered [] (List.append_nil _).symm fun body sent =>
          (List.append_nil body).symm ▸ sent
      | taken pcb count most some =>
        refine paged.grow rfl rfl paged.world paged.answered _ rfl ?_
        intro body bodySent
        rw [BodySent, if_pos tagCheck] at bodySent ⊢
        exact bodySent.sendInsert left sending (by omega) count
    · rw [if_neg rest]
      exact paged.quiet tagCheck rfl rfl fun body checked =>
        checked.resume left sending (by omega)

/-- A turn of the loop. -/
theorem Paged.switchTag (keeps : Keeps ssi held) (paged : Paged ssi held response turn.scene)
    (tagCheck : response.tagCheck = true) (left : turn.scene.hs.parseLeft ≠ 0) :
    Paged ssi held response (switchTag tcp ssi turn).scene := by
  have sentLeft {next : HttpState} {state : TagState} (advanced : Advanced turn.scene.hs next state) :
      next.file + next.left = turn.scene.hs.file + turn.scene.hs.left := by
    rw [advanced.file, advanced.left]
  obtain ⟨_, body, _, _, _, bodySent⟩ := paged.parts
  rw [BodySent, if_pos tagCheck] at bodySent
  cases state : turn.scene.hs.tagState with
  | none =>
    have advanced := advanced_none bodySent.stands state
    simp only [HttpSend.switchTag, state]
    exact paged.quiet tagCheck advanced.frame (sentLeft advanced) fun body checked =>
      checked.advance left (TagCheckState.differs state TagCheckState.noConfusion) advanced
  | leadin =>
    simp only [HttpSend.switchTag, state]
    by_cases ended : turn.scene.hs.tagIndex = tagLeadIn.length
    · refine paged.quiet tagCheck ?_ ?_ fun body checked => checked.enter left state ended
      · rw [tagLeadin, if_pos ended]
        rfl
      · rw [tagLeadin, if_pos ended]
    · have advanced := advanced_leadin bodySent.stands state ended
      exact paged.quiet tagCheck advanced.frame (sentLeft advanced) fun body checked =>
        checked.advance left (TagCheckState.differs state TagCheckState.noConfusion) advanced
  | found =>
    have advanced := advanced_found bodySent.stands state bodySent.buffer
    simp only [HttpSend.switchTag, state]
    exact paged.quiet tagCheck advanced.frame (sentLeft advanced) fun body checked =>
      checked.advance left (TagCheckState.differs state TagCheckState.noConfusion) advanced
  | leadout =>
    have quiet : turn.scene.hs.tagState ≠ .sending :=
      TagCheckState.differs state TagCheckState.noConfusion
    simp only [HttpSend.switchTag, state]
    rcases tagLeadout_cases tcp ssi bodySent.stands state with
      ⟨next, advanced, same⟩ | ⟨completed, name, same⟩
    · rw [same]
      exact paged.quiet tagCheck advanced.frame (sentLeft advanced) fun body checked =>
        checked.advance left quiet advanced
    · rw [same]
      exact paged.tagComplete tcp keeps tagCheck left quiet (fun _ _ => completed) name
  | sending =>
    simp only [HttpSend.switchTag, state]
    exact paged.tagSending tcp tagCheck left state

/-- The loop over the page. -/
theorem Paged.parseTags (keeps : Keeps ssi held) (paged : Paged ssi held response turn.scene)
    (tagCheck : response.tagCheck = true) :
    Paged ssi held response (parseTags tcp ssi turn).1.scene := by
  fun_induction HttpSend.parseTags tcp ssi turn with
  | case1 => exact paged
  | case2 turn going room inductionHypothesis =>
    exact inductionHypothesis (paged.switchTag tcp keeps tagCheck going.1)
  | case3 => exact paged

/-- What every call leaves: a response on its way, or one that has been sent to its end or
given up. Only a response that ended complete is known to have nothing left of its file and
of its headers. -/
structure Fair (ssi : Ssi World) (held : World → Prop) (response : Response)
    (outcome : Outcome Pcb World) : Prop where
  sound : Sound ssi held response outcome.scene
  ended : outcome.ended = some .noFile ∨ outcome.ended = some .endOfFile →
    outcome.scene.hs.left = 0 ∧ numFileHdrStrings ≤ outcome.scene.hs.hdrIndex

theorem Paged.finishSending (paged : Paged ssi held response turn.scene) :
    Fair ssi held response (finishSending turn) := by
  unfold HttpSend.finishSending
  split
  · rename_i done
    exact ⟨paged.toSound, fun _ => ⟨done, paged.headers⟩⟩
  · exact ⟨paged.toSound, nofun⟩

theorem roomFor_le (pcb : Pcb) (bytes : Nat) : roomFor tcp pcb bytes ≤ bytes :=
  (Nat.min_le_left _ _).trans (Nat.min_le_right _ _)

/-- A page that is parsed on. -/
theorem Paged.parsePage (keeps : Keeps ssi held) (paged : Paged ssi held response turn.scene)
    (tagCheck : response.tagCheck = true) : Fair ssi held response (parsePage tcp ssi turn) := by
  have parsed := paged.parseTags tcp keeps tagCheck
  simp only [HttpSend.parsePage]
  split
  · rename_i behind same
    rw [same] at parsed
    exact ⟨parsed.toSound, nofun⟩
  · rename_i behind same
    rw [same] at parsed
    split
    · refine Paged.finishSending (Paged.fileSent ?_ (HttpSend.fileSent tcp _) ?_)
      · exact parsed
      · rw [Response.ready, if_pos tagCheck]
        exact roomFor_le tcp _ _
    · exact parsed.finishSending

/-- A page that is checked for tags. -/
theorem Paged.sendPage (keeps : Keeps ssi held) (paged : Paged ssi held response turn.scene)
    (tagCheck : response.tagCheck = true) : Fair ssi held response (sendPage tcp ssi turn) := by
  have parsed : Paged ssi held response (sendFile tcp { turn with
      len := roomFor tcp turn.scene.pcb (turn.scene.hs.parsed - turn.scene.hs.file) }).scene := by
    refine Paged.fileSent ?_ (HttpSend.fileSent tcp _) ?_
    · exact paged
    · rw [Response.ready, if_pos tagCheck]
      exact roomFor_le tcp _ _
  simp only [HttpSend.sendPage]
  split
  · split
    · exact ⟨parsed.toSound, nofun⟩
    · exact parsed.parsePage tcp keeps tagCheck
  · have page : Paged ssi held response
        (Turn.scene { turn with len := tcp.sndbuf turn.scene.pcb }) := paged
    exact page.parsePage tcp keeps tagCheck

/-- The data behind the headers. -/
theorem Paged.sendData (keeps : Keeps ssi held) (paged : Paged ssi held response turn.scene) :
    Fair ssi held response (sendData tcp ssi turn) := by
  simp only [HttpSend.sendData]
  split
  · rename_i done
    exact ⟨paged.toSound, fun _ => ⟨done, paged.headers⟩⟩
  · rename_i more
    split
    · rename_i plain
      refine Paged.finishSending (Paged.fileSent ?_ (HttpSend.fileSent tcp _) ?_)
      · exact paged
      · have tagCheck := paged.tagCheck
        rw [plain, Bool.and_false] at tagCheck
        rw [Response.ready, ← tagCheck, if_neg Bool.noConfusion]
        exact roomFor_le tcp _ _
    · rename_i tagged
      have opened : turn.scene.hs.handle.isSome = true := by
        cases handle : turn.scene.hs.handle with
        | some file => rfl
        | none =>
          have left := paged.left
          simp only [HttpState.data, handle] at left
          simp at left
          omega
      have tagCheck := paged.tagCheck
      rw [opened, Bool.true_and, Bool.of_not_eq_false tagged] at tagCheck
      exact paged.sendPage tcp keeps tagCheck.symm

/-- The header strings and the retries are none of the parser's business. -/
theorem BodySent.outside {hs : HttpState} {inserts : List (List Byte × List Byte)}
    {body : List Byte} (bodySent : BodySent response hs inserts body) (index pos retries : Nat) :
    BodySent response { hs with hdrIndex := index, hdrPos := pos, retries := retries } inserts
      body := by
  unfold BodySent at bodySent ⊢
  split
  · rename_i tagCheck
    rw [if_pos tagCheck] at bodySent
    exact { bodySent with stands := bodySent.stands.congr rfl rfl rfl rfl }
  · rename_i plain
    rwa [if_neg plain] at bodySent

/-- The header bytes from the string at hand on. -/
theorem headersLeft_eq (hs : HttpState) (early : hs.hdrIndex < numFileHdrStrings)
    (inside : hs.hdrPos ≤ hs.hdr.length) :
    hs.headersLeft =
      hs.hdr.drop hs.hdrPos ++ ((hs.hdrs.take numFileHdrStrings).drop (hs.hdrIndex + 1)).flatten := by
  have length : (hs.hdrs.take numFileHdrStrings).length = min numFileHdrStrings hs.hdrs.length :=
    List.length_take
  unfold HttpState.headersLeft HttpState.hdr at *
  by_cases there : hs.hdrIndex < hs.hdrs.length
  · have position : hs.hdrIndex < (hs.hdrs.take numFileHdrStrings).length := by omega
    rw [List.getD_eq_getElem _ _ there] at inside ⊢
    rw [List.drop_eq_getElem_cons position, List.getElem_take, List.flatten_cons,
      List.drop_append_of_le_length inside]
  · have beyond : (hs.hdrs.take numFileHdrStrings).length ≤ hs.hdrIndex := by omega
    rw [List.drop_eq_nil_of_le beyond, List.drop_eq_nil_of_le (Nat.le_succ_of_le beyond),
      List.getD_eq_default _ _ (Nat.le_of_not_lt there)]
    simp only [List.flatten_nil, List.drop_nil, List.append_nil]

/-- A part of a header string is sent. -/
theorem Sound.sendHeader (sound : Sound ssi held response turn.scene)
    (early : turn.scene.hs.hdrIndex < numFileHdrStrings) :
    Sound ssi held response (sendHeader tcp turn).1.scene := by
  obtain ⟨head, body, split, heading, none, bodySent⟩ := sound.parts
  obtain ⟨unsent, later⟩ := sound.heading early
  have inside := unsent.le
  have empty := none early
  have most : (HttpSend.sendHeader tcp turn).2 ≤ turn.scene.hs.hdr.length - turn.scene.hs.hdrPos := by
    simp only [HttpSend.sendHeader]
    split
    · rename_i taken
      exact (httpWrite_len tcp _ _ _ taken).1.trans (Nat.min_le_right _ _)
    · exact Nat.zero_le _
  have scene : (HttpSend.sendHeader tcp turn).1.scene.sent = turn.scene.sent ++
      (turn.scene.hs.hdr.drop turn.scene.hs.hdrPos).take (HttpSend.sendHeader tcp turn).2 := rfl
  have inserts : (HttpSend.sendHeader tcp turn).1.scene.inserts = turn.scene.inserts := rfl
  have untouched : (HttpSend.sendHeader tcp turn).1.scene.world = turn.scene.world := rfl
  have moved : (HttpSend.sendHeader tcp turn).1.scene.hs =
      if turn.scene.hs.hdrPos + (HttpSend.sendHeader tcp turn).2 = turn.scene.hs.hdr.length then
        { turn.scene.hs with hdrIndex := turn.scene.hs.hdrIndex + 1, hdrPos := 0 }
      else { turn.scene.hs with
        hdrPos := turn.scene.hs.hdrPos + (HttpSend.sendHeader tcp turn).2 } := rfl
  rw [headersLeft_eq _ early inside] at heading
  generalize HttpSend.sendHeader tcp turn = behind at most scene inserts untouched moved
  obtain ⟨⟨⟨hs, pcb, world, sent, asked⟩, len, err, dataToSend⟩, count⟩ := behind
  simp only at most scene inserts untouched moved ⊢
  subst scene inserts untouched moved
  split
  · rename_i whole
    constructor
    case page => exact sound.page
    case tagCheck => exact sound.tagCheck
    case left => exact sound.left
    case world => exact sound.world
    case answered => exact sound.answered
    case heading =>
      intro further
      exact ⟨List.length_pos_iff.mpr (later _ (Nat.lt_succ_self _) further),
        fun index behind => later index (Nat.lt_of_succ_lt behind)⟩
    case parts =>
      refine ⟨head ++ turn.scene.hs.hdr.drop turn.scene.hs.hdrPos, body, ?_, ?_, fun _ => empty,
        bodySent.outside _ _ _⟩
      · rw [split, empty, List.append_nil, List.append_nil, List.take_of_length_le]
        rw [List.length_drop]
        omega
      · rw [← heading, List.append_assoc]
        rfl
  · rename_i part
    constructor
    case page => exact sound.page
    case tagCheck => exact sound.tagCheck
    case left => exact sound.left
    case world => exact sound.world
    case answered => exact sound.answered
    case heading =>
      intro _
      refine ⟨?_, later⟩
      change turn.scene.hs.hdrPos + count < turn.scene.hs.hdr.length
      omega
    case parts =>
      refine ⟨head ++ (turn.scene.hs.hdr.drop turn.scene.hs.hdrPos).take count, body, ?_, ?_,
        fun _ => empty, bodySent.outside _ _ _⟩
      · rw [split, empty, List.append_nil, List.append_nil]
      · have left := headersLeft_eq
          { turn.scene.hs with hdrPos := turn.scene.hs.hdrPos + count } early
        refine (congrArg (_ ++ ·) (left ?_)).trans ?_
        · change turn.scene.hs.hdrPos + count ≤ turn.scene.hs.hdr.length
          omega
        · change head ++ (turn.scene.hs.hdr.drop turn.scene.hs.hdrPos).take count ++
            (turn.scene.hs.hdr.drop (turn.scene.hs.hdrPos + count) ++ _) = _
          rw [← heading, ← List.drop_drop, List.append_assoc, ← List.append_assoc (List.take _ _),
            List.take_append_drop]

/-- The loop over the header strings. -/
theorem Sound.sendHeaders (sound : Sound ssi held response turn.scene) (sendlen : Nat) :
    Sound ssi held response (sendHeaders tcp turn sendlen).scene := by
  fun_induction HttpSend.sendHeaders tcp turn sendlen with
  | case1 => exact sound
  | case2 turn sendlen going inductionHypothesis =>
    simp only [not_or, Nat.not_le] at going
    exact inductionHypothesis (sound.sendHeader tcp going.2.1)

/-- `http_send_data` keeps a response sound. -/
theorem Sound.httpSendData (keeps : Keeps ssi held) (sound : Sound ssi held response scene) :
    Fair ssi held response (httpSendData tcp ssi scene) := by
  simp only [HttpSend.httpSendData]
  split
  · have start : Sound ssi held response (Turn.scene ⟨scene, tcp.sndbuf scene.pcb, .ok, false⟩) := sound
    have headed := start.sendHeaders tcp (tcp.sndbuf scene.pcb)
    split
    · exact ⟨headed, nofun⟩
    · rename_i done
      simp only [not_or, Nat.not_lt] at done
      exact Paged.sendData tcp keeps ⟨headed, done.1⟩
  · rename_i headers
    have start : Paged ssi held response (Turn.scene ⟨scene, 0, .ok, false⟩) :=
      ⟨sound, Nat.le_of_not_lt headers⟩
    exact start.sendData tcp keeps

/-- What happens between two calls is none of the response's business. -/
theorem Sound.outside (sound : Sound ssi held response scene) (retries : Nat) (pcb : Pcb)
    {world : World} (kept : held world) :
    Sound ssi held response { scene with
      hs := { scene.hs with retries := retries }, pcb := pcb, world := world } := by
  obtain ⟨head, body, split, heading, none, bodySent⟩ := sound.parts
  exact { sound with
    world := kept
    parts := ⟨head, body, split, heading, none, bodySent.outside _ _ _⟩ }

/-- The world that a call meets. -/
def Event.world : Event Pcb World → World
  | .sent _ world => world
  | .poll _ world => world

/-- One call of the stack. -/
theorem Fair.step (keeps : Keeps ssi held) {state next : Outcome Pcb World} {event : Event Pcb World}
    (fair : Fair ssi held response state) (kept : held event.world) (taken : step tcp ssi state event = some next) :
    Fair ssi held response next := by
  unfold HttpSend.step at taken
  split at taken
  · cases taken
  · cases event with
    | sent pcb world =>
      obtain rfl := Option.some.inj taken
      exact (fair.sound.outside 0 pcb kept).httpSendData tcp keeps
    | poll pcb world =>
      have sound := fair.sound.outside (state.scene.hs.retries + 1) pcb kept
      simp only at taken
      split at taken
      · obtain rfl := Option.some.inj taken
        exact ⟨sound, by simp⟩
      · split at taken
        · obtain rfl := Option.some.inj taken
          exact ⟨sound, nofun⟩
        · obtain rfl := Option.some.inj taken
          exact sound.httpSendData tcp keeps

end sound

/-! ## What has been received -/

/-- A connection whose response is about to be sent. It stands at the first byte of its
file, and a file that is checked for tags has not been parsed. -/
structure Opened (hs : HttpState) : Prop where
  file : hs.file = 0
  left : hs.left = hs.data.length
  parsed : hs.handle.isSome → hs.parsed = 0
  parseLeft : hs.handle.isSome → hs.parseLeft = hs.data.length
  state : hs.handle.isSome → hs.tagState = .none
  buffer : hs.tagName.length = maxTagNameLen + 1
  heading : hs.Lettered

/-- The whole file has been sent, or there is none. The third ending gives up, after too many
polls. -/
def Ending.Complete (ending : Ending) : Prop := ending = .noFile ∨ ending = .endOfFile

/-- What a client has received so far. The first three hold at any time, also for a response
that never ends, and the last one says when it is whole. -/
structure Served {Pcb World : Type} (ssi : Ssi World) (held : World → Prop) (response : Response)
    (outcome : Outcome Pcb World) : Prop where
  /-- The tags were asked for in their order, each once. -/
  asked : outcome.scene.inserts.map Prod.fst <+: response.tags
  /-- The texts are the answers of the handlers. -/
  answered : Answered ssi held outcome.scene.inserts
  /-- The bytes are the response's first ones, whatever the tags to come will answer. -/
  begun : ∀ texts, outcome.scene.inserts.map Prod.snd <+: texts →
    outcome.scene.sent <+: response.headers ++ response.body texts
  /-- A response that has come to its end was sent whole, but for the text of a tag that
  ends with the page. -/
  whole : (∃ ending ∈ outcome.ended, ending.Complete) →
    outcome.scene.inserts.map Prod.fst = response.tags ∧
      outcome.scene.sent = response.headers ++
        response.body (response.shown (outcome.scene.inserts.map Prod.snd))

@[simp] theorem Response.shown_nil (response : Response) : response.shown [] = [] := by
  unfold Response.shown
  split <;> rfl

section served
variable {Pcb World : Type} (tcp : Tcp Pcb) {ssi : Ssi World} {held : World → Prop}

/-- A response starts with nothing sent. -/
theorem Opened.sound {hs : HttpState} (opened : Opened hs) (pcb : Pcb) {world : World}
    (kept : held world) :
    Sound ssi held hs.response ⟨hs, pcb, world, [], []⟩ := by
  constructor
  case page => rfl
  case tagCheck => rfl
  case left =>
    change hs.file + hs.left = hs.data.length
    rw [opened.file, opened.left, Nat.zero_add]
  case world => exact kept
  case answered => exact fun entry member => absurd member List.not_mem_nil
  case heading => exact opened.heading
  case parts =>
    refine ⟨[], [], rfl, rfl, fun _ => rfl, ?_⟩
    unfold BodySent
    split
    · rename_i tagCheck
      have file : hs.handle.isSome = true := (Bool.and_eq_true_iff.mp tagCheck).1
      have parsed := opened.parsed file
      have state := opened.state file
      have length := opened.parseLeft file
      have unsent : hs.unsent = [] := by
        rw [HttpState.unsent, state, if_neg TagCheckState.noConfusion, parsed, List.take_zero,
          List.drop_nil, List.append_nil]
      constructor
      case parsed => rw [parsed, length, Nat.zero_add]
      case file => rw [opened.file, parsed]
      case buffer => exact opened.buffer
      case stands =>
        rw [parsed]
        exact .none state
      case names =>
        rw [parsed]
        rfl
      case woven =>
        rw [unsent, parsed]
        rfl
      case tag => exact fun sending => absurd (state.symm.trans sending) TagCheckState.noConfusion
      case last =>
        intro none
        have empty : hs.data = [] := List.eq_nil_of_length_eq_zero (length.symm.trans none)
        rw [state, empty]
        exact ⟨⟨TagCheckState.noConfusion, fun tagged => Bool.noConfusion tagged⟩,
          TagCheckState.noConfusion⟩
    · exact ⟨rfl, by rw [opened.file, List.take_zero]⟩

variable {response : Response} {scene : Scene Pcb World}

/-- Behind the headers nothing of them is left. -/
theorem headersLeft_behind {hs : HttpState} (headers : numFileHdrStrings ≤ hs.hdrIndex) :
    hs.headersLeft = [] := by
  rw [HttpState.headersLeft, List.drop_eq_nil_of_le
    ((List.length_take_le _ _).trans headers), List.flatten_nil, List.drop_nil]

/-- A part of the body is the first of it, whatever the tags to come will answer. -/
theorem BodySent.sent_first {body : List Byte} (page : scene.hs.data = response.page)
    (bodySent : BodySent response scene.hs scene.inserts body) (texts : List (List Byte))
    (more : scene.inserts.map Prod.snd <+: texts) : body <+: response.body texts := by
  unfold BodySent at bodySent
  unfold Response.body
  split
  · rename_i tagCheck
    rw [if_pos tagCheck] at bodySent
    have each : (marks scanByte .none (scene.hs.data.take scene.hs.parsed)).length ≤
        (scene.inserts.map Prod.snd).length := by
      rw [← pageTags, ← bodySent.names, List.length_map, List.length_map]
    have first : body <+: weave scanByte .none (scene.hs.data.take scene.hs.parsed)
        (scene.inserts.map Prod.snd) := bodySent.woven ▸ List.prefix_append _ _
    have later := weave_prefix scanByte .none _ (scene.hs.data.drop scene.hs.parsed) each more
    rw [List.take_append_drop, page] at later
    rw [page] at first
    exact first.trans later
  · rename_i plain
    rw [if_neg plain] at bodySent
    rw [bodySent.2, page]
    exact List.take_prefix _ _

/-- The tags that have been asked for are the first ones. -/
theorem BodySent.asked {body : List Byte} (page : scene.hs.data = response.page)
    (bodySent : BodySent response scene.hs scene.inserts body) :
    scene.inserts.map Prod.fst <+: response.tags := by
  unfold BodySent at bodySent
  unfold Response.tags
  split
  · rename_i tagCheck
    rw [if_pos tagCheck] at bodySent
    have split := marks_append scanByte .none (scene.hs.data.take scene.hs.parsed)
      (scene.hs.data.drop scene.hs.parsed)
    rw [List.take_append_drop, page] at split
    rw [bodySent.names, pageTags, pageTags, split, page]
    exact List.prefix_append _ _
  · rename_i plain
    rw [if_neg plain] at bodySent
    rw [bodySent.1]
    exact List.nil_prefix

/-- A page that has been sent to its end has all its texts, but for one at its end. -/
theorem Checked.whole {hs : HttpState} {inserts : List (List Byte × List Byte)} {body : List Byte}
    (checked : Checked hs inserts body) (sent : hs.file = hs.data.length) :
    inserts.map Prod.fst = pageTags hs.data ∧
      body = weave scanByte .none hs.data
        (if endsWithTag hs.data then (inserts.map Prod.snd).dropLast else inserts.map Prod.snd) := by
  have file := checked.file
  have bound := checked.parsed
  have all : hs.data.take hs.parsed = hs.data := List.take_of_length_le (by omega)
  have names := checked.names
  have woven := checked.woven
  have last := checked.last (by omega)
  rw [all] at names woven
  rw [HttpState.unsent, all, sent, List.drop_length, List.nil_append] at woven
  refine ⟨names, ?_⟩
  by_cases sending : hs.tagState = .sending
  · have tagged := last.1.mp sending
    obtain ⟨earlier, split⟩ := List.getLast?_eq_some_iff.mp (checked.tag sending).2
    rw [if_pos sending, last.2 sending, List.drop_zero] at woven
    rw [if_pos tagged, split, List.dropLast_concat]
    obtain ⟨before, byte, page⟩ : ∃ before byte, hs.data = before ++ [byte] := by
      cases pages : hs.data using List.reverseRecOn with
      | nil =>
        rw [pages] at tagged
        exact absurd tagged (by decide)
      | append_singleton before byte => exact ⟨before, byte, rfl⟩
    rw [page, endsWithTag_concat] at tagged
    obtain ⟨name, completed⟩ := Option.isSome_iff_exists.mp tagged
    have each : earlier.length = (marks scanByte .none before).length := by
      have count := congrArg List.length names
      rw [page, pageTags, marks_concat, completed, List.length_map,
        ← List.length_map Prod.snd, split] at count
      simpa using count
    rw [page, split, weave_concat_without scanByte hs.tagInsert completed each] at woven
    rw [page]
    exact List.append_cancel_right woven
  · have untagged : ¬ endsWithTag hs.data = true := fun tagged => sending (last.1.mpr tagged)
    rw [if_neg sending, List.append_nil] at woven
    rw [if_neg untagged]
    exact woven

/-- What a sound response has come to. -/
theorem Fair.served {outcome : Outcome Pcb World} (fair : Fair ssi held response outcome) :
    Served ssi held response outcome := by
  obtain ⟨head, body, split, heading, none, bodySent⟩ := fair.sound.parts
  constructor
  case asked => exact bodySent.asked fair.sound.page
  case answered => exact fair.sound.answered
  case begun =>
    intro texts more
    rw [split]
    by_cases early : outcome.scene.hs.hdrIndex < numFileHdrStrings
    · rw [none early, List.append_nil, ← heading, List.append_assoc]
      exact List.prefix_append _ _
    · rw [headersLeft_behind (Nat.le_of_not_lt early), List.append_nil] at heading
      rw [heading]
      exact (List.prefix_append_right_inj _).mpr (bodySent.sent_first fair.sound.page texts more)
  case whole =>
    rintro ⟨ending, ended, complete⟩
    have done : outcome.scene.hs.left = 0 ∧ numFileHdrStrings ≤ outcome.scene.hs.hdrIndex := by
      have same : outcome.ended = some ending := ended
      rcases complete with rfl | rfl
      · exact fair.ended (.inl same)
      · exact fair.ended (.inr same)
    have file : outcome.scene.hs.file = outcome.scene.hs.data.length := by
      rw [← fair.sound.left, done.1, Nat.add_zero]
    rw [headersLeft_behind done.2, List.append_nil] at heading
    rw [split, heading]
    unfold BodySent at bodySent
    unfold Response.tags Response.body Response.shown
    by_cases tagCheck : response.tagCheck = true
    · rw [if_pos tagCheck] at bodySent ⊢
      rw [if_pos tagCheck, tagCheck, Bool.true_and, ← fair.sound.page]
      obtain ⟨names, whole⟩ := bodySent.whole file
      exact ⟨names, congrArg _ whole⟩
    · rw [if_neg tagCheck] at bodySent ⊢
      rw [if_neg tagCheck, bodySent.2, bodySent.1, file, List.take_length, fair.sound.page]
      exact ⟨rfl, rfl⟩

/-- Every call on a connection leaves its client with the response as far as it goes. -/
theorem served_always (keeps : Keeps ssi held) {hs : HttpState} (opened : Opened hs) (pcb : Pcb)
    {world : World} (kept : held world) (events : List (Event Pcb World))
    (all : ∀ event ∈ events, held event.world) :
    Always (step tcp ssi) (Served ssi held hs.response) (respond tcp ssi hs pcb world) events := by
  have start : Fair ssi held hs.response (respond tcp ssi hs pcb world) :=
    (opened.sound pcb kept).httpSendData tcp keeps
  refine always_of_guarded (Fair ssi held hs.response) _ (fun _ fair => fair.served) ?_ start events
    (guarded_of_forall (fun event => held event.world) events all)
  exact fun state event next fair met taken => fair.step tcp keeps met taken

end served

end UcosProxy.HttpSend
