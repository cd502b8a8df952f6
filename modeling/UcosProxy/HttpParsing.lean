import UcosProxy.HttpSend
import UcosProxy.PostIsolation
import UcosProxy.Weaving

/-!
# Parsing a page while it is sent

`TagScan.scanByte` says what tags a page has. The parser of `http_send_data` keeps one
counter and a buffer in place of that state, and `Stands` relates the two: every case of
its loop that uses up a byte is a step of `scanByte`, and the buffer of the name is never
written behind its end.

`Checked` is what holds of a page between any two turns of the loop and any two calls:
what has been sent of the body, and behind it what is parsed and unsent, is the page as
far as it is parsed with its texts woven in. Each lemma is one thing that a turn can do
with a page.
-/

namespace UcosProxy.HttpSend

open Bytes TagScan Weaving

/-- The tags of a page. -/
def pageTags (page : List Byte) : List (List Byte) := marks scanByte .none page

/-- A tag ends with the last byte of a page. -/
def endsWithTag (page : List Byte) : Bool :=
  (pageTags page.dropLast).length < (pageTags page).length

/-! ## The parser -/

/-- The state of the parser that a connection stands for. Between the lead-in and the
name it has two. -/
inductive Stands (hs : HttpState) : TagState → Prop
  | none (state : hs.tagState = .none) : Stands hs .none
  | sending (state : hs.tagState = .sending) : Stands hs .none
  | leadin (state : hs.tagState = .leadin) : Stands hs (.leadin hs.tagIndex)
  | entered (state : hs.tagState = .found) (start : hs.tagIndex = 0) :
    Stands hs (.leadin tagLeadIn.length)
  | found (state : hs.tagState = .found) (inside : hs.tagIndex ≤ maxTagNameLen) :
    Stands hs (.found (hs.tagName.take hs.tagIndex))
  | leadout (state : hs.tagState = .leadout) (ended : hs.tagName[hs.tagNameLen]? = some 0) :
    Stands hs (.leadout (hs.tagName.take hs.tagNameLen) hs.tagIndex)

/-- A connection stands for a state by its own fields of the parser alone. -/
theorem Stands.congr {hs next : HttpState} {state : TagState} (stands : Stands hs state)
    (tagState : next.tagState = hs.tagState) (tagIndex : next.tagIndex = hs.tagIndex)
    (tagName : next.tagName = hs.tagName) (tagNameLen : next.tagNameLen = hs.tagNameLen) :
    Stands next state := by
  cases stands with
  | none state => exact .none (tagState.trans state)
  | sending state => exact .sending (tagState.trans state)
  | leadin state => exact tagIndex ▸ .leadin (tagState.trans state)
  | entered state start => exact .entered (tagState.trans state) (tagIndex.trans start)
  | found state inside =>
    rw [← tagIndex, ← tagName]
    exact .found (tagState.trans state) (tagIndex ▸ inside)
  | leadout state ended =>
    rw [← tagName, ← tagNameLen] at ended
    rw [← tagIndex, ← tagName, ← tagNameLen]
    exact .leadout (tagState.trans state) ended

/-- While a tag's text is on its way the parser is between two tags. -/
theorem Stands.idle {hs : HttpState} {state : TagState} (stands : Stands hs state)
    (sending : hs.tagState = .sending) : state = .none := by
  cases stands with
  | none => rfl
  | sending => rfl
  | _ state => exact absurd (state.symm.trans sending) TagCheckState.noConfusion

/-- The fields that the parser leaves alone, but for what is sent. -/
def HttpState.frame (hs : HttpState) :
    Option FsFile × List (List Byte) × Nat × Nat × Bool :=
  (hs.handle, hs.hdrs, hs.hdrPos, hs.hdrIndex, hs.tagCheck)

/-- What parsing a byte that completes no tag does to a connection. Position and scanner
move, and nothing is sent: the bytes wait for the next write. -/
structure Advanced (hs next : HttpState) (state : TagState) : Prop where
  frame : next.frame = hs.frame
  file : next.file = hs.file
  left : next.left = hs.left
  parsed : next.parsed = hs.parsed + 1
  parseLeft : next.parseLeft = hs.parseLeft - 1
  buffer : next.tagName.length = hs.tagName.length
  quiet : next.tagState ≠ .sending
  unmarked : (scanByte state hs.parsedByte).2 = none
  stands : Stands next (scanByte state hs.parsedByte).1

/-- A state is not another one. -/
theorem TagCheckState.differs {hs : HttpState} {one other : TagCheckState}
    (state : hs.tagState = one) (apart : one ≠ other) : hs.tagState ≠ other :=
  fun same => apart (state.symm.trans same)

theorem advanced_none {hs : HttpState} {state : TagState} (stands : Stands hs state)
    (idle : hs.tagState = .none) : Advanced hs (tagNone hs) state := by
  cases stands with
  | none =>
    by_cases first : some hs.parsedByte = tagLeadIn[0]?
    · simp only [tagNone, if_pos first]
      constructor
      case stands =>
        rw [scanByte, if_pos first]
        exact .leadin rfl
      all_goals first | rfl | exact TagCheckState.noConfusion
    · simp only [tagNone, if_neg first]
      constructor
      case stands =>
        rw [scanByte, if_neg first]
        exact .none idle
      case quiet => exact TagCheckState.differs idle TagCheckState.noConfusion
      all_goals rfl
  | _ state => exact absurd idle (TagCheckState.differs state TagCheckState.noConfusion)

/-- At the end of the lead-in the name begins, and no byte is used up. -/
theorem entered_leadin {hs : HttpState} {state : TagState} (stands : Stands hs state)
    (leadin : hs.tagState = .leadin) (ended : hs.tagIndex = tagLeadIn.length) :
    Stands (tagLeadin hs) state := by
  cases stands with
  | leadin =>
    rw [tagLeadin, if_pos ended, ended]
    exact .entered rfl rfl
  | _ state => exact absurd leadin (TagCheckState.differs state TagCheckState.noConfusion)

theorem advanced_leadin {hs : HttpState} {state : TagState} (stands : Stands hs state)
    (leadin : hs.tagState = .leadin) (inside : hs.tagIndex ≠ tagLeadIn.length) :
    Advanced hs (tagLeadin hs) state := by
  cases stands with
  | leadin =>
    by_cases letter : some hs.parsedByte = tagLeadIn[hs.tagIndex]?
    · simp only [tagLeadin, if_neg inside, if_pos letter]
      constructor
      case stands =>
        rw [scanByte, if_neg inside, if_pos letter]
        exact .leadin leadin
      case quiet => exact TagCheckState.differs leadin TagCheckState.noConfusion
      case unmarked => rw [scanByte, if_neg inside]
      all_goals rfl
    · simp only [tagLeadin, if_neg inside, if_neg letter]
      constructor
      case stands =>
        rw [scanByte, if_neg inside, if_neg letter]
        exact .none rfl
      case unmarked => rw [scanByte, if_neg inside]
      all_goals first | rfl | exact TagCheckState.noConfusion
  | _ state => exact absurd leadin (TagCheckState.differs state TagCheckState.noConfusion)

/-- A letter behind the name in the buffer makes it longer. -/
theorem take_overwrite {buffer : List Byte} {index : Nat} (byte : Byte)
    (inside : index < buffer.length) :
    (overwrite buffer index [byte]).take (index + 1) = buffer.take index ++ [byte] := by
  have length : (buffer.take index ++ [byte]).length = index + 1 := by
    rw [List.length_append, List.length_take, List.length_singleton]
    omega
  exact List.take_left' length

/-- A write behind the name leaves it. -/
theorem take_overwrite_behind (buffer : List Byte) {index : Nat} (byte : Byte)
    (inside : index ≤ buffer.length) :
    (overwrite buffer index [byte]).take index = buffer.take index := by
  rw [overwrite, List.append_assoc]
  exact List.take_left' (by rw [List.length_take]; omega)

/-- What was written stands at its index. -/
theorem overwrite_at (buffer : List Byte) {index : Nat} (byte : Byte)
    (inside : index ≤ buffer.length) : (overwrite buffer index [byte])[index]? = some byte := by
  have length : (buffer.take index).length = index := by
    rw [List.length_take]
    omega
  rw [overwrite, List.append_assoc, List.getElem?_append_right length.le, length, Nat.sub_self]
  rfl

/-- A name ends with its NUL, so it is read from the buffer as it was stored. -/
theorem text_take {buffer : List Byte} {length : Nat} (ended : buffer[length]? = some 0) :
    text buffer = text (buffer.take length) := by
  obtain ⟨inside, zero⟩ := List.getElem?_eq_some_iff.mp ended
  have split : buffer = buffer.take length ++ 0 :: buffer.drop (length + 1) := by
    rw [← zero, ← List.drop_eq_getElem_cons inside, List.take_append_drop]
  conv_lhs => rw [split]
  exact PostIsolation.text_append_zero _ _

/-- The name so far, where one is being read. -/
theorem Stands.name {hs : HttpState} {state : TagState} (stands : Stands hs state)
    (found : hs.tagState = .found) :
    hs.tagIndex ≤ maxTagNameLen ∧
      ∀ byte, scanByte state byte = (foundByte (hs.tagName.take hs.tagIndex) byte, .none) := by
  cases stands with
  | entered _ start =>
    rw [start]
    exact ⟨Nat.zero_le _, fun byte => by rw [scanByte, if_pos rfl, List.take_zero]⟩
  | found _ inside => exact ⟨inside, fun byte => rfl⟩
  | _ state => exact absurd found (TagCheckState.differs state TagCheckState.noConfusion)

theorem advanced_found {hs : HttpState} {state : TagState} (stands : Stands hs state)
    (found : hs.tagState = .found) (buffer : hs.tagName.length = maxTagNameLen + 1) :
    Advanced hs (tagFound hs) state := by
  obtain ⟨inside, scanned⟩ := stands.name found
  have length : (hs.tagName.take hs.tagIndex).length = hs.tagIndex := by
    rw [List.length_take]
    omega
  have empty : hs.tagName.take hs.tagIndex = [] ↔ hs.tagIndex = 0 := by
    rw [← List.length_eq_zero_iff, length]
  have kept (byte : Byte) : (overwrite hs.tagName hs.tagIndex [byte]).length = hs.tagName.length :=
    overwrite_length _ _ _ (by rw [List.length_singleton]; omega)
  suffices next : Stands (tagFound hs) (foundByte (hs.tagName.take hs.tagIndex) hs.parsedByte) ∧
      (tagFound hs).tagName.length = hs.tagName.length ∧ (tagFound hs).tagState ≠ .sending by
    constructor
    case stands => rw [scanned]; exact next.1
    case unmarked => rw [scanned]
    case buffer => exact next.2.1
    case quiet => exact next.2.2
    all_goals
      unfold tagFound
      repeat' split
      all_goals rfl
  simp only [tagFound, foundByte, length, empty]
  by_cases blank : hs.tagIndex = 0 ∧ isTagBlank hs.parsedByte
  · rw [if_pos blank, if_pos blank]
    refine ⟨?_, rfl, TagCheckState.differs found TagCheckState.noConfusion⟩
    have start : Stands hs.nextByte (.found (hs.tagName.take hs.tagIndex)) := .found found inside
    rwa [empty.mpr blank.1] at start
  · rw [if_neg blank, if_neg blank]
    by_cases ended : some hs.parsedByte = tagLeadOut[0]? ∨ isTagBlank hs.parsedByte
    · rw [if_pos ended, if_pos ended]
      by_cases nameless : hs.tagIndex = 0
      · rw [if_pos nameless, if_pos nameless]
        exact ⟨.none rfl, rfl, TagCheckState.noConfusion⟩
      · rw [if_neg nameless, if_neg nameless, ← take_overwrite_behind hs.tagName 0 (by omega)]
        exact ⟨.leadout rfl (overwrite_at _ _ (by omega)), kept 0, TagCheckState.noConfusion⟩
    · rw [if_neg ended, if_neg ended]
      by_cases room : hs.tagIndex < maxTagNameLen
      · rw [if_pos room, if_pos room, ← take_overwrite hs.parsedByte (by omega)]
        exact ⟨.found found room, kept _, TagCheckState.differs found TagCheckState.noConfusion⟩
      · rw [if_neg room, if_neg room]
        exact ⟨.none rfl, rfl, TagCheckState.noConfusion⟩

section sending
variable {Pcb World : Type} (tcp : Tcp Pcb) (ssi : Ssi World)

/-- A byte behind the name goes on with the lead-out, or it is the one that completes the
tag. -/
theorem tagLeadout_cases {turn : Turn Pcb World} {state : TagState}
    (stands : Stands turn.scene.hs state) (leadout : turn.scene.hs.tagState = .leadout) :
    (∃ next, Advanced turn.scene.hs next state ∧
      tagLeadout tcp ssi turn = { turn with scene := { turn.scene with hs := next } }) ∨
    (scanByte state turn.scene.hs.parsedByte =
        (.none, some (turn.scene.hs.tagName.take turn.scene.hs.tagNameLen)) ∧
      text turn.scene.hs.tagName = text (turn.scene.hs.tagName.take turn.scene.hs.tagNameLen) ∧
      tagLeadout tcp ssi turn = tagComplete tcp ssi turn) := by
  cases stands with
  | leadout _ nul =>
    simp only [tagLeadout, scanByte]
    by_cases blank : turn.scene.hs.tagIndex = 0 ∧ isTagBlank turn.scene.hs.parsedByte
    · refine .inl ⟨turn.scene.hs.nextByte, ?_, by rw [if_pos blank]⟩
      constructor
      case stands =>
        rw [scanByte, if_pos blank, ← blank.1]
        exact .leadout leadout nul
      case unmarked => rw [scanByte, if_pos blank]
      case quiet => exact TagCheckState.differs leadout TagCheckState.noConfusion
      all_goals rfl
    · rw [if_neg blank, if_neg blank]
      by_cases letter : some turn.scene.hs.parsedByte = tagLeadOut[turn.scene.hs.tagIndex]?
      · rw [if_pos letter, if_pos letter]
        by_cases last : turn.scene.hs.tagIndex = tagLeadOut.length - 1
        · exact .inr ⟨if_pos last, text_take nul, if_pos last⟩
        · refine .inl ⟨_, ?_, if_neg last⟩
          constructor
          case stands =>
            rw [scanByte, if_neg blank, if_pos letter, if_neg last]
            exact .leadout leadout nul
          case unmarked => rw [scanByte, if_neg blank, if_pos letter, if_neg last]
          case quiet => exact TagCheckState.differs leadout TagCheckState.noConfusion
          all_goals rfl
      · rw [if_neg letter, if_neg letter]
        refine .inl ⟨_, ?_, rfl⟩
        constructor
        case stands =>
          rw [scanByte, if_neg blank, if_neg letter]
          exact .none rfl
        case unmarked => rw [scanByte, if_neg blank, if_neg letter]
        all_goals first | rfl | exact TagCheckState.noConfusion
  | _ state => exact absurd leadout (TagCheckState.differs state TagCheckState.noConfusion)

end sending

/-! ## A page that is being parsed -/

/-- What is parsed and not sent: bytes of the page, and the rest of a tag's text. -/
def HttpState.unsent (hs : HttpState) : List Byte :=
  (hs.data.take hs.parsed).drop hs.file ++
    if hs.tagState = .sending then hs.tagInsert.drop hs.tagIndex else []

/-- A page on its way: its body has been sent as far as it is parsed, but for what is
unsent. It is the invariant of the parser's loop, stated between two bytes. -/
structure Checked (hs : HttpState) (inserts : List (List Byte × List Byte)) (body : List Byte) :
    Prop where
  parsed : hs.parsed + hs.parseLeft = hs.data.length
  file : hs.file ≤ hs.parsed
  buffer : hs.tagName.length = maxTagNameLen + 1
  stands : Stands hs (after scanByte .none (hs.data.take hs.parsed))
  names : inserts.map Prod.fst = pageTags (hs.data.take hs.parsed)
  woven : body ++ hs.unsent = weave scanByte .none (hs.data.take hs.parsed) (inserts.map Prod.snd)
  tag : hs.tagState = .sending → hs.tagEnd = hs.parsed ∧
    (inserts.map Prod.snd).getLast? = some hs.tagInsert
  last : hs.parseLeft = 0 →
    (hs.tagState = .sending ↔ endsWithTag hs.data) ∧ (hs.tagState = .sending → hs.tagIndex = 0)

/-- The next byte of the page. -/
theorem Checked.take_parsed {hs : HttpState} {inserts : List (List Byte × List Byte)}
    {body : List Byte} (checked : Checked hs inserts body) (left : hs.parseLeft ≠ 0) :
    hs.data.take (hs.parsed + 1) = hs.data.take hs.parsed ++ [hs.parsedByte] := by
  have inside : hs.parsed < hs.data.length := by
    have := checked.parsed
    omega
  rw [List.take_succ_eq_append_getElem inside, HttpState.parsedByte,
    List.getD_eq_getElem _ _ inside]

/-- Whether the page ends with a tag is decided by its last byte. -/
theorem endsWithTag_concat (page : List Byte) (byte : Byte) :
    endsWithTag (page ++ [byte]) = (scanByte (after scanByte .none page) byte).2.isSome := by
  rw [endsWithTag, List.dropLast_concat, pageTags, pageTags, marks_concat]
  cases (scanByte (after scanByte .none page) byte).2 with
  | none => simp
  | some name => simp

/-- When the byte at hand is the last one, it decides whether the page ends with a tag. -/
theorem Checked.endsWithTag_eq {hs : HttpState} {inserts : List (List Byte × List Byte)}
    {body : List Byte} (checked : Checked hs inserts body) (one : hs.parseLeft = 1) :
    endsWithTag hs.data =
      (scanByte (after scanByte .none (hs.data.take hs.parsed)) hs.parsedByte).2.isSome := by
  have whole : hs.data = hs.data.take hs.parsed ++ [hs.parsedByte] := by
    rw [← checked.take_parsed (by omega), List.take_of_length_le]
    have := checked.parsed
    omega
  conv_lhs => rw [whole]
  exact endsWithTag_concat _ _

/-- Unsent bytes grow by the byte that is parsed. -/
theorem drop_take_succ {data : List Byte} {parsed file : Nat} {byte : Byte}
    (next : data.take (parsed + 1) = data.take parsed ++ [byte]) (inside : parsed ≤ data.length)
    (file_le : file ≤ parsed) :
    (data.take (parsed + 1)).drop file = (data.take parsed).drop file ++ [byte] := by
  rw [next, List.drop_append_of_le_length]
  rw [List.length_take]
  omega

theorem data_of_frame {hs next : HttpState} (frame : next.frame = hs.frame) : next.data = hs.data :=
  congrArg (fun fields => (fields.1.map FsFile.data).getD []) frame

section checked
variable {hs next : HttpState} {inserts : List (List Byte × List Byte)} {body : List Byte}

/-- A byte that completes no tag is parsed. -/
theorem Checked.advance (checked : Checked hs inserts body) (left : hs.parseLeft ≠ 0)
    (quiet : hs.tagState ≠ .sending)
    (advanced : Advanced hs next (after scanByte .none (hs.data.take hs.parsed))) :
    Checked next inserts body := by
  have data := data_of_frame advanced.frame
  have byte := checked.take_parsed left
  have bound := checked.parsed
  have inside := checked.file
  have unmarked := advanced.unmarked
  have count := advanced.parseLeft
  have grown : next.unsent = hs.unsent ++ [hs.parsedByte] := by
    rw [HttpState.unsent, HttpState.unsent, if_neg advanced.quiet, if_neg quiet, data,
      advanced.parsed, advanced.file, drop_take_succ byte (by omega) inside, List.append_nil,
      List.append_nil]
  constructor
  case parsed => rw [data, advanced.parsed, count]; omega
  case file => rw [advanced.file, advanced.parsed]; omega
  case buffer => exact advanced.buffer.trans checked.buffer
  case stands =>
    rw [data, advanced.parsed, byte, after_concat]
    exact advanced.stands
  case names =>
    rw [data, advanced.parsed, byte, checked.names, pageTags, pageTags, marks_concat, unmarked]
    exact (List.append_nil _).symm
  case woven =>
    rw [data, advanced.parsed, byte, grown, weave_concat_none scanByte _ unmarked, ← checked.woven,
      List.append_assoc]
  case tag => exact fun sending => absurd sending advanced.quiet
  case last =>
    intro ended
    rw [data, checked.endsWithTag_eq (by omega), unmarked]
    exact ⟨⟨fun sending => absurd sending advanced.quiet, fun tagged => Bool.noConfusion tagged⟩,
      fun sending => absurd sending advanced.quiet⟩

/-- At the end of the lead-in nothing is parsed. -/
theorem Checked.enter (checked : Checked hs inserts body) (left : hs.parseLeft ≠ 0)
    (leadin : hs.tagState = .leadin) (ended : hs.tagIndex = tagLeadIn.length) :
    Checked (tagLeadin hs) inserts body := by
  have stands := entered_leadin checked.stands leadin ended
  have quiet : hs.tagState ≠ .sending := TagCheckState.differs leadin TagCheckState.noConfusion
  have woven := checked.woven
  rw [HttpState.unsent, if_neg quiet] at woven
  rw [tagLeadin, if_pos ended] at stands ⊢
  exact ⟨checked.parsed, checked.file, checked.buffer, stands, checked.names, woven,
    TagCheckState.noConfusion, fun done => absurd done left⟩

/-- The byte that completes a tag is parsed, and the tag's text is there to be sent. -/
theorem Checked.complete (checked : Checked hs inserts body) (left : hs.parseLeft ≠ 0)
    (quiet : hs.tagState ≠ .sending) {name : List Byte} (insert : List Byte)
    (completed : scanByte (after scanByte .none (hs.data.take hs.parsed)) hs.parsedByte =
      (.none, some name)) :
    Checked
      { hs.nextByte with
        tagInsert := insert, tagIndex := 0, tagState := .sending, tagEnd := hs.nextByte.parsed }
      (inserts ++ [(name, insert)]) body := by
  have byte := checked.take_parsed left
  have bound := checked.parsed
  have inside := checked.file
  have marked : (scanByte (after scanByte .none (hs.data.take hs.parsed)) hs.parsedByte).2 =
      some name := congrArg Prod.snd completed
  have idle : (scanByte (after scanByte .none (hs.data.take hs.parsed)) hs.parsedByte).1 = .none :=
    congrArg Prod.fst completed
  have each : (inserts.map Prod.snd).length =
      (marks scanByte .none (hs.data.take hs.parsed)).length := by
    rw [List.length_map, ← pageTags, ← checked.names, List.length_map]
  constructor
  case parsed =>
    change hs.parsed + 1 + (hs.parseLeft - 1) = hs.data.length
    omega
  case file => exact Nat.le_succ_of_le inside
  case buffer => exact checked.buffer
  case stands =>
    change Stands _ (after scanByte .none (hs.data.take (hs.parsed + 1)))
    rw [byte, after_concat, idle]
    exact .sending rfl
  case names =>
    change _ = pageTags (hs.data.take (hs.parsed + 1))
    rw [byte, List.map_append, checked.names, pageTags, pageTags, marks_concat, marked]
    rfl
  case woven =>
    change body ++ ((hs.data.take (hs.parsed + 1)).drop hs.file ++ insert) =
      weave scanByte .none (hs.data.take (hs.parsed + 1)) _
    have woven := checked.woven
    rw [HttpState.unsent, if_neg quiet, List.append_nil] at woven
    rw [drop_take_succ byte (by omega) inside, byte, List.map_append, List.map_singleton,
      weave_concat_some scanByte insert marked each, ← woven]
    simp only [List.append_assoc, List.singleton_append]
  case tag => exact fun _ => ⟨rfl, by simp⟩
  case last =>
    intro ended
    have one : hs.parseLeft = 1 := by
      simp only [HttpState.nextByte] at ended
      omega
    refine ⟨⟨fun _ => ?_, fun _ => rfl⟩, fun _ => rfl⟩
    exact (checked.endsWithTag_eq one).trans (by rw [marked]; rfl)

/-- A part of what is parsed is sent. -/
theorem Checked.send (checked : Checked hs inserts body) {count : Nat} (left : Nat)
    (inside : count ≤ hs.parsed - hs.file) :
    Checked { hs with file := hs.file + count, left := left } inserts
      (body ++ (hs.data.drop hs.file).take count) := by
  have file := checked.file
  have bound := checked.parsed
  have moved : (hs.data.drop hs.file).take count ++ (hs.data.take hs.parsed).drop (hs.file + count) =
      (hs.data.take hs.parsed).drop hs.file := by
    have part : (hs.data.drop hs.file).take count =
        ((hs.data.take hs.parsed).drop hs.file).take count := by
      rw [List.drop_take, List.take_take, Nat.min_eq_left inside]
    rw [part, ← List.drop_drop, List.take_append_drop]
  refine { checked with file := ?_, stands := ?_, woven := ?_ }
  · simp only
    omega
  · exact checked.stands.congr rfl rfl rfl rfl
  · have woven := checked.woven
    rw [HttpState.unsent, ← moved] at woven
    refine Eq.trans ?_ woven
    change body ++ (hs.data.drop hs.file).take count ++
      ((hs.data.take hs.parsed).drop (hs.file + count) ++ _) = _
    simp only [List.append_assoc]

/-- A part of the tag's text is sent, behind the tag. -/
theorem Checked.sendInsert (checked : Checked hs inserts body) (left : hs.parseLeft ≠ 0)
    (sending : hs.tagState = .sending) (reached : hs.tagEnd ≤ hs.file) (count : Nat) :
    Checked { hs with tagIndex := hs.tagIndex + count } inserts
      (body ++ (hs.tagInsert.drop hs.tagIndex).take count) := by
  have file := checked.file
  have woven := checked.woven
  have behind := (checked.tag sending).1
  have gone : (hs.data.take hs.parsed).drop hs.file = [] := by
    rw [List.drop_eq_nil_iff, List.length_take]
    omega
  refine { checked with stands := ?_, woven := ?_, last := fun done => absurd done left }
  · have idle := checked.stands.idle sending
    change Stands _ (after scanByte .none (hs.data.take hs.parsed))
    rw [idle]
    exact .sending sending
  · rw [HttpState.unsent, if_pos sending, gone, List.nil_append] at woven
    refine Eq.trans ?_ woven
    change body ++ (hs.tagInsert.drop hs.tagIndex).take count ++
      ((hs.data.take hs.parsed).drop hs.file ++
        if hs.tagState = .sending then hs.tagInsert.drop (hs.tagIndex + count) else []) = _
    rw [gone, if_pos sending, List.nil_append, List.append_assoc, ← List.drop_drop,
      List.take_append_drop]

/-- Behind the text the parser looks for the next tag. -/
theorem Checked.resume (checked : Checked hs inserts body) (left : hs.parseLeft ≠ 0)
    (sending : hs.tagState = .sending) (whole : hs.tagInsert.length ≤ hs.tagIndex) :
    Checked { hs with tagIndex := 0, tagState := .none } inserts body := by
  have woven := checked.woven
  refine { checked with
    stands := ?_, woven := ?_, tag := nofun, last := fun done => absurd done left }
  · have idle := checked.stands.idle sending
    change Stands _ (after scanByte .none (hs.data.take hs.parsed))
    rw [idle]
    exact .none rfl
  · rw [HttpState.unsent, if_pos sending, List.drop_eq_nil_of_le whole] at woven
    exact woven

end checked

end UcosProxy.HttpSend
