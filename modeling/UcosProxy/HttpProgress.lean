import UcosProxy.HttpSending

/-!
# A response comes to its end

A call of `http_send_data` gets on with a response whenever the stack accepts the first
piece that it is given: some byte is sent, or the connection is closed at the end of its
file. Behind that piece the stack may refuse what it likes. Since what is sent is part of
a response, and a response has an end, a client that acknowledges and leaves the stack
room receives all of it behind finitely many acknowledgements.

No call waits for something that only a later call brings: a page that is parsed to its
end has unsent bytes until the connection is closed, and a turn of the parser's loop that
leaves the loop without an error has either sent something or parsed the page to its end.
-/

namespace UcosProxy.HttpSend

open Bytes TagScan Runs Weaving

variable {Pcb World : Type}

/-- The stack has room, and takes a first piece that fits. Nothing is said of a second one,
so a call can count on one write. -/
structure Roomy (tcp : Tcp Pcb) (pcb : Pcb) : Prop where
  room : 0 < tcp.sndbuf pcb
  mss : 0 < tcp.mss pcb
  accepts : ∀ bytes, bytes ≠ [] → bytes.length ≤ tcp.sndbuf pcb → (tcp.write pcb bytes).1 = .ok

/-- An acknowledgement that leaves the stack room. -/
def Event.Acknowledges (tcp : Tcp Pcb) : Event Pcb World → Prop
  | .sent pcb _ => Roomy tcp pcb
  | .poll _ _ => False

section progress
variable (tcp : Tcp Pcb) (ssi : Ssi World) {turn behind : Turn Pcb World}

/-! ## Nothing that is sent is taken back -/

theorem FileSent.count_le (sent : FileSent turn behind) :
    turn.scene.sent.length ≤ behind.scene.sent.length := by
  cases sent with
  | refused => exact Nat.le_refl _
  | taken =>
    rw [List.length_append]
    exact Nat.le_add_right _ _

theorem InsertSent.count_le (sent : InsertSent turn behind) :
    turn.scene.sent.length ≤ behind.scene.sent.length := by
  cases sent with
  | refused => exact Nat.le_refl _
  | taken =>
    rw [List.length_append]
    exact Nat.le_add_right _ _

theorem sendFile_count_le (turn : Turn Pcb World) :
    turn.scene.sent.length ≤ (sendFile tcp turn).scene.sent.length :=
  (fileSent tcp turn).count_le

theorem tagComplete_count_le (turn : Turn Pcb World) :
    turn.scene.sent.length ≤ (tagComplete tcp ssi turn).scene.sent.length := by
  simp only [tagComplete]
  split
  · refine Nat.le_trans ?_ (sendFile_count_le tcp _)
    exact Nat.le_refl _
  · exact Nat.le_refl _

theorem switchTag_count_le (turn : Turn Pcb World) :
    turn.scene.sent.length ≤ (switchTag tcp ssi turn).scene.sent.length := by
  cases state : turn.scene.hs.tagState with
  | leadout =>
    simp only [switchTag, state, tagLeadout]
    split
    · exact Nat.le_refl _
    · split
      · split
        · exact tagComplete_count_le tcp ssi turn
        · exact Nat.le_refl _
      · exact Nat.le_refl _
  | sending =>
    simp only [switchTag, state, tagSending]
    split
    · refine Nat.le_trans ?_ (sendFile_count_le tcp _)
      exact Nat.le_refl _
    · split
      · refine Nat.le_trans ?_ (insertSent tcp _).count_le
        exact Nat.le_refl _
      · exact Nat.le_refl _
  | _ =>
    simp only [switchTag, state]
    exact Nat.le_refl _

theorem parseTags_count_le (turn : Turn Pcb World) :
    turn.scene.sent.length ≤ (parseTags tcp ssi turn).1.scene.sent.length := by
  fun_induction parseTags tcp ssi turn with
  | case1 => exact Nat.le_refl _
  | case2 turn _ _ inductionHypothesis =>
    exact (switchTag_count_le tcp ssi turn).trans inductionHypothesis
  | case3 => exact Nat.le_refl _

theorem finishSending_scene (turn : Turn Pcb World) : (finishSending turn).scene = turn.scene := by
  unfold finishSending
  split <;> rfl

theorem parsePage_count_le (turn : Turn Pcb World) :
    turn.scene.sent.length ≤ (parsePage tcp ssi turn).scene.sent.length := by
  have parsed := parseTags_count_le tcp ssi turn
  simp only [parsePage]
  split
  · rename_i behind same
    rwa [same] at parsed
  · rename_i behind same
    rw [same] at parsed
    split
    · rw [finishSending_scene]
      exact Nat.le_trans parsed (sendFile_count_le tcp { behind with
        len := roomFor tcp behind.scene.pcb (behind.scene.hs.parsed - behind.scene.hs.file) })
    · rwa [finishSending_scene]

theorem sendPage_count_le (turn : Turn Pcb World) :
    turn.scene.sent.length ≤ (sendPage tcp ssi turn).scene.sent.length := by
  have first := sendFile_count_le tcp { turn with
    len := roomFor tcp turn.scene.pcb (turn.scene.hs.parsed - turn.scene.hs.file) }
  simp only [sendPage]
  split
  · split
    · exact first
    · exact first.trans (parsePage_count_le tcp ssi _)
  · exact parsePage_count_le tcp ssi { turn with len := tcp.sndbuf turn.scene.pcb }

theorem sendData_count_le (turn : Turn Pcb World) :
    turn.scene.sent.length ≤ (sendData tcp ssi turn).scene.sent.length := by
  simp only [sendData]
  split
  · exact Nat.le_refl _
  · split
    · rw [finishSending_scene]
      exact sendFile_count_le tcp { turn with
        len := roomFor tcp turn.scene.pcb turn.scene.hs.left }
    · exact sendPage_count_le tcp ssi turn

theorem sendHeader_count (turn : Turn Pcb World) :
    (sendHeader tcp turn).1.scene.sent.length = turn.scene.sent.length +
      ((turn.scene.hs.hdr.drop turn.scene.hs.hdrPos).take (sendHeader tcp turn).2).length :=
  List.length_append

theorem sendHeaders_count_le (turn : Turn Pcb World) (sendlen : Nat) :
    turn.scene.sent.length ≤ (sendHeaders tcp turn sendlen).scene.sent.length := by
  fun_induction sendHeaders tcp turn sendlen with
  | case1 => exact Nat.le_refl _
  | case2 turn _ _ inductionHypothesis =>
    refine Nat.le_trans ?_ inductionHypothesis
    rw [sendHeader_count]
    exact Nat.le_add_right _ _

/-! ## The first piece -/

/-- A first piece that fits is sent whole. -/
theorem httpWrite_first {pcb : Pcb} (roomy : Roomy tcp pcb) {source : List Byte} {len : Nat}
    (some : 0 < len) (fits : len ≤ tcp.sndbuf pcb) (there : source ≠ []) :
    (httpWrite tcp source len pcb).err = .ok ∧ (httpWrite tcp source len pcb).len = len := by
  have nonempty : source.take len ≠ [] := by
    rw [ne_eq, List.take_eq_nil_iff, not_or]
    exact ⟨some.ne', there⟩
  have accepted := roomy.accepts (source.take len) nonempty
    ((List.length_take_le _ _).trans fits)
  unfold httpWrite
  split
  · exact ⟨rfl, rfl⟩
  · rename_i same
    rw [same] at accepted
    cases accepted
  · rename_i same
    rw [same] at accepted
    cases accepted

/-- A first piece of the file is sent. -/
theorem sendFile_grows (turn : Turn Pcb World) (roomy : Roomy tcp turn.scene.pcb)
    (some : 0 < turn.len) (fits : turn.len ≤ tcp.sndbuf turn.scene.pcb)
    (there : turn.scene.hs.file < turn.scene.hs.data.length) :
    turn.scene.sent.length < (sendFile tcp turn).scene.sent.length := by
  have source : turn.scene.hs.data.drop turn.scene.hs.file ≠ [] := by
    rw [ne_eq, List.drop_eq_nil_iff]
    omega
  obtain ⟨taken, len⟩ := httpWrite_first tcp roomy some fits source
  simp only [sendFile, if_pos taken, len, List.length_append, List.length_take, List.length_drop]
  omega

/-- A first piece of a tag's text is sent. -/
theorem sendInsert_grows (turn : Turn Pcb World) (roomy : Roomy tcp turn.scene.pcb)
    (some : 0 < turn.len) (fits : turn.len ≤ tcp.sndbuf turn.scene.pcb)
    (there : turn.scene.hs.tagIndex < turn.scene.hs.tagInsert.length) :
    turn.scene.sent.length < (sendInsert tcp turn).scene.sent.length := by
  have source : turn.scene.hs.tagInsert.drop turn.scene.hs.tagIndex ≠ [] := by
    rw [ne_eq, List.drop_eq_nil_iff]
    omega
  obtain ⟨taken, len⟩ := httpWrite_first tcp roomy some fits source
  simp only [sendInsert, if_pos taken, len, List.length_append, List.length_take, List.length_drop]
  omega

theorem roomFor_pos {pcb : Pcb} (roomy : Roomy tcp pcb) {bytes : Nat} (some : 0 < bytes) :
    0 < roomFor tcp pcb bytes := by
  have room := roomy.room
  have mss := roomy.mss
  unfold roomFor
  omega

theorem roomFor_fits (pcb : Pcb) (bytes : Nat) : roomFor tcp pcb bytes ≤ tcp.sndbuf pcb :=
  (Nat.min_le_left _ _).trans (Nat.min_le_left _ _)

/-! ## The loop over a page -/

/-- A turn before anything has been written in a call. Until something is written a refusal
leaves the turn as it was. -/
structure Untouched (turn : Turn Pcb World) : Prop where
  roomy : Roomy tcp turn.scene.pcb
  len : turn.len = tcp.sndbuf turn.scene.pcb
  going : turn.err = .ok

/-- A call that has not written anything behind a turn still can: position and room are as
they were, and no text of a tag is on its way. -/
structure Idle (turn behind : Turn Pcb World) : Prop where
  untouched : Untouched tcp behind
  file : behind.scene.hs.file = turn.scene.hs.file
  left : behind.scene.hs.left = turn.scene.hs.left
  between : behind.scene.hs.tagState ≠ .sending

variable {ssi} {held : World → Prop} {response : Response}

/-- Parsing alone leaves what a call can write. -/
theorem Untouched.idle (untouched : Untouched tcp turn) {hs : HttpState}
    (file : hs.file = turn.scene.hs.file) (left : hs.left = turn.scene.hs.left)
    (between : hs.tagState ≠ .sending) :
    Idle tcp turn { turn with scene := { turn.scene with hs := hs } } :=
  ⟨⟨untouched.roomy, untouched.len, untouched.going⟩, file, left, between⟩

/-- The byte that completes a tag lets the page be sent up to it. -/
theorem tagComplete_grows (paged : Paged ssi held response turn.scene)
    (tagCheck : response.tagCheck = true) (untouched : Untouched tcp turn)
    (left : turn.scene.hs.parseLeft ≠ 0) :
    turn.scene.sent.length < (tagComplete tcp ssi turn).scene.sent.length := by
  obtain ⟨_, body, _, _, _, bodySent⟩ := paged.parts
  rw [BodySent, if_pos tagCheck] at bodySent
  have file := bodySent.file
  have bound := bodySent.parsed
  have room := untouched.roomy.room
  have len := untouched.len
  have ahead : turn.scene.hs.nextByte.file < turn.scene.hs.nextByte.parsed :=
    Nat.lt_succ_of_le file
  simp only [tagComplete, if_pos ahead]
  refine Nat.lt_of_le_of_lt ?_ (sendFile_grows tcp _ untouched.roomy ?_ ?_ ?_)
  · exact Nat.le_refl _
  · simp only
    omega
  · simp only
    omega
  · change turn.scene.hs.file < turn.scene.hs.data.length
    omega

/-- A turn sends something, or leaves a call that still can. -/
theorem switchTag_grows (paged : Paged ssi held response turn.scene)
    (tagCheck : response.tagCheck = true) (untouched : Untouched tcp turn)
    (left : turn.scene.hs.parseLeft ≠ 0) :
    turn.scene.sent.length < (switchTag tcp ssi turn).scene.sent.length ∨
      Idle tcp turn (switchTag tcp ssi turn) := by
  obtain ⟨_, body, _, _, _, bodySent⟩ := paged.parts
  rw [BodySent, if_pos tagCheck] at bodySent
  have room := untouched.roomy.room
  have len := untouched.len
  cases state : turn.scene.hs.tagState with
  | none =>
    have advanced := advanced_none bodySent.stands state
    simp only [switchTag, state]
    exact .inr (untouched.idle tcp advanced.file advanced.left advanced.quiet)
  | leadin =>
    simp only [switchTag, state]
    by_cases ended : turn.scene.hs.tagIndex = tagLeadIn.length
    · rw [tagLeadin, if_pos ended]
      exact .inr (untouched.idle tcp rfl rfl TagCheckState.noConfusion)
    · have advanced := advanced_leadin bodySent.stands state ended
      exact .inr (untouched.idle tcp advanced.file advanced.left advanced.quiet)
  | found =>
    have advanced := advanced_found bodySent.stands state bodySent.buffer
    simp only [switchTag, state]
    exact .inr (untouched.idle tcp advanced.file advanced.left advanced.quiet)
  | leadout =>
    simp only [switchTag, state]
    rcases tagLeadout_cases tcp ssi bodySent.stands state with ⟨next, advanced, same⟩ | ⟨_, _, same⟩
    · rw [same]
      exact .inr (untouched.idle tcp advanced.file advanced.left advanced.quiet)
    · rw [same]
      exact .inl (tagComplete_grows tcp paged tagCheck untouched left)
  | sending =>
    have behind := (bodySent.tag state).1
    have bound := bodySent.parsed
    simp only [switchTag, state, tagSending]
    by_cases unsent : turn.scene.hs.file < turn.scene.hs.tagEnd
    · rw [if_pos unsent]
      refine .inl (Nat.lt_of_le_of_lt ?_ (sendFile_grows tcp _ untouched.roomy ?_ ?_ ?_))
      · exact Nat.le_refl _
      · simp only
        omega
      · simp only
        omega
      · simp only
        omega
    · rw [if_neg unsent]
      by_cases rest : turn.scene.hs.tagIndex < turn.scene.hs.tagInsert.length
      · rw [if_pos rest]
        refine .inl (Nat.lt_of_le_of_lt ?_ (sendInsert_grows tcp _ untouched.roomy ?_ ?_ rest))
        · exact Nat.le_refl _
        · simp only
          omega
        · simp only
          omega
      · rw [if_neg rest]
        exact .inr (untouched.idle tcp rfl rfl TagCheckState.noConfusion)

/-- The loop sends something, or it parses the page to its end. -/
theorem parseTags_grows (keeps : Keeps ssi held) (paged : Paged ssi held response turn.scene)
    (tagCheck : response.tagCheck = true) (untouched : Untouched tcp turn)
    (ready : turn.scene.hs.parseLeft ≠ 0 ∨ turn.scene.hs.tagState ≠ .sending) :
    turn.scene.sent.length < (parseTags tcp ssi turn).1.scene.sent.length ∨
      Idle tcp turn (parseTags tcp ssi turn).1 ∧ (parseTags tcp ssi turn).2 = false ∧
        (parseTags tcp ssi turn).1.scene.hs.parseLeft = 0 := by
  fun_induction parseTags tcp ssi turn with
  | case1 turn _ none =>
    have room := untouched.roomy.room
    have len := untouched.len
    omega
  | case2 turn going _ inductionHypothesis =>
    have next := paged.switchTag tcp keeps tagCheck going.1
    have further := parseTags_count_le tcp ssi (switchTag tcp ssi turn)
    rcases switchTag_grows tcp paged tagCheck untouched going.1 with grown | idle
    · exact .inl (Nat.lt_of_lt_of_le grown further)
    · have before := switchTag_count_le tcp ssi turn
      rcases inductionHypothesis next idle.untouched (.inr idle.between) with
        grown | ⟨later, ended, parsed⟩
      · exact .inl (Nat.lt_of_le_of_lt before grown)
      · exact .inr ⟨⟨later.untouched, later.file.trans idle.file, later.left.trans idle.left,
          later.between⟩, ended, parsed⟩
  | case3 turn stopped =>
    have parsed : turn.scene.hs.parseLeft = 0 := by
      by_contra more
      exact stopped ⟨more, untouched.going⟩
    exact .inr ⟨⟨untouched, rfl, rfl, ready.resolve_left (fun more => more parsed)⟩, rfl, parsed⟩

/-! ## The call -/

/-- A page that has not been sent to its end gets on. -/
theorem parsePage_grows (keeps : Keeps ssi held) (paged : Paged ssi held response turn.scene)
    (tagCheck : response.tagCheck = true) (untouched : Untouched tcp turn)
    (ready : turn.scene.hs.parseLeft ≠ 0 ∨ turn.scene.hs.tagState ≠ .sending)
    (left : turn.scene.hs.left ≠ 0) :
    turn.scene.sent.length < (parsePage tcp ssi turn).scene.sent.length := by
  have parsed := paged.parseTags tcp keeps tagCheck
  have monotone := parseTags_count_le tcp ssi turn
  have grows := parseTags_grows tcp keeps paged tagCheck untouched ready
  simp only [parsePage]
  generalize HttpSend.parseTags tcp ssi turn = result at parsed monotone grows
  obtain ⟨behind, returned⟩ := result
  rcases grows with grown | ⟨idle, ended, done⟩
  · cases returned with
    | true => exact grown
    | false =>
      simp only
      split
      · rw [finishSending_scene]
        exact Nat.lt_of_lt_of_le grown (sendFile_count_le tcp { behind with
          len := roomFor tcp behind.scene.pcb (behind.scene.hs.parsed - behind.scene.hs.file) })
      · rwa [finishSending_scene]
  · obtain rfl : returned = false := ended
    obtain ⟨_, body, _, _, _, bodySent⟩ := parsed.parts
    rw [BodySent, if_pos tagCheck] at bodySent
    have whole := parsed.left
    have bound := bodySent.parsed
    have same := idle.left
    simp only at whole bound same done monotone bodySent ⊢
    have unsent : behind.scene.hs.file < behind.scene.hs.parsed := by omega
    rw [if_pos ⟨idle.between, unsent⟩, finishSending_scene]
    refine Nat.lt_of_le_of_lt monotone (sendFile_grows tcp { behind with
      len := roomFor tcp behind.scene.pcb (behind.scene.hs.parsed - behind.scene.hs.file) }
      idle.untouched.roomy ?_ ?_ ?_)
    · exact roomFor_pos tcp idle.untouched.roomy (by omega)
    · exact roomFor_fits tcp _ _
    · simp only
      omega

theorem sendPage_grows (keeps : Keeps ssi held) (paged : Paged ssi held response turn.scene)
    (tagCheck : response.tagCheck = true) (roomy : Roomy tcp turn.scene.pcb)
    (going : turn.err = .ok) (left : turn.scene.hs.left ≠ 0) :
    turn.scene.sent.length < (sendPage tcp ssi turn).scene.sent.length := by
  obtain ⟨_, body, _, _, _, bodySent⟩ := paged.parts
  rw [BodySent, if_pos tagCheck] at bodySent
  have whole := paged.left
  have bound := bodySent.parsed
  have inside := bodySent.file
  simp only [sendPage]
  by_cases unsent : turn.scene.hs.file < turn.scene.hs.parsed
  · rw [if_pos unsent]
    have grown := sendFile_grows tcp { turn with
      len := roomFor tcp turn.scene.pcb (turn.scene.hs.parsed - turn.scene.hs.file) } roomy
      (roomFor_pos tcp roomy (by omega)) (roomFor_fits tcp _ _) (by simp only; omega)
    split
    · exact grown
    · exact Nat.lt_of_lt_of_le grown (parsePage_count_le tcp ssi _)
  · rw [if_neg unsent]
    have page : Paged ssi held response
        (Turn.scene { turn with len := tcp.sndbuf turn.scene.pcb }) := paged
    have more : turn.scene.hs.parseLeft ≠ 0 := by omega
    exact parsePage_grows tcp keeps page tagCheck ⟨roomy, rfl, going⟩ (.inl more) left

/-- Behind the headers a call sends something or closes the connection. -/
theorem sendData_grows (keeps : Keeps ssi held) (paged : Paged ssi held response turn.scene) (roomy : Roomy tcp turn.scene.pcb)
    (going : turn.err = .ok) :
    (∃ ending ∈ (sendData tcp ssi turn).ended, ending.Complete) ∨
      turn.scene.sent.length < (sendData tcp ssi turn).scene.sent.length := by
  have whole := paged.left
  simp only [sendData]
  by_cases done : turn.scene.hs.left = 0
  · rw [if_pos done]
    refine .inl ⟨_, rfl, ?_⟩
    split
    · exact .inl rfl
    · exact .inr rfl
  · rw [if_neg done]
    refine .inr ?_
    by_cases plain : turn.scene.hs.tagCheck = false
    · rw [if_pos plain, finishSending_scene]
      exact sendFile_grows tcp { turn with
        len := roomFor tcp turn.scene.pcb turn.scene.hs.left } roomy
        (roomFor_pos tcp roomy (by omega)) (roomFor_fits tcp _ _) (by simp only; omega)
    · rw [if_neg plain]
      have tagCheck := paged.tagCheck
      have file : turn.scene.hs.handle.isSome = true := by
        cases handle : turn.scene.hs.handle with
        | some file => rfl
        | none =>
          have empty : turn.scene.hs.data = [] := by rw [HttpState.data, handle]; rfl
          rw [empty, List.length_nil] at whole
          omega
      rw [file, Bool.true_and, Bool.of_not_eq_false plain] at tagCheck
      exact sendPage_grows tcp keeps paged tagCheck.symm roomy going done

/-- A first piece of a header string is sent. -/
theorem sendHeader_grows (turn : Turn Pcb World) (roomy : Roomy tcp turn.scene.pcb)
    (some : 0 < turn.len) (fits : turn.len ≤ tcp.sndbuf turn.scene.pcb)
    (unsent : turn.scene.hs.hdrPos < turn.scene.hs.hdr.length) :
    turn.scene.sent.length < (sendHeader tcp turn).1.scene.sent.length := by
  have source : turn.scene.hs.hdr.drop turn.scene.hs.hdrPos ≠ [] := by
    rw [ne_eq, List.drop_eq_nil_iff]
    omega
  have asked : 0 < min turn.len (turn.scene.hs.hdr.length - turn.scene.hs.hdrPos) := by omega
  obtain ⟨taken, len⟩ := httpWrite_first tcp roomy asked ((Nat.min_le_left _ _).trans fits) source
  have count : (sendHeader tcp turn).2 =
      min turn.len (turn.scene.hs.hdr.length - turn.scene.hs.hdrPos) := by
    simp only [sendHeader, if_pos taken, len]
  rw [sendHeader_count, count, List.length_take, List.length_drop]
  omega

/-- A call that the stack has room for sends something or closes the connection. -/
theorem httpSendData_grows (keeps : Keeps ssi held) {scene : Scene Pcb World} (sound : Sound ssi held response scene)
    (roomy : Roomy tcp scene.pcb) :
    (∃ ending ∈ (httpSendData tcp ssi scene).ended, ending.Complete) ∨
      scene.sent.length < (httpSendData tcp ssi scene).scene.sent.length := by
  simp only [httpSendData]
  by_cases early : scene.hs.hdrIndex < numFileHdrStrings
  · rw [if_pos early]
    have room := roomy.room
    have grown := sendHeader_grows tcp ⟨scene, tcp.sndbuf scene.pcb, .ok, false⟩ roomy room
      (Nat.le_refl _) (sound.heading early).1
    have further : scene.sent.length <
        (sendHeaders tcp ⟨scene, tcp.sndbuf scene.pcb, .ok, false⟩
          (tcp.sndbuf scene.pcb)).scene.sent.length := by
      rw [sendHeaders, if_neg (by simp only; omega)]
      exact Nat.lt_of_lt_of_le grown (sendHeaders_count_le tcp _ _)
    split
    · exact .inr further
    · exact .inr (Nat.lt_of_lt_of_le further (sendData_count_le tcp ssi _))
  · rw [if_neg early]
    have start : Paged ssi held response (Turn.scene ⟨scene, 0, .ok, false⟩) :=
      ⟨sound, Nat.le_of_not_lt early⟩
    exact sendData_grows tcp keeps start roomy rfl

theorem sendData_ended (turn : Turn Pcb World) (ending : Ending)
    (ended : (sendData tcp ssi turn).ended = some ending) : ending.Complete := by
  have finish (last : Turn Pcb World) (same : (finishSending last).ended = some ending) :
      ending.Complete := by
    unfold finishSending at same
    split at same
    · exact .inr (Option.some.inj same).symm
    · cases same
  have parse (last : Turn Pcb World) (same : (parsePage tcp ssi last).ended = some ending) :
      ending.Complete := by
    simp only [parsePage] at same
    split at same
    · cases same
    · split at same
      · exact finish _ same
      · exact finish _ same
  simp only [sendData] at ended
  split at ended
  · obtain rfl := Option.some.inj ended
    split
    · exact .inl rfl
    · exact .inr rfl
  · split at ended
    · exact finish _ ended
    · simp only [sendPage] at ended
      split at ended
      · split at ended
        · cases ended
        · exact parse _ ended
      · exact parse _ ended

theorem httpSendData_ended (scene : Scene Pcb World) (ending : Ending)
    (ended : (httpSendData tcp ssi scene).ended = some ending) : ending.Complete := by
  simp only [httpSendData] at ended
  split at ended
  · split at ended
    · cases ended
    · exact sendData_ended tcp _ ending ended
  · exact sendData_ended tcp _ ending ended

/-! ## How long a response is -/

/-- No text of a tag is longer than a limit. The handlers' texts are bounded by the size of
their buffer, and the echo of an unknown name by its own. -/
def Ssi.Short (ssi : Ssi World) (limit : Nat) : Prop :=
  ∀ name world, (insertFor ssi name world).1.length ≤ limit

theorem sum_length_le {texts : List (List Byte)} {limit : Nat}
    (short : ∀ text ∈ texts, text.length ≤ limit) :
    (texts.map List.length).sum ≤ texts.length * limit := by
  induction texts with
  | nil => exact Nat.zero_le _
  | cons text rest inductionHypothesis =>
    have first := short text List.mem_cons_self
    have others := inductionHypothesis fun other member =>
      short other (List.mem_cons_of_mem _ member)
    simp only [List.map_cons, List.sum_cons, List.length_cons, Nat.succ_mul]
    omega

/-- What is sent is no longer than the response can get. -/
theorem Served.count_le {outcome : Outcome Pcb World} {limit : Nat} (short : ssi.Short limit)
    (served : Served ssi held response outcome) :
    outcome.scene.sent.length ≤
      response.headers.length + response.page.length + response.tags.length * limit := by
  have asked := served.asked.length_le
  rw [List.length_map] at asked
  generalize entries : outcome.scene.inserts = inserts at asked
  have texts := served.begun (inserts.map Prod.snd ++
    List.replicate (response.tags.length - inserts.length) []) (by
      rw [entries]
      exact List.prefix_append _ _)
  have count := texts.length_le
  have each : ∀ text ∈ inserts.map Prod.snd, text.length ≤ limit := by
    intro text member
    obtain ⟨entry, there, rfl⟩ := List.mem_map.mp member
    obtain ⟨world, _, same⟩ := served.answered entry (entries ▸ there)
    rw [same]
    exact short _ world
  have sum := sum_length_le each
  have most : inserts.length * limit ≤ response.tags.length * limit := Nat.mul_le_mul_right _ asked
  rw [List.length_map] at sum
  rw [List.length_append] at count
  unfold Response.body at count
  split at count
  · rename_i tagCheck
    rw [weave_length] at count
    · simp only [List.map_append, List.map_replicate, List.sum_append, List.sum_replicate,
        List.length_nil, smul_zero, Nat.add_zero] at count
      omega
    · simp only [List.length_append, List.length_map, List.length_replicate]
      rw [Response.tags, if_pos tagCheck, pageTags] at asked ⊢
      omega
  · omega

/-- A client whose acknowledgements leave the stack room receives the whole response, and
there are no more of them than the response can have bytes. -/
theorem completes_of_room (keeps : Keeps ssi held) {hs : HttpState} (opened : Opened hs) (pcb : Pcb)
    {world : World} (kept : held world) {limit : Nat} (short : ssi.Short limit)
    (events : List (Event Pcb World))
    (all : ∀ event ∈ events, event.Acknowledges tcp ∧ held event.world)
    (many : hs.response.headers.length + hs.response.page.length +
      hs.response.tags.length * limit < events.length) :
    ∃ count final,
      run (step tcp ssi) (respond tcp ssi hs pcb world) (events.take count) = some final ∧
        Served ssi held hs.response final ∧ ∃ ending ∈ final.ended, ending.Complete := by
  have start : Fair ssi held hs.response (respond tcp ssi hs pcb world) :=
    (opened.sound pcb kept).httpSendData tcp keeps
  have advances : ∀ state event,
      (Fair ssi held hs.response state ∧ ∀ ending ∈ state.ended, ending.Complete) →
      (¬ ∃ ending ∈ state.ended, ending.Complete) →
      (Event.Acknowledges tcp event ∧ held event.world) →
      ∃ next, step tcp ssi state event = some next ∧
        (Fair ssi held hs.response next ∧ ∀ ending ∈ next.ended, ending.Complete) ∧
        ((∃ ending ∈ next.ended, ending.Complete) ∨
          state.scene.sent.length < next.scene.sent.length) := by
    rintro state event ⟨fair, complete⟩ unfinished ⟨acknowledges, met⟩
    cases event with
    | poll pcb world => exact absurd acknowledges id
    | sent pcb world =>
      have going : state.ended = none := by
        cases ended : state.ended with
        | none => rfl
        | some ending => exact absurd ⟨ending, ended, complete ending ended⟩ unfinished
      have sound := fair.sound.outside 0 pcb met
      refine ⟨_, by simp only [step, going]; rfl, ⟨sound.httpSendData tcp keeps, ?_⟩, ?_⟩
      · exact fun ending ended => httpSendData_ended tcp _ ending ended
      · exact httpSendData_grows tcp keeps sound acknowledges
  obtain ⟨count, final, completed, ⟨fair, _⟩, done⟩ := ends_of_measure
    (fun state => Fair ssi held hs.response state ∧ ∀ ending ∈ state.ended, ending.Complete)
    (fun state => ∃ ending ∈ state.ended, ending.Complete)
    (fun state => state.scene.sent.length) _
    (fun event => event.Acknowledges tcp ∧ held event.world)
    (fun state kept => kept.1.served.count_le short) advances
    ⟨start, fun ending ended => httpSendData_ended tcp _ ending ended⟩ events all
    (Nat.lt_of_lt_of_le many (Nat.le_add_left _ _))
  exact ⟨count, final, completed, fair.served, done⟩

end progress

end UcosProxy.HttpSend
