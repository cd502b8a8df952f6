import UcosProxy.HttpFiles

/-!
# The answer as a client reads it

A client cuts what it receives at the first empty line: the headers in front of it, the
body behind. Every block of header strings that `get_http_headers` chooses for a name
with a dot has its only empty line at its end, so the cut gives back the body that was
sent, whatever bytes the body has. The built-in error page carries its empty line in its
text.

The results here are about whole runs: from the URI of a request over any calls of the
stack to the bytes at the end.
-/

namespace UcosProxy.HttpSend

open Bytes TagScan Runs Weaving

/-- An empty line. -/
def emptyLine : List Byte := ascii "\r\n\r\n"

/-- What a client takes for the body. -/
def clientBody (received : List Byte) : Option (List Byte) :=
  (strnstr emptyLine received.length received).map fun offset =>
    received.drop (offset + emptyLine.length)

/-- A word stands at the end of some bytes and nowhere before, and no NUL is in front of
it. -/
def endsFirst (word : List Byte) : List Byte → Bool
  | [] => false
  | byte :: rest =>
    byte ≠ 0 && (word = byte :: rest || !word.isPrefixOf (byte :: rest) && endsFirst word rest)

/-- A word that ends some bytes has room in them. -/
theorem endsFirst_length {word : List Byte} {front : List Byte} (ends : endsFirst word front) :
    word.length ≤ front.length := by
  induction front with
  | nil => cases ends
  | cons byte rest inductionHypothesis =>
    simp only [endsFirst, Bool.and_eq_true, Bool.or_eq_true, decide_eq_true_eq] at ends
    rcases ends.2 with whole | ⟨_, later⟩
    · rw [whole]
    · exact (inductionHypothesis later).trans (Nat.le_succ _)

/-- The search for a word that ends some bytes stops there, whatever follows. -/
theorem strnstr_endsFirst {word front : List Byte} (ends : endsFirst word front)
    (behind : List Byte) {count : Nat} (reach : front.length ≤ count) :
    strnstr word count (front ++ behind) = some (front.length - word.length) := by
  induction front generalizing count with
  | nil => cases ends
  | cons byte rest inductionHypothesis =>
    have length := endsFirst_length ends
    simp only [endsFirst, Bool.and_eq_true, Bool.or_eq_true, decide_eq_true_eq] at ends
    obtain ⟨letter, here⟩ := ends
    have going : ¬ (byte = 0 ∨ count < word.length) := by
      rw [not_or]
      exact ⟨letter, by omega⟩
    rw [List.cons_append, strnstr, if_neg going]
    by_cases found : word.isPrefixOf (byte :: (rest ++ behind)) = true
    · rw [if_pos found]
      rcases here with whole | ⟨absent, later⟩
      · rw [whole, Nat.sub_self]
      · have inside : word <+: byte :: rest := by
          have prefixed : word <+: (byte :: rest) ++ behind := List.isPrefixOf_iff_prefix.mp found
          exact List.prefix_of_prefix_length_le prefixed (List.prefix_append _ _) length
        rw [Bool.not_eq_true', ← Bool.not_eq_true, List.isPrefixOf_iff_prefix] at absent
        exact absurd inside absent
    · rw [if_neg found]
      rcases here with whole | ⟨_, later⟩
      · refine absurd ?_ found
        rw [List.isPrefixOf_iff_prefix, whole]
        exact List.prefix_append (byte :: rest) behind
      · have shorter := endsFirst_length later
        rw [inductionHypothesis later (by simp only [List.length_cons] at reach; omega)]
        simp only [Option.map_some, List.length_cons, Option.some.injEq]
        omega

/-- Behind a block that ends with its first empty line stands the body. -/
theorem clientBody_block {block : List Byte} (ends : endsFirst emptyLine block)
    (body : List Byte) : clientBody (block ++ body) = some body := by
  have length := endsFirst_length ends
  rw [clientBody, strnstr_endsFirst ends body (by rw [List.length_append]; omega), Option.map_some,
    Nat.sub_add_cancel length, List.drop_left]

set_option maxRecDepth 20000 in
/-- Every block of header strings ends with its first empty line. -/
theorem header_blocks_end :
    ∀ status ∈ [hdrOk, hdrNotFound, hdrBadRequest, hdrNotImpl],
      ∀ type ∈ hdrDefaultType :: httpHeaders.map Prod.snd,
        endsFirst emptyLine (status ++ (hdrServer ++ type)) := by
  decide

/-- The headers of a file. -/
def fileHeaders (name extension : List Byte) : List Byte :=
  statusLine name ++ (hdrServer ++ typeLine extension)

theorem fileHeaders_end (name extension : List Byte) :
    endsFirst emptyLine (fileHeaders name extension) :=
  header_blocks_end _ (statusLine_cases name) _ (typeLine_mem extension)

/-! ## The response to a file -/

/-- The response to a file without headers in it, under a name with an extension. -/
def fileResponse (file : FsFile) (name extension : List Byte) (tagCheck : Bool) : Response where
  headers := fileHeaders name extension
  page := file.data
  tagCheck := tagCheck

theorem response_httpInitFile (hs : HttpState) {file : FsFile} (is09 : Bool)
    {name extension : List Byte} (plain : file.httpHeaderIncluded = false)
    (dot : fileExtension name = some extension) :
    (httpInitFile hs (some file) is09 (some name)).response =
      fileResponse file name extension hs.tagCheck := by
  simp only [httpInitFile, plain, getHttpHeaders, dot]
  simp [HttpState.response, HttpState.headersLeft, HttpState.data, fileResponse, fileHeaders,
    numFileHdrStrings]

/-- The response when there is not even an error page. -/
theorem response_none (hs : HttpState) (is09 : Bool) :
    (httpInitFile hs none is09 none).response =
      ⟨hdrNotFound ++ (hdrServer ++ default404Html), [], false⟩ := by
  simp [httpInitFile, getHttpHeaders, HttpState.response, HttpState.headersLeft, HttpState.data,
    numFileHdrStrings]

/-- The response to a file under a name without an extension. -/
theorem response_nameless (hs : HttpState) {file : FsFile} (is09 : Bool) {name : List Byte}
    (plain : file.httpHeaderIncluded = false) (dotless : fileExtension name = none) :
    (httpInitFile hs (some file) is09 (some name)).response = ⟨[], file.data, hs.tagCheck⟩ := by
  simp only [httpInitFile, plain, getHttpHeaders, dotless]
  simp [HttpState.response, HttpState.headersLeft, HttpState.data, numFileHdrStrings]

/-! ## A small server -/

/-- A stack whose control block is the room in its send buffer: a piece that fits takes
its room, and any other is refused for lack of memory. Room comes back with the calls of
the stack, which say how much there is by then. -/
def narrowTcp : Tcp Nat where
  sndbuf := id
  mss := fun _ => 256
  queueFull := fun _ => false
  write := fun room bytes =>
    if bytes.length ≤ room then (.ok, room - bytes.length) else (.mem, room)

/-- A server with one tag, whose text never changes. -/
def centralSsi : Ssi Unit where
  tags := [ascii "cr_read"]
  handler := fun world _ => (ascii "central", world)

/-- A server without handlers. -/
def noCgis : Cgis Unit where
  names := []
  handler := fun world _ _ => ([], world)

/-- An image whose every name is a page with the tag. -/
def onePage (_ : List Byte) : Option FsFile := some ⟨ascii "\n<!--#cr_read-->\n", false⟩

/-- Any room at all leaves the narrow stack roomy. -/
theorem narrowTcp_roomy {room : Nat} (some : 0 < room) : Roomy narrowTcp room where
  room := some
  mss := (by decide : 0 < 256)
  accepts := by
    intro bytes _ fits
    have taken : bytes.length ≤ room := fits
    simp only [narrowTcp, if_pos taken]

/-- The calls on a connection whose client is slow: a poll that finds no room, and then
acknowledgements and polls with room for sixty bytes each. -/
def narrowCalls {World : Type} (world : World) : List (Event Nat World) :=
  [.poll 0 world, .sent 60 world, .poll 60 world, .sent 60 world, .sent 60 world, .sent 60 world]

theorem narrowCalls_world {World : Type} (world : World) :
    ∀ event ∈ narrowCalls world, event.world = world := by
  simp [narrowCalls, Event.world]

section find
variable {Pcb World Rest : Type} (tcp : Tcp Pcb) {ssi : Ssi World} {held : World → Prop}
  {fsOpen : List Byte → Option FsFile} (cgis : Cgis Rest)

variable (fsOpen) in
/-- `http_find_file` sets the connection up for the file that it finds. -/
theorem httpFindFile_eq (hs : HttpState) (world : Rest) (uri : List Byte) (is09 : Bool) :
    ∃ tagCheck, (httpFindFile fsOpen cgis hs world uri is09).1 =
      httpInitFile { hs with tagCheck := tagCheck } ((uriFile fsOpen cgis world uri).map Prod.fst)
        is09 ((uriFile fsOpen cgis world uri).map Prod.snd) := by
  unfold httpFindFile uriFile
  by_cases root : uri = ascii "/"
  · simp only [root, if_true, findRoot]
    cases openFirst fsOpen (defaultFilenames.map Prod.fst) with
    | some found => exact ⟨_, rfl⟩
    | none =>
      cases httpGet404File fsOpen with
      | some found => exact ⟨_, rfl⟩
      | none => exact ⟨_, rfl⟩
  · simp only [root, if_false, findName]
    cases ((fsOpen (cgiName cgis world uri).1).map (·, (cgiName cgis world uri).1)).or
        (httpGet404File fsOpen) with
    | some found => exact ⟨_, rfl⟩
    | none => exact ⟨_, rfl⟩

/-- The response to every request, in every run: the client has its first bytes, each tag
was asked for once and in order, and at the end it has all of it but the text of a tag that
ends the page. The image is asked for one thing only, that an HTTP/0.9 request meets no file
with headers in it. The stack may refuse any write, and the server may close early. -/
theorem response_is_served {hs : HttpState} (sane : hs.Sane) (rest : Rest) (uri : List Byte)
    {is09 : Bool} (starts : ∀ name, StartsWhole (fsOpen name) is09) (keeps : Keeps ssi held)
    (pcb : Pcb) {world : World} (kept : held world) (events : List (Event Pcb World))
    (all : ∀ event ∈ events, held event.world) :
    Always (step tcp ssi) (Served ssi held (httpFindFile fsOpen cgis hs rest uri is09).1.response)
      (respond tcp ssi (httpFindFile fsOpen cgis hs rest uri is09).1 pcb world) events :=
  served_always tcp keeps (opened_httpFindFile cgis sane rest uri starts) pcb kept events all

/-- A page with a tag, sent a little at a time. -/
theorem onePage_is_served :
    Always (step narrowTcp centralSsi)
      (Served centralSsi (fun _ => True)
        (httpFindFile onePage noCgis httpStateAlloc () (ascii "/page.ssi") false).1.response)
      (respond narrowTcp centralSsi
        (httpFindFile onePage noCgis httpStateAlloc () (ascii "/page.ssi") false).1 60 ())
      (narrowCalls ()) :=
  response_is_served narrowTcp noCgis httpStateAlloc_sane () (ascii "/page.ssi")
    (fun _ => .inl rfl) (fun _ _ => id) 60 trivial (narrowCalls ()) fun _ _ => trivial

/-- Texts that fit the insert buffer, also where a name is echoed. -/
theorem short_of_handler (answers : ∀ world loop, (ssi.handler world loop).1.length ≤ maxTagInsertLen) :
    ssi.Short maxTagInsertLen := by
  intro name world
  unfold insertFor
  split
  · exact answers world _
  · have first : unknownTag1.length = 18 := by decide
    have second : unknownTag2.length = 7 := by decide
    simp only [List.length_append, List.length_take, first, second, maxTagInsertLen]
    omega

/-- The response to every request comes to its end when the client's acknowledgements leave
the stack room and the texts fit their buffer. `many` is strict: one event more than there
are bytes. The events are acknowledgements, which leave room each, and no other. -/
theorem response_completes {hs : HttpState} (sane : hs.Sane) (rest : Rest) (uri : List Byte)
    {is09 : Bool} (starts : ∀ name, StartsWhole (fsOpen name) is09) (keeps : Keeps ssi held)
    (pcb : Pcb) {world : World} (kept : held world)
    (answers : ∀ world loop, (ssi.handler world loop).1.length ≤ maxTagInsertLen)
    (events : List (Event Pcb World))
    (all : ∀ event ∈ events, event.Acknowledges tcp ∧ held event.world)
    (many : (httpFindFile fsOpen cgis hs rest uri is09).1.response.headers.length +
        (httpFindFile fsOpen cgis hs rest uri is09).1.response.page.length +
        (httpFindFile fsOpen cgis hs rest uri is09).1.response.tags.length * maxTagInsertLen <
      events.length) :
    ∃ count final,
      run (step tcp ssi) (respond tcp ssi (httpFindFile fsOpen cgis hs rest uri is09).1 pcb world)
          (events.take count) = some final ∧
        Served ssi held (httpFindFile fsOpen cgis hs rest uri is09).1.response final ∧
        ∃ ending ∈ final.ended, ending.Complete :=
  completes_of_room tcp keeps (opened_httpFindFile cgis sane rest uri starts) pcb kept
    (short_of_handler answers) events all many

set_option maxRecDepth 20000 in
/-- A client that acknowledges three bytes at a time reaches the end of the page. -/
theorem onePage_completes :
    ∃ count final,
      run (step narrowTcp centralSsi)
          (respond narrowTcp centralSsi
            (httpFindFile onePage noCgis httpStateAlloc () (ascii "/page.ssi") false).1 3 ())
          ((List.replicate 800 (.sent 3 ())).take count) = some final ∧
        Served centralSsi (fun _ => True)
          (httpFindFile onePage noCgis httpStateAlloc () (ascii "/page.ssi") false).1.response final ∧
        ∃ ending ∈ final.ended, ending.Complete :=
  response_completes narrowTcp noCgis httpStateAlloc_sane () (ascii "/page.ssi")
    (fun _ => .inl rfl) (fun _ _ => id) 3 trivial
    (fun _ _ => show (ascii "central").length ≤ maxTagInsertLen by decide)
    (List.replicate 800 (.sent 3 ()))
    (fun event member => by
      rw [List.eq_of_mem_replicate member]
      exact ⟨narrowTcp_roomy (by decide), trivial⟩)
    (by
      rw [List.length_replicate]
      decide)

/-- What a client reads at the end of a response that `http_find_file` has opened, with the
file that was found for the URI and its name: the built-in error page when there is none;
else the body of that very file, its tags followed by their texts when it is checked for
tags, behind the headers of its name, and that alone for a name without an extension. -/
def ReadsFile (opened : HttpState) (found : Option (FsFile × List Byte))
    (outcome : Outcome Pcb World) : Prop :=
  match found with
  | none => opened.handle = none ∧
      clientBody outcome.scene.sent = some (default404Html.drop 2) ∧
        hdrNotFound <+: outcome.scene.sent
  | some (file, name) => opened.handle = some file ∧
      let response := fileResponse file name ((fileExtension name).getD []) opened.tagCheck
      let body := response.body (response.shown (outcome.scene.inserts.map Prod.snd))
      match fileExtension name with
      | some _ => clientBody outcome.scene.sent = some body ∧ statusLine name <+: outcome.scene.sent
      | none => outcome.scene.sent = body

/-- The connection holds the file that it was set up for, and checks it for tags as before. -/
theorem httpInitFile_kept (hs : HttpState) (file : Option FsFile) (is09 : Bool)
    (uri : Option (List Byte)) :
    (httpInitFile hs file is09 uri).handle = file ∧
      (httpInitFile hs file is09 uri).tagCheck = hs.tagCheck := by
  have headed (hs : HttpState) : (getHttpHeaders hs uri).handle = hs.handle ∧
      (getHttpHeaders hs uri).tagCheck = hs.tagCheck := by
    rw [(getHttpHeaders_eq hs uri).2]
    exact ⟨rfl, rfl⟩
  have skipped (hs : HttpState) (file : FsFile) : (skipHeader hs file).handle = hs.handle ∧
      (skipHeader hs file).tagCheck = hs.tagCheck := by
    unfold skipHeader
    split <;> exact ⟨rfl, rfl⟩
  cases file with
  | none => exact headed _
  | some file =>
    simp only [httpInitFile]
    split
    · split
      · exact skipped _ file
      · exact ⟨rfl, rfl⟩
    · exact headed _

/-- A client of a response that was set up for a file, or for none, reads it at the end. -/
theorem Served.readsFile {hs : HttpState} {found : Option (FsFile × List Byte)} {is09 : Bool}
    {outcome : Outcome Pcb World} (plain : ∀ entry ∈ found, entry.1.httpHeaderIncluded = false)
    (served : Served ssi held
      (httpInitFile hs (found.map Prod.fst) is09 (found.map Prod.snd)).response outcome)
    (complete : ∃ ending ∈ outcome.ended, ending.Complete) :
    ReadsFile (httpInitFile hs (found.map Prod.fst) is09 (found.map Prod.snd)) found outcome := by
  obtain ⟨handle, tagCheck⟩ := httpInitFile_kept hs (found.map Prod.fst) is09 (found.map Prod.snd)
  cases found with
  | none =>
    have block : endsFirst emptyLine (hdrNotFound ++ (hdrServer ++ ascii "\r\n")) := by decide
    have split : default404Html = ascii "\r\n" ++ default404Html.drop 2 := by decide
    simp only [Option.map_none] at served handle ⊢
    rw [response_none] at served
    refine ⟨handle, ?_⟩
    rw [(served.whole complete).2]
    simp only [Response.body, Bool.false_eq_true, if_false, List.append_nil]
    refine ⟨?_, List.prefix_append _ _⟩
    have body := clientBody_block block (default404Html.drop 2)
    rwa [List.append_assoc, List.append_assoc, ← split] at body
  | some entry =>
    obtain ⟨file, name⟩ := entry
    have own : file.httpHeaderIncluded = false := plain _ rfl
    simp only [Option.map_some] at served handle tagCheck ⊢
    refine ⟨handle, ?_⟩
    rw [tagCheck]
    cases dot : fileExtension name with
    | some extension =>
      rw [response_httpInitFile hs is09 own dot] at served
      simp only [Option.getD_some]
      rw [(served.whole complete).2]
      refine ⟨clientBody_block (fileHeaders_end name extension) _, ?_⟩
      simp only [fileResponse, fileHeaders, List.append_assoc]
      exact List.prefix_append _ _
    | none =>
      rw [response_nameless hs is09 own dot] at served
      exact (served.whole complete).2

/-- Every request, in every run: a response that has come to its end is read back by the
client as the file that was found for its URI. What that file is depends on the URI, the
image and the handler's answer alone, and not on the run. -/
theorem client_reads_file {hs : HttpState} (sane : hs.Sane) (rest : Rest) (uri : List Byte)
    (is09 : Bool)
    (plain : ∀ name file, fsOpen name = some file → file.httpHeaderIncluded = false) (pcb : Pcb)
    (world : World) (events : List (Event Pcb World)) :
    Always (step tcp ssi)
      (fun outcome => (∃ ending ∈ outcome.ended, ending.Complete) →
        ReadsFile (httpFindFile fsOpen cgis hs rest uri is09).1 (uriFile fsOpen cgis rest uri) outcome)
      (respond tcp ssi (httpFindFile fsOpen cgis hs rest uri is09).1 pcb world) events := by
  have starts (name : List Byte) : StartsWhole (fsOpen name) is09 :=
    .inr fun file member => plain name file member
  have along : Always (step tcp ssi)
      (Served ssi (fun _ => True) (httpFindFile fsOpen cgis hs rest uri is09).1.response)
      (respond tcp ssi (httpFindFile fsOpen cgis hs rest uri is09).1 pcb world) events :=
    served_always tcp (fun _ _ => id) (opened_httpFindFile cgis sane rest uri starts) pcb trivial
      events fun _ _ => trivial
  refine always_mono ?_ along
  intro outcome served complete
  obtain ⟨tagCheck, same⟩ := httpFindFile_eq fsOpen cgis hs rest uri is09
  rw [same] at served ⊢
  apply served.readsFile _ complete
  intro entry found
  exact plain entry.2 entry.1 (uriFile_eq_some cgis found)

/-- The page with the tag, read by a slow client. -/
theorem onePage_is_read :
    Always (step narrowTcp centralSsi)
      (fun outcome => (∃ ending ∈ outcome.ended, ending.Complete) →
        ReadsFile (httpFindFile onePage noCgis httpStateAlloc () (ascii "/page.ssi") false).1
          (uriFile onePage noCgis () (ascii "/page.ssi")) outcome)
      (respond narrowTcp centralSsi
        (httpFindFile onePage noCgis httpStateAlloc () (ascii "/page.ssi") false).1 60 ())
      (narrowCalls ()) :=
  client_reads_file narrowTcp noCgis httpStateAlloc_sane () (ascii "/page.ssi") false
    (fun _ _ opened => by rw [← Option.some.inj opened]) 60 () (narrowCalls ())

end find

end UcosProxy.HttpSend
