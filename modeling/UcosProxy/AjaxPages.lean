import UcosProxy.BoardsPage
import UcosProxy.CgiHandlers
import UcosProxy.HttpClient
import UcosProxy.OutcomeTexts

/-!
# What a handled request is answered with

A handler names the page that answers its request. There are fifteen such pages. Thirteen
hold one tag between two line ends and are checked for tags because of their name; two
hold a sentence that no script reads.

For each of the ten handlers, each request it survives and each run of the stack's calls
the answer is followed to its end: the name is opened, the tag is one that
`httpd_ssi_objs` registers, its handler is asked, and the script receives the page with
the handler's text. The scripts of the configuration pages look for a word in it, and
read the outcome that the page's variable held at that time.

`fsdata.c` is generated from the files under `makefsdata/fs` and is not part of the
repository, so that the image holds these pages is assumed.
-/

namespace UcosProxy.AjaxPages

open Bytes Runs TagScan Weaving HttpSend BoardsPage UriParameters CgiAccess PortCgi CgiHandlers
  OutcomeTexts

/-- A page with one tag, and the handler of the tag. The pages that the scripts ask for are
such ones, and nothing else of a page matters to them. -/
structure AjaxPage where
  name : String
  tag : String
  handler : SsiHandler
deriving DecidableEq

/-- The files of `assets/ajax` that hold a tag. -/
def ajaxPages : List AjaxPage :=
  [⟨"/assets/ajax/login.ajax", "login_usrpswd", .loginUsrpasswd⟩,
    ⟨"/assets/ajax/panel.ajax", "panel_bulb", .panel⟩,
    ⟨"/assets/ajax/cr_read.ajax", "cr_read", .centRmtRead⟩,
    ⟨"/assets/ajax/account.ajax", "account_status", .accountStatus⟩,
    ⟨"/assets/ajax/net_read.ajax", "net_read_data", .netReadData⟩,
    ⟨"/assets/ajax/net_write.ajax", "net_config_status", .netConfigStatus⟩,
    ⟨"/assets/ajax/update_status.ajax", "update_status", .updateStatus⟩,
    ⟨"/assets/ajax/opt_read.ajax", "opt_read_data", .optReadData⟩,
    ⟨"/assets/ajax/opt_write.ajax", "opt_config_status", .optConfigStatus⟩,
    ⟨"/assets/ajax/eth_read.ajax", "eth_read_data", .ethReadData⟩,
    ⟨"/assets/ajax/eth_write.ajax", "eth_config_status", .ethConfigStatus⟩,
    ⟨"/assets/ajax/e1_read.ajax", "e1_read_data", .e1ReadData⟩,
    ⟨"/assets/ajax/e1_write.ajax", "e1_config_status", .e1ConfigStatus⟩]

/-- The other two, with their sentence. -/
def sentencePages : List (String × List Byte) :=
  [("/assets/ajax/cr_write.ajax", ascii "The content of the file is of no use."),
    ("/assets/ajax/reboot.ajax", ascii "The content of the file is of no use...")]

/-- The page up to the last byte of its tag, without it. -/
def AjaxPage.front (page : AjaxPage) : List Byte := ascii "\n<!--#" ++ ascii page.tag ++ ascii "--"

/-- The file of a page. -/
def AjaxPage.file (page : AjaxPage) : FsFile := ⟨page.front ++ 62 :: [10], false⟩

/-- What a script receives for a page whose tag has a text. -/
def AjaxPage.data (page : AjaxPage) (text : List Byte) : List Byte :=
  page.front ++ 62 :: text ++ [10]

/-- The image holds the pages. The other files of the image are left open, and so is where
the pages lie in it. -/
structure Image (fsOpen : List Byte → Option FsFile) : Prop where
  pages : ∀ page ∈ ajaxPages, fsOpen (ascii page.name) = some page.file
  sentences : ∀ entry ∈ sentencePages, fsOpen (ascii entry.1) = some ⟨entry.2, false⟩

/-- The registered tags, with what the function of each fills in. -/
def siteSsi {World : Type} (answer : World → SsiHandler → List Byte × World) : Ssi World where
  tags := httpdSsiObjs.map HttpdSsiClass.tag
  handler := fun world loop =>
    match httpdSsiObjs[loop]? with
    | some entry => answer world entry.handler
    | none => ([], world)

/-- The registered CGI names. -/
def siteCgis {Rest : Type} (handler : Rest → Nat → List Param → List Byte × Rest) : Cgis Rest where
  names := ppcUrls.map fun cgi => ascii cgi.pcCgiName
  handler := handler

/-! ## The pages -/

/-- Every page is a tag with one line end on both sides: the parser finds it there, it is
registered, and its name makes the page one that is checked. -/
theorem ajaxPages_scanned :
    ∀ page ∈ ajaxPages,
      (∃ state, scanQuiet .none page.front = some state ∧
        scanByte state 62 = (.none, some (ascii page.tag))) ∧
      findSsi (ascii page.tag) = some page.handler ∧ text (ascii page.tag) = ascii page.tag ∧
      isSsiName (ascii page.name) ∧ fileExtension (ascii page.name) = some (ascii "ajax") := by
  decide

/-- The other pages are named alike and hold no tag. -/
theorem sentencePages_scanned :
    ∀ entry ∈ sentencePages,
      scanQuiet .none entry.2 = some .none ∧ isSsiName (ascii entry.1) ∧
      fileExtension (ascii entry.1) = some (ascii "ajax") := by
  decide

/-- The marks of a page are its tags. -/
theorem marks_eq_scanTags (state : TagState) (bytes : List Byte) :
    marks scanByte state bytes = scanTags state bytes := by
  induction bytes generalizing state with
  | nil => rfl
  | cons byte rest inductionHypothesis =>
    rcases scanned : scanByte state byte with ⟨next, completed⟩
    cases completed with
    | none =>
      rw [scanTags_cons_none rest scanned, ← inductionHypothesis, marks, scanned]
      rfl
    | some name =>
      rw [scanTags_cons_some rest scanned, ← inductionHypothesis, marks, scanned]
      rfl

/-- A page that is sent with a text for each tag is woven with these texts. -/
theorem sendTags_eq_weave (insert : List Byte → List Byte) (state : TagState)
    (bytes : List Byte) :
    sendTags insert state bytes =
      weave scanByte state bytes ((scanTags state bytes).map insert) := by
  induction bytes generalizing state with
  | nil => rfl
  | cons byte rest inductionHypothesis =>
    rcases scanned : scanByte state byte with ⟨next, completed⟩
    cases completed with
    | none =>
      rw [scanTags_cons_none rest scanned]
      simp only [sendTags, weave, scanned, inductionHypothesis]
    | some name =>
      rw [scanTags_cons_some rest scanned]
      simp only [sendTags, weave, scanned, inductionHypothesis, List.map_cons, List.headD_cons,
        List.tail_cons, List.cons_append]

/-- A stretch that completes no tag has none. -/
theorem scanTags_quiet {state next : TagState} {before : List Byte} (rest : List Byte)
    (quiet : scanQuiet state before = some next) :
    scanTags state (before ++ rest) = scanTags next rest := by
  induction before generalizing state with
  | nil =>
    obtain rfl := Option.some.inj quiet
    rfl
  | cons byte before inductionHypothesis =>
    simp only [scanQuiet] at quiet
    split at quiet
    · rename_i after scanned
      rw [List.cons_append, scanTags_cons_none _ scanned, inductionHypothesis quiet]
    · cases quiet

/-- The one tag of a page. -/
theorem file_tags {page : AjaxPage} (member : page ∈ ajaxPages) :
    pageTags page.file.data = [ascii page.tag] := by
  obtain ⟨⟨state, quiet, tag⟩, _⟩ := ajaxPages_scanned page member
  rw [pageTags, marks_eq_scanTags]
  change scanTags .none (page.front ++ 62 :: [10]) = _
  rw [scanTags_quiet _ quiet, scanTags_cons_some _ tag]
  rfl

/-- A line end follows the tag. -/
theorem file_goes_on {page : AjaxPage} (member : page ∈ ajaxPages) :
    endsWithTag page.file.data = false := by
  obtain ⟨⟨state, quiet, tag⟩, _⟩ := ajaxPages_scanned page member
  have split : page.file.data.dropLast = page.front ++ [62] := by
    change (page.front ++ ([62] ++ [10])).dropLast = _
    rw [← List.append_assoc, List.dropLast_concat]
  rw [endsWithTag, file_tags member, split, pageTags, marks_eq_scanTags, scanTags_quiet _ quiet,
    scanTags_cons_some _ tag]
  rfl

/-- A page is woven with the text of its tag. -/
theorem weave_file {page : AjaxPage} (member : page ∈ ajaxPages) (text : List Byte) :
    weave scanByte .none page.file.data [text] = page.data text := by
  obtain ⟨⟨state, quiet, tag⟩, _⟩ := ajaxPages_scanned page member
  have sent := sendTags_one (fun _ => text) quiet tag (rfl : scanQuiet .none [10] = some .none)
  have tags := file_tags member
  rw [pageTags, marks_eq_scanTags] at tags
  have woven := sendTags_eq_weave (fun _ => text) .none page.file.data
  rw [tags] at woven
  exact woven.symm.trans sent

/-! ## The answer to a request -/

/-- A registered tag is filled in by the function of its entry. -/
theorem insertFor_site {World : Type} (answer : World → SsiHandler → List Byte × World)
    {name : List Byte} {handler : SsiHandler} (found : findSsi name = some handler) (world : World) :
    insertFor (siteSsi answer) name world = answer world handler := by
  obtain ⟨entry, first, rfl⟩ := Option.map_eq_some_iff.mp found
  rw [List.find?_eq_bind_findIdx?_getElem?] at first
  obtain ⟨index, position, there⟩ := Option.bind_eq_some_iff.mp first
  have same : (httpdSsiObjs.map HttpdSsiClass.tag).findIdx? (name = ·) = some index := by
    rw [List.findIdx?_map]
    exact position
  simp only [insertFor, siteSsi, same, there]

/-- A property that every handler keeps is kept whatever tag is asked for. -/
theorem siteSsi_keeps {World : Type} {answer : World → SsiHandler → List Byte × World}
    {held : World → Prop} (keeps : ∀ world handler, held world → held (answer world handler).2) :
    Keeps (siteSsi answer) held := by
  intro world loop before
  simp only [siteSsi]
  split
  · exact keeps world _ before
  · exact before

/-- The page that answers a request: one of less than two parameters is a read. -/
def namedPage (cgi : Cgi) (params : List Param) : String :=
  let reads := fun read written : String => if params.length < 2 then read else written
  match cgi with
  | .login => "/assets/ajax/login.ajax"
  | .panel => "/assets/ajax/panel.ajax"
  | .centRmt => reads "/assets/ajax/cr_read.ajax" "/assets/ajax/cr_write.ajax"
  | .reboot => "/assets/ajax/reboot.ajax"
  | .account => "/assets/ajax/account.ajax"
  | .net => reads "/assets/ajax/net_read.ajax" "/assets/ajax/net_write.ajax"
  | .update => "/assets/ajax/update_status.ajax"
  | .opt => reads "/assets/ajax/opt_read.ajax" "/assets/ajax/opt_write.ajax"
  | .eth => reads "/assets/ajax/eth_read.ajax" "/assets/ajax/eth_write.ajax"
  | .e1 => reads "/assets/ajax/e1_read.ajax" "/assets/ajax/e1_write.ajax"

theorem overWeb_page {served : WebState → Except Fault PortCgi.Served} {state after : CgiState}
    {page : String} (handled : overWeb served state = .ok (page, after)) :
    ∃ result, served state.web = .ok result ∧ page = result.page := by
  obtain ⟨result, serves, same⟩ := bind_eq_ok.mp handled
  obtain ⟨rfl, _⟩ := Prod.mk.inj (Except.ok.inj same)
  exact ⟨result, serves, rfl⟩

theorem accountCgi_page (env : Environment) {params : List Param} {state after : CgiState}
    {page : String} (handled : accountCgiInterface env params state = .ok (page, after)) :
    page = "/assets/ajax/account.ajax" := by
  simp only [accountCgiInterface] at handled
  split at handled
  · exact (Prod.mk.inj (Except.ok.inj handled)).1.symm
  · obtain ⟨same, _, branch⟩ := bind_eq_ok.mp handled
    split at branch
    · exact (Prod.mk.inj (Except.ok.inj branch)).1.symm
    · simp only [bind_eq_ok] at branch
      obtain ⟨_, _, _, _, _, _, _, _, stored⟩ := branch
      exact (Prod.mk.inj (Except.ok.inj stored)).1.symm

theorem netCgi_page {env : Environment} {params : List Param} {state after : CgiState}
    {page : String} (handled : netCgiInterface env params state = .ok (page, after)) :
    page = if params.length < 2 then "/assets/ajax/net_read.ajax"
      else "/assets/ajax/net_write.ajax" := by
  simp only [netCgiInterface] at handled
  split at handled
  case isTrue short =>
    rw [if_pos short]
    exact (Prod.mk.inj (Except.ok.inj handled)).1.symm
  case isFalse long =>
    rw [if_neg long]
    simp only [bind_eq_ok] at handled
    obtain ⟨_, _, _, _, _, _, _, _, branch⟩ := handled
    split at branch <;> exact (Prod.mk.inj (Except.ok.inj branch)).1.symm

theorem updateCgi_page (env : Environment) {params : List Param} {state after : CgiState}
    {page : String} (handled : updateCgiInterface env params state = .ok (page, after)) :
    page = "/assets/ajax/update_status.ajax" := by
  simp only [updateCgiInterface] at handled
  split at handled
  · exact (Prod.mk.inj (Except.ok.inj handled)).1.symm
  · simp only [bind_eq_ok] at handled
    obtain ⟨_, _, _, _, _, _, _, _, stored⟩ := handled
    exact (Prod.mk.inj (Except.ok.inj stored)).1.symm

/-- Every handler names the page of its request. -/
theorem handled_page {cgi : Cgi} {env : Environment} {params : List Param}
    {state after : CgiState} {page : String}
    (handled : cgi.pfnCgiHandler env params state = .ok (page, after)) :
    page = namedPage cgi params := by
  cases cgi with
  | login => exact (Prod.mk.inj (Except.ok.inj handled)).1.symm
  | panel => exact (Prod.mk.inj (Except.ok.inj handled)).1.symm
  | reboot =>
    simp only [Cgi.pfnCgiHandler, rebootCgiInterface] at handled
    split at handled <;> exact (Prod.mk.inj (Except.ok.inj handled)).1.symm
  | account => exact accountCgi_page env handled
  | net => exact netCgi_page handled
  | update => exact updateCgi_page env handled
  | centRmt =>
    obtain ⟨result, served, rfl⟩ := overWeb_page handled
    simp only [centRmtCgiInterface] at served
    simp only [namedPage]
    split at served
    case isTrue short => rw [if_pos short, ← Except.ok.inj served]
    case isFalse long =>
      obtain ⟨side, _, same⟩ := bind_eq_ok.mp served
      rw [if_neg long, ← Except.ok.inj same]
  | opt =>
    obtain ⟨result, served, rfl⟩ := overWeb_page handled
    simp only [optCgiInterface] at served
    simp only [namedPage]
    split at served
    case isTrue short => rw [if_pos short, ← Except.ok.inj served]
    case isFalse long =>
      obtain ⟨configured, _, same⟩ := bind_eq_ok.mp served
      rw [if_neg long, ← Except.ok.inj same]
  | eth =>
    obtain ⟨result, served, rfl⟩ := overWeb_page handled
    simp only [ethCgiInterface] at served
    simp only [namedPage]
    split at served
    case isTrue short => rw [if_pos short, ← Except.ok.inj served]
    case isFalse long =>
      obtain ⟨ge, _, further⟩ := bind_eq_ok.mp served
      obtain ⟨configured, _, same⟩ := bind_eq_ok.mp further
      rw [if_neg long, ← Except.ok.inj same]
  | e1 =>
    obtain ⟨result, served, rfl⟩ := overWeb_page handled
    simp only [e1CgiInterface] at served
    simp only [namedPage]
    split at served
    case isTrue short => rw [if_pos short, ← Except.ok.inj served]
    case isFalse long =>
      obtain ⟨configured, _, same⟩ := bind_eq_ok.mp served
      rw [if_neg long, ← Except.ok.inj same]

/-- The page of every request is in the image, and its name is no CGI's. -/
theorem namedPage_listed (cgi : Cgi) (params : List Param) :
    namedPage cgi params ∈ ajaxPages.map AjaxPage.name ++ sentencePages.map Prod.fst := by
  cases cgi <;> simp only [namedPage] <;> first | decide | (split <;> decide)

/-- No page of the image is the root, a CGI or a name with variables. -/
theorem pages_not_cgis :
    ∀ name ∈ ajaxPages.map AjaxPage.name ++ sentencePages.map Prod.fst,
      ascii name ≠ ascii "/" ∧ splitUri (ascii name) = (ascii name, []) ∧
      ∀ cgi ∈ ppcUrls, ascii cgi.pcCgiName ≠ ascii name := by
  decide

section answer
variable {Pcb World Rest : Type} (tcp : Tcp Pcb)
  (answer : World → SsiHandler → List Byte × World) (held : World → Prop)
  (handler : Rest → Nat → List Param → List Byte × Rest)
  {fsOpen : List Byte → Option FsFile}

/-- What a script receives for the page of a request: success, and the page with the text of
its handler, or the page's sentence. The world of the text is any that the run came through
with the property, since a response may go out over many calls. -/
def Receives (cgi : Cgi) (params : List Param) (received : List Byte) : Prop :=
  hdrOk <+: received ∧
    ((∃ page ∈ ajaxPages, page.name = namedPage cgi params ∧
      ∃ world, held world ∧
        clientBody received = some (page.data (answer world page.handler).1)) ∨
    ∃ entry ∈ sentencePages, entry.1 = namedPage cgi params ∧ clientBody received = some entry.2)

/-- No name stands for an error. -/
theorem listed_statusLine :
    ∀ name ∈ ajaxPages.map AjaxPage.name ++ sentencePages.map Prod.fst,
      statusLine (ascii name) = hdrOk := by
  decide

/-- The status line of a response to one of the pages. -/
theorem hdrOk_sent {name : String}
    (listed : name ∈ ajaxPages.map AjaxPage.name ++ sentencePages.map Prod.fst) {file : FsFile}
    {ssi : Ssi World} {outcome : HttpSend.Outcome Pcb World}
    (served : HttpSend.Served ssi held (fileResponse file (ascii name) (ascii "ajax") true) outcome)
    (complete : ∃ ending ∈ outcome.ended, ending.Complete) : hdrOk <+: outcome.scene.sent := by
  rw [(served.whole complete).2, fileResponse, fileHeaders, listed_statusLine name listed,
    List.append_assoc]
  exact List.prefix_append _ _

/-- The name that a handler answered is opened under itself. -/
theorem httpFindFile_page (hs : HttpState) (rest : Rest) (is09 : Bool) {name : String}
    (listed : name ∈ ajaxPages.map AjaxPage.name ++ sentencePages.map Prod.fst) {file : FsFile}
    (there : fsOpen (ascii name) = some file) :
    (httpFindFile fsOpen (siteCgis handler) hs rest (ascii name) is09).1 =
      httpInitFile { hs with tagCheck := isSsiName (ascii name) } (some file) is09
        (some (ascii name)) := by
  obtain ⟨root, split, cgis⟩ := pages_not_cgis name listed
  have none : (ppcUrls.map fun cgi => ascii cgi.pcCgiName).findIdx? (ascii name = ·) = none := by
    rw [List.findIdx?_eq_none_iff]
    intro other member
    obtain ⟨cgi, registered, rfl⟩ := List.mem_map.mp member
    exact decide_eq_false fun same => cgis cgi registered same.symm
  simp only [httpFindFile, if_neg root, cgiName, split, siteCgis, none, findName, there,
    Option.map_some, Option.some_or]

/-- The end of a response with a page and its tag. -/
theorem receives_page {page : AjaxPage} (member : page ∈ ajaxPages)
    {outcome : HttpSend.Outcome Pcb World}
    (served : HttpSend.Served (siteSsi answer) held
      (fileResponse page.file (ascii page.name) (ascii "ajax") true) outcome)
    (complete : ∃ ending ∈ outcome.ended, ending.Complete) :
    ∃ world, held world ∧
      clientBody outcome.scene.sent = some (page.data (answer world page.handler).1) := by
  obtain ⟨_, registered, letters, _⟩ := ajaxPages_scanned page member
  obtain ⟨asked, sent⟩ := served.whole complete
  have tags := file_tags member
  have further := file_goes_on member
  simp only [Response.tags, Response.shown, Response.body, fileResponse, if_true, tags,
    Bool.true_and, further, Bool.false_eq_true, if_false] at asked sent
  obtain ⟨entry, only, named⟩ := List.map_eq_singleton_iff.mp asked
  obtain ⟨world, kept, text⟩ := served.answered entry (only ▸ List.mem_singleton_self entry)
  rw [named, letters, insertFor_site answer registered] at text
  rw [only, List.map_singleton, weave_file member, text] at sent
  exact ⟨world, kept, by rw [sent, clientBody_block (fileHeaders_end _ _)]⟩

/-- The end of a response with a sentence. -/
theorem receives_sentence {entry : String × List Byte} (member : entry ∈ sentencePages)
    {ssi : Ssi World} {outcome : HttpSend.Outcome Pcb World}
    (served : HttpSend.Served ssi held
      (fileResponse ⟨entry.2, false⟩ (ascii entry.1) (ascii "ajax") true) outcome)
    (complete : ∃ ending ∈ outcome.ended, ending.Complete) :
    clientBody outcome.scene.sent = some entry.2 := by
  obtain ⟨quiet, _⟩ := sentencePages_scanned entry member
  obtain ⟨asked, sent⟩ := served.whole complete
  have tags : scanTags .none entry.2 = [] := by
    have none := scanTags_quiet [] quiet
    rwa [List.append_nil] at none
  have woven := sendTags_quiet (fun _ => []) [] quiet
  rw [List.append_nil, sendTags_eq_weave, tags] at woven
  simp only [Response.tags, fileResponse, if_true, pageTags, marks_eq_scanTags, tags] at asked
  rw [List.map_eq_nil_iff.mp asked, List.map_nil, Response.shown_nil] at sent
  simp only [Response.body, fileResponse, if_true] at sent
  rw [sent, clientBody_block (fileHeaders_end _ _)]
  exact congrArg some (woven.trans (List.append_nil _))

/-- The request of every handler that survives it, in every run: a response that has come to
its end carries the page that the handler named, and behind its tag, which stays, the text
that the tag's own handler gave at that time. The time is one at which the assumption `held`
was in force, so what is assumed of every call carries over to the text. -/
theorem handled_request_is_answered (image : Image fsOpen) {cgi : Cgi} {env : Environment}
    {params : List Param} {state after : CgiState} {page : String}
    (handled : cgi.pfnCgiHandler env params state = .ok (page, after)) {hs : HttpState}
    (sane : hs.Sane) (rest : Rest) (is09 : Bool)
    (keeps : ∀ world handler, held world → held (answer world handler).2) (pcb : Pcb) {world : World}
    (kept : held world) (events : List (HttpSend.Event Pcb World))
    (all : ∀ event ∈ events, held event.world) :
    Always (step tcp (siteSsi answer))
      (fun outcome => (∃ ending ∈ outcome.ended, ending.Complete) →
        Receives answer held cgi params outcome.scene.sent)
      (respond tcp (siteSsi answer)
        (httpFindFile fsOpen (siteCgis handler) hs rest (ascii page) is09).1 pcb world) events := by
  obtain rfl := handled_page handled
  have listed := namedPage_listed cgi params
  have along (file : FsFile) (plain : file.httpHeaderIncluded = false)
      (there : fsOpen (ascii (namedPage cgi params)) = some file)
      (ssiName : isSsiName (ascii (namedPage cgi params)) = true)
      (dot : fileExtension (ascii (namedPage cgi params)) = some (ascii "ajax")) :
      Always (step tcp (siteSsi answer))
        (HttpSend.Served (siteSsi answer) held
          (fileResponse file (ascii (namedPage cgi params)) (ascii "ajax") true))
        (respond tcp (siteSsi answer) (httpFindFile fsOpen (siteCgis handler) hs rest
          (ascii (namedPage cgi params)) is09).1 pcb world) events := by
    have checked : ({ hs with tagCheck := true } : HttpState).Sane := ⟨sane.buffer, sane.heading⟩
    have starts : StartsWhole (some file) is09 := .inr fun other member => by
      obtain rfl := Option.some.inj member
      exact plain
    have opened := opened_httpInitFile checked starts (some (ascii (namedPage cgi params)))
    have found := httpFindFile_page handler hs rest is09 listed there
    rw [ssiName] at found
    rw [found, ← response_httpInitFile { hs with tagCheck := true } is09 plain dot]
    exact served_always tcp (siteSsi_keeps keeps) opened pcb kept events all
  rcases List.mem_append.mp listed with tagged | sentence
  · obtain ⟨entry, member, name⟩ := List.mem_map.mp tagged
    obtain ⟨_, _, _, ssiName, dot⟩ := ajaxPages_scanned entry member
    rw [name] at ssiName dot
    refine always_mono ?_ (along entry.file rfl (name ▸ image.pages entry member) ssiName dot)
    intro outcome served complete
    rw [← name] at served
    obtain ⟨time, met, body⟩ := receives_page answer held member served complete
    have listedName : entry.name ∈ ajaxPages.map AjaxPage.name ++ sentencePages.map Prod.fst :=
      name ▸ listed
    exact ⟨hdrOk_sent held listedName served complete, .inl ⟨entry, member, name, time, met, body⟩⟩
  · obtain ⟨entry, member, name⟩ := List.mem_map.mp sentence
    obtain ⟨_, ssiName, dot⟩ := sentencePages_scanned entry member
    rw [name] at ssiName dot
    refine always_mono ?_ (along ⟨entry.2, false⟩ rfl (name ▸ image.sentences entry member) ssiName dot)
    intro outcome served complete
    rw [← name] at served
    have listedName : entry.1 ∈ ajaxPages.map AjaxPage.name ++ sentencePages.map Prod.fst :=
      name ▸ listed
    exact ⟨hdrOk_sent held listedName served complete,
      .inr ⟨entry, member, name, receives_sentence held member served complete⟩⟩

end answer

/-- The pages under their names. -/
def siteFiles : List (List Byte × FsFile) :=
  ajaxPages.map (fun page => (ascii page.name, page.file)) ++
    sentencePages.map fun entry => (ascii entry.1, ⟨entry.2, false⟩)

/-- An image with just these pages. -/
def siteImage (name : List Byte) : Option FsFile :=
  (siteFiles.find? fun entry => entry.1 = name).map Prod.snd

theorem siteImage_image : Image siteImage where
  pages := by decide
  sentences := by decide

/-- The login page of a server whose account never changes. -/
theorem login_is_answered :
    Always (step narrowTcp (siteSsi fun world _ => (ascii "username=admin;\n", world)))
      (fun outcome => (∃ ending ∈ outcome.ended, ending.Complete) →
        Receives (fun world _ => (ascii "username=admin;\n", world)) (fun _ : Unit => True) .login []
          outcome.scene.sent)
      (respond narrowTcp (siteSsi fun world _ => (ascii "username=admin;\n", world))
        (httpFindFile siteImage (siteCgis fun rest _ _ => ([], rest)) httpStateAlloc ()
          (ascii "/assets/ajax/login.ajax") false).1 60 ())
      (narrowCalls ()) :=
  handled_request_is_answered narrowTcp (fun world _ => (ascii "username=admin;\n", world))
    (fun _ => True) (fun rest _ _ => ([], rest)) siteImage_image
    (rfl : Cgi.login.pfnCgiHandler CgiSafety.sampleEnvironment [] CgiSafety.sampleState =
      .ok ("/assets/ajax/login.ajax", CgiSafety.sampleState))
    httpStateAlloc_sane () false (fun _ _ => id) 60 trivial (narrowCalls ()) fun _ _ => trivial

end UcosProxy.AjaxPages
