import UcosProxy.AjaxPages
import UcosProxy.PortLines
import UcosProxy.TableReads

/-!
# What the scripts make of the answers

A request, its page and the script that asked for it meet in the bytes that the browser has
at the end of a response. Between the request and these bytes lie any number of calls of
the stack, and other handlers may have run.

The handlers of the tags work on one state. They read the boards over the link, and write
nothing but their tables, so the outcome of a configuration and what the link answers stay
as they were. With that the scripts are followed to what they show: the verdict on a
configuration is that of its own handler, the bulbs of the panel are those of the reply,
and the lines of a port page are the ports of the tables that were read for it.

The handlers of the network data, of the update and of the board lines need what is not
part of the repository, or another task's state, and stay a parameter.
-/

namespace UcosProxy.PageScripts

open Bytes Runs TagScan TextPieces ControlRequire ControlTables PortArrays PortCgi PortFrames
  PortRecords PortLines CgiHandlers CgiAccess UriParameters BoardsPage OutcomeTexts AjaxPages
open HttpSend (Tcp FsFile httpFindFile httpStateAlloc clientBody narrowTcp narrowCalls narrowCalls_world)
open AccountLogin (responseText loginUsrpasswdSsiHandler)

/-- What the handlers of the tags work on, with the link as it answers at the time. The link
is part of it, because the tables are read while a response is on its way. -/
structure Site where
  cgi : CgiState
  link : ControlTables.Link

/-- The state behind a reader of the boards. -/
def Site.withControl (site : Site) (control : WebControl) : Site :=
  { site with cgi := { site.cgi with web := { site.cgi.web with control := control } } }

/-- What a reader of the boards leaves alone is all but the tables. The outcomes of all
pages, the account and the link lie outside the tables. -/
def SameButTables (before after : Site) : Prop := ∃ control, after = before.withControl control

/-- `panel_ssi_handler`. It is one letter for each of the sixteen bits, the lowest one
first. -/
def panelSsiHandler (codes : Codes) (link : ControlTables.Link) (crRemoteChosen : Bool)
    (control : WebControl) : WebControl × List Byte :=
  let read := webReadPanel codes link crRemoteChosen control
  if read.1 < 0 then (read.2, failStr)
  else
    (read.2, (List.range 16).map fun i =>
      if (read.2.bulbVer 0).bulb &&& (1#16 <<< i) ≠ 0 then 49 else 48)

/-- `cent_rmt_read_ssi_handler` -/
def centRmtReadSsiHandler (crRemoteChosen : Bool) : List Byte :=
  if crRemoteChosen then ascii "remote" else ascii "central"

/-- A server whose every link request is answered with these bytes. -/
def answeringSite (cgi : CgiState) (body : List Byte) : Site := ⟨cgi, fun _ => some ⟨0, body⟩⟩

/-- A parameter that answers nothing. -/
def noOthers (site : Site) (_ : SsiHandler) : List Byte × Site := ([], site)

theorem noOthers_kept (site : Site) (handler : SsiHandler) :
    SameButTables site (noOthers site handler).2 := ⟨site.cgi.web.control, rfl⟩

section site
variable (codes : Codes) (others : Site → SsiHandler → List Byte × Site)

/-- The handler of a tag. -/
def siteAnswer (site : Site) (handler : SsiHandler) : List Byte × Site :=
  let web := site.cgi.web
  let table (read : WebControl × List Byte) : List Byte × Site :=
    (text read.2, site.withControl read.1)
  match handler with
  | .loginUsrpasswd => (loginUsrpasswdSsiHandler site.cgi.account, site)
  | .panel => table (panelSsiHandler codes site.link web.crRemoteChosen web.control)
  | .centRmtRead => (centRmtReadSsiHandler web.crRemoteChosen, site)
  | .accountStatus => (accountStatusSsiHandler site.cgi, site)
  | .netConfigStatus => (netConfigStatusSsiHandler site.cgi, site)
  | .optReadData => table (optReadDataSsiHandler codes site.link web.crRemoteChosen web.control tagInsert)
  | .optConfigStatus => (optConfigStatusSsiHandler site.cgi, site)
  | .ethReadData => table (ethReadDataSsiHandler codes site.link web.crRemoteChosen web.control tagInsert)
  | .ethConfigStatus => (ethConfigStatusSsiHandler site.cgi, site)
  | .e1ReadData => table (e1ReadDataSsiHandler codes site.link web.crRemoteChosen web.control tagInsert)
  | .e1ConfigStatus => (e1ConfigStatusSsiHandler site.cgi, site)
  | .netReadData | .updateStatus | .boardLine _ => others site handler

/-- A handler of a tag writes no more than the tables, as long as the parameter does not. -/
theorem siteAnswer_kept (keeps : ∀ site handler, SameButTables site (others site handler).2)
    (site : Site) (handler : SsiHandler) :
    SameButTables site (siteAnswer codes others site handler).2 := by
  cases handler with
  | netReadData => exact keeps site _
  | updateStatus => exact keeps site _
  | boardLine => exact keeps site _
  | panel => exact ⟨_, rfl⟩
  | optReadData => exact ⟨_, rfl⟩
  | ethReadData => exact ⟨_, rfl⟩
  | e1ReadData => exact ⟨_, rfl⟩
  | _ => exact ⟨site.cgi.web.control, rfl⟩

/-! ## The verdict on a configuration -/

/-- What a script tells its user. An account has a message of its own for a wrong password,
and all else is done or failed. -/
inductive Verdict where
  | configured
  | wrongAccount
  | failed
deriving DecidableEq

/-- The callback of `$.post` in `account.js`, and those in `main.js` and `net.js`. -/
def verdict : Config → List Char → Verdict
  | .account, data =>
    if matchWord data "success".toList then .configured
    else if matchWord data "incorrect".toList then .wrongAccount
    else .failed
  | _, data => if matchWord data "success".toList then .configured else .failed

/-- The outcome that a page's variable holds. -/
def outcomeOf (state : CgiState) : Config → Verdict
  | .opt => if state.web.optConfigState < 0 then .failed else .configured
  | .eth => if state.web.ethConfigState < 0 then .failed else .configured
  | .e1 => if state.web.e1ConfigState < 0 then .failed else .configured
  | .net => if state.net.netConfigStatus = 0 then .configured else .failed
  | .account =>
    if state.accountStatus = 1 then .failed
    else if state.accountStatus = 2 then .wrongAccount
    else .configured

/-- The page with the status tag of a configuration. -/
def configPage : Config → String
  | .opt => "/assets/ajax/opt_write.ajax"
  | .eth => "/assets/ajax/eth_write.ajax"
  | .e1 => "/assets/ajax/e1_write.ajax"
  | .net => "/assets/ajax/net_write.ajax"
  | .account => "/assets/ajax/account.ajax"

/-- A configuration is answered with its own page. -/
theorem namedPage_config {cgi : Cgi} {params : List Param} {config : Config}
    (configures : configOf cgi params = some config) : namedPage cgi params = configPage config := by
  cases cgi with
  | opt | eth | e1 | net =>
    simp only [configOf] at configures
    split at configures
    · cases configures
    · rename_i long
      obtain rfl := Option.some.inj configures
      simp only [namedPage, if_neg long, configPage]
  | account =>
    obtain rfl := Option.some.inj configures
    rfl
  | _ => cases configures

/-- No other page has its name. -/
theorem configPage_only (config : Config) :
    configPage config ∉ sentencePages.map Prod.fst ∧
      ∀ page ∈ ajaxPages, page.name = configPage config → page.handler = config.handler := by
  cases config <;> decide

/-- The word that a variable's text is. -/
def Verdict.word : Verdict → List Byte
  | .configured => successStr
  | .wrongAccount => incorrectStr
  | .failed => failStr

theorem text_eq_word (state : CgiState) (config : Config) :
    config.text state = (outcomeOf state config).word := by
  cases config with
  | account =>
    simp only [Config.text, accountStatusSsiHandler, outcomeOf]
    split
    · rfl
    · split <;> rfl
  | opt => simp only [Config.text, optConfigStatusSsiHandler, outcomeOf]; split <;> rfl
  | eth => simp only [Config.text, ethConfigStatusSsiHandler, outcomeOf]; split <;> rfl
  | e1 => simp only [Config.text, e1ConfigStatusSsiHandler, outcomeOf]; split <;> rfl
  | net => simp only [Config.text, netConfigStatusSsiHandler, outcomeOf]; split <;> rfl

/-- Only an account can be wrong. -/
theorem outcomeOf_other {config : Config} (other : config ≠ .account) (state : CgiState) :
    outcomeOf state config = .configured ∨ outcomeOf state config = .failed := by
  cases config with
  | account => exact absurd rfl other
  | _ =>
    simp only [outcomeOf]
    split <;> simp

/-- The words are told apart on every page. -/
theorem words_on_pages :
    ∀ page ∈ ajaxPages,
      (matchWord (responseText (page.data successStr)) "success".toList = true) ∧
      (matchWord (responseText (page.data incorrectStr)) "success".toList = false) ∧
      (matchWord (responseText (page.data incorrectStr)) "incorrect".toList = true) ∧
      (matchWord (responseText (page.data failStr)) "success".toList = false) ∧
      (matchWord (responseText (page.data failStr)) "incorrect".toList = false) := by
  decide

/-- The verdict on a page with a text of the variable. -/
theorem verdict_page {page : AjaxPage} (member : page ∈ ajaxPages) (state : CgiState)
    (config : Config) :
    verdict config (responseText (page.data (config.text state))) = outcomeOf state config := by
  obtain ⟨success, wrong, incorrect, failed, right⟩ := words_on_pages page member
  rw [text_eq_word]
  by_cases account : config = .account
  · subst account
    cases outcomeOf state .account with
    | configured => simp only [verdict, Verdict.word, success, if_true]
    | wrongAccount =>
      simp only [verdict, Verdict.word, wrong, incorrect, if_true, Bool.false_eq_true, if_false]
    | failed => simp only [verdict, Verdict.word, failed, right, Bool.false_eq_true, if_false]
  · rcases outcomeOf_other account state with told | told
    · rw [told]
      cases config <;> first | exact absurd rfl account | simp only [verdict, Verdict.word, success, if_true]
    · rw [told]
      cases config <;>
        first | exact absurd rfl account | simp only [verdict, Verdict.word, failed, Bool.false_eq_true, if_false]

/-- The outcome of a page lies outside the tables. -/
theorem text_sameButTables {before after : Site} (same : SameButTables before after)
    (config : Config) : config.text after.cgi = config.text before.cgi := by
  obtain ⟨control, rfl⟩ := same
  cases config <;> rfl

/-- A status tag is filled in with the text of its page. -/
theorem siteAnswer_config (site : Site) (config : Config) :
    siteAnswer codes others site config.handler = (config.text site.cgi, site) := by
  cases config <;> rfl

section runs
variable {Pcb Rest : Type} (tcp : Tcp Pcb) (handler : Rest → Nat → List Param → List Byte × Rest)
  {fsOpen : List Byte → Option FsFile}

/-- A request that configures a page, in every run in which no other handler leaves another
outcome for that page: once the response has come to its end, the script tells the outcome
that the request's own handler left. The page and its script are followed from the handler
to the branch of the callback. Handlers of other pages may run at any time. -/
theorem script_tells_own_outcome (image : Image fsOpen) {cgi : Cgi} {env : Environment}
    {params : List Param} {state after : CgiState} {page : String}
    (handled : cgi.pfnCgiHandler env params state = .ok (page, after)) {config : Config}
    (configures : configOf cgi params = some config) {hs : HttpSend.HttpState} (sane : hs.Sane)
    (rest : Rest) (is09 : Bool)
    (keeps : ∀ site handler, SameButTables site (others site handler).2) (pcb : Pcb) {site : Site}
    (kept : config.text site.cgi = config.text after) (events : List (HttpSend.Event Pcb Site))
    (all : ∀ event ∈ events, config.text event.world.cgi = config.text after) :
    Always (HttpSend.step tcp (siteSsi (siteAnswer codes others)))
      (fun outcome => (∃ ending ∈ outcome.ended, ending.Complete) →
        HttpSend.hdrOk <+: outcome.scene.sent ∧ ∃ body, clientBody outcome.scene.sent = some body ∧
          verdict config (responseText body) = outcomeOf after config)
      (HttpSend.respond tcp (siteSsi (siteAnswer codes others))
        (httpFindFile fsOpen (siteCgis handler) hs rest (ascii page) is09).1 pcb site) events := by
  have along := handled_request_is_answered tcp (siteAnswer codes others)
    (fun site => config.text site.cgi = config.text after) handler image handled sane rest is09
    (fun site tag held => (text_sameButTables (siteAnswer_kept codes others keeps site tag) config).trans held)
    pcb kept events all
  refine always_mono ?_ along
  intro outcome received complete
  obtain ⟨status, ⟨answered, member, name, time, held, body⟩ | ⟨entry, member, name, _⟩⟩ :=
    received complete
  · have own := (configPage_only config).2 answered member (name.trans (namedPage_config configures))
    rw [own, siteAnswer_config, held] at body
    exact ⟨status, _, body, verdict_page member after config⟩
  · rw [namedPage_config configures] at name
    exact absurd (List.mem_map.mpr ⟨entry, member, name⟩) (configPage_only config).1

/-- The site behind an account request without parameters. -/
def refusedSite : Site := answeringSite { CgiSafety.sampleState with accountStatus := 1 } []

theorem refused_account_is_told :
    Always (HttpSend.step narrowTcp (siteSsi (siteAnswer sampleCodes noOthers)))
      (fun outcome => (∃ ending ∈ outcome.ended, ending.Complete) →
        HttpSend.hdrOk <+: outcome.scene.sent ∧ ∃ body, clientBody outcome.scene.sent = some body ∧
          verdict .account (responseText body) = outcomeOf refusedSite.cgi .account)
      (HttpSend.respond narrowTcp (siteSsi (siteAnswer sampleCodes noOthers))
        (httpFindFile siteImage (siteCgis fun rest _ _ => ([], rest)) httpStateAlloc ()
          (ascii "/assets/ajax/account.ajax") false).1 60 refusedSite)
      (narrowCalls refusedSite) :=
  script_tells_own_outcome sampleCodes noOthers narrowTcp (fun rest _ _ => ([], rest)) siteImage_image
    (rfl : Cgi.account.pfnCgiHandler CgiSafety.sampleEnvironment [] CgiSafety.sampleState =
      .ok ("/assets/ajax/account.ajax", refusedSite.cgi))
    rfl HttpSend.httpStateAlloc_sane () false noOthers_kept 60 rfl (narrowCalls refusedSite)
    (fun event member => narrowCalls_world refusedSite event member ▸ rfl)

end runs

/-! ## The bulbs of the panel -/

/-- `draw_all_led`: the bulbs that are lit. -/
def drawAllLed (ledStr : List Char) (led : Fin 16) : Bool := ledStr[led.val]? = some '1'

/-- The callback of `draw_led` -/
def drawLed (data : List Char) : Fin 16 → Bool :=
  if matchWord data "fail".toList then drawAllLed (List.replicate 56 '0')
  else drawAllLed (slice data (indexOf data "-->".toList + 3) data.length)

/-- The bulbs of the device, when it and its first board answer. -/
def heardBulbs (link : ControlTables.Link) (crRemoteChosen : Bool) : Option (BitVec 16) :=
  (link (deviceIdArg codes crRemoteChosen)).bind fun device =>
    (link (getArg codes (word16 device.body 0) 0 codes.bulbVer)).map fun reply => word16 reply.body 0

/-- A digit for every bulb. -/
def bulbDigits (bulb : BitVec 16) : List Byte :=
  (List.range 16).map fun i => if bulb.getLsbD i then 49 else 48

/-- The mask of a bulb tells its bit. -/
theorem mask_bulb (bulb : BitVec 16) {i : Nat} (inside : i < 16) :
    bulb &&& (1#16 <<< i) ≠ 0 ↔ bulb.getLsbD i = true := by
  rw [← BitVec.twoPow_eq, BitVec.and_twoPow]
  split
  · rename_i lit
    simp only [lit, iff_true]
    intro zero
    have selected := congrArg (fun bits => bits.getLsbD i) zero
    simp [inside] at selected
  · rename_i dark
    simp [dark]

/-- The text of the panel's tag. -/
theorem panelSsiHandler_text (link : ControlTables.Link) (crRemoteChosen : Bool)
    (control : WebControl) :
    (panelSsiHandler codes link crRemoteChosen control).2 =
      match heardBulbs codes link crRemoteChosen with
      | none => failStr
      | some bulb => bulbDigits bulb := by
  have digits (bulb : BitVec 16) :
      ((List.range 16).map fun i => if bulb &&& (1#16 <<< i) ≠ 0 then (49 : Byte) else 48) =
        bulbDigits bulb := by
    apply List.map_congr_left
    intro i member
    simp only [mask_bulb bulb (List.mem_range.mp member)]
  unfold panelSsiHandler webReadPanel webReadDeviceId heardBulbs webReadBulbVerOneBoard
  cases link (deviceIdArg codes crRemoteChosen) with
  | none => rfl
  | some device =>
    have first : BitVec.ofNat 8 (0 : Board).val = 0 := rfl
    simp only [Option.bind_some, first]
    cases link (getArg codes (word16 device.body 0) 0 codes.bulbVer) with
    | none => rfl
    | some reply =>
      simp only [Option.map_some]
      exact digits (word16 reply.body 0)

/-- `assets/ajax/panel.ajax` -/
def panelPage : AjaxPage := ⟨"/assets/ajax/panel.ajax", "panel_bulb", .panel⟩

theorem panelPage_only :
    (∀ page ∈ ajaxPages, page.name = panelPage.name → page = panelPage) ∧
      panelPage.name ∉ sentencePages.map Prod.fst := by
  decide

/-- A panel page whose tag failed is dark. -/
theorem drawLed_fail : ∀ led, drawLed (responseText (panelPage.data failStr)) led = false := by
  decide

/-- The digits are read back as the bulbs. -/
theorem drawLed_digits (bulb : BitVec 16) (led : Fin 16) :
    drawLed (responseText (panelPage.data (bulbDigits bulb))) led = bulb.getLsbD led := by
  have split : responseText (panelPage.data (bulbDigits bulb)) =
      responseText (panelPage.front ++ [62]) ++ (responseText (bulbDigits bulb) ++ ['\n']) := by
    simp [AjaxPage.data, responseText]
  have quiet : 'f' ∉ responseText (panelPage.front ++ [62]) ++
      (responseText (bulbDigits bulb) ++ ['\n']) := by
    have digits : 'f' ∉ responseText (bulbDigits bulb) := by
      intro member
      obtain ⟨digit, inside, letter⟩ := List.mem_map.mp member
      obtain ⟨i, _, rfl⟩ := List.mem_map.mp inside
      split at letter <;> exact absurd letter (by decide)
    simp only [List.mem_append, not_or]
    exact ⟨by decide, digits, by decide⟩
  have found : place "-->".toList (responseText (panelPage.front ++ [62])) = some 16 := by decide
  have start : indexOf (responseText (panelPage.front ++ [62]) ++
      (responseText (bulbDigits bulb) ++ ['\n'])) "-->".toList + 3 =
        (responseText (panelPage.front ++ [62])).length := by
    rw [indexOf_head _ found]
    decide
  have cut := slice_between (responseText (panelPage.front ++ [62]))
    (responseText (bulbDigits bulb) ++ ['\n']) [] _
    ((responseText (panelPage.front ++ [62]) ++ (responseText (bulbDigits bulb) ++ ['\n'])).length)
    start (by rw [List.length_append, Nat.cast_add])
  rw [List.append_nil] at cut
  rw [split, drawLed, matchWord, place_eq_none (by decide : 'f' ∈ "fail".toList) quiet,
    Option.isSome_none, if_neg Bool.false_ne_true, cut]
  have digit : (responseText (bulbDigits bulb) ++ ['\n'])[led.val]? =
      some (if bulb.getLsbD led then '1' else '0') := by
    rw [List.getElem?_append_left (by simp [responseText, bulbDigits])]
    simp only [responseText, bulbDigits, List.getElem?_map, List.getElem?_range led.isLt,
      Option.map_some]
    split <;> rfl
  rw [drawAllLed, digit]
  cases bulb.getLsbD led <;> decide

/-- No digit is a NUL. -/
theorem text_bulbDigits (bulb : BitVec 16) : text (bulbDigits bulb) = bulbDigits bulb := by
  rw [text, List.takeWhile_eq_self_iff]
  intro digit member
  obtain ⟨i, _, rfl⟩ := List.mem_map.mp member
  split <;> decide

/-- The panel page is filled in with the bulbs that are heard. -/
theorem drawLed_answer (site : Site) {bulbs : Option (BitVec 16)}
    (heard : heardBulbs codes site.link site.cgi.web.crRemoteChosen = bulbs) (led : Fin 16) :
    drawLed (responseText (panelPage.data (siteAnswer codes others site .panel).1)) led =
      (bulbs.getD 0).getLsbD led := by
  simp only [siteAnswer, panelSsiHandler_text, heard]
  cases bulbs with
  | none =>
    have fail : text failStr = failStr := by decide
    rw [fail, drawLed_fail led]
    exact (BitVec.getLsbD_zero).symm
  | some bulb =>
    rw [text_bulbDigits, drawLed_digits]
    rfl

/-- What the link answers lies outside the tables. -/
theorem heardBulbs_sameButTables {before after : Site} (same : SameButTables before after) :
    heardBulbs codes after.link after.cgi.web.crRemoteChosen =
      heardBulbs codes before.link before.cgi.web.crRemoteChosen := by
  obtain ⟨control, rfl⟩ := same
  rfl

section runs
variable {Pcb Rest : Type} (tcp : Tcp Pcb) (handler : Rest → Nat → List Param → List Byte × Rest)
  {fsOpen : List Byte → Option FsFile}

/-- A look at the panel, in every run in which the device answers alike: once the response
has come to its end, the bulbs that the script lights are those of the device, and none if
it does not answer. What the tables hold does not matter. That the device answers alike is
asked of the state at each call, since the tag is filled in during one of them. -/
theorem panel_shows_bulbs (image : Image fsOpen) {env : Environment} {params : List Param}
    {state after : CgiState} {page : String}
    (handled : Cgi.panel.pfnCgiHandler env params state = .ok (page, after))
    {hs : HttpSend.HttpState} (sane : hs.Sane) (rest : Rest) (is09 : Bool)
    (keeps : ∀ site handler, SameButTables site (others site handler).2) (pcb : Pcb) {site : Site}
    {bulbs : Option (BitVec 16)}
    (heard : heardBulbs codes site.link site.cgi.web.crRemoteChosen = bulbs)
    (events : List (HttpSend.Event Pcb Site))
    (all : ∀ event ∈ events,
      heardBulbs codes event.world.link event.world.cgi.web.crRemoteChosen = bulbs) :
    Always (HttpSend.step tcp (siteSsi (siteAnswer codes others)))
      (fun outcome => (∃ ending ∈ outcome.ended, ending.Complete) →
        HttpSend.hdrOk <+: outcome.scene.sent ∧ ∃ body, clientBody outcome.scene.sent = some body ∧
          ∀ led, drawLed (responseText body) led = (bulbs.getD 0).getLsbD led)
      (HttpSend.respond tcp (siteSsi (siteAnswer codes others))
        (httpFindFile fsOpen (siteCgis handler) hs rest (ascii page) is09).1 pcb site) events := by
  have along := handled_request_is_answered tcp (siteAnswer codes others)
    (fun site => heardBulbs codes site.link site.cgi.web.crRemoteChosen = bulbs) handler image handled
    sane rest is09
    (fun site tag held =>
      (heardBulbs_sameButTables codes (siteAnswer_kept codes others keeps site tag)).trans held)
    pcb heard events all
  refine always_mono ?_ along
  intro outcome received complete
  obtain ⟨status, ⟨answered, member, name, time, held, body⟩ | ⟨entry, member, name, _⟩⟩ :=
    received complete
  · obtain rfl := panelPage_only.1 answered member name
    exact ⟨status, _, body, drawLed_answer codes others time held⟩
  · exact absurd (List.mem_map.mpr ⟨entry, member, name⟩) panelPage_only.2

/-- A device with its first and third bulb lit. -/
def bulbSite : Site := answeringSite CgiSafety.sampleState [5]

theorem two_bulbs_are_shown :
    Always (HttpSend.step narrowTcp (siteSsi (siteAnswer sampleCodes noOthers)))
      (fun outcome => (∃ ending ∈ outcome.ended, ending.Complete) →
        HttpSend.hdrOk <+: outcome.scene.sent ∧ ∃ body, clientBody outcome.scene.sent = some body ∧
          ∀ led, drawLed (responseText body) led = ((some (5 : BitVec 16)).getD 0).getLsbD led)
      (HttpSend.respond narrowTcp (siteSsi (siteAnswer sampleCodes noOthers))
        (httpFindFile siteImage (siteCgis fun rest _ _ => ([], rest)) httpStateAlloc ()
          (ascii "/assets/ajax/panel.ajax") false).1 60 bulbSite)
      (narrowCalls bulbSite) :=
  panel_shows_bulbs sampleCodes noOthers narrowTcp (fun rest _ _ => ([], rest)) siteImage_image
    (rfl : Cgi.panel.pfnCgiHandler CgiSafety.sampleEnvironment [] CgiSafety.sampleState =
      .ok ("/assets/ajax/panel.ajax", CgiSafety.sampleState))
    HttpSend.httpStateAlloc_sane () false noOthers_kept 60 (by decide) (narrowCalls bulbSite)
    (fun event member => narrowCalls_world bulbSite event member ▸ by decide)

end runs

/-! ## The lines of the port pages -/

/-- The handler behind a page of ports. -/
def pageCgi : PortPage → Cgi
  | .opt => .opt
  | .eth => .eth
  | .e1 => .e1

/-- `opt_read.ajax`, `eth_read.ajax` and `e1_read.ajax` -/
def readPageOf : PortPage → AjaxPage
  | .opt => ⟨"/assets/ajax/opt_read.ajax", "opt_read_data", .optReadData⟩
  | .eth => ⟨"/assets/ajax/eth_read.ajax", "eth_read_data", .ethReadData⟩
  | .e1 => ⟨"/assets/ajax/e1_read.ajax", "e1_read_data", .e1ReadData⟩

theorem readPageOf_only (page : PortPage) :
    (∀ other ∈ ajaxPages, other.name = (readPageOf page).name → other = readPageOf page) ∧
      (readPageOf page).name ∉ sentencePages.map Prod.fst := by
  cases page <;> decide

/-- The link answers the same, for the same side. What the tables hold is left open. -/
structure Steady (link : ControlTables.Link) (crRemoteChosen : Bool) (site : Site) : Prop where
  link : site.link = link
  side : site.cgi.web.crRemoteChosen = crRemoteChosen

/-- What a page of ports shows when a link answers: nothing when the device or its list of
boards is not heard, else the lines of tables that are filled from that link. The tables are
named by what they hold, and not by how they came about, so what they held before does not
enter. -/
def ShowsPorts (link : ControlTables.Link) (crRemoteChosen : Bool) (page : PortPage)
    (shown : Option (List Line)) : Prop :=
  TableReads.Unheard codes link crRemoteChosen ∧ shown = none ∨
    ∃ tables : WebControl,
      heardBoards codes link crRemoteChosen = some (tables.devId, tables.boardsExist) ∧
      TableReads.Filled codes link tables (pageReader page) ∧ shown = some (pageLines tables page)

/-- No table that a read fills has more ports than its types, whatever it held before. -/
theorem filled_fits {link : ControlTables.Link} {tables : WebControl} {page : PortPage}
    (filled : TableReads.Filled codes link tables (pageReader page)) : PageFits tables page := by
  have fixed {kind : PortKind} {board : Board}
      (read : TableReads.PortsRead codes link tables kind board) :
      amount tables kind board ≤ maxAmount kind :=
    read.fixed.elim (fun none => none ▸ Nat.zero_le _) fun all => all.le
  cases page with
  | opt => exact fun board => fixed (filled board)
  | eth => exact ⟨fun board => fixed (filled board).1, fun board => fixed (filled board).2⟩
  | e1 => exact fun board => fixed (filled board)

/-- The text of a failure. -/
theorem text_fail : text (overwrite tagInsert 0 (failStr ++ [0])) = failStr := by
  have zeros : tagInsert = List.replicate 5 0 ++ List.replicate 507 0 := by
    rw [tagInsert, ← List.replicate_add]
  rw [zeros]
  rfl

/-- The page of a read carries what its tag's handler printed. -/
theorem data_readPage (site : Site) (page : PortPage) :
    (readPageOf page).data (siteAnswer codes others site (readPageOf page).handler).1 =
      readBody codes site.link site.cgi.web.crRemoteChosen page site.cgi.web.control := by
  rw [readBody_eq]
  cases page with
  | opt =>
    have known : findSsi (pageTag .opt) = some .optReadData := by decide
    rw [readInsert, known]
    rfl
  | eth =>
    have known : findSsi (pageTag .eth) = some .ethReadData := by decide
    rw [readInsert, known]
    rfl
  | e1 =>
    have known : findSsi (pageTag .e1) = some .e1ReadData := by decide
    rw [readInsert, known]
    rfl

/-- A read that fails prints the word for it. -/
theorem readBody_fail (link : ControlTables.Link) (crRemoteChosen : Bool) (page : PortPage)
    (control : WebControl) (failed : (readPage codes link crRemoteChosen page control).1 < 0) :
    readBody codes link crRemoteChosen page control = pageHead page ++ failStr ++ [10] := by
  rw [readBody_eq]
  have printed (read : WebControl → Int × WebControl) (texts : WebControl → List (List Byte))
      (fails : (read control).1 < 0) :
      text (readDataSsiHandler read texts control tagInsert).2 = failStr := by
    simp only [readDataSsiHandler, if_pos fails, text_fail]
  congr 2
  cases page with
  | opt =>
    have known : findSsi (pageTag .opt) = some .optReadData := by decide
    rw [readInsert, known]
    exact printed _ _ failed
  | eth =>
    have known : findSsi (pageTag .eth) = some .ethReadData := by decide
    rw [readInsert, known]
    exact printed _ _ failed
  | e1 =>
    have known : findSsi (pageTag .e1) = some .e1ReadData := by decide
    rw [readInsert, known]
    exact printed _ _ failed

theorem pageReadData_fail (page : PortPage) :
    pageReadData page (responseText (pageHead page ++ failStr ++ [10])) = none := by
  have word : matchWord (responseText (pageHead page ++ failStr ++ [10])) "fail".toList = true := by
    cases page <;> decide
  cases page <;>
    simp only [pageReadData, optReadData, e1ReadData, ethReadData, readLines, word, if_true]

/-- The script shows the ports that the link answers for. -/
theorem showsPorts_answer {link : ControlTables.Link} {crRemoteChosen : Bool} {site : Site}
    (steady : Steady link crRemoteChosen site) (page : PortPage) :
    ShowsPorts codes link crRemoteChosen page
      (pageReadData page (responseText ((readPageOf page).data
        (siteAnswer codes others site (readPageOf page).handler).1))) := by
  rw [data_readPage, steady.link, steady.side]
  have law := @TableReads.read_law codes link crRemoteChosen (pageReader page)
    (by cases page <;> decide) site.cgi.web.control
  rw [← readPage] at law
  by_cases failed : (readPage codes link crRemoteChosen page site.cgi.web.control).1 = -1
  · rw [readBody_fail codes link crRemoteChosen page _ (by omega), pageReadData_fail]
    exact .inl ⟨law.fails.mp failed, rfl⟩
  · have success := law.succeeds failed
    have filled := law.filled success
    refine .inr ⟨(readPage codes link crRemoteChosen page site.cgi.web.control).2,
      law.heard success, filled, ?_⟩
    exact pageReadData_eq codes link crRemoteChosen page _ (by omega) (filled_fits codes filled)

/-- Every handler leaves the link and the side alone, as long as the parameter does. -/
theorem siteAnswer_steady {link : ControlTables.Link} {crRemoteChosen : Bool}
    (keeps : ∀ site handler, Steady link crRemoteChosen site →
      Steady link crRemoteChosen (others site handler).2)
    (site : Site) (handler : SsiHandler) (steady : Steady link crRemoteChosen site) :
    Steady link crRemoteChosen (siteAnswer codes others site handler).2 := by
  cases handler with
  | netReadData => exact keeps site _ steady
  | updateStatus => exact keeps site _ steady
  | boardLine => exact keeps site _ steady
  | _ => exact ⟨steady.link, steady.side⟩

section runs
variable {Pcb Rest : Type} (tcp : Tcp Pcb) (handler : Rest → Nat → List Param → List Byte × Rest)
  {fsOpen : List Byte → Option FsFile}

/-- A read of a page of ports, in every run in which the link stays the same: once the
response has come to its end, the script shows the ports of the boards that answer on that
link, whatever the tables held before. The link is asked to stay the same because the tag is
filled in at some call of the response, which the client does not choose. -/
theorem page_shows_ports (image : Image fsOpen) {page : PortPage} {env : Environment}
    {params : List Param} (read : params.length < 2) {state after : CgiState} {name : String}
    (handled : (pageCgi page).pfnCgiHandler env params state = .ok (name, after))
    {hs : HttpSend.HttpState} (sane : hs.Sane) (rest : Rest) (is09 : Bool)
    {link : ControlTables.Link} {crRemoteChosen : Bool}
    (keeps : ∀ site handler, Steady link crRemoteChosen site →
      Steady link crRemoteChosen (others site handler).2)
    (pcb : Pcb) {site : Site} (steady : Steady link crRemoteChosen site)
    (events : List (HttpSend.Event Pcb Site))
    (all : ∀ event ∈ events, Steady link crRemoteChosen event.world) :
    Always (HttpSend.step tcp (siteSsi (siteAnswer codes others)))
      (fun outcome => (∃ ending ∈ outcome.ended, ending.Complete) →
        HttpSend.hdrOk <+: outcome.scene.sent ∧ ∃ body, clientBody outcome.scene.sent = some body ∧
          ShowsPorts codes link crRemoteChosen page (pageReadData page (responseText body)))
      (HttpSend.respond tcp (siteSsi (siteAnswer codes others))
        (httpFindFile fsOpen (siteCgis handler) hs rest (ascii name) is09).1 pcb site) events := by
  have along := handled_request_is_answered tcp (siteAnswer codes others)
    (Steady link crRemoteChosen) handler image handled sane rest is09
    (siteAnswer_steady codes others keeps) pcb steady events all
  have named : namedPage (pageCgi page) params = (readPageOf page).name := by
    cases page <;> simp only [pageCgi, namedPage, if_pos read, readPageOf]
  refine always_mono ?_ along
  intro outcome received complete
  obtain ⟨status, ⟨answered, member, other, time, held, body⟩ | ⟨entry, member, other, _⟩⟩ :=
    received complete
  · obtain rfl := (readPageOf_only page).1 answered member (other.trans named)
    exact ⟨status, _, body, showsPorts_answer codes others held page⟩
  · rw [named] at other
    exact absurd (List.mem_map.mpr ⟨entry, member, other⟩) (readPageOf_only page).2

end runs

end site

/-- A device with one board that has Ethernet ports of both kinds. -/
def portSite : Site := answeringSite CgiSafety.sampleState [1, 0, 0x32, 0x01, 0x06, 0x80]

/-- The script shows its two gigabit and six other ports, over a connection on which the
response goes out in pieces. -/
theorem sample_ports_are_shown :
    Always (HttpSend.step narrowTcp (siteSsi (siteAnswer sampleCodes noOthers)))
      (fun outcome => (∃ ending ∈ outcome.ended, ending.Complete) →
        HttpSend.hdrOk <+: outcome.scene.sent ∧ ∃ body, clientBody outcome.scene.sent = some body ∧
          ShowsPorts sampleCodes portSite.link false .eth (pageReadData .eth (responseText body)))
      (HttpSend.respond narrowTcp (siteSsi (siteAnswer sampleCodes noOthers))
        (httpFindFile siteImage (siteCgis fun rest _ _ => ([], rest)) httpStateAlloc ()
          (ascii "/assets/ajax/eth_read.ajax") false).1 60 portSite)
      (narrowCalls portSite) :=
  page_shows_ports sampleCodes noOthers narrowTcp (fun rest _ _ => ([], rest)) siteImage_image
    (by decide : ([] : List Param).length < 2)
    (rfl : (pageCgi .eth).pfnCgiHandler CgiSafety.sampleEnvironment [] CgiSafety.sampleState =
      .ok ("/assets/ajax/eth_read.ajax", CgiSafety.sampleState))
    HttpSend.httpStateAlloc_sane () false (fun _ _ steady => steady) 60 ⟨rfl, rfl⟩
    (narrowCalls portSite)
    (fun event member => narrowCalls_world portSite event member ▸ ⟨rfl, rfl⟩)

end UcosProxy.PageScripts
