import UcosProxy.HttpProgress
import UcosProxy.UriParameters

/-!
# The file of a response

`http_find_file` turns a URI into a response: the root into the first of five default
files, the name of a CGI into the file that its handler names, and a file that cannot be
opened into an error page or, when there is none either, a built-in text. `http_init_file`
sets the connection up for the file and `get_http_headers` chooses its three header
strings by the name: the status by a number in it, the type by what follows its last
dot. A name without a dot is sent without headers.

`fs_open` is a parameter here, since it depends on the image and on a free slot. So are
the CGI handlers, which work on a world of their own.
-/

namespace UcosProxy.HttpSend

open Bytes TagScan Runs UriParameters

/-! ## Header strings -/

/-- `HTTP_HDR_OK` -/
def hdrOk : List Byte := ascii "HTTP/1.0 200 OK\r\n"

/-- `HTTP_HDR_NOT_FOUND` -/
def hdrNotFound : List Byte := ascii "HTTP/1.0 404 File not found\r\n"

/-- `HTTP_HDR_BAD_REQUEST` -/
def hdrBadRequest : List Byte := ascii "HTTP/1.0 400 Bad Request\r\n"

/-- `HTTP_HDR_NOT_IMPL` -/
def hdrNotImpl : List Byte := ascii "HTTP/1.0 501 Not Implemented\r\n"

/-- `HTTP_HDR_SERVER` -/
def hdrServer : List Byte :=
  ascii "Server: lwIP/1.3.1 (http://savannah.nongnu.org/projects/lwip)\r\n"

/-- `DEFAULT_404_HTML` -/
def default404Html : List Byte :=
  ascii "\r\n<html><body><h2>404: The requested file cannot be found.</h2></body></html>\r\n"

/-- A string with a content type alone. -/
def hdrType (type : String) : List Byte := ascii "Content-type: " ++ ascii type ++ ascii "\r\n\r\n"

/-- `HTTP_HDR_SSI` -/
def hdrSsi : List Byte :=
  ascii "Content-type: text/html\r\nExpires: Fri, 10 Apr 2008 14:00:00 GMT\r\nPragma: no-cache\r\n\r\n"

/-- `HTTP_HDR_DEFAULT_TYPE` -/
def hdrDefaultType : List Byte := hdrType "text/plain"

/-- `g_psHTTPHeaders`, with the string in the place of its index. -/
def httpHeaders : List (List Byte × List Byte) :=
  [(ascii "html", hdrType "text/html"),
    (ascii "htm", hdrType "text/html"),
    (ascii "shtml", hdrSsi),
    (ascii "shtm", hdrSsi),
    (ascii "ssi", hdrSsi),
    (ascii "gif", hdrType "image/gif"),
    (ascii "png", hdrType "image/png"),
    (ascii "jpg", hdrType "image/jpeg"),
    (ascii "bmp", hdrType "image/bmp"),
    (ascii "ico", hdrType "image/x-icon"),
    (ascii "class", hdrType "application/octet-stream"),
    (ascii "cls", hdrType "application/octet-stream"),
    (ascii "js", hdrType "application/x-javascript"),
    (ascii "ram", hdrType "application/x-javascript"),
    (ascii "css", hdrType "text/css"),
    (ascii "swf", hdrType "application/x-shockwave-flash"),
    (ascii "xml", hdrType "text/xml"),
    (ascii "svg", hdrType "image/svg+xml")]

/-- The status by the number in a name. -/
def statusLine (uri : List Byte) : List Byte :=
  if ascii "404" <:+: uri then hdrNotFound
  else if ascii "400" <:+: uri then hdrBadRequest
  else if ascii "501" <:+: uri then hdrNotImpl
  else hdrOk

/-- What follows the last dot. -/
def lastExtension : List Byte → Option (List Byte)
  | [] => none
  | byte :: rest =>
    if byte = 46 then some ((lastExtension rest).getD rest) else lastExtension rest

/-- The extension of a name, without the variables behind it. -/
def fileExtension (uri : List Byte) : Option (List Byte) :=
  lastExtension (uri.takeWhile (· ≠ 63))

/-- The type of an extension. -/
def typeLine (extension : List Byte) : List Byte :=
  ((httpHeaders.find? fun entry => entry.1 = extension).map Prod.snd).getD hdrDefaultType

/-- `get_http_headers`; no name stands for the built-in error page. A name without an
extension is sent without headers: the index stands behind them from the start. -/
def getHttpHeaders (hs : HttpState) (uri : Option (List Byte)) : HttpState :=
  match uri with
  | none => { hs with hdrs := [hdrNotFound, hdrServer, default404Html], hdrIndex := 0, hdrPos := 0 }
  | some name =>
    match fileExtension name with
    | none => { hs with
        hdrs := [statusLine name, hdrServer, hs.hdrs.getD 2 []]
        hdrIndex := numFileHdrStrings }
    | some extension => { hs with
        hdrs := [statusLine name, hdrServer, typeLine extension], hdrIndex := 0, hdrPos := 0 }

/-! ## Opening -/

/-- A HTTP/0.9 response starts behind the headers that the file may include. -/
def skipHeader (hs : HttpState) (file : FsFile) : HttpState :=
  match strnstr (ascii "\r\n\r\n") file.data.length file.data with
  | none => hs
  | some offset => { hs with file := hs.file + (offset + 4), left := hs.left - (offset + 4) }

/-- `http_init_file`. The scanner begins at the file's first byte. Included headers are sent
as part of the file, except to a client of HTTP/0.9. -/
def httpInitFile (hs : HttpState) (file : Option FsFile) (is09 : Bool)
    (uri : Option (List Byte)) : HttpState :=
  match file with
  | some file =>
    let opened := { hs with
      tagIndex := 0
      tagState := .none
      parsed := 0
      parseLeft := file.data.length
      tagEnd := 0
      handle := some file
      file := 0
      left := file.data.length
      retries := 0 }
    if file.httpHeaderIncluded then
      if is09 then skipHeader opened file else opened
    else getHttpHeaders opened uri
  | none => getHttpHeaders { hs with handle := none, file := 0, left := 0, retries := 0 } uri

/-- The first name that can be opened, with its file. -/
def openFirst (fsOpen : List Byte → Option FsFile) (names : List (List Byte)) :
    Option (FsFile × List Byte) :=
  names.findSome? fun name => (fsOpen name).map (·, name)

/-- `http_get_404_file` -/
def httpGet404File (fsOpen : List Byte → Option FsFile) : Option (FsFile × List Byte) :=
  openFirst fsOpen [ascii "/404.html", ascii "/404.htm", ascii "/404.shtml"]

/-- `g_psDefaultFilenames` -/
def defaultFilenames : List (List Byte × Bool) :=
  [(ascii "/index.shtml", true), (ascii "/index.ssi", true), (ascii "/index.shtm", true),
    (ascii "/index.html", false), (ascii "/index.htm", false)]

/-- `g_pcSSIExtensions` -/
def ssiExtensions : List (List Byte) :=
  [ascii ".shtml", ascii ".shtm", ascii ".ssi", ascii ".xml", ascii ".svg", ascii ".ajax"]

/-- A name that is checked for tags. -/
def isSsiName (uri : List Byte) : Bool := ssiExtensions.any fun extension => extension <:+: uri

/-- `g_pCGIs`: the registered names, and the handler with the index of one. A handler gets
the parameters of its request and names the file that is opened in place of it. -/
structure Cgis (World : Type) where
  names : List (List Byte)
  handler : World → Nat → List Param → List Byte × World

section find
variable {World : Type} (fsOpen : List Byte → Option FsFile) (cgis : Cgis World)

/-- A URI and what follows its first question mark. -/
def splitUri (uri : List Byte) : List Byte × List Byte := (strchr 63 uri).getD (uri, [])

/-- The name that a URI stands for: what the handler of a CGI answers, or itself. -/
def cgiName (world : World) (uri : List Byte) : List Byte × World :=
  match cgis.names.findIdx? ((splitUri uri).1 = ·) with
  | some loop => cgis.handler world loop (extractUriParameters (splitUri uri).2)
  | none => (uri, world)

/-- `http_find_file` for the root. The first default file that opens is taken, and its entry
says whether it has tags. -/
def findRoot (hs : HttpState) (is09 : Bool) : HttpState :=
  match openFirst fsOpen (defaultFilenames.map Prod.fst) with
  | some (file, name) =>
    httpInitFile { hs with tagCheck := defaultFilenames.any fun entry => entry = (name, true) }
      (some file) is09 (some name)
  | none =>
    match httpGet404File fsOpen with
    | some (file, name) => httpInitFile { hs with tagCheck := false } (some file) is09 (some name)
    | none => httpInitFile { hs with tagCheck := false } none is09 none

/-- `http_find_file` for a name. The name is the handler's answer for a registered one, and
the URI itself for any other. -/
def findName (hs : HttpState) (is09 : Bool) (name : List Byte) : HttpState :=
  match ((fsOpen name).map (·, name)).or (httpGet404File fsOpen) with
  | some (file, name) =>
    httpInitFile { hs with tagCheck := isSsiName name } (some file) is09 (some name)
  | none => httpInitFile { hs with tagCheck := false } none is09 none

/-- The file that `http_find_file` finds for a URI, and the name that it was opened under:
for the root the first of the default files that opens, for every other URI the file of
its name, and in place of a file that does not open the first error page. None stands
for the built-in text. -/
def uriFile (world : World) (uri : List Byte) : Option (FsFile × List Byte) :=
  let name := (cgiName cgis world uri).1
  (if uri = ascii "/" then openFirst fsOpen (defaultFilenames.map Prod.fst)
    else (fsOpen name).map (·, name)).or (httpGet404File fsOpen)

/-- `http_find_file`. A registered name runs its handler here, so that the file may depend
on what the handler has just done. -/
def httpFindFile (hs : HttpState) (world : World) (uri : List Byte) (is09 : Bool) :
    HttpState × World :=
  if uri = ascii "/" then (findRoot fsOpen hs is09, world)
  else
    let name := cgiName cgis world uri
    (findName fsOpen hs is09 name.1, name.2)

end find

/-! ## A connection for a file -/

/-- What a connection brings from its allocation or from an earlier error page: the buffer
for a tag's name has its size, and no header string is empty from the one at hand on. -/
structure HttpState.Sane (hs : HttpState) : Prop where
  buffer : hs.tagName.length = maxTagNameLen + 1
  heading : hs.Lettered

theorem httpStateAlloc_sane : httpStateAlloc.Sane :=
  ⟨List.length_replicate, fun early => absurd early (Nat.lt_irrefl _)⟩

theorem statusLine_cases (uri : List Byte) :
    statusLine uri ∈ [hdrOk, hdrNotFound, hdrBadRequest, hdrNotImpl] := by
  unfold statusLine
  split
  · simp
  · split
    · simp
    · split <;> simp

theorem typeLine_mem (extension : List Byte) :
    typeLine extension ∈ hdrDefaultType :: httpHeaders.map Prod.snd := by
  unfold typeLine
  cases found : httpHeaders.find? fun entry => entry.1 = extension with
  | none => exact List.mem_cons_self
  | some entry =>
    exact List.mem_cons_of_mem _ (List.mem_map_of_mem (List.mem_of_find?_eq_some found))

/-- No header string is empty. -/
theorem header_strings_nonempty :
    ∀ line ∈ [hdrOk, hdrNotFound, hdrBadRequest, hdrNotImpl] ++
      (hdrDefaultType :: httpHeaders.map Prod.snd), line ≠ [] := by
  decide

theorem statusLine_ne_nil (uri : List Byte) : statusLine uri ≠ [] :=
  header_strings_nonempty _ (List.mem_append_left _ (statusLine_cases uri))

theorem typeLine_ne_nil (extension : List Byte) : typeLine extension ≠ [] :=
  header_strings_nonempty _ (List.mem_append_right _ (typeLine_mem extension))

/-- Three strings that are there are sent from the first one on. -/
theorem lettered_of_three {hs : HttpState} {first second third : List Byte}
    (hdrs : hs.hdrs = [first, second, third]) (index : hs.hdrIndex = 0) (pos : hs.hdrPos = 0)
    (firstLetters : first ≠ []) (secondLetters : second ≠ []) (thirdLetters : third ≠ []) :
    hs.Lettered := by
  intro _
  refine ⟨?_, ?_⟩
  · rw [HttpState.hdr, hdrs, index, pos]
    exact List.length_pos_iff.mpr firstLetters
  · intro later _ inside
    rw [hdrs]
    match later, inside with
    | 0, _ => exact firstLetters
    | 1, _ => exact secondLetters
    | 2, _ => exact thirdLetters

/-- The headers are chosen for a name, and nothing else changes. -/
theorem getHttpHeaders_eq (hs : HttpState) (uri : Option (List Byte)) :
    (getHttpHeaders hs uri).Lettered ∧
      getHttpHeaders hs uri = { hs with
        hdrs := (getHttpHeaders hs uri).hdrs
        hdrPos := (getHttpHeaders hs uri).hdrPos
        hdrIndex := (getHttpHeaders hs uri).hdrIndex } := by
  cases uri with
  | none =>
    exact ⟨lettered_of_three rfl rfl rfl (by decide) (by decide) (by decide), rfl⟩
  | some name =>
    cases extension : fileExtension name with
    | none =>
      simp only [getHttpHeaders, extension]
      exact ⟨fun early => absurd early (Nat.lt_irrefl _), trivial⟩
    | some found =>
      simp only [getHttpHeaders, extension]
      exact ⟨lettered_of_three rfl rfl rfl (statusLine_ne_nil name) (by decide)
        (typeLine_ne_nil found), trivial⟩

/-- A response whose file starts with its first byte: it is not the HTTP/0.9 response to a
file that includes headers, which are skipped in that one case. -/
def StartsWhole (file : Option FsFile) (is09 : Bool) : Prop :=
  is09 = false ∨ ∀ opened ∈ file, opened.httpHeaderIncluded = false

/-- `http_init_file` opens a response. -/
theorem opened_httpInitFile {hs : HttpState} (sane : hs.Sane) {file : Option FsFile} {is09 : Bool}
    (starts : StartsWhole file is09) (uri : Option (List Byte)) :
    Opened (httpInitFile hs file is09 uri) := by
  cases file with
  | none =>
    obtain ⟨heading, same⟩ := getHttpHeaders_eq
      { hs with handle := none, file := 0, left := 0, retries := 0 } uri
    simp only [httpInitFile]
    generalize getHttpHeaders _ uri = behind at heading same
    rw [same] at heading ⊢
    exact ⟨rfl, rfl, nofun, nofun, nofun, sane.buffer, heading⟩
  | some file =>
    cases included : file.httpHeaderIncluded with
    | false =>
      simp only [httpInitFile, included]
      obtain ⟨heading, same⟩ := getHttpHeaders_eq { hs with
        tagIndex := 0
        tagState := .none
        parsed := 0
        parseLeft := file.data.length
        tagEnd := 0
        handle := some file
        file := 0
        left := file.data.length
        retries := 0 } uri
      generalize getHttpHeaders _ uri = behind at heading same
      rw [same] at heading ⊢
      exact ⟨rfl, rfl, fun _ => rfl, fun _ => rfl, fun _ => rfl, sane.buffer, heading⟩
    | true =>
      have late : is09 = false :=
        starts.resolve_right fun none => Bool.noConfusion (included.symm.trans (none file rfl))
      simp only [httpInitFile, included, late]
      exact ⟨rfl, rfl, fun _ => rfl, fun _ => rfl, fun _ => rfl, sane.buffer, sane.heading⟩

section find
variable {Pcb World Rest : Type} (tcp : Tcp Pcb) {ssi : Ssi World}
  {fsOpen : List Byte → Option FsFile} (cgis : Cgis Rest)

theorem openFirst_eq_some {names : List (List Byte)} {file : FsFile} {name : List Byte}
    (found : openFirst fsOpen names = some (file, name)) : fsOpen name = some file := by
  obtain ⟨_, _, opened⟩ := List.exists_of_findSome?_eq_some found
  obtain ⟨_, there, same⟩ := Option.map_eq_some_iff.mp opened
  obtain ⟨rfl, rfl⟩ := Prod.mk.inj same
  exact there

/-- What is found for a URI is the file of its name in the image. -/
theorem uriFile_eq_some {world : Rest} {uri : List Byte} {file : FsFile} {name : List Byte}
    (found : uriFile fsOpen cgis world uri = some (file, name)) : fsOpen name = some file := by
  rcases Option.or_eq_some_iff.mp found with first | ⟨_, second⟩
  · split at first
    · exact openFirst_eq_some first
    · obtain ⟨_, there, same⟩ := Option.map_eq_some_iff.mp first
      obtain ⟨rfl, rfl⟩ := Prod.mk.inj same
      exact there
  · exact openFirst_eq_some second

/-- `http_find_file` opens a response for every URI. -/
theorem opened_httpFindFile {hs : HttpState} (sane : hs.Sane) (world : Rest) (uri : List Byte)
    {is09 : Bool} (starts : ∀ name, StartsWhole (fsOpen name) is09) :
    Opened (httpFindFile fsOpen cgis hs world uri is09).1 := by
  have checked (tagCheck : Bool) : ({ hs with tagCheck := tagCheck } : HttpState).Sane :=
    ⟨sane.buffer, sane.heading⟩
  have page {names : List (List Byte)} {file : FsFile} {name : List Byte}
      (found : openFirst fsOpen names = some (file, name)) : StartsWhole (some file) is09 :=
    openFirst_eq_some found ▸ starts name
  have none : StartsWhole none is09 := .inr fun _ member => absurd member (by simp)
  unfold httpFindFile
  split
  · simp only [findRoot]
    split
    · rename_i found
      exact opened_httpInitFile (checked _) (page found) _
    · split
      · rename_i found
        exact opened_httpInitFile (checked _) (page found) _
      · exact opened_httpInitFile (checked _) none _
  · simp only [findName]
    split
    · rename_i file name found
      refine opened_httpInitFile (checked _) ?_ _
      rcases Option.or_eq_some_iff.mp found with first | ⟨_, second⟩
      · obtain ⟨_, there, same⟩ := Option.map_eq_some_iff.mp first
        obtain ⟨rfl, rfl⟩ := Prod.mk.inj same
        exact there ▸ starts _
      · exact page second
    · exact opened_httpInitFile (checked _) none _

end find

end UcosProxy.HttpSend
