import UcosProxy.Bytes

/-!
# Finding tags in a page

`http_send_data` parses a page byte by byte while it sends it. The lead-in opens a
tag, the name runs up to white space or the lead-out, and the byte that completes the
lead-out is the one at which the handler of the tag is called; its text goes out
behind the tag. A parser that is told to stop at any byte, because the send buffer is
full or a block of the file ends, goes on at the next one in the same state.

`scanByte` is one turn of that parser. The source keeps an index that counts matched
letters of the lead-in, then the letters of the name, then those of the lead-out; here
each state carries its own. What is sent from the buffer and when is left out: the
stream of bytes is the same.
-/

namespace UcosProxy.TagScan

open Bytes

/-- `enum tag_check_state` with the index and the name; `TAG_SENDING` lasts until the
insert is out and falls between two bytes. -/
inductive TagState where
  | none
  | leadin (index : Nat)
  | found (name : List Byte)
  | leadout (name : List Byte) (index : Nat)
deriving DecidableEq

/-- `g_pcTagLeadIn` -/
def tagLeadIn : List Byte := ascii "<!--#"

/-- `g_pcTagLeadOut` -/
def tagLeadOut : List Byte := ascii "-->"

/-- `LWIP_HTTPD_MAX_TAG_NAME_LEN` -/
def maxTagNameLen : Nat := 32

/-- The white space that a tag may hold around its name. -/
def isTagBlank (byte : Byte) : Bool := byte = 32 || byte = 9 || byte = 10 || byte = 13

/-- A byte of the name, or the end of the name. -/
def foundByte (name : List Byte) (byte : Byte) : TagState :=
  if name = [] ∧ isTagBlank byte then .found []
  else if some byte = tagLeadOut[0]? ∨ isTagBlank byte then
    if name = [] then .none
    else .leadout name (if some byte = tagLeadOut[0]? then 1 else 0)
  else if name.length < maxTagNameLen then .found (name ++ [byte])
  else .none

/-- One byte of a page: the state behind it, and the name of the tag it completes. -/
def scanByte (state : TagState) (byte : Byte) : TagState × Option (List Byte) :=
  match state with
  | .none => (if some byte = tagLeadIn[0]? then .leadin 1 else .none, none)
  | .leadin index =>
    if index = tagLeadIn.length then (foundByte [] byte, none)
    else (if some byte = tagLeadIn[index]? then .leadin (index + 1) else .none, none)
  | .found name => (foundByte name byte, none)
  | .leadout name index =>
    if index = 0 ∧ isTagBlank byte then (.leadout name 0, none)
    else if some byte = tagLeadOut[index]? then
      if index = tagLeadOut.length - 1 then (.none, some name)
      else (.leadout name (index + 1), none)
    else (.none, none)

/-- The tags that the rest of a page completes. -/
def scanTags : TagState → List Byte → List (List Byte)
  | _, [] => []
  | state, byte :: rest =>
    match scanByte state byte with
    | (next, none) => scanTags next rest
    | (next, some name) => name :: scanTags next rest

/-- A byte that completes no tag leaves the tags behind it. -/
theorem scanTags_cons_none {state next : TagState} {byte : Byte} (rest : List Byte)
    (scanned : scanByte state byte = (next, none)) :
    scanTags state (byte :: rest) = scanTags next rest := by
  simp only [scanTags, scanned]

/-- A byte that completes a tag takes it off the tags. -/
theorem scanTags_cons_some {state next : TagState} {byte : Byte} {name : List Byte}
    (rest : List Byte) (scanned : scanByte state byte = (next, some name)) :
    scanTags state (byte :: rest) = name :: scanTags next rest := by
  simp only [scanTags, scanned]

/-- The body of a page: its bytes, and behind each tag the text of the tag's handler. -/
def sendTags (insert : List Byte → List Byte) : TagState → List Byte → List Byte
  | _, [] => []
  | state, byte :: rest =>
    match scanByte state byte with
    | (next, none) => byte :: sendTags insert next rest
    | (next, some name) => byte :: insert name ++ sendTags insert next rest

/-- The state behind a stretch of a page that completes no tag. -/
def scanQuiet : TagState → List Byte → Option TagState
  | state, [] => some state
  | state, byte :: rest =>
    match scanByte state byte with
    | (next, none) => scanQuiet next rest
    | (_, some _) => none

/-- A stretch that completes no tag is sent as it is. -/
theorem sendTags_quiet (insert : List Byte → List Byte) {state next : TagState}
    {before : List Byte} (rest : List Byte) (quiet : scanQuiet state before = some next) :
    sendTags insert state (before ++ rest) = before ++ sendTags insert next rest := by
  induction before generalizing state with
  | nil =>
    obtain rfl := Option.some.inj quiet
    rfl
  | cons byte before inductionHypothesis =>
    simp only [scanQuiet] at quiet
    split at quiet
    · rename_i after scanned
      simp only [List.cons_append, sendTags, scanned, inductionHypothesis quiet]
    · cases quiet

/-- A page with one tag is sent with one text behind it. -/
theorem sendTags_one (insert : List Byte → List Byte) {state next last : TagState}
    {before after name : List Byte} {byte : Byte} (quiet : scanQuiet .none before = some state)
    (tag : scanByte state byte = (next, some name)) (rest : scanQuiet next after = some last) :
    sendTags insert .none (before ++ byte :: after) = before ++ byte :: insert name ++ after := by
  have behind := sendTags_quiet insert [] rest
  rw [List.append_nil] at behind
  simp only [sendTags_quiet insert _ quiet, sendTags, tag, behind, List.append_nil,
    List.cons_append, List.append_assoc]

end UcosProxy.TagScan
