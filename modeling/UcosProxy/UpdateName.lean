import UcosProxy.AccountLogin

/-!
# From a chosen file to its read request

`update.js` takes the name behind the last backslash of the chosen path, accepts it when
`filename_chk` finds at most sixty letters, digits and marks that end in `.bin`, and posts
the size of the file, a backslash and the name as one value of a form. The server stores
what `atoi` makes of the value, and what stands behind its last `%5C` is the file name:
the backslash comes as its escape and is never decoded. `tftp_send_readfile_request` puts
the name into a read request.

`filename_chk` lets white space pass, because `isNaN` converts it to zero, and white space
is what the form encoding changes. `update_asks_iff` says that the file is asked for with
its own name and size, and no buffer overrun, exactly when no white space is in the name.

The name of a file is its UTF-8 text. The request is read back by a parser of its own,
written after the packet formats: an opcode, and strings that a zero ends.
-/

namespace UcosProxy.UpdateName

open Bytes UriParameters FormEncoding CgiAccess CgiHandlers CgiSafety AccountLogin TftpClient
  TftpSteps UpdateThread

variable {Flash : Type}

/-! ## The update page -/

/-- The length of a text in JavaScript: a character beyond the basic plane counts twice. -/
def jsLength (str : List Char) : Nat :=
  (str.map fun letter => if letter.toNat < 65536 then 1 else 2).sum

/-- `filename_crop` of the page: the text behind the last backslash. -/
def filenameCrop (str : List Char) : List Char :=
  (str.reverse.takeWhile (· ≠ '\\')).reverse

/-- The characters that the loop of `filename_chk` lets pass. -/
def filenameLetter (letter : Char) : Bool :=
  if 'a' ≤ letter ∧ letter ≤ 'z' then true
  else if 'A' ≤ letter ∧ letter ≤ 'Z' then true
  else if !isNaN letter then true
  else if letter = '_' ∨ letter = '-' then true
  else false

/-- `filename_chk`: zero, or the number of the complaint. The name is looked at without its
ending. -/
def filenameChk (str : List Char) : Nat :=
  if jsLength str = 0 then 1
  else if 60 < jsLength str then 2
  else if ¬ ['.', 'b', 'i', 'n'].isSuffixOf str then 3
  else if (str.take (str.length - 4)).all filenameLetter then 0
  else 4

/-- The form that `update.js` posts. -/
def updateForm (size : Nat) (shortName : List Char) : List Field :=
  [⟨"filename", Nat.toDigits 10 size ++ '\\' :: shortName⟩, ⟨"end", ['N', 'U', 'L', 'L']⟩]

/-- What the page posts for a chosen path and the size of its file, if anything. -/
def chosen (path : List Char) (size : Nat) : Option (List Field) :=
  if filenameChk (filenameCrop path) = 0 then some (updateForm size (filenameCrop path)) else none

/-- `update_cgi_interface` on a submitted form. -/
def submitUpdate (env : Environment) (form : List Field) (state : CgiState) :
    Except Fault (String × CgiState) :=
  updateCgiInterface env (extractUriParameters (param form)) state

/-! ## Read requests -/

/-- A read request of RFC 1350 with the options of RFC 2347. It is what a server makes of
the packet, and is written after the formats and not after the client that builds it. -/
structure ReadRequest where
  filename : List Byte
  mode : List Byte
  options : List (List Byte × List Byte)
deriving DecidableEq

/-- The strings of a packet, when a zero ends each of them. -/
def zeroEnded : List Byte → Option (List (List Byte))
  | [] => some []
  | byte :: rest =>
    match zeroEnded rest with
    | none => none
    | some strings =>
      if byte = 0 then some ([] :: strings)
      else
        match strings with
        | [] => none
        | first :: later => some ((byte :: first) :: later)

/-- The options: a name and a value each. -/
def optionPairs : List (List Byte) → Option (List (List Byte × List Byte))
  | [] => some []
  | [_] => none
  | name :: value :: rest => (optionPairs rest).map ((name, value) :: ·)

/-- A packet as a server reads it. -/
def parseReadRequest : List Byte → Option ReadRequest
  | high :: low :: rest =>
    if [high, low] = networkWord TftpOpcode.rrq.code then
      match zeroEnded rest with
      | some (filename :: mode :: options) =>
        (optionPairs options).map fun options => ⟨filename, mode, options⟩
      | _ => none
    else none
  | _ => none

/-- The bytes of a file name. -/
def nameBytes (name : List Char) : List Byte :=
  name.flatMap fun letter => (String.utf8EncodeChar letter).map (·.toBitVec)

/-- What an update of a file asks of the server that serves it. -/
def requestFor (name : List Char) : ReadRequest :=
  ⟨nameBytes name, ascii "octet", [(ascii "blksize", ascii "256")]⟩

/-- The announced size and the name are stored, and the client asks for the file of that
name. The size is that of `total_file_len`, the name that of `update_filename`, and the
packet is read back by the server's own parser. -/
structure Asks (size : Nat) (name : List Char) (tftp : Tftp Flash) (update : UpdateState) :
    Prop where
  totalFileLen : update.totalFileLen = size
  updateFilename : update.updateFilename = nameBytes name
  request : ((tftpSendReadfileRequest update.updateFilename tftp).sent.getLast?.bind fun packet =>
    parseReadRequest packet.bytes) = some (requestFor name)

/-- The submitted form is stored without an overrun, and its file is asked for. An overrun
of one of the request's buffers is an outcome of its own, so storing is part of the claim. -/
def UpdateAsks (env : Environment) (state : CgiState) (tftp : Tftp Flash) (size : Nat)
    (name : List Char) : Prop :=
  ∃ page after, submitUpdate env (updateForm size name) state = .ok (page, after) ∧
    Asks size name tftp after.update

/-! ## What the page accepts -/

/-- A text has no more characters than its length in JavaScript. -/
theorem length_le_jsLength (str : List Char) : str.length ≤ jsLength str := by
  induction str with
  | nil => exact Nat.le_refl 0
  | cons letter rest inductionHypothesis =>
    simp only [jsLength, List.map_cons, List.sum_cons, List.length_cons] at inductionHypothesis ⊢
    split <;> omega

/-- What passes besides the characters of an account. -/
theorem filenameLetter_eq (letter : Char) :
    filenameLetter letter = (checkSingle letter || decide (letter = '_' ∨ letter = '-')) := by
  unfold filenameLetter checkSingle
  split
  · rfl
  · split
    · rfl
    · split
      · rfl
      · simp

/-- A letter that passes is a mark, a letter or a digit, or white space. -/
theorem filenameLetter_unreserved {letter : Char} (passes : filenameLetter letter = true) :
    isStrWhiteSpace letter = true ∨ isUnreserved letter = true := by
  rw [filenameLetter_eq, Bool.or_eq_true, decide_eq_true_eq] at passes
  cases white : isStrWhiteSpace letter with
  | true => exact Or.inl rfl
  | false =>
    right
    rcases passes with single | rfl | rfl
    · simp only [isUnreserved, alphanum_of_checked single white, Bool.true_or]
    · decide
    · decide

/-- What is known of an accepted name. The bound on its letters keeps it inside the buffers
of the server. -/
structure Accepted (name : List Char) : Prop where
  length : name.length ≤ 60
  letters : ∀ letter ∈ name, isStrWhiteSpace letter = true ∨ isUnreserved letter = true

/-- `filename_chk` accepts only short names of such letters. -/
theorem accepted_of_chk {name : List Char} (zero : filenameChk name = 0) : Accepted name := by
  unfold filenameChk at zero
  split at zero
  · cases zero
  · split at zero
    · cases zero
    · split at zero
      · cases zero
      · split at zero
        · rename_i long suffix passes
          constructor
          · have counted := length_le_jsLength name
            omega
          · simp only [Decidable.not_not, List.isSuffixOf_iff_suffix] at suffix
            obtain ⟨stem, rfl⟩ := suffix
            have stemLetters : (stem ++ ['.', 'b', 'i', 'n']).take
                ((stem ++ ['.', 'b', 'i', 'n']).length - 4) = stem := by
              simp
            rw [stemLetters] at passes
            intro letter member
            rcases List.mem_append.mp member with inStem | inSuffix
            · exact filenameLetter_unreserved (List.all_eq_true.mp passes letter inStem)
            · right
              have marks : ['.', 'b', 'i', 'n'].all isUnreserved = true := by decide
              exact List.all_eq_true.mp marks letter inSuffix
        · cases zero

/-- The page posts every accepted name, whatever folder its file is in. -/
theorem chosen_accepted {name : List Char} (zero : filenameChk name = 0) (folder : List Char)
    (size : Nat) : chosen (folder ++ '\\' :: name) size = some (updateForm size name) := by
  have plain : ∀ letter ∈ name, letter ≠ '\\' := by
    intro letter member same
    rw [same] at member
    rcases (accepted_of_chk zero).letters _ member with white | unreserved
    · exact absurd white (by decide)
    · exact absurd unreserved (by decide)
  have crop : filenameCrop (folder ++ '\\' :: name) = name := by
    rw [filenameCrop, List.reverse_append, List.reverse_cons, List.append_assoc,
      List.takeWhile_append_of_pos]
    · simp
    · intro letter member
      simpa using plain letter (List.mem_reverse.mp member)
  simp only [chosen, crop, zero, if_true]

/-! ## What the server stores -/

/-- A text of unreserved characters keeps its bytes in a form. -/
theorem formValue_unreserved {value : List Char}
    (unreserved : ∀ letter ∈ value, isUnreserved letter = true) :
    formValue value = value.map fun letter => BitVec.ofNat 8 letter.toNat := by
  rw [formValue, List.map_eq_flatMap]
  exact List.flatMap_congr fun letter member => formLetter_unreserved (unreserved letter member)

/-- No other byte is in such a text. -/
theorem not_mem_unreserved {value : List Char} {byte : Byte}
    (unreserved : ∀ letter ∈ value, isUnreserved letter = true)
    (other : isUnreserved (Char.ofNat byte.toNat) = false) : byte ∉ formValue value := by
  rw [formValue_unreserved unreserved]
  intro member
  obtain ⟨letter, inside, rfl⟩ := List.mem_map.mp member
  have printed := isUnreserved_printed (unreserved letter inside)
  rw [ofNat_byte (Nat.lt_of_le_of_lt printed.2 (by decide)), unreserved letter inside] at other
  cases other

/-- The bytes of such a text are its encoding. -/
theorem formValue_name {name : List Char} (unreserved : ∀ letter ∈ name, isUnreserved letter = true) :
    formValue name = nameBytes name := by
  have kept (letter : Char) (member : letter ∈ name) :
      formLetter letter = (String.utf8EncodeChar letter).map (·.toBitVec) := by
    have printed := isUnreserved_printed (unreserved letter member)
    have ascii : String.utf8EncodeChar letter = [UInt8.ofNat letter.toNat] := by
      have small : letter.toNat ≤ 127 := by omega
      simp only [String.utf8EncodeChar, Char.toNat] at small ⊢
      rw [if_pos small]
    rw [formLetter_unreserved (unreserved letter member), ascii]
    rfl
  exact List.flatMap_congr kept

/-- White space has a byte that no form has: its first one. -/
theorem white_byte {letter : Char} (white : isStrWhiteSpace letter = true) :
    ∃ byte ∈ (String.utf8EncodeChar letter).map (·.toBitVec), isFormByte byte = false := by
  have outside : ¬ (33 ≤ letter.toNat ∧ letter.toNat ≤ 126) := by
    intro ⟨first, last⟩
    rw [not_white_of_printed first last] at white
    cases white
  have foreign (code : Nat) (small : code < 256) (far : ¬ (33 ≤ code ∧ code ≤ 126)) :
      isFormByte (UInt8.ofNat code).toBitVec = false := by
    rw [← Bool.not_eq_true]
    intro form
    have printed := isFormByte_printed form
    have value : (UInt8.ofNat code).toBitVec.toNat = code := Nat.mod_eq_of_lt small
    rw [value] at printed
    exact far printed
  simp only [Char.toNat] at outside
  simp only [String.utf8EncodeChar]
  split
  case isTrue ascii =>
    refine ⟨_, List.mem_cons_self, ?_⟩
    exact foreign _ (by omega) outside
  case isFalse =>
    -- the first byte of a longer sequence is 192 at least
    split
    case isTrue =>
      refine ⟨_, List.mem_cons_self, ?_⟩
      exact foreign _ (by omega) (by omega)
    case isFalse =>
      split
      · refine ⟨_, List.mem_cons_self, ?_⟩
        exact foreign _ (by omega) (by omega)
      · refine ⟨_, List.mem_cons_self, ?_⟩
        exact foreign _ (by omega) (by omega)

/-- The crop leaves an end of the value. -/
theorem cropAt_suffix (raw : List Byte) (offset : Nat) : cropAt raw offset <:+ raw := by
  induction offset with
  | zero =>
    rw [cropAt]
    split
    · exact List.drop_suffix _ _
    · exact List.suffix_rfl
  | succ offset inductionHypothesis =>
    rw [cropAt]
    split
    · exact List.drop_suffix _ _
    · exact inductionHypothesis

/-- An escaped backslash at an offset is the last one at or before it. -/
theorem cropAt_here {raw : List Byte} {offset : Nat}
    (here : (ascii "%5C").isPrefixOf (raw.drop offset) = true) :
    cropAt raw offset = raw.drop (offset + 3) := by
  cases offset with
  | zero =>
    rw [List.drop_zero] at here
    rw [cropAt, if_pos here, Nat.zero_add]
  | succ offset => rw [cropAt, if_pos here]

/-- Offsets without a percent sign are passed over. -/
theorem cropAt_beyond {raw : List Byte} (offset beyond : Nat)
    (absent : (37 : Byte) ∉ raw.drop (offset + 1)) :
    cropAt raw (offset + beyond) = cropAt raw offset := by
  induction beyond with
  | zero => rfl
  | succ beyond inductionHypothesis =>
    have none : ¬ (ascii "%5C").isPrefixOf (raw.drop (offset + beyond + 1)) = true := by
      intro begins
      rw [List.isPrefixOf_iff_prefix] at begins
      apply absent
      have within : raw.drop (offset + beyond + 1) <:+ raw.drop (offset + 1) := by
        rw [show offset + beyond + 1 = offset + 1 + beyond by omega, ← List.drop_drop]
        exact List.drop_suffix _ _
      exact within.subset (begins.subset (by decide))
    rw [← Nat.add_assoc, cropAt, if_neg none, inductionHypothesis]

/-- The name behind the last escaped backslash, when no escape follows it. -/
theorem updateFilenameCrop_last (before : List Byte) {behind : List Byte}
    (absent : (37 : Byte) ∉ behind) :
    updateFilenameCrop (before ++ (ascii "%5C" ++ behind)) = behind := by
  have escape : ascii "%5C" = [37, 53, 67] := by decide
  have length : (before ++ (ascii "%5C" ++ behind)).length = before.length + (3 + behind.length) := by
    simp only [escape, List.length_append, List.length_cons, List.length_nil]
  rw [updateFilenameCrop, length, cropAt_beyond, cropAt_here]
  · rw [List.drop_length_add_append, escape]
    rfl
  · rw [List.drop_left, List.isPrefixOf_iff_prefix]
    exact List.prefix_append _ _
  · rw [List.drop_length_add_append, escape]
    simpa using absent

/-- The digits of a number are digits of the server's C locale too. -/
theorem isDigit_byte {letter : Char} (digit : letter.isDigit = true) :
    isDigit (BitVec.ofNat 8 letter.toNat) = true ∧
      (BitVec.ofNat 8 letter.toNat).toNat = letter.toNat := by
  have firstDigit : '0'.val.toNat = 48 := rfl
  have lastDigit : '9'.val.toNat = 57 := rfl
  simp only [Char.isDigit, Bool.and_eq_true, decide_eq_true_eq, ge_iff_le,
    UInt32.le_iff_toNat_le] at digit
  have value : (BitVec.ofNat 8 letter.toNat).toNat = letter.toNat := by
    rw [BitVec.toNat_ofNat]
    apply Nat.mod_eq_of_lt
    simp only [Char.toNat]
    omega
  refine ⟨?_, value⟩
  rw [isDigit, value]
  simp only [Char.toNat, Bool.and_eq_true, decide_eq_true_eq]
  omega

/-- The digits of a number in a form. -/
theorem formValue_digits (size : Nat) :
    formValue (Nat.toDigits 10 size) =
      (Nat.toDigits 10 size).map fun letter => BitVec.ofNat 8 letter.toNat := by
  have digits : ∀ letter ∈ Nat.toDigits 10 size, letter.isDigit = true := fun letter member =>
    Nat.isDigit_of_mem_toDigits (by decide) (by decide) member
  apply formValue_unreserved
  intro letter member
  simp only [isUnreserved, Char.isAlphanum, digits letter member, Bool.or_true, Bool.true_or]

/-- Their value is the number. -/
theorem digitsValue_toDigits (size : Nat) :
    digitsValue ((Nat.toDigits 10 size).map fun letter => BitVec.ofNat 8 letter.toNat) = size := by
  have folds (digits : List Char) (value : Nat) (all : ∀ letter ∈ digits, letter.isDigit = true) :
      (digits.map fun letter => BitVec.ofNat 8 letter.toNat).foldl
        (fun value (digit : Byte) => 10 * value + (digit.toNat - 48)) value =
          Nat.ofDigitChars 10 digits value := by
    induction digits generalizing value with
    | nil => rfl
    | cons letter rest inductionHypothesis =>
      have own := (isDigit_byte (all letter List.mem_cons_self)).2
      have further := inductionHypothesis (10 * value + (letter.toNat - 48))
        fun other member => all other (List.mem_cons_of_mem _ member)
      rw [List.map_cons, List.foldl_cons, own, further, Nat.ofDigitChars_cons]
      rfl
  have digits : ∀ letter ∈ Nat.toDigits 10 size, letter.isDigit = true := fun letter member =>
    Nat.isDigit_of_mem_toDigits (by decide) (by decide) member
  rw [digitsValue, folds _ 0 digits, Nat.ofDigitChars_ten_toDigits]

/-- The size is read back from the digits before the percent sign of an escape. -/
theorem atoi_size {size : Nat} (small : size < 2147483648) (rest : List Byte) :
    atoi (formValue (Nat.toDigits 10 size) ++ 37 :: rest) = size := by
  have value := digitsValue_toDigits size
  rw [← formValue_digits] at value
  have digits : ∀ byte ∈ formValue (Nat.toDigits 10 size), isDigit byte = true := by
    intro byte member
    rw [formValue_digits] at member
    obtain ⟨letter, inside, rfl⟩ := List.mem_map.mp member
    exact (isDigit_byte (Nat.isDigit_of_mem_toDigits (by decide) (by decide) inside)).1
  have present : formValue (Nat.toDigits 10 size) ≠ [] := by
    rw [formValue_digits]
    simp [Nat.toDigits_ne_nil]
  generalize formValue (Nat.toDigits 10 size) = text at value digits present
  obtain ⟨first, others, rfl⟩ := List.exists_cons_of_ne_nil present
  have numeric := digits first List.mem_cons_self
  simp only [isDigit, Bool.and_eq_true, decide_eq_true_eq] at numeric
  have noSpace : isSpace first = false := by
    simp only [isSpace, Bool.or_eq_false_iff, Bool.and_eq_false_iff, decide_eq_false_iff_not]
    refine ⟨?_, by omega⟩
    rintro rfl
    exact absurd numeric.1 (by decide)
  have noMinus : first ≠ 45 := by
    rintro rfl
    exact absurd numeric.1 (by decide)
  have noPlus : first ≠ 43 := by
    rintro rfl
    exact absurd numeric.1 (by decide)
  have taken : ((first :: others) ++ 37 :: rest).takeWhile isDigit = first :: others := by
    rw [List.takeWhile_append_of_pos digits, List.takeWhile_cons_of_neg (by decide),
      List.append_nil]
  rw [List.cons_append] at taken ⊢
  simp only [atoi, List.dropWhile_cons_of_neg (Bool.eq_false_iff.mp noSpace), noMinus, noPlus,
    if_false, taken, value]
  omega

/-- The value of the form: the size, the escaped backslash and the encoded name. -/
theorem formValue_choice (size : Nat) (name : List Char) :
    formValue (Nat.toDigits 10 size ++ '\\' :: name) =
      formValue (Nat.toDigits 10 size) ++ (ascii "%5C" ++ formValue name) := by
  have escape : formLetter '\\' = ascii "%5C" := by decide
  simp only [formValue, List.flatMap_append, List.flatMap_cons, escape]

/-- The server reads the form's fields with their encoded values. -/
theorem extract_updateForm (size : Nat) (name : List Char) :
    extractUriParameters (param (updateForm size name)) = (updateForm size name).map Field.read := by
  apply extractUriParameters_param
  · simp [updateForm, maxCgiParameters]
  · simp [updateForm]
  · intro field member
    have names : ∀ name ∈ ["filename", "end"], Uncut (ascii name) := by decide
    apply names
    simp only [updateForm, List.mem_cons, List.not_mem_nil, or_false] at member ⊢
    rcases member with rfl | rfl <;> simp

variable {env : Environment} {state : CgiState} {size : Nat} {name : List Char}

/-- The handler on the form is its three copies of the encoded value. -/
theorem submitUpdate_eq : submitUpdate env (updateForm size name) state = (do
    let value := formValue (Nat.toDigits 10 size ++ '\\' :: name)
    let tmp ← strcpy 128 value
    let raw ← strcpy 128 tmp
    let updateFilename ← strcpy 64 (updateFilenameCrop raw)
    .ok ("/assets/ajax/update_status.ajax",
      { state with
        update :=
          { totalFileLen := (atoi value % u32Modulus).toNat
            fileLen := 0
            updateFilename := updateFilename
            doing := true
            posts := Semaphore.osSemPost state.update.posts } })) := by
  have named : (updateForm size name).map Field.name = ["filename", "end"] := rfl
  have read := valueOf_form "filename" 0 named (by decide) rfl
  rw [submitUpdate, extract_updateForm, updateCgiInterface, if_neg (by simp [updateForm]), read]
  rfl

/-- A submission that is stored leaves the crop of the encoded value. -/
theorem submitUpdate_stores {page : String} {after : CgiState}
    (submitted : submitUpdate env (updateForm size name) state = .ok (page, after)) :
    after.update.updateFilename =
      updateFilenameCrop (formValue (Nat.toDigits 10 size ++ '\\' :: name)) := by
  rw [submitUpdate_eq] at submitted
  obtain ⟨tmp, copied, submitted⟩ := bind_eq_ok.mp submitted
  obtain ⟨raw, again, submitted⟩ := bind_eq_ok.mp submitted
  obtain ⟨updateFilename, cropped, submitted⟩ := bind_eq_ok.mp submitted
  obtain rfl := (Prod.mk.inj (Except.ok.inj submitted)).2
  rw [strcpy_eq_ok cropped, strcpy_eq_ok again, strcpy_eq_ok copied]

/-! ## What the server of the files reads -/

/-- A text without a zero is the first string of a packet. -/
theorem zeroEnded_text {text : List Byte} (rest : List Byte) (letters : (0 : Byte) ∉ text) :
    zeroEnded (text ++ 0 :: rest) = (zeroEnded rest).map (text :: ·) := by
  induction text with
  | nil =>
    rw [List.nil_append, zeroEnded]
    cases zeroEnded rest <;> simp
  | cons byte text inductionHypothesis =>
    have letter : byte ≠ 0 := by
      rintro rfl
      exact letters List.mem_cons_self
    rw [List.cons_append, zeroEnded,
      inductionHypothesis fun member => letters (List.mem_cons_of_mem _ member)]
    cases zeroEnded rest with
    | none => rfl
    | some strings => simp only [Option.map_some, if_neg letter]

/-- A read request is read back with its name, mode and block size. -/
theorem parseReadRequest_readfileRequest {filename : List Byte} (letters : (0 : Byte) ∉ filename) :
    parseReadRequest (readfileRequest filename) =
      some ⟨filename, ascii "octet", [(ascii "blksize", ascii "256")]⟩ := by
  have layout : readfileRequest filename =
      0 :: 1 :: (filename ++ 0 :: (ascii "octet" ++ 0 :: (ascii "blksize" ++ 0 ::
        (ascii "256" ++ 0 :: [])))) := by
    simp [readfileRequest, networkWord, TftpOpcode.code]
  rw [layout, parseReadRequest, if_pos (by decide), zeroEnded_text _ letters,
    zeroEnded_text _ (by decide), zeroEnded_text _ (by decide),
    zeroEnded_text _ (by decide)]
  rfl

/-- The client asks for the file whose name it was given. -/
theorem request_parsed {filename : List Byte} (letters : (0 : Byte) ∉ filename)
    (tftp : Tftp Flash) :
    ((tftpSendReadfileRequest filename tftp).sent.getLast?.bind fun packet =>
      parseReadRequest packet.bytes) =
        some ⟨filename, ascii "octet", [(ascii "blksize", ascii "256")]⟩ := by
  rw [request_spoken, Option.bind_some, parseReadRequest_readfileRequest letters]

/-! ## The exact condition -/

/-- The state behind an update request for a file of that size and name. -/
def withUpdate (state : CgiState) (size : Nat) (name : List Char) : CgiState :=
  { state with
    update := ⟨size, 0, nameBytes name, true, Semaphore.osSemPost state.update.posts⟩ }

/-- A short name of unreserved characters is stored as it is, with its size. -/
theorem submitUpdate_unreserved (small : size < 2147483648) (length : name.length ≤ 60)
    (unreserved : ∀ letter ∈ name, isUnreserved letter = true) :
    submitUpdate env (updateForm size name) state =
      .ok ("/assets/ajax/update_status.ajax", withUpdate state size name) := by
  have encoded : (formValue name).length = name.length := by
    rw [formValue_unreserved unreserved, List.length_map]
  have digits : (formValue (Nat.toDigits 10 size)).length ≤ 10 := by
    rw [formValue_digits, List.length_map, Nat.length_toDigits_le_iff (by decide) (by decide)]
    omega
  have escape : ascii "%5C" = [37, 53, 67] := by decide
  have noEscape : (37 : Byte) ∉ formValue name := not_mem_unreserved unreserved (by decide)
  have crop := updateFilenameCrop_last (formValue (Nat.toDigits 10 size)) noEscape
  have number : atoi (formValue (Nat.toDigits 10 size) ++ (ascii "%5C" ++ formValue name)) = size := by
    rw [escape]
    exact atoi_size small _
  have total : ((size : Int) % u32Modulus).toNat = size := by
    simp only [u32Modulus]
    omega
  have room : (formValue (Nat.toDigits 10 size) ++ (ascii "%5C" ++ formValue name)).length < 128 := by
    simp only [escape, List.length_append, List.length_cons, List.length_nil]
    omega
  have short : (formValue name).length < 64 := by omega
  rw [submitUpdate_eq, formValue_choice]
  simp only [strcpy, room, if_true, ok_bind, crop, short, number, total, withUpdate,
    ← formValue_name unreserved]

/-- Such a name is asked for. -/
theorem asks_unreserved (unreserved : ∀ letter ∈ name, isUnreserved letter = true)
    (tftp : Tftp Flash) : Asks size name tftp (withUpdate state size name).update where
  totalFileLen := rfl
  updateFilename := rfl
  request := by
    have letters : (0 : Byte) ∉ nameBytes name := by
      rw [← formValue_name unreserved]
      exact not_mem_unreserved unreserved (by decide)
    exact request_parsed letters tftp

/-- White space is in no name that the server stores. -/
theorem plain_of_stored {page : String} {after : CgiState}
    (submitted : submitUpdate env (updateForm size name) state = .ok (page, after))
    (stored : after.update.updateFilename = nameBytes name) : Plain name := by
  intro letter member
  rw [← Bool.not_eq_true]
  intro white
  obtain ⟨byte, inside, other⟩ := white_byte white
  have named : byte ∈ nameBytes name := List.mem_flatMap.mpr ⟨letter, member, inside⟩
  rw [← stored, submitUpdate_stores submitted] at named
  have encoded := (cropAt_suffix _ _).subset named
  exact not_mem_formValue _ other encoded

/-- For every file of less than 2^31 bytes whose name the page accepts: the server stores
its size and name without an overrun, and the client asks for that file, exactly when no
white space is in the name. The page itself accepts white space, which the form writes as a
plus sign or as an escape, and nothing on the server decodes it. -/
theorem update_asks_iff (env : Environment) (state : CgiState) (tftp : Tftp Flash) (size : Nat)
    (small : size < 2147483648) (name : List Char) (accepted : filenameChk name = 0) :
    UpdateAsks env state tftp size name ↔ Plain name := by
  have known := accepted_of_chk accepted
  constructor
  · rintro ⟨page, after, submitted, asks⟩
    exact plain_of_stored submitted asks.updateFilename
  · intro plain
    have unreserved : ∀ letter ∈ name, isUnreserved letter = true := by
      intro letter member
      rcases known.letters letter member with white | unreserved
      · rw [plain letter member] at white
        cases white
      · exact unreserved
    exact ⟨_, _, submitUpdate_unreserved small known.length unreserved,
      asks_unreserved unreserved tftp⟩

/-- The file `app-2.bin`. -/
def appFile : List Char := ['a', 'p', 'p', '-', '2', '.', 'b', 'i', 'n']

/-- With 98304 bytes it is asked for. -/
theorem appFile_is_asked_for :
    UpdateAsks sampleEnvironment sampleState sampleClient 98304 appFile ↔ Plain appFile :=
  update_asks_iff sampleEnvironment sampleState sampleClient 98304 (by decide) appFile
    (by decide)

/-- The file `app 2.bin`. -/
def blankFile : List Char := ['a', 'p', 'p', ' ', '2', '.', 'b', 'i', 'n']

/-- The page accepts its name, and the server does not store it. -/
theorem blankFile_is_not_asked_for :
    ¬ ∀ (env : Environment) (state : CgiState) (tftp : Tftp Unit) (size : Nat) (name : List Char),
      size < 2147483648 → filenameChk name = 0 → UpdateAsks env state tftp size name := by
  intro asks
  obtain ⟨page, after, submitted, own⟩ := asks sampleEnvironment sampleState sampleClient 98304
    blankFile (by decide) (by decide)
  have plain := plain_of_stored submitted own.updateFilename
  exact absurd (plain ' ' (by decide)) (by decide)

/-- The server stores `app+2.bin` in its place. -/
example : (submitUpdate sampleEnvironment (updateForm 98304 blankFile) sampleState).toOption.map
    (·.2.update.updateFilename) = some (ascii "app+2.bin") := by
  decide

end UcosProxy.UpdateName
