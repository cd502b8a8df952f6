import UcosProxy.BoardsPage
import UcosProxy.CgiSafety
import UcosProxy.FormEncoding
import UcosProxy.TagScan

/-!
# From a new account to a login

`account.js` offers a new name and password to `account.cgi` when every character
passes `check_single`, and `index.js` compares what is typed at the login with what it
finds in `login.ajax`. In between the strings are encoded as a form, stored as the
server received them, printed, sent behind the tag of the page, and found again by a
regular expression.

`check_single` lets white space pass, because `isNaN` converts it to zero. White space
is what the form encoding changes and the server never restores, so
`login_accepts_iff` says that the way from the form to the login keeps a pair of
strings exactly when no white space is in it.

The response is ASCII, so that its characters are its bytes. Nothing else happens
between the two pages.
-/

namespace UcosProxy.AccountLogin

open Bytes UriParameters FormEncoding CgiAccess CgiHandlers CgiSafety TagScan BoardsPage

/-! ## The account page -/

/-- The characters that JavaScript strips when it converts a string to a number: white
space and the ends of lines. -/
def isStrWhiteSpace (letter : Char) : Bool :=
  [0x9, 0xa, 0xb, 0xc, 0xd, 0x20, 0xa0, 0x1680, 0x2028, 0x2029, 0x202f, 0x205f, 0x3000,
    0xfeff].contains letter.toNat || (0x2000 ≤ letter.toNat && letter.toNat ≤ 0x200a)

/-- `isNaN` of a single character: the empty text behind the stripping is zero, and of
the others only digits are numbers. -/
def isNaN (letter : Char) : Bool := !(isStrWhiteSpace letter || letter.isDigit)

/-- `check_single` -/
def checkSingle (letter : Char) : Bool :=
  if 'a' ≤ letter ∧ letter ≤ 'z' then true
  else if 'A' ≤ letter ∧ letter ≤ 'Z' then true
  else if !isNaN letter then true
  else false

/-- `check_username_passwd` -/
def checkUsernamePasswd (string : List Char) : Bool :=
  if string.length < 4 then false else string.all checkSingle

/-- The input takes the string, and the page offers to submit it. The page's own check lets
blanks through, which is where the stored and the shown string can part. -/
def Offered (string : List Char) : Prop :=
  checkUsernamePasswd string = true ∧ string.length ≤ 16

instance (string : List Char) : Decidable (Offered string) :=
  inferInstanceAs (Decidable (_ ∧ _))

/-- The form that `account.js` posts. -/
def accountForm (curUser curPasswd newUser newPasswd : List Char) : List Field :=
  [⟨"cur_user", curUser⟩, ⟨"cur_passwd", curPasswd⟩, ⟨"new_user", newUser⟩,
    ⟨"new_passwd", newPasswd⟩, ⟨"new_passwd_cfm", newPasswd⟩, ⟨"end", ['N', 'U', 'L', 'L']⟩]

/-- `account_cgi_interface` on the submitted form. -/
def submitAccount (env : Environment) (curUser curPasswd newUser newPasswd : List Char)
    (state : CgiState) : Except Fault (String × CgiState) :=
  accountCgiInterface env
    (extractUriParameters (param (accountForm curUser curPasswd newUser newPasswd))) state

/-! ## The login page -/

/-- `login_usrpasswd_ssi_handler` -/
def loginUsrpasswdSsiHandler (account : WebAccount) : List Byte :=
  ascii "username=" ++ account.username ++ ascii ";\npasswd=" ++ account.passwd ++ ascii ";\n"

/-- `assets/ajax/login.ajax` -/
def loginAjax : List Byte := ascii "\n<!--#login_usrpswd-->\n"

/-- What the server inserts for a tag of `login.ajax`. -/
def loginInsert (account : WebAccount) (tag : List Byte) : List Byte :=
  match findSsi tag with
  | some .loginUsrpasswd => loginUsrpasswdSsiHandler account
  | _ => []

/-- The text of an ASCII response. -/
def responseText (bytes : List Byte) : List Char := bytes.map fun byte => Char.ofNat byte.toNat

/-- The answer to `login.cgi`. -/
def loginData (account : WebAccount) : List Char :=
  responseText (sendTags (loginInsert account) .none loginAjax)

/-- The characters that a `.` does not match. -/
def isLineEnd (letter : Char) : Bool := [0xa, 0xd, 0x2028, 0x2029].contains letter.toNat

/-- `(.*);` at the head of a text: all of the line before its last semicolon. -/
def greedyValue (data : List Char) : Option (List Char) :=
  match (data.takeWhile (!isLineEnd ·)).reverse.dropWhile (· ≠ ';') with
  | [] => none
  | _ :: before => some before.reverse

/-- `getValue`: the first place where the expression matches, else the empty text. -/
def getValue (arg : List Char) : List Char → List Char
  | [] => []
  | letter :: rest =>
    match if (arg ++ ['=']).isPrefixOf (letter :: rest)
      then greedyValue ((letter :: rest).drop (arg.length + 1)) else none with
    | some value => value
    | none => getValue arg rest

/-- The click on `login_btn` leads to `main.html`. The page compares what was typed with the
values that it finds in the answer of `login.cgi`; the server itself admits nobody. -/
def LoginAccepts (account : WebAccount) (username passwd : List Char) : Prop :=
  username ≠ [] ∧ passwd ≠ [] ∧
    username = getValue "username".toList (loginData account) ∧
      passwd = getValue "passwd".toList (loginData account)

instance (account : WebAccount) (username passwd : List Char) :
    Decidable (LoginAccepts account username passwd) :=
  inferInstanceAs (Decidable (_ ∧ _ ∧ _ ∧ _))

/-- No white space is in the string. -/
def Plain (string : List Char) : Prop := ∀ letter ∈ string, isStrWhiteSpace letter = false

instance (string : List Char) : Decidable (Plain string) :=
  inferInstanceAs (Decidable (∀ letter ∈ string, _))

/-! ## What the server stores -/

/-- The server reads the form's fields with their encoded values. -/
theorem extract_accountForm (curUser curPasswd newUser newPasswd : List Char) :
    extractUriParameters (param (accountForm curUser curPasswd newUser newPasswd)) =
      (accountForm curUser curPasswd newUser newPasswd).map Field.read := by
  have names : ∀ name ∈ ["cur_user", "cur_passwd", "new_user", "new_passwd", "new_passwd_cfm", "end"],
      Uncut (ascii name) := by decide
  have own : ∀ field ∈ accountForm curUser curPasswd newUser newPasswd, Uncut (ascii field.name) := by
    intro field member
    apply names
    simp only [accountForm, List.mem_cons, List.not_mem_nil, or_false] at member ⊢
    rcases member with rfl | rfl | rfl | rfl | rfl | rfl <;> simp
  apply extractUriParameters_param _ _ _ own
  · simp [accountForm, maxCgiParameters]
  · simp [accountForm]

/-- What a copy leaves in the buffer. -/
theorem strcpy_eq_ok {size : Nat} {source copied : List Byte}
    (copies : strcpy size source = .ok copied) : copied = source := by
  unfold strcpy at copies
  split at copies
  · exact (Except.ok.inj copies).symm
  · cases copies

/-- A submission with success stores the encoded strings. -/
theorem submitAccount_stores {env : Environment} {curUser curPasswd newUser newPasswd : List Char}
    {state after : CgiState} {page : String}
    (submitted : submitAccount env curUser curPasswd newUser newPasswd state = .ok (page, after))
    (success : after.accountStatus = 0) :
    after.account = ⟨formValue newUser, formValue newPasswd⟩ := by
  have named : (accountForm curUser curPasswd newUser newPasswd).map Field.name =
      ["cur_user", "cur_passwd", "new_user", "new_passwd", "new_passwd_cfm", "end"] := rfl
  simp only [submitAccount, extract_accountForm, accountCgiInterface] at submitted
  rw [if_neg (by simp [accountForm])] at submitted
  obtain ⟨same, _, submitted⟩ := bind_eq_ok.mp submitted
  cases same with
  | false =>
    simp only [if_true] at submitted
    obtain rfl := (Prod.mk.inj (Except.ok.inj submitted)).2
    cases success
  | true =>
    simp only [Bool.true_eq_false, if_false] at submitted
    obtain ⟨user, readUser, submitted⟩ := bind_eq_ok.mp submitted
    obtain ⟨username, copiedUser, submitted⟩ := bind_eq_ok.mp submitted
    obtain ⟨passwd, readPasswd, submitted⟩ := bind_eq_ok.mp submitted
    obtain ⟨password, copiedPasswd, submitted⟩ := bind_eq_ok.mp submitted
    obtain rfl := (Prod.mk.inj (Except.ok.inj submitted)).2
    have newUserRead := valueOf_form "new_user" 2 named (by decide) rfl
    have newPasswdRead := valueOf_form "new_passwd" 3 named (by decide)
      rfl
    rw [newUserRead] at readUser
    rw [newPasswdRead] at readPasswd
    obtain rfl := Except.ok.inj readUser
    obtain rfl := Except.ok.inj readPasswd
    rw [strcpy_eq_ok copiedUser, strcpy_eq_ok copiedPasswd]

/-! ## What the login page finds -/

theorem responseText_append (before behind : List Byte) :
    responseText (before ++ behind) = responseText before ++ responseText behind :=
  List.map_append

/-- The answer: the page around the two strings, each behind its name. -/
theorem loginData_eq (account : WebAccount) :
    loginData account =
      "\n<!--#login_usrpswd-->username".toList ++ '=' :: responseText account.username ++
        ";\npasswd".toList ++ '=' :: responseText account.passwd ++ ";\n\n".toList := by
  have quiet : scanQuiet .none (ascii "\n<!--#login_usrpswd--") =
      some (.leadout (ascii "login_usrpswd") 2) := by decide
  have tag : scanByte (.leadout (ascii "login_usrpswd") 2) 62 =
      (.none, some (ascii "login_usrpswd")) := by decide
  have rest : scanQuiet .none [10] = some .none := by decide
  have page : loginAjax = ascii "\n<!--#login_usrpswd--" ++ 62 :: [10] := by decide
  have known : findSsi (ascii "login_usrpswd") = some .loginUsrpasswd := by decide
  have before : responseText (ascii "\n<!--#login_usrpswd--" ++ 62 :: ascii "username=") =
      "\n<!--#login_usrpswd-->username".toList ++ ['='] := by decide
  have between : responseText (ascii ";\npasswd=") = ";\npasswd".toList ++ ['='] := by
    decide
  have behind : responseText (ascii ";\n" ++ [10]) = ";\n\n".toList := by decide
  have whole : sendTags (loginInsert account) .none loginAjax =
      (ascii "\n<!--#login_usrpswd--" ++ 62 :: ascii "username=") ++ account.username ++
        ascii ";\npasswd=" ++ account.passwd ++ (ascii ";\n" ++ [10]) := by
    rw [page, sendTags_one (loginInsert account) quiet tag rest]
    simp only [loginInsert, known, loginUsrpasswdSsiHandler, List.append_assoc, List.cons_append]
  rw [loginData, whole]
  simp only [responseText_append] at before between behind ⊢
  rw [before, between, behind]
  simp only [List.append_assoc, List.singleton_append]

/-- The expression matches at the head of a text exactly when its name is all that
stands before the first equals sign. -/
theorem isPrefixOf_split (arg before rest : List Char) (plainArg : '=' ∉ arg)
    (plain : '=' ∉ before) :
    (arg ++ ['=']).isPrefixOf (before ++ '=' :: rest) = true ↔ arg = before := by
  rw [List.isPrefixOf_iff_prefix]
  constructor
  · rintro ⟨tail, same⟩
    have cut (text behind : List Char) (absent : '=' ∉ text) :
        (text ++ '=' :: behind).takeWhile (· ≠ '=') = text := by
      rw [List.takeWhile_append_of_pos]
      · simp
      · intro letter member
        exact decide_eq_true fun equals => absent (equals ▸ member)
    have heads := congrArg (List.takeWhile (· ≠ '=')) same
    rwa [List.append_assoc, List.singleton_append, cut arg tail plainArg, cut before rest plain]
      at heads
  · rintro rfl
    exact ⟨rest, by simp⟩

/-- A first equals sign that does not end the name is passed over. -/
theorem getValue_passed (arg before rest : List Char) (plainArg : '=' ∉ arg) (plain : '=' ∉ before)
    (other : ¬ arg <:+ before) : getValue arg (before ++ '=' :: rest) = getValue arg rest := by
  induction before with
  | nil =>
    have miss : ¬ (arg ++ ['=']).isPrefixOf ([] ++ '=' :: rest) = true := by
      rw [isPrefixOf_split arg [] rest plainArg plain]
      rintro rfl
      exact other List.suffix_rfl
    rw [List.nil_append] at miss ⊢
    rw [getValue, if_neg miss]
  | cons letter before inductionHypothesis =>
    have miss : ¬ (arg ++ ['=']).isPrefixOf ((letter :: before) ++ '=' :: rest) = true := by
      rw [isPrefixOf_split arg _ rest plainArg plain]
      rintro rfl
      exact other List.suffix_rfl
    rw [List.cons_append] at miss ⊢
    rw [getValue, if_neg miss]
    apply inductionHypothesis
    · exact fun member => plain (List.mem_cons_of_mem _ member)
    · exact fun suffix => other (suffix.trans (List.suffix_cons _ _))

/-- The value behind the name and the first equals sign is found. -/
theorem getValue_found (arg before rest value : List Char) (plainArg : '=' ∉ arg)
    (plain : '=' ∉ before) (greedy : greedyValue rest = some value) :
    getValue arg (before ++ arg ++ '=' :: rest) = value := by
  induction before with
  | nil =>
    have hit := (isPrefixOf_split arg arg rest plainArg plainArg).mpr rfl
    rw [List.nil_append]
    cases whole : arg ++ '=' :: rest with
    | nil => simp at whole
    | cons letter tail =>
      rw [whole] at hit
      have behind : (letter :: tail).drop (arg.length + 1) = rest := by
        rw [← whole, List.drop_append, Nat.add_sub_cancel_left]
        simp
      rw [getValue, if_pos hit, behind, greedy]
  | cons letter before inductionHypothesis =>
    have absent : '=' ∉ letter :: before ++ arg := by
      intro member
      rcases List.mem_append.mp member with inBefore | inArg
      · exact plain inBefore
      · exact plainArg inArg
    have miss : ¬ (arg ++ ['=']).isPrefixOf (letter :: before ++ arg ++ '=' :: rest) = true := by
      rw [isPrefixOf_split arg _ rest plainArg absent]
      intro same
      have lengths := congrArg List.length same
      simp at lengths
      omega
    simp only [List.cons_append] at miss ⊢
    rw [getValue, if_neg miss]
    exact inductionHypothesis fun member => plain (List.mem_cons_of_mem _ member)

/-- A value without an end of line runs up to the semicolon that ends its line. -/
theorem greedyValue_line (value rest : List Char) (line : ∀ letter ∈ value, isLineEnd letter = false) :
    greedyValue (value ++ ';' :: '\n' :: rest) = some value := by
  have kept : ∀ letter ∈ value ++ [';'], (!isLineEnd letter) = true := by
    intro letter member
    rcases List.mem_append.mp member with inValue | last
    · rw [line letter inValue]
      rfl
    · obtain rfl := List.mem_singleton.mp last
      decide
  have taken : (value ++ ';' :: '\n' :: rest).takeWhile (!isLineEnd ·) = value ++ [';'] := by
    have split : value ++ ';' :: '\n' :: rest = (value ++ [';']) ++ '\n' :: rest := by simp
    rw [split, List.takeWhile_append_of_pos kept]
    simp [isLineEnd]
  rw [greedyValue, taken, List.reverse_append, List.reverse_singleton, List.singleton_append,
    List.dropWhile_cons_of_neg (by simp)]
  simp

/-- White space is no printed character of ASCII. -/
theorem not_white_of_printed {letter : Char} (first : 33 ≤ letter.toNat) (last : letter.toNat ≤ 126) :
    isStrWhiteSpace letter = false := by
  rw [← Bool.not_eq_true]
  simp only [isStrWhiteSpace, Bool.or_eq_true, Bool.and_eq_true, decide_eq_true_eq,
    List.contains_eq_mem, List.mem_cons, List.not_mem_nil, or_false]
  omega

/-- The ends of lines are white space. -/
theorem not_lineEnd_of_printed {letter : Char} (first : 33 ≤ letter.toNat)
    (last : letter.toNat ≤ 126) : isLineEnd letter = false := by
  rw [← Bool.not_eq_true]
  simp only [isLineEnd, decide_eq_true_eq, List.contains_eq_mem, List.mem_cons, List.not_mem_nil,
    or_false]
  omega

/-- The characters of an encoded text are printed ones, and no equals sign is among
them. -/
theorem formText_letter {value : List Char} {letter : Char}
    (member : letter ∈ responseText (formValue value)) :
    (33 ≤ letter.toNat ∧ letter.toNat ≤ 126) ∧ letter ≠ '=' := by
  obtain ⟨byte, inside, rfl⟩ := List.mem_map.mp member
  have form := formValue_formByte value byte inside
  simp only [isFormByte, Bool.or_eq_true, decide_eq_true_eq] at form
  rcases form with (unreserved | rfl) | rfl
  · refine ⟨isUnreserved_printed unreserved, ?_⟩
    intro same
    rw [same] at unreserved
    exact absurd unreserved (by decide)
  · decide
  · decide

/-- The login page finds the encoded name and password. -/
theorem getValue_loginData (username passwd : List Char) :
    getValue "username".toList (loginData ⟨formValue username, formValue passwd⟩) =
        responseText (formValue username) ∧
      getValue "passwd".toList (loginData ⟨formValue username, formValue passwd⟩) =
        responseText (formValue passwd) := by
  have line (value : List Char) : ∀ letter ∈ responseText (formValue value),
      isLineEnd letter = false := by
    intro letter member
    have printed := (formText_letter member).1
    exact not_lineEnd_of_printed printed.1 printed.2
  have between : ";\npasswd".toList = ';' :: '\n' :: "passwd".toList := by decide
  have behind : ";\n\n".toList = ';' :: '\n' :: ['\n'] := by decide
  rw [loginData_eq]
  constructor
  · have head : "\n<!--#login_usrpswd-->username".toList =
        "\n<!--#login_usrpswd-->".toList ++ "username".toList := by decide
    have greedy := greedyValue_line (responseText (formValue username))
      ("passwd".toList ++ '=' :: responseText (formValue passwd) ++ ";\n\n".toList) (line username)
    have found := getValue_found "username".toList "\n<!--#login_usrpswd-->".toList _ _
      (by decide) (by decide) greedy
    simpa only [head, between, List.append_assoc, List.cons_append] using found
  · have passed := getValue_passed "passwd".toList "\n<!--#login_usrpswd-->username".toList
      (responseText (formValue username) ++ ";\n".toList ++ "passwd".toList ++
        '=' :: (responseText (formValue passwd) ++ ";\n\n".toList))
      (by decide) (by decide) (by decide)
    have greedy := greedyValue_line (responseText (formValue passwd)) ['\n'] (line passwd)
    have absent : '=' ∉ responseText (formValue username) ++ ";\n".toList := by
      intro member
      rcases List.mem_append.mp member with inValue | inEnd
      · exact (formText_letter inValue).2 rfl
      · exact absurd inEnd (by decide)
    rw [← behind] at greedy
    rw [getValue_found "passwd".toList _ _ _ (by decide) absent greedy] at passed
    have split : ";\npasswd".toList = ";\n".toList ++ "passwd".toList := by decide
    simpa only [split, List.append_assoc, List.cons_append] using passed

/-! ## What survives the way -/

/-- An offered character that is no white space is a letter or a digit. -/
theorem alphanum_of_checked {letter : Char} (checked : checkSingle letter = true)
    (plain : isStrWhiteSpace letter = false) : letter.isAlphanum = true := by
  simp only [checkSingle, isNaN, plain, Bool.false_or, Bool.not_not] at checked
  simp only [Char.isAlphanum, Char.isAlpha, Char.isUpper, Char.isLower, Bool.or_eq_true,
    Bool.and_eq_true, decide_eq_true_eq]
  split at checked
  · rename_i lower
    exact Or.inl (Or.inr lower)
  · split at checked
    · rename_i upper
      exact Or.inl (Or.inl upper)
    · split at checked
      · rename_i digit
        exact Or.inr digit
      · cases checked

/-- An offered string comes back from the form as it was exactly when no white space is
in it. -/
theorem formText_eq_iff {value : List Char} (offered : Offered value) :
    value = responseText (formValue value) ↔ Plain value := by
  constructor
  · intro same letter member
    rw [same] at member
    have printed := (formText_letter member).1
    exact not_white_of_printed printed.1 printed.2
  · intro plain
    have checked : ∀ letter ∈ value, checkSingle letter = true := by
      have accepted := offered.1
      unfold checkUsernamePasswd at accepted
      split at accepted
      · cases accepted
      · exact List.all_eq_true.mp accepted
    have kept (letter : Char) (member : letter ∈ value) :
        responseText (formLetter letter) = [letter] := by
      have alphanum := alphanum_of_checked (checked letter member) (plain letter member)
      have unreserved : isUnreserved letter = true := by
        simp only [isUnreserved, alphanum, Bool.true_or]
      have printed := isUnreserved_printed unreserved
      simp only [formLetter_unreserved unreserved, responseText, List.map_cons, List.map_nil,
        ofNat_byte (Nat.lt_of_le_of_lt printed.2 (by decide))]
    clear plain checked offered
    induction value with
    | nil => rfl
    | cons letter rest inductionHypothesis =>
      have further := inductionHypothesis fun other member => kept other (List.mem_cons_of_mem _ member)
      rw [formValue, List.flatMap_cons, responseText_append, kept letter List.mem_cons_self,
        List.singleton_append]
      exact congrArg _ further

/-- For every new name and password that the account page offers to submit, once the server
has stored them with success: the login page accepts them exactly when neither has white
space in it. The hypotheses are those of one finished change: the form was posted, its
handler came through, and it stored both strings. Nothing is asked of the old ones. -/
theorem login_accepts_iff (env : Environment) (state after : CgiState) (page : String)
    (curUser curPasswd newUser newPasswd : List Char) (offeredUser : Offered newUser)
    (offeredPasswd : Offered newPasswd)
    (submitted : submitAccount env curUser curPasswd newUser newPasswd state = .ok (page, after))
    (success : after.accountStatus = 0) :
    LoginAccepts after.account newUser newPasswd ↔ Plain newUser ∧ Plain newPasswd := by
  have typed (string : List Char) (offered : Offered string) : string ≠ [] := by
    rintro rfl
    exact absurd offered.1 (by decide)
  have found := getValue_loginData newUser newPasswd
  rw [submitAccount_stores submitted success, LoginAccepts, found.1, found.2,
    formText_eq_iff offeredUser, formText_eq_iff offeredPasswd]
  constructor
  · rintro ⟨_, _, user, passwd⟩
    exact ⟨user, passwd⟩
  · rintro ⟨user, passwd⟩
    exact ⟨typed newUser offeredUser, typed newPasswd offeredPasswd, user, passwd⟩

/-- The sample server behind a submission of the right old strings. -/
def withAccount (newUser newPasswd : List Char) : CgiState :=
  { sampleState with account := ⟨formValue newUser, formValue newPasswd⟩, accountStatus := 0 }

/-- The sample server stores new strings of up to sixteen encoded bytes. -/
theorem admin_submits (newUser newPasswd : List Char) (user : (formValue newUser).length < 64)
    (passwd : (formValue newPasswd).length < 64) :
    submitAccount sampleEnvironment "admin".toList "admin".toList newUser newPasswd sampleState =
      .ok ("/assets/ajax/account.ajax", withAccount newUser newPasswd) := by
  have named : (accountForm "admin".toList "admin".toList newUser newPasswd).map Field.name =
      ["cur_user", "cur_passwd", "new_user", "new_passwd", "new_passwd_cfm", "end"] := rfl
  have admin : formValue "admin".toList = ascii "admin" := by decide
  have curUser := valueOf_form "cur_user" 0 named (by decide) rfl
  have curPasswd := valueOf_form "cur_passwd" 1 named (by decide) rfl
  have newUserRead := valueOf_form "new_user" 2 named (by decide) rfl
  have newPasswdRead := valueOf_form "new_passwd" 3 named (by decide) rfl
  have matching : accountMatches ((accountForm "admin".toList "admin".toList newUser newPasswd).map
      Field.read) sampleState.account = .ok true := by
    simp only [accountMatches, curUser, curPasswd, admin, ok_bind, sampleState]
    rw [if_neg (by simp)]
    simp
  simp only [submitAccount, extract_accountForm, accountCgiInterface]
  rw [if_neg (by simp [accountForm]), matching]
  simp only [ok_bind, Bool.true_eq_false, if_false, newUserRead, newPasswdRead, strcpy, user, passwd,
    if_true, withAccount]

/-- A name and a password of letters and digits are accepted. -/
theorem plainAccount_accepted :
    LoginAccepts (withAccount "user".toList "pass1".toList).account "user".toList "pass1".toList ↔
      Plain "user".toList ∧ Plain "pass1".toList :=
  login_accepts_iff sampleEnvironment sampleState _ _ "admin".toList "admin".toList "user".toList
    "pass1".toList (by decide) (by decide)
    (admin_submits _ _ (by decide) (by decide)) rfl

/-- A name with a blank is offered and stored, and then not accepted. -/
theorem login_does_not_always_accept :
    ¬ ∀ (env : Environment) (state after : CgiState) (page : String)
        (curUser curPasswd newUser newPasswd : List Char),
      Offered newUser → Offered newPasswd →
        submitAccount env curUser curPasswd newUser newPasswd state = .ok (page, after) →
          after.accountStatus = 0 → LoginAccepts after.account newUser newPasswd := by
  intro accepts
  have accepted := accepts sampleEnvironment sampleState _ _ "admin".toList "admin".toList
    "my user".toList "pass1".toList (by decide) (by decide)
    (admin_submits _ _ (by decide) (by decide)) rfl
  have found := (getValue_loginData "my user".toList "pass1".toList).1
  have same : "my user".toList = responseText (formValue "my user".toList) :=
    accepted.2.2.1.trans found
  exact absurd same (by decide)

end UcosProxy.AccountLogin
