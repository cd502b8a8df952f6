import UcosProxy.HttpFiles
import UcosProxy.Holdings
import Mathlib.Data.List.FinRange

/-!
# The table of open files

`fs.c` has room for ten open files. `fs_open` takes the first free entry and then looks for
the name, so that a name that is not in the image gives its entry back, and an image with
the name is not enough when no entry is free.

`http_find_file` tries one name after the other. Together its calls take one entry, that of
the file it finds, or none. What a connection gets to see of the table is therefore
`fsOpenIn`: the image while an entry is free, and nothing otherwise.
-/

namespace UcosProxy.HttpSend

open Bytes Holdings

/-- `LWIP_MAX_OPEN_FILES` -/
def maxOpenFiles : Nat := 10

/-- `fs_memory`: which entries are in use. -/
abbrev FsMemory : Type := Fin maxOpenFiles → Bool

/-- `fs_malloc`, as the entry it returns. The first free entry is taken. -/
def fsMalloc (memory : FsMemory) : Option (Fin maxOpenFiles) :=
  (List.finRange maxOpenFiles).find? fun entry => !memory entry

/-- `fs_free` -/
def fsFree (memory : FsMemory) (entry : Fin maxOpenFiles) : FsMemory :=
  Function.update memory entry false

/-- The list behind `FS_ROOT`. -/
abbrev Image : Type := List (List Byte × FsFile)

/-- The first file with a name. -/
def Image.file (image : Image) (name : List Byte) : Option FsFile :=
  (image.find? fun entry => entry.1 = name).map Prod.snd

/-- `fs_open`. The entry is taken before the name is looked up, and given back when there is
no such file. -/
def fsOpen (image : Image) (memory : FsMemory) (name : List Byte) :
    Option (FsFile × Fin maxOpenFiles) × FsMemory :=
  match fsMalloc memory with
  | none => (none, memory)
  | some entry =>
    let taken := Function.update memory entry true
    match image.file name with
    | some file => (some (file, entry), taken)
    | none => (none, fsFree taken entry)

/-- `fs_open` as its callers see it. -/
def fsOpenIn (image : Image) (memory : FsMemory) (name : List Byte) : Option FsFile :=
  (fsOpen image memory name).1.map Prod.fst

/-- One name after the other, until one can be opened. -/
def openNames (image : Image) (memory : FsMemory) :
    List (List Byte) → Option (FsFile × Fin maxOpenFiles) × FsMemory
  | [] => (none, memory)
  | name :: rest =>
    match fsOpen image memory name with
    | (some opened, behind) => (some opened, behind)
    | (none, behind) => openNames image behind rest

/-- The names that `http_find_file` tries to open. -/
def namesFor {World : Type} (cgis : Cgis World) (world : World) (uri : List Byte) :
    List (List Byte) :=
  (if uri = ascii "/" then defaultFilenames.map Prod.fst else [(cgiName cgis world uri).1]) ++
    [ascii "/404.html", ascii "/404.htm", ascii "/404.shtml"]

section table
variable {image : Image} {memory : FsMemory} {entry : Fin maxOpenFiles} {name : List Byte}

theorem fsMalloc_free (found : fsMalloc memory = some entry) : memory entry = false := by
  simpa using List.find?_some found

theorem fsMalloc_eq_none (full : fsMalloc memory = none) (entry : Fin maxOpenFiles) :
    memory entry = true := by
  simpa using List.find?_eq_none.mp full entry (List.mem_finRange entry)

/-- An entry that was free is free again when the name is not found. -/
theorem fsFree_taken (free : memory entry = false) :
    fsFree (Function.update memory entry true) entry = memory := by
  rw [fsFree, Function.update_idem, ← free, Function.update_eq_self]

/-- The ways through `fs_open`. -/
theorem fsOpen_cases (image : Image) (memory : FsMemory) (name : List Byte) :
    fsOpen image memory name = (none, memory) ∧ fsOpenIn image memory name = none ∨
    ∃ file entry, memory entry = false ∧ image.file name = some file ∧
      fsOpen image memory name = (some (file, entry), Function.update memory entry true) ∧
      fsOpenIn image memory name = some file := by
  unfold fsOpenIn fsOpen
  cases found : fsMalloc memory with
  | none => exact .inl ⟨rfl, rfl⟩
  | some entry =>
    have free := fsMalloc_free found
    cases there : image.file name with
    | none => exact .inl ⟨congrArg _ (fsFree_taken free), rfl⟩
    | some file => exact .inr ⟨file, entry, free, rfl, rfl, rfl⟩

/-- While an entry is free all of the image can be opened, and otherwise nothing. -/
theorem fsOpenIn_eq (image : Image) (memory : FsMemory) :
    fsOpenIn image memory = if fsMalloc memory = none then fun _ => none else image.file := by
  funext name
  unfold fsOpenIn fsOpen
  cases fsMalloc memory with
  | none => rfl
  | some entry =>
    rw [if_neg (Option.some_ne_none entry)]
    cases image.file name <;> rfl

/-- What can be opened is in the image. -/
theorem file_of_fsOpenIn {file : FsFile} (opened : fsOpenIn image memory name = some file) :
    image.file name = some file := by
  rcases fsOpen_cases image memory name with ⟨_, none⟩ | ⟨other, _, _, there, _, same⟩
  · cases none.symm.trans opened
  · rwa [← same.symm.trans opened]

/-- The calls for a row of names take the entry of the file that they find, and no other. -/
theorem openNames_cases (image : Image) (memory : FsMemory) (names : List (List Byte)) :
    openNames image memory names = (none, memory) ∧
        openFirst (fsOpenIn image memory) names = none ∨
    ∃ file entry name, memory entry = false ∧
      openNames image memory names = (some (file, entry), Function.update memory entry true) ∧
      openFirst (fsOpenIn image memory) names = some (file, name) := by
  induction names with
  | nil => exact .inl ⟨rfl, rfl⟩
  | cons name rest inductionHypothesis =>
    unfold openNames openFirst
    rcases fsOpen_cases image memory name with ⟨same, none⟩ | ⟨file, entry, free, _, same, opened⟩
    · rw [same, List.findSome?_cons, none]
      exact inductionHypothesis
    · rw [same, List.findSome?_cons, opened]
      exact .inr ⟨file, entry, name, free, rfl, rfl⟩

end table

section find
variable {World : Type} (fsOpen : List Byte → Option FsFile) (cgis : Cgis World)

/-- `http_init_file` takes the file that it is given, and counts the retries anew. -/
theorem httpInitFile_fresh (hs : HttpState) (file : Option FsFile) (is09 : Bool)
    (uri : Option (List Byte)) :
    (httpInitFile hs file is09 uri).handle = file ∧ (httpInitFile hs file is09 uri).retries = 0 := by
  have headers (opened : HttpState) : (getHttpHeaders opened uri).handle = opened.handle ∧
      (getHttpHeaders opened uri).retries = opened.retries := by
    unfold getHttpHeaders
    split
    · exact ⟨rfl, rfl⟩
    · split <;> exact ⟨rfl, rfl⟩
  have skipped (opened : HttpState) (file : FsFile) :
      (skipHeader opened file).handle = opened.handle ∧
        (skipHeader opened file).retries = opened.retries := by
    unfold skipHeader
    split <;> exact ⟨rfl, rfl⟩
  cases file with
  | none => exact headers _
  | some file =>
    simp only [httpInitFile]
    split
    · split
      · exact skipped _ _
      · exact ⟨rfl, rfl⟩
    · exact headers _

theorem openFirst_append (front behind : List (List Byte)) :
    openFirst fsOpen (front ++ behind) =
      (openFirst fsOpen front).or (openFirst fsOpen behind) := by
  rw [openFirst, List.findSome?_append]
  rfl

/-- A connection is set up for the file of the first name that can be opened. -/
theorem httpFindFile_init (hs : HttpState) (world : World) (uri : List Byte) (is09 : Bool) :
    ∃ before name, (httpFindFile fsOpen cgis hs world uri is09).1 =
      httpInitFile before ((openFirst fsOpen (namesFor cgis world uri)).map Prod.fst) is09 name := by
  unfold httpFindFile namesFor
  rw [openFirst_append]
  split
  · simp only [findRoot]
    split
    · rename_i file name found
      rw [found]
      exact ⟨_, _, rfl⟩
    · rename_i none
      rw [none, Option.none_or]
      unfold httpGet404File
      split <;> rename_i found <;> rw [found] <;> exact ⟨_, _, rfl⟩
  · have single : openFirst fsOpen [(cgiName cgis world uri).1] =
        (fsOpen (cgiName cgis world uri).1).map (·, (cgiName cgis world uri).1) := by
      unfold openFirst
      rw [List.findSome?_cons]
      cases fsOpen (cgiName cgis world uri).1 <;> rfl
    rw [single]
    simp only [findName, httpGet404File]
    split <;> rename_i found <;> rw [found] <;> exact ⟨_, _, rfl⟩

/-- The connection has the file that could be opened, and counts its retries anew. -/
theorem httpFindFile_fresh (hs : HttpState) (world : World) (uri : List Byte) (is09 : Bool) :
    (httpFindFile fsOpen cgis hs world uri is09).1.handle =
        (openFirst fsOpen (namesFor cgis world uri)).map Prod.fst ∧
      (httpFindFile fsOpen cgis hs world uri is09).1.retries = 0 := by
  obtain ⟨before, name, same⟩ := httpFindFile_init fsOpen cgis hs world uri is09
  rw [same]
  exact httpInitFile_fresh _ _ _ _

end find

end UcosProxy.HttpSend
