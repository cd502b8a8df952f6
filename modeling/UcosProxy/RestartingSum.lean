import UcosProxy.Bytes

/-!
# A checksum that restarts whenever it is zero

A stored file arrives in pages. A head of fixed size stands at the front of the
file and a running sum covers the bytes behind it. The digest below does not
count pages: it takes a running sum of zero as the sign that nothing was summed
yet, copies the head from the page at hand and leaves that page's head out of the
sum. Whenever the sum is zero at a later page boundary the digest restarts there.

The digest agrees with the file, head and sum, exactly when its restarts do no
harm: the first page holds a whole head, and a page that meets a zero sum brings
zero bytes where a head would stand and, as the last page, completes them to the
first head again. The exactness needs two facts about the setting: the bytes that
all restarts together could leave out stay below the modulus, and the head finally
held is not made of zeros. `current` gives the other view of the same digest, the
pages since the last restart, whose head and tail sum it always holds.

Sizes, moduli and page contents are arbitrary, and the page behind a short
payload may hold any bytes.
-/

namespace UcosProxy.RestartingSum

open Bytes

/-- A page as it stands in memory, and how many of its bytes are payload. The bytes behind
the payload are there too, since a head is read from memory whatever the payload is. -/
structure Page where
  bytes : List Byte
  len : Nat
deriving DecidableEq

/-- The payload of a page. -/
def Page.payload (page : Page) : List Byte := page.bytes.take page.len

/-- Take one page: a zero sum copies the head and sums the rest, another sum
grows by the whole payload. -/
def absorb (size modulus : Nat) (state : List Byte × Nat) (page : Page) : List Byte × Nat :=
  if state.2 = 0 then (page.bytes.take size, byteSum (page.payload.drop size) % modulus)
  else (state.1, (state.2 + byteSum page.payload) % modulus)

/-- Head and sum after some pages. -/
def digest (size modulus : Nat) (start : List Byte) (pages : List Page) : List Byte × Nat :=
  pages.foldl (absorb size modulus) (start, 0)

/-- The file that the pages carry. -/
def file (pages : List Page) : List Byte := pages.flatMap Page.payload

/-- The sum of the bytes behind the head of the file. -/
def tailSum (size modulus : Nat) (pages : List Page) : Nat :=
  byteSum ((file pages).drop size) % modulus

/-- The pages since the last restart. -/
def current (size modulus : Nat) (pages : List Page) : List Page :=
  pages.foldl
    (fun image page => if tailSum size modulus image = 0 then [page] else image ++ [page]) []

/-- Every page but the last has room for a head in its payload. It is what makes a head lie
inside the payload of every page that another one follows. -/
def FullBeforeLast (size : Nat) (pages : List Page) : Prop :=
  ∀ page ∈ pages.dropLast, size ≤ page.payload.length

/-- Behind every zero sum stands a page that begins with zero bytes only. A restart takes
its head away from the sum, and zero bytes are all that can be taken away without a trace. -/
def ZeroRestarts (size modulus : Nat) (pages : List Page) : Prop :=
  ∀ before page after, pages = before ++ page :: after → before ≠ [] →
    tailSum size modulus before = 0 → byteSum (page.payload.take size) = 0

/-- The head is taken once: the first page holds it whole, and no restart can be told from
the file. Restarts may happen. They do no harm when the bytes that they take for a head sum
up to nothing and the head that counts is the first one again. -/
def HeadOnce (size modulus : Nat) (pages : List Page) : Prop :=
  ∃ first rest, pages = first :: rest ∧ size ≤ first.payload.length ∧
    ZeroRestarts size modulus pages ∧
    ∀ before page, pages = before ++ [page] → before ≠ [] → tailSum size modulus before = 0 →
      page.bytes.take size = first.bytes.take size

variable {size modulus : Nat}

/-- The digest takes the last page last. -/
theorem digest_snoc (start : List Byte) (pages : List Page) (page : Page) :
    digest size modulus start (pages ++ [page]) =
      absorb size modulus (digest size modulus start pages) page := by
  simp [digest, List.foldl_append]

/-- The file grows by the payload of the last page. -/
theorem file_snoc (pages : List Page) (page : Page) :
    file (pages ++ [page]) = file pages ++ page.payload := by
  simp [file]

/-- A digest sum is reduced. -/
theorem digest_lt (positive : 0 < modulus) (start : List Byte) (pages : List Page) :
    (digest size modulus start pages).2 < modulus := by
  induction pages using List.reverseRecOn with
  | nil => exact positive
  | append_singleton pages page inductionHypothesis =>
    rw [digest_snoc, absorb]
    split <;> exact Nat.mod_lt _ positive

/-- Behind a whole head the tail sum grows by the payload. -/
theorem tailSum_snoc (pages : List Page) (page : Page)
    (covered : size ≤ (file pages).length) :
    tailSum size modulus (pages ++ [page]) =
      (tailSum size modulus pages + byteSum page.payload) % modulus := by
  rw [tailSum, file_snoc, List.drop_append_of_le_length covered, byteSum_append, tailSum,
    Nat.mod_add_mod]

/-- A first page with a whole head covers the head of the file. -/
theorem file_covers (first : Page) (rest : List Page) (long : size ≤ first.payload.length) :
    size ≤ (file (first :: rest)).length := by
  simp only [file, List.flatMap_cons, List.length_append]
  omega

/-- A payload with room for a head begins with the head of its page. -/
theorem payload_take (page : Page) (long : size ≤ page.payload.length) :
    page.payload.take size = page.bytes.take size := by
  simp only [Page.payload, List.length_take] at long
  rw [Page.payload, List.take_take, Nat.min_eq_left (by omega)]

/-- The head of the file is the head of a first page that holds one. -/
theorem file_take (first : Page) (rest : List Page) (long : size ≤ first.payload.length) :
    (file (first :: rest)).take size = first.bytes.take size := by
  rw [file, List.flatMap_cons, List.take_append_of_le_length long, payload_take first long]

/-- The pages since the last restart, after one more page. -/
theorem current_snoc (pages : List Page) (page : Page) :
    current size modulus (pages ++ [page]) =
      if tailSum size modulus (current size modulus pages) = 0 then [page]
      else current size modulus pages ++ [page] := by
  rw [current, List.foldl_append]
  rfl

/-- The pages since the last restart close the list. -/
theorem current_suffix (pages : List Page) : current size modulus pages <:+ pages := by
  induction pages using List.reverseRecOn with
  | nil => exact List.suffix_rfl
  | append_singleton pages page inductionHypothesis =>
    rw [current_snoc]
    split
    · exact List.suffix_append pages [page]
    · obtain ⟨skipped, whole⟩ := inductionHypothesis
      exact ⟨skipped, by rw [← List.append_assoc, whole]⟩

/-- Some page stands since the last restart. -/
theorem current_ne_nil (pages : List Page) (page : Page) :
    current size modulus (pages ++ [page]) ≠ [] := by
  rw [current_snoc]
  split <;> simp

/-- The head held is the head of the first page since the last restart, and the
sum is the tail sum of the pages since then. -/
theorem digest_current (start : List Byte) (pages : List Page) (nonempty : pages ≠ [])
    (full : FullBeforeLast size pages) :
    digest size modulus start pages =
      (((current size modulus pages).headD ⟨[], 0⟩).bytes.take size,
        tailSum size modulus (current size modulus pages)) := by
  induction pages using List.reverseRecOn with
  | nil => exact False.elim (nonempty rfl)
  | append_singleton pages page inductionHypothesis =>
    rw [digest_snoc, current_snoc]
    rcases List.eq_nil_or_concat pages with rfl | ⟨shorter, last, rfl⟩
    · simp [digest, current, absorb, tailSum, file]
    · rw [List.concat_eq_append] at *
      have room : ∀ other ∈ shorter ++ [last], size ≤ other.payload.length := by
        simpa only [FullBeforeLast, List.dropLast_concat] using full
      have inner := inductionHypothesis (by simp)
        (fun other member => room other (List.dropLast_subset _ member))
      have someImage : current size modulus (shorter ++ [last]) ≠ [] := current_ne_nil shorter last
      have suffix : current size modulus (shorter ++ [last]) <:+ shorter ++ [last] :=
        current_suffix (shorter ++ [last])
      obtain ⟨first, rest, split⟩ := List.exists_cons_of_ne_nil someImage
      have member : first ∈ shorter ++ [last] := suffix.subset (split ▸ List.mem_cons_self)
      have covered : size ≤ (file (first :: rest)).length :=
        file_covers first rest (room first member)
      rw [inner, absorb, split]
      by_cases restarted : tailSum size modulus (first :: rest) = 0
      · rw [if_pos restarted, if_pos restarted]
        simp [tailSum, file]
      · rw [if_neg restarted, if_neg restarted, tailSum_snoc _ page covered]
        rfl

/-- Restarts of a whole are restarts of a prefix. -/
theorem ZeroRestarts.before (front back : List Page)
    (zero : ZeroRestarts size modulus (front ++ back)) : ZeroRestarts size modulus front := by
  intro before page after split
  exact zero before page (after ++ back) (by simp [split])

/-- One page: the digest is the tail sum of that page. -/
theorem digest_first (start : List Byte) (first : Page) :
    digest size modulus start [first] =
      (first.bytes.take size, tailSum size modulus [first]) := by
  simp [digest, absorb, tailSum, file]

/-- What the restarts leave out. The digest sum and the bytes skipped make the
tail sum, the skipped bytes are bounded by the number of later pages, and nothing
skipped means that every restart met zero bytes.

Induct on the pages taken. A page that restarts the digest adds the sum of its
head to the skipped bytes; any other page adds its payload to both sums. -/
theorem digest_skips (positive : 0 < modulus) (start : List Byte) (first : Page)
    (rest : List Page) (long : size ≤ first.payload.length) :
    ∃ skipped ≤ 255 * size * rest.length,
      ((digest size modulus start (first :: rest)).2 + skipped) % modulus =
        tailSum size modulus (first :: rest) ∧
      (skipped = 0 → ZeroRestarts size modulus (first :: rest)) := by
  induction rest using List.reverseRecOn with
  | nil =>
    refine ⟨0, Nat.zero_le _, ?_, ?_⟩
    · rw [digest_first]
      exact Nat.mod_eq_of_lt (Nat.mod_lt _ positive)
    · intro _ before page after split nonempty
      cases before with
      | nil => exact False.elim (nonempty rfl)
      | cons head tail => simp at split
  | append_singleton rest page inductionHypothesis =>
    obtain ⟨skipped, bound, sums, restarts⟩ := inductionHypothesis
    have reduced : (digest size modulus start (first :: rest)).2 < modulus :=
      digest_lt positive start (first :: rest)
    have covered : size ≤ (file (first :: rest)).length := file_covers first rest long
    have grown : tailSum size modulus (first :: rest ++ [page]) =
        (tailSum size modulus (first :: rest) + byteSum page.payload) % modulus :=
      tailSum_snoc (first :: rest) page covered
    have parts := byteSum_take_drop size page.payload
    have headBound : byteSum (page.payload.take size) ≤ 255 * size :=
      Nat.le_trans (byteSum_le _) (Nat.mul_le_mul_left 255 (List.length_take_le size page.payload))
    have lengths : 255 * size * (rest ++ [page]).length = 255 * size * rest.length + 255 * size := by
      simp [Nat.mul_add]
    -- a split of the longer list is at its last page or inside the shorter one
    have splits (zero : ZeroRestarts size modulus (first :: rest))
        (last : tailSum size modulus (first :: rest) = 0 → byteSum (page.payload.take size) = 0) :
        ZeroRestarts size modulus (first :: rest ++ [page]) := by
      intro before next after split nonempty boundary
      rcases List.eq_nil_or_concat after with rfl | ⟨shorter, final, rfl⟩
      · obtain ⟨rfl, same⟩ := List.append_inj' split rfl
        obtain rfl : page = next := List.singleton_inj.mp same
        exact last boundary
      · have same : first :: rest ++ [page] = (before ++ next :: shorter) ++ [final] := by
          simpa using split
        exact zero before next shorter (List.append_inj' same rfl).1 nonempty boundary
    change ∃ skipped ≤ _, ((digest size modulus start (first :: rest ++ [page])).2 + skipped) %
      modulus = tailSum size modulus (first :: rest ++ [page]) ∧
        (skipped = 0 → ZeroRestarts size modulus (first :: rest ++ [page]))
    rw [digest_snoc, grown, absorb]
    by_cases restarted : (digest size modulus start (first :: rest)).2 = 0
    · rw [if_pos restarted]
      rw [restarted, Nat.zero_add] at sums
      refine ⟨skipped + byteSum (page.payload.take size), by omega, ?_, ?_⟩
      · rw [← sums, Nat.mod_add_mod, Nat.mod_add_mod]
        congr 1
        omega
      · intro nothing
        refine splits (restarts (by omega)) ?_
        intro _
        omega
    · rw [if_neg restarted]
      refine ⟨skipped, by omega, ?_, ?_⟩
      · rw [← sums, Nat.mod_add_mod, Nat.mod_add_mod]
        congr 1
        omega
      · intro nothing
        refine splits (restarts nothing) ?_
        intro boundary
        rw [nothing, Nat.add_zero, Nat.mod_eq_of_lt reduced, boundary] at sums
        exact False.elim (restarted sums)

/-- Without harmful restarts the digest sum is the tail sum. -/
theorem digest_tracks (start : List Byte) (first : Page)
    (rest : List Page) (long : size ≤ first.payload.length)
    (zero : ZeroRestarts size modulus (first :: rest)) :
    (digest size modulus start (first :: rest)).2 = tailSum size modulus (first :: rest) := by
  induction rest using List.reverseRecOn with
  | nil => rw [digest_first]
  | append_singleton rest page inductionHypothesis =>
    have covered : size ≤ (file (first :: rest)).length := file_covers first rest long
    have same := inductionHypothesis (ZeroRestarts.before _ [page] zero)
    have parts := byteSum_take_drop size page.payload
    have headZero := zero (first :: rest) page [] rfl (by simp)
    rw [← List.cons_append, digest_snoc, tailSum_snoc _ page covered, absorb, same]
    by_cases restarted : tailSum size modulus (first :: rest) = 0
    · rw [if_pos restarted, restarted, ← parts, headZero restarted, Nat.zero_add, Nat.zero_add]
    · rw [if_neg restarted]

/-- Over pages with room for a head, the head held is the first one or zeros. -/
theorem digest_head (start : List Byte) (first : Page)
    (rest : List Page) (long : size ≤ first.payload.length)
    (full : ∀ page ∈ rest, size ≤ page.payload.length)
    (zero : ZeroRestarts size modulus (first :: rest)) :
    (digest size modulus start (first :: rest)).1 = first.bytes.take size ∨
      byteSum (digest size modulus start (first :: rest)).1 = 0 := by
  induction rest using List.reverseRecOn with
  | nil => exact Or.inl (by rw [digest_first])
  | append_singleton rest page inductionHypothesis =>
    have shorter : ZeroRestarts size modulus (first :: rest) := ZeroRestarts.before _ [page] zero
    have tracked := digest_tracks start first rest long shorter
    have room : size ≤ page.payload.length := full page (by simp)
    rw [← List.cons_append, digest_snoc, absorb, tracked]
    by_cases restarted : tailSum size modulus (first :: rest) = 0
    · rw [if_pos restarted]
      right
      have headZero := zero (first :: rest) page [] rfl (by simp) restarted
      rwa [payload_take page room] at headZero
    · rw [if_neg restarted]
      exact inductionHypothesis (fun other member => full other (by simp [member])) shorter

/-- A sum that is unchanged by adding less than the modulus had nothing added. -/
theorem added_nothing {sum added : Nat} (reduced : sum < modulus) (small : added < modulus)
    (same : (sum + added) % modulus = sum) : added = 0 := by
  by_cases inside : sum + added < modulus
  · rw [Nat.mod_eq_of_lt inside] at same
    omega
  · rw [Nat.mod_eq_sub_mod (Nat.le_of_not_lt inside), Nat.mod_eq_of_lt (by omega)] at same
    omega

/-- The digest is the file's head and tail sum exactly when the head is taken
once, provided the head held is not all zeros and the restarts cannot skip a
whole modulus.

Forward: agreement of the sums leaves nothing to skip, so every zero boundary met
zero bytes; the sums then agree at every boundary, and a zero boundary before the
last page makes that page the one the head was copied from. Backward: the sums
agree along the pages, and the only copies that differ from the first head are
zeros, which the head held is not. -/
theorem digest_exact (positive : 0 < modulus) (start : List Byte) (pages : List Page)
    (nonempty : pages ≠ []) (full : FullBeforeLast size pages)
    (small : 255 * size * pages.length < modulus)
    (held : byteSum (digest size modulus start pages).1 ≠ 0) :
    (size ≤ (file pages).length ∧
      (digest size modulus start pages).1 = (file pages).take size ∧
      (digest size modulus start pages).2 = tailSum size modulus pages) ↔
        HeadOnce size modulus pages := by
  obtain ⟨first, rest, rfl⟩ := List.exists_cons_of_ne_nil nonempty
  constructor
  · rintro ⟨covered, sameHead, sameSum⟩
    have long : size ≤ first.payload.length := by
      cases rest with
      | nil => simpa [file] using covered
      | cons second later => exact full first (by simp)
    obtain ⟨skipped, bound, sums, restarts⟩ := digest_skips positive start first rest long
    have skippedSmall : skipped < modulus := by
      have lengths : 255 * size * (first :: rest).length = 255 * size * rest.length + 255 * size := by
        simp [Nat.mul_add]
      omega
    have nothing : skipped = 0 :=
      added_nothing (digest_lt positive start (first :: rest)) skippedSmall (sums.trans sameSum.symm)
    have zero : ZeroRestarts size modulus (first :: rest) := restarts nothing
    refine ⟨first, rest, rfl, long, zero, ?_⟩
    intro before page split someBefore boundary
    obtain ⟨head, tail, rfl⟩ := List.exists_cons_of_ne_nil someBefore
    have sameFirst : head = first := by
      rw [List.cons_append] at split
      exact (List.cons.inj split).1.symm
    subst sameFirst
    have tracked := digest_tracks start head tail long
      (ZeroRestarts.before _ [page] (split ▸ zero))
    have copied : (digest size modulus start (head :: rest)).1 = page.bytes.take size := by
      rw [split, digest_snoc, absorb, tracked, if_pos boundary]
    rw [← copied, sameHead, file_take head rest long]
  · rintro ⟨head, tail, same, long, zero, lastHead⟩
    obtain ⟨rfl, rfl⟩ := List.cons.inj same
    refine ⟨file_covers first rest long, ?_, digest_tracks start first rest long zero⟩
    rw [file_take first rest long]
    rcases List.eq_nil_or_concat rest with rfl | ⟨shorter, last, rfl⟩
    · rw [digest_first]
    · rw [List.concat_eq_append, ← List.cons_append] at *
      have shorterZero : ZeroRestarts size modulus (first :: shorter) :=
        ZeroRestarts.before _ [last] zero
      have shorterFull : ∀ page ∈ shorter, size ≤ page.payload.length := by
        intro page member
        refine full page ?_
        rw [List.dropLast_concat]
        exact List.mem_cons_of_mem first member
      have tracked := digest_tracks start first shorter long shorterZero
      rw [digest_snoc, absorb, tracked] at held ⊢
      by_cases restarted : tailSum size modulus (first :: shorter) = 0
      · rw [if_pos restarted] at held ⊢
        exact lastHead (first :: shorter) last rfl (by simp) restarted
      · rw [if_neg restarted] at held ⊢
        rcases digest_head start first shorter long shorterFull shorterZero with same | zeros
        · exact same
        · exact False.elim (held zeros)

end UcosProxy.RestartingSum
