import ApiStubs.FileTree
import Mathlib.Data.List.Infix
import Mathlib.Data.List.DropRight

/-!
# Writing files

A write gives one file a text. It makes no directory, so every path leads where it led before, and
every other path can be written exactly if it could be before.

* `isDirectory_mono`: what is above a directory is a directory;
* `isDirectory_dropLast`: what a path leads to lies in a directory;
* `isDirectory_put`, `locate?_put`: a write changes neither directories nor where paths lead;
* `isWritable_write?`, `read?_write?_self`, `read?_write?_of_ne`: writing and reading after a write;
* `write?_eq_self_iff`: the writes that change nothing.
-/

namespace ApiStubs.FileTree

variable {t : FileTree} {l : Location}

/-! ### Directories -/

/-- What is above a directory is a directory. -/
theorem isDirectory_mono {k : Location} (h : t.isDirectory l = true) (hk : k <+: l) :
    t.isDirectory k = true := by
  simp only [isDirectory, Bool.or_eq_true, List.any_eq_true, List.isPrefixOf_iff_prefix] at h ⊢
  rcases h with h | ⟨file, hf, h⟩
  · exact .inl (hk.trans h)
  · exact .inr ⟨file, hf, hk.trans h⟩

theorem isDirectory_start (t : FileTree) (path : String) :
    t.isDirectory (if Path.isAbsolute path then [] else t.home) = true := by
  unfold isDirectory
  rw [Bool.or_eq_true]
  left
  rw [List.isPrefixOf_iff_prefix]
  split
  · exact List.nil_prefix
  · exact List.prefix_rfl

/-- A step starts in a directory and leads to something in a directory. -/
theorem isDirectory_dropLast_of_step? {here : Location} {name : String}
    (h : t.step? here name = some l) : t.isDirectory l.dropLast = true := by
  unfold step? at h
  by_cases hd : t.isDirectory here = true
  · rw [hd] at h
    simp only [Bool.not_true, Bool.false_eq_true, if_false] at h
    have habove : t.isDirectory here.dropLast = true :=
      isDirectory_mono hd (List.dropLast_prefix here)
    split at h
    · obtain rfl := Option.some.inj h
      exact habove
    split at h
    · obtain rfl := Option.some.inj h
      exact isDirectory_mono habove (List.dropLast_prefix _)
    split at h
    · obtain rfl := Option.some.inj h
      rw [List.dropLast_concat]
      exact hd
    · cases h
  · simp [hd] at h

/-- What a path leads to lies in a directory. -/
theorem isDirectory_dropLast {path : String} (h : t.locate? path = some l) :
    t.isDirectory l.dropLast = true := by
  -- along the names of the path, from a place in a directory to the next
  have hwalk : ∀ (names : List String) (here : Location), t.isDirectory here.dropLast = true →
      names.foldlM t.step? here = some l → t.isDirectory l.dropLast = true := by
    intro names
    induction names with
    | nil =>
      intro here hd h
      obtain rfl := Option.some.inj h
      exact hd
    | cons name names ih =>
      intro here _ h
      rw [List.foldlM_cons] at h
      obtain ⟨next, hnext, h⟩ := Option.bind_eq_some_iff.1 h
      exact ih next (isDirectory_dropLast_of_step? hnext) h
  unfold locate? at h
  split at h
  · exact hwalk _ _ (isDirectory_mono (t.isDirectory_start path) (List.dropLast_prefix _)) h
  · cases h

/-! ### Writing -/

theorem any_put (p : Location → Bool) (l : Location) (text : String)
    (files : List (Location × String)) :
    ((put l text files).any fun file => p file.1) = ((files.any fun file => p file.1) || p l) := by
  induction files with
  | nil => simp [put]
  | cons file files ih =>
    obtain ⟨k, old⟩ := file
    unfold put
    by_cases hk : k = l
    · subst hk
      rw [if_pos rfl, List.any_cons, List.any_cons]
      cases p k <;> simp
    · rw [if_neg hk, List.any_cons, List.any_cons, ih, Bool.or_assoc]

/-- A file in a directory makes no other directory. -/
theorem isDirectory_put (h : t.isDirectory l.dropLast = true) (text : String) :
    ({ t with files := put l text t.files } : FileTree).isDirectory = t.isDirectory := by
  funext k
  show (k.isPrefixOf t.home || (put l text t.files).any fun file => k.isPrefixOf file.1.dropLast) =
    t.isDirectory k
  rw [any_put fun location => k.isPrefixOf location.dropLast, ← Bool.or_assoc]
  show (t.isDirectory k || k.isPrefixOf l.dropLast) = t.isDirectory k
  -- what is above the file was a directory before
  cases hk : k.isPrefixOf l.dropLast with
  | false => exact Bool.or_false _
  | true =>
    rw [isDirectory_mono h (List.isPrefixOf_iff_prefix.1 hk)]
    rfl

/-- Paths lead where they led before the file was written. -/
theorem locate?_put (h : t.isDirectory l.dropLast = true) (text : String) :
    ({ t with files := put l text t.files } : FileTree).locate? = t.locate? := by
  have hstep : ({ t with files := put l text t.files } : FileTree).step? = t.step? := by
    funext here name
    unfold step?
    rw [isDirectory_put h]
  funext path
  unfold locate?
  rw [hstep]

/-- A path can be written if it leads to something other than a directory. -/
def isWritable (t : FileTree) (path : String) : Bool :=
  (t.locate? path).any fun l => !t.isDirectory l

theorem write?_eq_none_iff {path text : String} :
    t.write? path text = none ↔ t.isWritable path = false := by
  unfold write? isWritable
  cases t.locate? path with
  | none => simp
  | some l => cases hd : t.isDirectory l <;> simp [hd]

section

variable {u : FileTree} {path text : String}

/-- What a write does. -/
theorem eq_of_write? (h : t.write? path text = some u) :
    ∃ l, t.locate? path = some l ∧ t.isDirectory l.dropLast = true ∧
      u = { t with files := put l text t.files } := by
  unfold write? at h
  cases hl : t.locate? path with
  | none => simp [hl] at h
  | some l =>
    rw [hl] at h
    simp only at h
    split at h
    · cases h
    · exact ⟨l, rfl, isDirectory_dropLast hl, (Option.some.inj h).symm⟩

theorem locate?_write? (h : t.write? path text = some u) : u.locate? = t.locate? := by
  obtain ⟨l, -, hd, rfl⟩ := eq_of_write? h
  exact locate?_put hd text

/-- What could be written can be written after a write. -/
theorem isWritable_write? (h : t.write? path text = some u) : u.isWritable = t.isWritable := by
  obtain ⟨l, -, hd, rfl⟩ := eq_of_write? h
  funext other
  unfold isWritable
  rw [locate?_put hd, isDirectory_put hd]

theorem read?_write?_self (h : t.write? path text = some u) : u.read? path = some text := by
  have hlocate := locate?_write? h
  obtain ⟨l, hl, -, rfl⟩ := eq_of_write? h
  unfold read?
  rw [hlocate, hl]
  exact lookup_put_self l text t.files

theorem textAt?_write?_of_ne (h : t.write? path text = some u) {k : Location}
    (hk : t.locate? path ≠ some k) : u.textAt? k = t.textAt? k := by
  obtain ⟨l, hl, -, rfl⟩ := eq_of_write? h
  have hne : k ≠ l := by
    rintro rfl
    exact hk hl
  exact lookup_put_of_ne hne text t.files

/-- A file that is written elsewhere is read as before. -/
theorem read?_write?_of_ne (h : t.write? path text = some u) {other : String}
    (ho : t.locate? path ≠ t.locate? other) : u.read? other = t.read? other := by
  unfold read?
  rw [locate?_write? h]
  cases hk : t.locate? other with
  | none => rfl
  | some k =>
    rw [hk] at ho
    exact textAt?_write?_of_ne h ho

theorem put_of_lookup {files : List (Location × String)} (h : files.lookup l = some text) :
    put l text files = files := by
  induction files with
  | nil => cases h
  | cons file files ih =>
    obtain ⟨k, old⟩ := file
    unfold put
    rw [List.lookup_cons] at h
    by_cases hk : k = l
    · subst hk
      have hold : old = text := by simpa using h
      rw [if_pos rfl, hold]
    · have hb : (l == k) = false := by simpa using Ne.symm hk
      rw [hb] at h
      rw [if_neg hk, ih h]

/-- Writing changes nothing exactly if the file has the text already. -/
theorem write?_eq_self_iff (h : t.write? path text = some u) :
    u = t ↔ t.read? path = some text := by
  constructor
  · rintro rfl
    exact read?_write?_self h
  · intro hr
    obtain ⟨l, hl, -, rfl⟩ := eq_of_write? h
    have hlookup : t.files.lookup l = some text := by
      unfold read? at hr
      rw [hl] at hr
      exact hr
    rw [put_of_lookup hlookup]

end

end ApiStubs.FileTree
