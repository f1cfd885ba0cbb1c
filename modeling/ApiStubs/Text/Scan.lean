import ApiStubs.Text.Search

/-!
# Reading a text from the front

A scan reads something at the front of a text and leaves the rest, or fails and reads nothing.

* `Scan`: the scans, one after another in `do` notation, one or else another with `<|>`;
* `Scan.peek?`, `Scan.exactly`, `Scan.run`, `Scan.run1`, `Scan.chars`: characters;
* `Scan.ended`: the end of the text;
* `Scan.optional`, `Scan.many`: a scan at most once, and as often as it goes;
* `Scan.many_flatMap`: texts one after the other are all read.
-/

namespace ApiStubs.Text

/-- Reads something at the front of a text, and leaves the rest. -/
abbrev Scan (α : Type) := StateT (List Char) Option α

namespace Scan

/-- The next character, if there is one; it is not read. -/
def peek? : Scan (Option Char) := fun s => some (s.head?, s)

/-- Nothing but the given text. -/
def exactly (pattern : String) : Scan Unit := fun s =>
  (stripPrefix? pattern.toList s).map fun rest => ((), rest)

/-- The longest run of characters with a property. -/
def run (p : Char → Bool) : Scan (List Char) := fun s => some (s.takeWhile p, s.dropWhile p)

/-- The longest run of characters with a property, at least one. -/
def run1 (p : Char → Bool) : Scan (List Char) := do
  let cs ← run p
  if cs.isEmpty then failure else return cs

/-- A number of characters. -/
def chars (n : Nat) : Scan (List Char) := fun s =>
  if n ≤ s.length then some (s.take n, s.drop n) else none

/-- The end of the text. -/
def ended : Scan Unit := fun s => if s.isEmpty then some ((), s) else none

/-- What the scan reads, if it does not fail. -/
def optional {α : Type} (p : Scan α) : Scan (Option α) := fun s =>
  match p s with
  | some (a, rest) => some (some a, rest)
  | none => some (none, s)

/-- Reads with the scan until it fails, at most `n` times. -/
def upTo {α : Type} (p : Scan α) : Nat → List Char → List α × List Char
  | 0, s => ([], s)
  | n + 1, s =>
    match p s with
    | some (a, rest) => let more := upTo p n rest; (a :: more.1, more.2)
    | none => ([], s)

/-- Reads with the scan until it fails. A scan takes a character at least, so the text bounds the
number of times. -/
def many {α : Type} (p : Scan α) : Scan (List α) := fun s => some (upTo p s.length s)

/-! ### What is read -/

variable {α β : Type}

@[simp] theorem exactly_eq_some_iff {pattern : String} {s rest : List Char} :
    exactly pattern s = some ((), rest) ↔ s = pattern.toList ++ rest := by
  simp [exactly, stripPrefix?_eq_some_iff]

/-- One scan after another, where the first has read something. -/
theorem bind_of_some {p : Scan α} {a : α} {s rest : List Char} (h : p s = some (a, rest))
    (f : α → Scan β) : (p >>= f) s = f a rest := by
  show (p s).bind _ = _
  rw [h]
  rfl

/-- One scan after another, where the first has failed. -/
theorem bind_of_none {p : Scan α} {s : List Char} (h : p s = none) (f : α → Scan β) :
    (p >>= f) s = none := by
  show (p s).bind _ = _
  rw [h]
  rfl

/-- Both have read something if one scan after another has. -/
theorem bind_eq_some_iff {p : Scan α} {f : α → Scan β} {s : List Char} {read : β × List Char} :
    (p >>= f) s = some read ↔ ∃ a rest, p s = some (a, rest) ∧ f a rest = some read :=
  Option.bind_eq_some_iff.trans Prod.exists

/-- What a scan has read, whatever is left. -/
theorem run'_of_some {p : Scan α} {a : α} {s rest : List Char} (h : p s = some (a, rest)) :
    p.run' s = some a := by
  show (p s).map Prod.fst = _
  rw [h]
  rfl

/-- What is read first of many was there to be read. -/
theorem exists_of_many_cons {p : Scan α} {a : α} {as : List α} {s rest : List Char}
    (h : many p s = some (a :: as, rest)) : ∃ rest', p s = some (a, rest') := by
  obtain ⟨h, -⟩ := Prod.mk.inj (Option.some.inj h)
  cases hn : s.length with
  | zero => rw [hn, upTo] at h; cases h
  | succ n =>
    rw [hn, upTo] at h
    cases hp : p s with
    | none => rw [hp] at h; cases h
    | some read =>
      rw [hp] at h
      obtain ⟨rfl, -⟩ := List.cons.inj h
      exact ⟨read.2, rfl⟩

theorem upTo_flatMap {p : Scan β} {write : α → List Char} {value : α → β} {as : List α}
    {rest : List Char} (hp : ∀ a ∈ as, ∀ s, p (write a ++ s) = some (value a, s))
    (hrest : p rest = none) {n : Nat} (hn : as.length ≤ n) :
    upTo p n (as.flatMap write ++ rest) = (as.map value, rest) := by
  induction as generalizing n with
  | nil => cases n <;> simp [upTo, hrest]
  | cons a as ih =>
    cases n with
    | zero => cases hn
    | succ n =>
      have hmore : upTo p n (as.flatMap write ++ rest) = (as.map value, rest) :=
        ih (fun b hb => hp b (by simp [hb])) (Nat.le_of_succ_le_succ hn)
      rw [List.flatMap_cons, List.append_assoc, upTo, hp a (by simp)]
      show (value a :: (upTo p n (as.flatMap write ++ rest)).1, _) = _
      rw [hmore]
      rfl

theorem length_le_flatMap {write : α → List Char} {as : List α} (h : ∀ a ∈ as, write a ≠ []) :
    as.length ≤ (as.flatMap write).length := by
  induction as with
  | nil => exact Nat.le_refl _
  | cons a as ih =>
    have ha : 1 ≤ (write a).length := List.length_pos_iff.2 (h a (by simp))
    have hmore : as.length ≤ (as.flatMap write).length := ih fun b hb => h b (by simp [hb])
    rw [List.flatMap_cons, List.length_append, List.length_cons, Nat.add_comm]
    exact Nat.add_le_add ha hmore

/-- A scan that reads each of some texts, and fails behind them, reads them all. -/
theorem many_flatMap {p : Scan β} {write : α → List Char} {value : α → β} {as : List α}
    {rest : List Char} (hp : ∀ a ∈ as, ∀ s, p (write a ++ s) = some (value a, s))
    (hw : ∀ a ∈ as, write a ≠ []) (hrest : p rest = none) :
    many p (as.flatMap write ++ rest) = some (as.map value, rest) := by
  have hlength : as.length ≤ (as.flatMap write ++ rest).length := by
    rw [List.length_append]
    exact Nat.le_add_right_of_le (length_le_flatMap hw)
  rw [many, upTo_flatMap hp hrest hlength]

end Scan

end ApiStubs.Text
