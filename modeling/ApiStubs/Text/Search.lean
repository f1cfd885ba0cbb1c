/-!
# Searching and replacing

Texts as lists of characters, searched from the left.

* `stripPrefix?`: what follows a pattern at the start of a text;
* `splitFirst?`: a text cut at the first occurrence of a pattern;
* `contains`: whether there is such an occurrence;
* `replaceAll`: every occurrence replaced, none overlapping an earlier one;
* `replaceAll_of_splitFirst?`: a replacement, from one occurrence to the next.
-/

namespace ApiStubs.Text

/-- What follows the pattern, if the text starts with it. -/
def stripPrefix? : List Char → List Char → Option (List Char)
  | [], s => some s
  | p :: pattern, c :: s => if p = c then stripPrefix? pattern s else none
  | _ :: _, [] => none

/-- What stands before and after the first occurrence of the pattern. -/
def splitFirst? (pattern : List Char) : List Char → Option (List Char × List Char)
  | [] => if pattern.isEmpty then some ([], []) else none
  | c :: s =>
    match stripPrefix? pattern (c :: s) with
    | some after => some ([], after)
    | none => (splitFirst? pattern s).map fun cut => (c :: cut.1, cut.2)

/-- The pattern occurs in the text. -/
def contains (pattern s : List Char) : Bool := (splitFirst? pattern s).isSome

/-- `replaceAll` with the next `skip` characters already covered by a replacement. -/
def replaceFrom (pattern new : List Char) : Nat → List Char → List Char
  | _, [] => []
  | skip + 1, _ :: s => replaceFrom pattern new skip s
  | 0, c :: s =>
    if pattern.isPrefixOf (c :: s) then new ++ replaceFrom pattern new (pattern.length - 1) s
    else c :: replaceFrom pattern new 0 s

/-- The text with `new` in place of every occurrence of the pattern, found from the left. -/
def replaceAll (pattern new s : List Char) : List Char := replaceFrom pattern new 0 s

@[simp] theorem replaceAll_nil (pattern new : List Char) : replaceAll pattern new [] = [] := rfl

theorem replaceAll_cons_of_not_prefix {pattern s : List Char} {c : Char}
    (h : ¬pattern <+: c :: s) (new : List Char) :
    replaceAll pattern new (c :: s) = c :: replaceAll pattern new s := by
  rw [replaceAll, replaceFrom, if_neg (mt List.isPrefixOf_iff_prefix.1 h), replaceAll]

/-- A pattern of one character is replaced character by character. -/
theorem replaceAll_singleton (a : Char) (new s : List Char) :
    replaceAll [a] new s = s.flatMap fun c => if c = a then new else [c] := by
  induction s with
  | nil => rfl
  | cons c s ih =>
    by_cases h : c = a
    · subst h
      simpa [replaceAll, replaceFrom, List.isPrefixOf] using ih
    · simpa [replaceAll, replaceFrom, List.isPrefixOf, h, Ne.symm h] using ih

theorem stripPrefix?_eq_some_iff {pattern s rest : List Char} :
    stripPrefix? pattern s = some rest ↔ s = pattern ++ rest := by
  induction pattern generalizing s with
  | nil => simp [stripPrefix?]
  | cons p pattern ih =>
    cases s with
    | nil => simp [stripPrefix?]
    | cons c s =>
      by_cases h : p = c
      · simp [stripPrefix?, h, ih]
      · simp [stripPrefix?, h, Ne.symm h]

theorem stripPrefix?_eq_none_iff {pattern s : List Char} :
    stripPrefix? pattern s = none ↔ ¬pattern <+: s := by
  constructor
  · rintro h ⟨rest, hrest⟩
    rw [stripPrefix?_eq_some_iff.2 hrest.symm] at h
    cases h
  · intro h
    cases hs : stripPrefix? pattern s with
    | none => rfl
    | some rest => exact absurd ⟨rest, (stripPrefix?_eq_some_iff.1 hs).symm⟩ h

theorem contains_iff_isInfix {pattern s : List Char} :
    contains pattern s = true ↔ pattern <:+: s := by
  induction s with
  | nil => simp [contains, splitFirst?]
  | cons c s ih =>
    rw [List.infix_cons_iff, ← ih, contains, contains, splitFirst?]
    cases hstrip : stripPrefix? pattern (c :: s) with
    | some rest =>
      have hstarts : pattern <+: c :: s := ⟨rest, (stripPrefix?_eq_some_iff.1 hstrip).symm⟩
      simp [hstarts]
    | none =>
      have hstarts : ¬pattern <+: c :: s := stripPrefix?_eq_none_iff.1 hstrip
      simp [hstarts]

/-- Only a text in which the pattern does not occur is not cut. -/
theorem splitFirst?_eq_none_iff {pattern s : List Char} :
    splitFirst? pattern s = none ↔ ¬pattern <:+: s := by
  rw [← contains_iff_isInfix, contains, Bool.not_eq_true, Option.isSome_eq_false_iff,
    Option.isNone_iff_eq_none]

/-- A cut gives the text back. -/
theorem eq_append_of_splitFirst? {pattern s before after : List Char}
    (h : splitFirst? pattern s = some (before, after)) : s = before ++ pattern ++ after := by
  induction s generalizing before with
  | nil =>
    by_cases hp : pattern = []
    · subst hp
      simp [splitFirst?] at h
      simp [h]
    · simp [splitFirst?, hp] at h
  | cons c s ih =>
    rw [splitFirst?] at h
    split at h
    · next rest hd =>
      obtain ⟨rfl, rfl⟩ := by simpa using h
      simpa using stripPrefix?_eq_some_iff.1 hd
    · obtain ⟨cut, hc, he⟩ := Option.map_eq_some_iff.1 h
      obtain ⟨rfl, rfl⟩ := by simpa using he
      simp [ih hc]

/-- In front of the first occurrence of a pattern there is none. -/
theorem not_occurs_of_splitFirst? {pattern s before after : List Char} (hp : pattern ≠ [])
    (h : splitFirst? pattern s = some (before, after)) : ¬pattern <:+: before := by
  induction s generalizing before with
  | nil => simp [splitFirst?, hp] at h
  | cons c s ih =>
    rw [splitFirst?] at h
    split at h
    · obtain ⟨rfl, -⟩ := Prod.mk.inj (Option.some.inj h)
      simpa using hp
    · next hstrip =>
      obtain ⟨cut, hcut, he⟩ := Option.map_eq_some_iff.1 h
      obtain ⟨rfl, rfl⟩ := Prod.mk.inj he
      have hstart : ¬pattern <+: c :: s := stripPrefix?_eq_none_iff.1 hstrip
      have hbefore : c :: cut.1 <+: c :: s := by
        rw [eq_append_of_splitFirst? hcut, List.append_assoc]
        exact List.prefix_append (c :: cut.1) _
      rw [List.infix_cons_iff]
      rintro (hpre | hin)
      · exact hstart (hpre.trans hbefore)
      · exact ih hcut hin

theorem replaceFrom_append (pattern new front rest : List Char) :
    replaceFrom pattern new front.length (front ++ rest) = replaceAll pattern new rest := by
  induction front with
  | nil => rfl
  | cons c front ih => exact ih

theorem replaceAll_append {pattern : List Char} (hp : pattern ≠ []) (new rest : List Char) :
    replaceAll pattern new (pattern ++ rest) = new ++ replaceAll pattern new rest := by
  obtain ⟨c, pattern, rfl⟩ := List.exists_cons_of_ne_nil hp
  have hstarts : (c :: pattern).isPrefixOf (c :: (pattern ++ rest)) = true :=
    List.isPrefixOf_iff_prefix.2 (List.prefix_append (c :: pattern) rest)
  rw [List.cons_append, replaceAll, replaceFrom, if_pos hstarts]
  exact congrArg (new ++ ·) (replaceFrom_append (c :: pattern) new pattern rest)

theorem replaceAll_of_not_occurs {pattern s : List Char} (h : ¬pattern <:+: s)
    (new : List Char) : replaceAll pattern new s = s := by
  induction s with
  | nil => rfl
  | cons c s ih =>
    obtain ⟨hstart, hs⟩ := not_or.1 (mt List.infix_cons_iff.2 h)
    have hcons := replaceAll_cons_of_not_prefix hstart new
    rw [hcons, ih hs]

/-- The first occurrence of a pattern is replaced, and what is behind it by itself. -/
theorem replaceAll_of_splitFirst? {pattern new s before after : List Char} (hp : pattern ≠ [])
    (h : splitFirst? pattern s = some (before, after)) :
    replaceAll pattern new s = before ++ new ++ replaceAll pattern new after := by
  induction s generalizing before with
  | nil => simp [splitFirst?, hp] at h
  | cons c s ih =>
    rw [splitFirst?] at h
    split at h
    · next rest hstrip =>
      obtain ⟨rfl, rfl⟩ := Prod.mk.inj (Option.some.inj h)
      rw [stripPrefix?_eq_some_iff.1 hstrip, List.nil_append]
      exact replaceAll_append hp new rest
    · next hstrip =>
      obtain ⟨cut, hcut, he⟩ := Option.map_eq_some_iff.1 h
      obtain ⟨rfl, rfl⟩ := Prod.mk.inj he
      have hcons := replaceAll_cons_of_not_prefix (stripPrefix?_eq_none_iff.1 hstrip) new
      rw [hcons, ih hcut]
      rfl

end ApiStubs.Text
