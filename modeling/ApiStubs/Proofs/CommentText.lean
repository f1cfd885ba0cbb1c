import ApiStubs.Proofs.CodeBlocks
import ApiStubs.Proofs.Pieces
import ApiStubs.Proofs.TokenShapes
import Mathlib.Data.List.DropRight

/-!
# Descriptions inside comments

A description goes into a comment as a whole, with references in place of its line breaks, or by
its first line. Either way a carriage return without its line feed can stay.

* `Without`, `WithoutParagraphs`: a text without a tag, and without both tags of paragraphs;
* `isOneLine_docComment`: the whole description is on one line exactly if its returns are paired;
* `firstLineReturnsPaired`: the returns of the first line stand right before its line feed;
* `isOneLine_plainSummary`: the first line is on one line exactly then.
-/

namespace ApiStubs.Text

theorem isOneLine_append (s t : List Char) :
    isOneLine (s ++ t) = (isOneLine s && isOneLine t) := by
  simp [isOneLine]

theorem isOneLine_between {before after : String} (hb : isOneLine before.toList = true)
    (ha : isOneLine after.toList = true) (text : String) :
    isOneLine (before ++ text ++ after).toList = isOneLine text.toList := by
  rw [String.toList_append, String.toList_append, isOneLine_append, isOneLine_append, hb, ha,
    Bool.true_and, Bool.and_true]

/-- Replacing pairs leaves exactly the carriage returns without a line feed. -/
theorem all_replaceAll_pair {new : List Char} (hn : new.all (· != '\r') = true) (s : List Char) :
    (replaceAll ['\r', '\n'] new s).all (· != '\r') = returnsPaired s := by
  -- pair by pair: a return in front of anything else than a line feed is kept
  induction s using returnsPaired.induct with
  | case1 => rfl
  | case2 s ih => rw [replaceAll_pair, List.all_append, hn, ih, Bool.true_and, returnsPaired]
  | case3 c s hc ih =>
    rw [returnsPaired.eq_3 c s hc, ← ih]
    by_cases hr : c = '\r'
    · subst hr
      have hs : s.head? ≠ some '\n' := by
        intro h
        obtain ⟨t, rfl⟩ := List.head?_eq_some_iff.1 h
        exact hc t rfl rfl
      rw [replaceAll_pair_return hs]
      rfl
    · rw [replaceAll_pair_of_ne hr]
      rfl

/-- A description in a comment is on one line exactly if each of its carriage returns has a line
feed. -/
theorem isOneLine_docComment (s : List Char) : isOneLine (docComment s) = returnsPaired s := by
  -- after the pairs, line feeds go one by one, so that only returns can be left
  have hone (c : Char) : ((if c = '\n' then docLineBreak else [c]).all fun c => !isLineEnd c) =
      (c != '\r') := by
    by_cases hn : c = '\n'
    · subst hn
      rfl
    · simp [hn, isLineEnd, bne]
  have hbreak : docLineBreak.all (· != '\r') = true := by decide
  unfold docComment isOneLine
  rw [replaceAll_singleton, List.all_flatMap, ← all_replaceAll_pair hbreak s]
  simp only [hone]

/-- Where the pattern holds no character of some kind, dropping it drops none of that kind. -/
theorem all_replaceAll_nil {pattern : List Char} {p : Char → Bool} (hne : pattern ≠ [])
    (hp : pattern.all p = true) (s : List Char) : (replaceAll pattern [] s).all p = s.all p := by
  -- the characters still covered by a replacement are characters of the pattern
  have hskip : ∀ (s : List Char) (skip : ℕ), (s.take skip).all p = true →
      (replaceFrom pattern [] skip s).all p = s.all p := by
    intro s
    induction s with
    | nil =>
      intro skip _
      cases skip <;> rfl
    | cons c s ih =>
      intro skip h
      cases skip with
      | succ skip =>
        obtain ⟨hc, hs⟩ : p c = true ∧ (s.take skip).all p = true := by simpa using h
        rw [replaceFrom, ih skip hs, List.all_cons, hc, Bool.true_and]
      | zero =>
        rw [replaceFrom]
        split
        · next hpre =>
          obtain ⟨d, pattern, rfl⟩ := List.exists_cons_of_ne_nil hne
          obtain ⟨rest, hrest⟩ := List.isPrefixOf_iff_prefix.1 hpre
          obtain ⟨rfl, rfl⟩ := List.cons.inj hrest
          obtain ⟨hc, hs⟩ : p d = true ∧ pattern.all p = true := by simpa using hp
          rw [List.nil_append, ih _ (by simpa using hs), List.all_cons, hc, Bool.true_and]
        · rw [List.all_cons, List.all_cons, ih 0 (by simp)]
  exact hskip s 0 (by simp)

theorem isOneLine_dropParagraphs (s : List Char) : isOneLine (dropParagraphs s) = isOneLine s := by
  unfold dropParagraphs isOneLine
  rw [all_replaceAll_nil (by decide) (by decide), all_replaceAll_nil (by decide) (by decide)]

/-- The parts of a text between the occurrences of a pattern, put together. The pattern occurs in
none of them. -/
def Without (pattern s t : List Char) : Prop :=
  ∃ (first : List Char) (later : List (List Char)),
    s = first ++ later.flatMap (pattern ++ ·) ∧ t = first ++ later.flatten ∧
      ∀ part ∈ first :: later, ¬pattern <:+: part

/-- The text without its opening paragraph tags, and then without the closing ones, with those that
stand there only then. -/
def WithoutParagraphs (s t : List Char) : Prop :=
  ∃ mid, Without "<p>".toList s mid ∧ Without "</p>".toList mid t

theorem without_replaceAll {pattern : List Char} (hp : pattern ≠ []) (s : List Char) :
    Without pattern s (replaceAll pattern [] s) := by
  -- from one occurrence to the next, along what is left of the text
  induction hn : s.length using Nat.strong_induction_on generalizing s with
  | _ n ih =>
  cases hcut : splitFirst? pattern s with
  | none =>
    have hs : ¬pattern <:+: s := splitFirst?_eq_none_iff.1 hcut
    exact ⟨s, [], by simp, by simp [replaceAll_of_not_occurs hs], by simpa using hs⟩
  | some cut =>
    obtain ⟨before, after⟩ := cut
    have hs := eq_append_of_splitFirst? hcut
    have hlength : after.length < n := by
      have hpos := List.length_pos_iff.2 hp
      rw [← hn, hs, List.length_append, List.length_append]
      omega
    obtain ⟨first, later, hafter, hreplaced, hparts⟩ := ih after.length hlength after rfl
    refine ⟨before, first :: later, ?_, ?_, ?_⟩
    · rw [hs, List.flatMap_cons, List.append_assoc, List.append_assoc, ← hafter]
    · rw [replaceAll_of_splitFirst? hp hcut, hreplaced, List.append_nil, List.flatten_cons]
    · exact List.forall_mem_cons.2 ⟨not_occurs_of_splitFirst? hp hcut, hparts⟩

theorem withoutParagraphs_dropParagraphs (s : List Char) :
    WithoutParagraphs s (dropParagraphs s) :=
  ⟨_, without_replaceAll (by decide) s, without_replaceAll (by decide) _⟩

/-- The first line of a text holds carriage returns only right before its line feed. -/
def firstLineReturnsPaired : List Char → Bool
  | [] => true
  | '\n' :: _ => true
  | '\r' :: s => (s.dropWhile (· == '\r')).head? == some '\n'
  | _ :: s => firstLineReturnsPaired s

theorem firstLineReturnsPaired_cons {c : Char} (hn : c ≠ '\n') (hr : c ≠ '\r') (s : List Char) :
    firstLineReturnsPaired (c :: s) = firstLineReturnsPaired s :=
  firstLineReturnsPaired.eq_4 c s (fun h => hn h) fun h => hr h

theorem dropTrailingReturns_cons_of_ne {c : Char} (hc : c ≠ '\r') (s : List Char) :
    dropTrailingReturns (c :: s) = c :: dropTrailingReturns s := by
  unfold dropTrailingReturns
  rw [List.reverse_cons, List.dropWhile_append]
  split
  · next h =>
    rw [List.isEmpty_iff.1 h]
    simp [hc]
  · simp

/-- A return in front stays exactly if anything else stays. -/
theorem dropTrailingReturns_return_cons (s : List Char) :
    dropTrailingReturns ('\r' :: s) =
      if s.all (· == '\r') then [] else '\r' :: dropTrailingReturns s := by
  unfold dropTrailingReturns
  rw [List.reverse_cons, List.dropWhile_append]
  have hiff : (s.reverse.dropWhile (· == '\r')).isEmpty = s.all (· == '\r') := by
    rw [Bool.eq_iff_iff, List.isEmpty_iff, List.dropWhile_eq_nil_iff, List.all_eq_true]
    simp
  rw [hiff]
  split
  · simp
  · simp

theorem head?_dropWhile_return {s : List Char} (hs : '\n' ∉ s) (rest : List Char) :
    (((s ++ '\n' :: rest).dropWhile (· == '\r')).head? == some '\n') = s.all (· == '\r') := by
  induction s with
  | nil => simp
  | cons c s ih =>
    obtain ⟨hc, hs'⟩ := List.ne_and_not_mem_of_not_mem_cons hs
    by_cases hr : c = '\r'
    · simpa [hr] using ih hs'
    · have hn : (c == '\n') = false := beq_eq_false_iff_ne.2 (Ne.symm hc)
      have hb : (c == '\r') = false := beq_eq_false_iff_ne.2 hr
      simp [hb, hn]

theorem isOneLine_dropTrailingReturns {s : List Char} (hs : '\n' ∉ s) (rest : List Char) :
    isOneLine (dropTrailingReturns s) = firstLineReturnsPaired (s ++ '\n' :: rest) := by
  induction s with
  | nil => rfl
  | cons c s ih =>
    obtain ⟨hc, hs'⟩ := List.ne_and_not_mem_of_not_mem_cons hs
    by_cases hr : c = '\r'
    · subst hr
      rw [dropTrailingReturns_return_cons, List.cons_append, firstLineReturnsPaired,
        head?_dropWhile_return hs']
      cases s.all (· == '\r') with
      | true => rfl
      | false => rfl
    · rw [dropTrailingReturns_cons_of_ne hr, List.cons_append,
        firstLineReturnsPaired_cons (Ne.symm hc) hr, ← ih hs']
      simp [isOneLine, isLineEnd, hr, Ne.symm hc]

theorem isOneLine_eq_firstLineReturnsPaired {s : List Char} (hs : '\n' ∉ s) :
    isOneLine s = firstLineReturnsPaired s := by
  induction s with
  | nil => rfl
  | cons c s ih =>
    obtain ⟨hc, hs'⟩ := List.ne_and_not_mem_of_not_mem_cons hs
    by_cases hr : c = '\r'
    · subst hr
      have hhead : (s.dropWhile (· == '\r')).head? ≠ some '\n' := by
        intro h
        obtain ⟨t, ht⟩ := List.head?_eq_some_iff.1 h
        have hmem : '\n' ∈ s.dropWhile (· == '\r') := by rw [ht]; simp
        exact hs' ((List.dropWhile_sublist _).mem hmem)
      rw [firstLineReturnsPaired, beq_eq_false_iff_ne.2 hhead]
      rfl
    · rw [firstLineReturnsPaired_cons (Ne.symm hc) hr, ← ih hs']
      simp [isOneLine, isLineEnd, hr, Ne.symm hc]

/-- The first line of a description in a comment is on one line exactly if all carriage returns in
it stand right before the line feed. -/
theorem isOneLine_plainSummary (s : List Char) :
    isOneLine (plainSummary s) = firstLineReturnsPaired s := by
  have hellipsis : isOneLine ellipsis = true := by decide
  unfold plainSummary
  by_cases hn : '\n' ∈ s
  · obtain ⟨first, rest, rfl, hfirst⟩ := List.eq_append_cons_of_mem hn
    rw [splitFirst?_singleton hfirst]
    simp only
    rw [isOneLine_append, hellipsis, Bool.and_true, isOneLine_dropParagraphs,
      isOneLine_dropTrailingReturns hfirst]
  · have hnone : splitFirst? ['\n'] s = none := by
      rw [Option.eq_none_iff_forall_ne_some]
      rintro ⟨first, rest⟩ h
      rw [eq_append_of_splitFirst? h] at hn
      simp at hn
    rw [hnone]
    exact (isOneLine_dropParagraphs s).trans (isOneLine_eq_firstLineReturnsPaired hn)

end ApiStubs.Text
