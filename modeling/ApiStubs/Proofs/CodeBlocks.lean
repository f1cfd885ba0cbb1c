import ApiStubs.Stub.Loader

/-!
# Blocks of code

A block of code is put together from lines, and cut into lines again when it is written. The bodies
written by hand are such blocks; their lines are plain code.

* `isOneLine`: a text without line ends;
* `textLines_intercalate`: cutting a block gives its lines back;
* `isComment`, `isPlainCode`: a documentation comment, and code that is none and uses no factory;
* `plainBodies_handWritten`, `isPlainCode_of_mem_resolverLines`: the bodies written by hand and the
  resolver consist of plain code.
-/

namespace ApiStubs

/-! ### Cutting a block into lines -/

theorem head?_append {text : String} {c : Char} (h : text.toList.head? = some c) (rest : String) :
    (text ++ rest).toList.head? = some c := by
  rw [String.toList_append, List.head?_append, h, Option.some_or]

theorem getLast?_append {rest : String} {c : Char} (h : rest.toList.getLast? = some c)
    (text : String) : (text ++ rest).toList.getLast? = some c := by
  rw [String.toList_append, List.getLast?_append, h, Option.some_or]

/-- The character ends a line, by itself or with another. -/
def Text.isLineEnd (c : Char) : Bool := c == '\n' || c == '\r'

/-- The text has no line ends. -/
def Text.isOneLine (s : List Char) : Bool := s.all fun c => !isLineEnd c

theorem Text.isOneLine_iff {s : List Char} : isOneLine s = true ↔ '\n' ∉ s ∧ '\r' ∉ s := by
  simp only [isOneLine, isLineEnd, List.all_eq_true]
  constructor
  · intro h
    refine ⟨fun hn => ?_, fun hr => ?_⟩
    · simpa using h '\n' hn
    · simpa using h '\r' hr
  · rintro ⟨hn, hr⟩ c hc
    have h1 : c ≠ '\n' := fun e => hn (e ▸ hc)
    have h2 : c ≠ '\r' := fun e => hr (e ▸ hc)
    simp [h1, h2]

theorem textLinesFrom_append {s : List Char} (hs : '\n' ∉ s) (line t : List Char) :
    textLinesFrom line (s ++ t) = textLinesFrom (s.reverse ++ line) t := by
  induction s generalizing line with
  | nil => rfl
  | cons c s ih =>
    obtain ⟨hc, hs⟩ := List.ne_and_not_mem_of_not_mem_cons hs
    rw [List.cons_append, textLinesFrom.eq_3, if_neg (Ne.symm hc), ih hs]
    simp

theorem lineOfReverse_reverse {s : List Char} (hs : '\r' ∉ s) : lineOfReverse s.reverse = s := by
  unfold lineOfReverse
  split
  · next line h =>
    have : '\r' ∈ s.reverse := by rw [h]; simp
    exact absurd (List.mem_reverse.1 this) hs
  · exact List.reverse_reverse s

theorem textLinesFrom_intercalate {ls : List (List Char)}
    (h : ∀ l ∈ ls, l ≠ [] ∧ Text.isOneLine l = true) :
    textLinesFrom [] (['\n'].intercalate ls) = ls := by
  induction ls with
  | nil => rfl
  | cons l ls ih =>
    obtain ⟨hne, hl⟩ := h l (by simp)
    obtain ⟨hn, hr⟩ := Text.isOneLine_iff.1 hl
    cases ls with
    | nil =>
      have hrev : l.reverse ≠ [] := by simpa using hne
      rw [List.intercalate_singleton]
      conv => lhs; rw [← List.append_nil l]
      rw [textLinesFrom_append hn, List.append_nil, textLinesFrom.eq_2 _ hrev,
        List.reverse_reverse]
    | cons l' ls =>
      rw [List.intercalate_cons_cons, List.append_assoc, textLinesFrom_append hn,
        List.append_nil, List.singleton_append, textLinesFrom.eq_3, if_pos rfl,
        lineOfReverse_reverse hr, ih fun k hk => h k (by simp [hk])]

/-- A block is cut into the lines from which it was put together. -/
theorem textLines_intercalate {ls : List String}
    (h : ∀ l ∈ ls, l ≠ "" ∧ Text.isOneLine l.toList = true) :
    textLines ("\n".intercalate ls) = ls := by
  have hchars : ∀ l ∈ ls.map String.toList, l ≠ [] ∧ Text.isOneLine l = true := by
    intro l hl
    obtain ⟨t, ht, rfl⟩ := List.mem_map.1 hl
    exact ⟨by simpa using (h t ht).1, (h t ht).2⟩
  unfold textLines
  rw [String.toList_intercalate, show "\n".toList = ['\n'] from rfl,
    textLinesFrom_intercalate hchars]
  simp [Function.comp_def]

namespace Stub

/-! ### Bodies written by hand -/

/-- What a documentation comment starts with. -/
def commentMark : List Char := ['/', '/', '/']

/-- The line is a documentation comment. -/
def isComment (text : String) : Bool := commentMark.isPrefixOf text.toList

theorem isComment_append {text : String} (h : isComment text = true) (rest : String) :
    isComment (text ++ rest) = true := by
  unfold isComment at h ⊢
  rw [String.toList_append]
  exact List.isPrefixOf_iff_prefix.2
    ((List.isPrefixOf_iff_prefix.1 h).trans (List.prefix_append ..))

theorem isComment_eq_false {text : String} (h : text.toList.head? ≠ some '/') :
    isComment text = false := by
  unfold isComment commentMark
  cases hs : text.toList with
  | nil => rfl
  | cons c s =>
    have hc : c ≠ '/' := by simpa [hs] using h
    simp [List.isPrefixOf, Ne.symm hc]

/-- What a line starts with that makes an object by a factory of its container. -/
def factoryMark : List Char := ['r', 'e', 't', 'u', 'r', 'n', ' ', 'n', 'e', 'w', ' ', 't']

/-- A line of code that is no comment and uses no factory. -/
def isPlainCode (s : List Char) : Bool :=
  !s.isEmpty && Text.isOneLine s && !commentMark.isPrefixOf s && !factoryMark.isPrefixOf s

/-- A literal is looked at character by character. -/
theorem isPlainCode_ofList {s : List Char} (h : isPlainCode s = true) :
    isPlainCode (String.ofList s).toList = true := by
  rwa [String.toList_ofList]

open ApiStubs.Stub.Path in
theorem isPlainCode_of_mem_pathBodies {ls : List String}
    (hls : ls ∈ [collapseSegments, relativeBody, normalizeBody, resolveBody, joinBody]) :
    ∀ l ∈ ls, isPlainCode l.toList = true := by
  simp only [List.mem_cons, List.not_mem_nil, or_false] at hls
  rcases hls with rfl | rfl | rfl | rfl | rfl
  all_goals
    simp only [collapseSegments, relativeBody, normalizeBody, resolveBody, joinBody,
      List.forall_mem_cons, List.not_mem_nil, false_implies, implies_true, and_true]
    repeat' apply And.intro
  all_goals exact isPlainCode_ofList (by decide)

theorem ne_empty_of_isPlainCode {l : String} (h : isPlainCode l.toList = true) : l ≠ "" := by
  rintro rfl
  simp [isPlainCode] at h

theorem isOneLine_of_isPlainCode {s : List Char} (h : isPlainCode s = true) :
    Text.isOneLine s = true := by
  simp only [isPlainCode, Bool.and_eq_true] at h
  exact h.1.1.2

theorem isPrefixOf_of_isPlainCode {s : List Char} (h : isPlainCode s = true) :
    factoryMark.isPrefixOf s = false := by
  simp only [isPlainCode, Bool.and_eq_true, Bool.not_eq_true'] at h
  exact h.2

open ApiStubs.Stub.Path in
/-- The lines of a body are lines of code that is there as a list. -/
theorem mem_pathBodies_of_body? {method code : String} (h : body? method = some code) {l : String}
    (hl : l ∈ textLines code) :
    ∃ ls ∈ [collapseSegments, relativeBody, normalizeBody, resolveBody, joinBody], l ∈ ls := by
  obtain ⟨body, hbody, rfl⟩ := Option.map_eq_some_iff.1 h
  have hmem : body ∈ [collapseSegments, relativeBody, normalizeBody, resolveBody, joinBody] := by
    unfold bodyLines? at hbody
    split at hbody
    all_goals simp_all
  have hin : ∀ k ∈ collapseSegments ++ body,
      ∃ ls ∈ [collapseSegments, relativeBody, normalizeBody, resolveBody, joinBody], k ∈ ls := by
    intro k hk
    rcases List.mem_append.1 hk with hk | hk
    · exact ⟨_, List.mem_cons_self, hk⟩
    · exact ⟨body, hmem, hk⟩
  rw [textLines_intercalate fun k hk => ?_] at hl
  · exact hin l hl
  · obtain ⟨ls, hls, hk⟩ := hin k hk
    have hplain := isPlainCode_of_mem_pathBodies hls k hk
    exact ⟨ne_empty_of_isPlainCode hplain, isOneLine_of_isPlainCode hplain⟩

theorem isPlainCode_of_body? {method code : String} (h : Path.body? method = some code)
    {l : String} (hl : l ∈ textLines code) : isPlainCode l.toList = true := by
  obtain ⟨ls, hls, hl⟩ := mem_pathBodies_of_body? h hl
  exact isPlainCode_of_mem_pathBodies hls l hl

/-- All lines of all bodies are plain code. -/
def PlainBodies (byHand : String → Option String) : Prop :=
  ∀ method code, byHand method = some code → ∀ l ∈ textLines code, isPlainCode l.toList = true

theorem plainBodies_noBody : PlainBodies noBody := by
  intro method code h
  cases h

theorem plainBodies_handWritten (raw : String) : PlainBodies (handWritten raw) := by
  intro method code h l hl
  unfold handWritten at h
  split at h
  · exact isPlainCode_of_body? h hl
  · cases h

/-- The resolver of the loader is a block of plain code. -/
theorem isPlainCode_of_mem_resolverLines : ∀ l ∈ resolverLines, isPlainCode l.toList = true := by
  have hcount : isPlainCode ("    if(require_count++ >= " ++ progressThreshold.repr ++
      ") \x7b").toList = true := by decide
  have hmarker : isPlainCode ("                " ++ userModuleMarker).toList = true := by decide
  simp only [resolverLines, List.forall_mem_cons, List.not_mem_nil, false_implies, implies_true,
    and_true, hcount, hmarker, true_and]
  repeat' apply And.intro
  all_goals exact isPlainCode_ofList (by decide)

end Stub

end ApiStubs
