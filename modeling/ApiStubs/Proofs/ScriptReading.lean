import ApiStubs.Proofs.CodeBlocks
import ApiStubs.Proofs.ModuleNames

/-!
# Reading literals of scripts

Stubs are scripts, and their values are read as scripts are: a text stands between apostrophes, with
escape sequences behind backslashes, and an object between braces. Escape sequences are longer than
what they stand for, and the only apostrophes within a literal are those they stand for. So a text
between apostrophes is read as itself only if it has neither.

* `codeUnits`, `units`: the units of 16 bits that texts of scripts are made of;
* `escape?`: what an escape sequence stands for, all forms of it;
* `quotedRest`: the rest of a literal behind its opening apostrophe;
* `isPlain`: a text that stands for itself between apostrophes;
* `StandsFor`, `exists_of_quotedFrom`: what is known of the text of a literal that is read;
* `quotedRest_eq_some_iff`: a text that is written as it is, is read back exactly if it is plain.
-/

namespace ApiStubs.Script

open Text

/-! ### Units -/

/-- The units of 16 bits of a code point. -/
def codeUnits (n : Nat) : List Nat :=
  if n < 0x10000 then [n] else [0xD800 + (n - 0x10000) / 0x400, 0xDC00 + (n - 0x10000) % 0x400]

/-- The units of a text. -/
def units (s : List Char) : List Nat := s.flatMap fun c => codeUnits c.toNat

/-- The unit of an apostrophe. -/
def apostropheUnit : Nat := '\''.toNat

theorem units_cons (c : Char) (s : List Char) : units (c :: s) = codeUnits c.toNat ++ units s := rfl

theorem units_singleton (c : Char) : units [c] = codeUnits c.toNat := List.append_nil _

theorem units_append (s t : List Char) : units (s ++ t) = units s ++ units t :=
  List.flatMap_append

theorem length_codeUnits (n : Nat) : 1 ≤ (codeUnits n).length ∧ (codeUnits n).length ≤ 2 := by
  unfold codeUnits
  split
  · exact ⟨Nat.le_refl 1, Nat.le_succ 1⟩
  · exact ⟨Nat.le_succ 1, Nat.le_refl 2⟩

theorem length_le_units (s : List Char) : s.length ≤ (units s).length := by
  induction s with
  | nil => exact Nat.le_refl _
  | cons c s ih =>
    have hc := (length_codeUnits c.toNat).1
    rw [units_cons, List.length_append, List.length_cons]
    omega

theorem count_codeUnits (n : Nat) :
    (codeUnits n).count apostropheUnit = if n = apostropheUnit then 1 else 0 := by
  unfold codeUnits
  split
  · rw [List.count_singleton]
    simp
  · next hn =>
    have hne : n ≠ apostropheUnit := by simp [apostropheUnit]; omega
    rw [if_neg hne, List.count_eq_zero]
    simp [apostropheUnit]
    omega

/-- A text has a unit of an apostrophe for each of its apostrophes. -/
theorem count_units (s : List Char) : (units s).count apostropheUnit = s.count '\'' := by
  induction s with
  | nil => rfl
  | cons c s ih =>
    have hc : c.toNat = apostropheUnit ↔ c = '\'' := Char.toNat_inj
    rw [units_cons, List.count_append, ih, count_codeUnits, List.count_cons, Nat.add_comm]
    simp [hc]

/-! ### Escape sequences -/

/-- The number that so many hexadecimal digits write at the front of a text. -/
def hexNumber? (n : Nat) (s : List Char) : Option Nat :=
  if n ≤ s.length then (digitsOf? 16 (s.take n)).map (numberOf 16) else none

/-- The number that hexadecimal digits write, if it may be a code point. -/
def codePoint? (digits : List Char) : Option Nat :=
  if digits = [] then none
  else ((digitsOf? 16 digits).map (numberOf 16)).filter (· ≤ 0x10FFFF)

/-- The octal digits at the front of a text, as many as write a number below 256. -/
def octalDigits (c : Char) (s : List Char) : List Char :=
  ((c :: s).take (if c ≤ '3' then 3 else 2)).takeWhile fun d => (digitOf? 8 d).isSome

/-- What a letter stands for behind a backslash. A character that is none of these stands for
itself. -/
def shortEscape : Char → Char
  | 'b' => '\x08'
  | 't' => '\t'
  | 'n' => '\n'
  | 'v' => '\x0b'
  | 'f' => '\x0c'
  | 'r' => '\r'
  | c => c

/-- The character ends a line of a script. -/
def endsLine (c : Char) : Bool := isLineEnd c || c == '\u2028' || c == '\u2029'

/-- What an escape sequence stands for, by the text behind its backslash, and how many characters of
this text belong to it. An escaped line end stands for nothing. -/
def escape? : List Char → Option (List Nat × Nat)
  | [] => none
  | 'x' :: s => (hexNumber? 2 s).map fun n => (codeUnits n, 3)
  | 'u' :: '\x7b' :: s =>
    (splitFirst? ['\x7d'] s).bind fun (digits, _) =>
      (codePoint? digits).map fun n => (codeUnits n, digits.length + 3)
  | 'u' :: s => (hexNumber? 4 s).map fun n => (codeUnits n, 5)
  | '\r' :: '\n' :: _ => some ([], 2)
  | c :: s =>
    if endsLine c then some ([], 1)
    else match octalDigits c s with
      | [] => some (units [shortEscape c], 1)
      | digits => (digitsOf? 8 digits).map fun ds => ([numberOf 8 ds], digits.length)

/-- The text begins with a sequence of so many characters, which is at least as long as what it
stands for and whose apostrophes stand for themselves. -/
def Sequence (s : List Char) (value : List Nat) (n : Nat) : Prop :=
  ∃ front rest, s = front ++ rest ∧ front.length = n ∧ value.length ≤ (units front).length ∧
    front.count '\'' ≤ value.count apostropheUnit

theorem sequence_of_notMem {front : List Char} {value : List Nat} (rest : List Char)
    (hq : '\'' ∉ front) (hv : value.length ≤ front.length) :
    Sequence (front ++ rest) value front.length :=
  ⟨front, rest, rfl, rfl, Nat.le_trans hv (length_le_units front), by
    rw [List.count_eq_zero.2 hq]; exact Nat.zero_le _⟩

theorem apostrophe_notMem_of_digitsOf? {base : Nat} {s : List Char} {ds : List Nat}
    (h : digitsOf? base s = some ds) : '\'' ∉ s := by
  induction s generalizing ds with
  | nil => exact List.not_mem_nil
  | cons c s ih =>
    rw [digitsOf?, List.mapM_cons] at h
    obtain ⟨d, hd, h⟩ := Option.bind_eq_some_iff.1 h
    obtain ⟨more, hmore, -⟩ := Option.bind_eq_some_iff.1 h
    rintro (_ | ⟨_, hmem⟩)
    · cases hd
    · exact ih hmore hmem

theorem sequence_hexNumber? {n k : Nat} {s : List Char} {value : List Nat} (mark : List Char)
    (h : hexNumber? n s = some k) (hmark : '\'' ∉ mark) (hv : value.length ≤ mark.length + n) :
    Sequence (mark ++ s) value (mark.length + n) := by
  unfold hexNumber? at h
  split at h
  · next hn =>
    obtain ⟨ds, hds, -⟩ := Option.map_eq_some_iff.1 h
    have hq : '\'' ∉ mark ++ s.take n := by
      simp [hmark, apostrophe_notMem_of_digitsOf? hds]
    have hlength : (mark ++ s.take n).length = mark.length + n := by
      rw [List.length_append, List.length_take_of_le hn]
    have hseq := sequence_of_notMem (s.drop n) hq (by rwa [hlength])
    rwa [hlength, List.append_assoc, List.take_append_drop] at hseq
  · cases h

theorem apostrophe_notMem_of_codePoint? {digits : List Char} {n : Nat}
    (h : codePoint? digits = some n) : '\'' ∉ digits := by
  unfold codePoint? at h
  split at h
  · cases h
  · obtain ⟨hn, -⟩ := Option.filter_eq_some_iff.1 h
    obtain ⟨ds, hds, -⟩ := Option.map_eq_some_iff.1 hn
    exact apostrophe_notMem_of_digitsOf? hds

theorem octalDigits_prefix (c : Char) (s : List Char) : octalDigits c s <+: c :: s :=
  (List.takeWhile_prefix _).trans (List.take_prefix ..)

theorem length_units_shortEscape (c : Char) :
    (units [shortEscape c]).length ≤ (units [c]).length := by
  unfold shortEscape
  split
  all_goals exact Nat.le_refl _

theorem count_units_shortEscape (c : Char) :
    [c].count '\'' ≤ (units [shortEscape c]).count apostropheUnit := by
  rw [count_units]
  unfold shortEscape
  split
  all_goals exact Nat.le_refl _

theorem sequence_of_escape? {s : List Char} {value : List Nat} {n : Nat}
    (h : escape? s = some (value, n)) : Sequence s value n := by
  unfold escape? at h
  split at h
  · cases h
  · next s =>
    obtain ⟨k, hk, he⟩ := Option.map_eq_some_iff.1 h
    obtain ⟨rfl, rfl⟩ := Prod.mk.inj he
    have := length_codeUnits k
    exact sequence_hexNumber? ['x'] hk (by decide) (by simp; omega)
  · next s =>
    obtain ⟨⟨digits, rest⟩, hsplit, hpoint⟩ := Option.bind_eq_some_iff.1 h
    obtain ⟨k, hk, he⟩ := Option.map_eq_some_iff.1 hpoint
    obtain ⟨rfl, rfl⟩ := Prod.mk.inj he
    have := length_codeUnits k
    have hq : '\'' ∉ 'u' :: '\x7b' :: (digits ++ ['\x7d']) := by
      simp [apostrophe_notMem_of_codePoint? hk]
    have hlength : (codeUnits k).length ≤ ('u' :: '\x7b' :: (digits ++ ['\x7d'])).length := by
      simp
      omega
    have hseq := sequence_of_notMem rest hq hlength
    rw [eq_append_of_splitFirst? hsplit]
    simpa using hseq
  · next s _ =>
    obtain ⟨k, hk, he⟩ := Option.map_eq_some_iff.1 h
    obtain ⟨rfl, rfl⟩ := Prod.mk.inj he
    have := length_codeUnits k
    exact sequence_hexNumber? ['u'] hk (by decide) (by simp; omega)
  · next s =>
    obtain ⟨rfl, rfl⟩ := Prod.mk.inj (Option.some.inj h)
    have hq : '\'' ∉ ['\r', '\n'] := by decide
    exact sequence_of_notMem s hq (Nat.zero_le _)
  · next c s _ _ _ _ =>
    split at h
    · next hends =>
      obtain ⟨rfl, rfl⟩ := Prod.mk.inj (Option.some.inj h)
      have hq : '\'' ∉ [c] := by
        rintro (_ | ⟨_, hmem⟩)
        · cases hends
        · cases hmem
      exact sequence_of_notMem s hq (Nat.zero_le _)
    · split at h
      · obtain ⟨rfl, rfl⟩ := Prod.mk.inj (Option.some.inj h)
        exact ⟨[c], s, rfl, rfl, length_units_shortEscape c, count_units_shortEscape c⟩
      · next digits hne =>
        obtain ⟨ds, hds, he⟩ := Option.map_eq_some_iff.1 h
        obtain ⟨rfl, rfl⟩ := Prod.mk.inj he
        obtain ⟨rest, hrest⟩ := octalDigits_prefix c s
        rw [← hrest]
        refine sequence_of_notMem rest (apostrophe_notMem_of_digitsOf? hds) ?_
        exact List.length_pos_iff.2 hne

/-! ### Texts between apostrophes -/

/-- `quotedRest` with the next `skip` characters already read as part of an escape sequence. -/
def quotedFrom : Nat → List Char → Option (List Nat × List Char)
  | _, [] => none
  | skip + 1, _ :: s => quotedFrom skip s
  | 0, c :: s =>
    if c = '\'' then some ([], s)
    else if c = '\\' then
      (escape? s).bind fun (value, n) => (quotedFrom n s).map fun read => (value ++ read.1, read.2)
    else if isLineEnd c then none
    else (quotedFrom 0 s).map fun read => (codeUnits c.toNat ++ read.1, read.2)

/-- The rest of a text behind its opening apostrophe, up to its closing one. -/
def quotedRest : Scan (List Nat) := quotedFrom 0

/-- The character stands for itself between apostrophes. -/
def isPlainChar (c : Char) : Bool := c != '\'' && c != '\\' && !isLineEnd c

/-- The text stands for itself between apostrophes: it holds none, no backslash, and no line end. -/
def isPlain (s : List Char) : Bool := s.all isPlainChar

theorem quotedFrom_plain {c : Char} (hc : isPlainChar c = true) (s : List Char) :
    quotedFrom 0 (c :: s) =
      (quotedFrom 0 s).map fun read => (codeUnits c.toNat ++ read.1, read.2) := by
  simp only [isPlainChar, Bool.and_eq_true, bne_iff_ne, Bool.not_eq_true'] at hc
  obtain ⟨⟨hq, hb⟩, hl⟩ := hc
  rw [quotedFrom, if_neg hq, if_neg hb, hl]
  rfl

theorem quotedRest_plain {s : List Char} (h : isPlain s = true) (rest : List Char) :
    quotedRest (s ++ '\'' :: rest) = some (units s, rest) := by
  induction s with
  | nil => rfl
  | cons c s ih =>
    obtain ⟨hc, hs⟩ := Bool.and_eq_true_iff.1 (show (isPlainChar c && isPlain s) = true from h)
    show quotedFrom 0 (c :: (s ++ '\'' :: rest)) = _
    rw [quotedFrom_plain hc, show quotedFrom 0 (s ++ '\'' :: rest) = _ from ih hs, units_cons]
    rfl

/-- What is read of a literal, by the text of it: this is at least as long, only a plain text is not
longer, and its apostrophes stand for themselves. -/
structure StandsFor (s : List Char) (value : List Nat) : Prop where
  length_le : value.length ≤ (units s).length
  plain : value.length = (units s).length → isPlain s = true
  count_le : s.count '\'' ≤ value.count apostropheUnit

theorem standsFor_nil : StandsFor [] [] := ⟨Nat.le_refl _, fun _ => rfl, Nat.le_refl _⟩

theorem StandsFor.cons {c : Char} {s : List Char} {value : List Nat} (hc : isPlainChar c = true)
    (h : StandsFor s value) : StandsFor (c :: s) (codeUnits c.toNat ++ value) where
  length_le := by
    rw [units_cons, List.length_append, List.length_append]
    exact Nat.add_le_add_left h.length_le _
  plain he := by
    rw [units_cons, List.length_append, List.length_append] at he
    rw [isPlain, List.all_cons, hc]
    exact h.plain (Nat.add_left_cancel he)
  count_le := by
    have hle := h.count_le
    rw [← List.singleton_append, List.count_append, List.count_append, ← units_singleton,
      count_units]
    omega

/-- An escape sequence is longer than what it stands for, by its backslash at least. -/
theorem StandsFor.escape {front s : List Char} {value more : List Nat}
    (hlength : value.length ≤ (units front).length)
    (hcount : front.count '\'' ≤ value.count apostropheUnit) (h : StandsFor s more) :
    StandsFor ('\\' :: (front ++ s)) (value ++ more) := by
  have hunits : (units ('\\' :: (front ++ s))).length =
      1 + ((units front).length + (units s).length) := by
    rw [units_cons, units_append, List.length_append, List.length_append]
    rfl
  have hle := h.length_le
  refine ⟨?_, fun he => ?_, ?_⟩
  · rw [hunits, List.length_append]
    omega
  · rw [hunits, List.length_append] at he
    omega
  · rw [List.count_cons_of_ne (by decide), List.count_append, List.count_append]
    exact Nat.add_le_add hcount h.count_le

/-- A literal that is read ends at an apostrophe, and what is in front of it stands for what is
read. -/
theorem exists_of_quotedFrom {s rest : List Char} {skip : Nat} {value : List Nat}
    (h : quotedFrom skip s = some (value, rest)) :
    ∃ front body, s = front ++ (body ++ '\'' :: rest) ∧ front.length = skip ∧
      StandsFor body value := by
  induction s generalizing skip value with
  | nil => cases skip <;> cases h
  | cons c s ih =>
    cases skip with
    | succ skip =>
      obtain ⟨front, body, rfl, rfl, hbody⟩ := ih h
      exact ⟨c :: front, body, rfl, rfl, hbody⟩
    | zero =>
      rw [quotedFrom] at h
      split at h
      · next hq =>
        obtain ⟨rfl, rfl⟩ := Prod.mk.inj (Option.some.inj h)
        exact ⟨[], [], by rw [hq]; rfl, rfl, standsFor_nil⟩
      · next hq =>
        split at h
        · next hb =>
          obtain ⟨⟨unescaped, n⟩, hescape, hmore⟩ := Option.bind_eq_some_iff.1 h
          obtain ⟨⟨more, rest'⟩, hread, he⟩ := Option.map_eq_some_iff.1 hmore
          obtain ⟨rfl, rfl⟩ := Prod.mk.inj he
          obtain ⟨front, behind, hs, hfront, hlength, hcount⟩ := sequence_of_escape? hescape
          obtain ⟨front', body, hs', hfront', hbody⟩ := ih hread
          -- the sequence is what the reader skips
          obtain ⟨rfl, -⟩ := List.append_inj (hs.symm.trans hs') (hfront.trans hfront'.symm)
          refine ⟨[], '\\' :: (front ++ body), ?_, rfl, .escape hlength hcount hbody⟩
          rw [hs', hb]
          simp
        · next hb =>
          split at h
          · cases h
          · next hl =>
            obtain ⟨⟨more, rest'⟩, hread, he⟩ := Option.map_eq_some_iff.1 h
            obtain ⟨rfl, rfl⟩ := Prod.mk.inj he
            obtain ⟨front, body, rfl, hfront, hbody⟩ := ih hread
            obtain rfl := List.eq_nil_of_length_eq_zero hfront
            have hplain : isPlainChar c = true := by simp [isPlainChar, hq, hb, hl]
            exact ⟨[], c :: body, rfl, rfl, .cons hplain hbody⟩

/-- A text that is written as it is between apostrophes is read back exactly if it is plain. -/
theorem quotedRest_eq_some_iff {s t rest : List Char} :
    quotedRest (s ++ '\'' :: t) = some (units s, rest) ↔ isPlain s = true ∧ rest = t := by
  constructor
  · intro h
    obtain ⟨front, body, hs, hfront, hbody⟩ := exists_of_quotedFrom h
    obtain rfl := List.eq_nil_of_length_eq_zero hfront
    rcases List.append_eq_append_iff.1 (show s ++ '\'' :: t = body ++ '\'' :: rest from hs) with
      ⟨more, hmore, hrest⟩ | ⟨more, hmore, hrest⟩
    · cases more with
      | nil =>
        obtain rfl : s = body := by simpa using hmore.symm
        exact ⟨hbody.plain rfl, (List.cons.inj hrest).2.symm⟩
      | cons c more =>
        -- the literal would hold one apostrophe more than what it stands for
        obtain ⟨rfl, -⟩ := List.cons.inj hrest
        have hcount := hbody.count_le
        rw [hmore, List.count_append, List.count_cons_self, count_units] at hcount
        omega
    · cases more with
      | nil =>
        obtain rfl : s = body := by simpa using hmore
        exact ⟨hbody.plain rfl, (List.cons.inj hrest).2⟩
      | cons c more =>
        have hlength := hbody.length_le
        have hmore' := (length_codeUnits c.toNat).1
        rw [hmore, units_append, units_cons, List.length_append, List.length_append] at hlength
        omega
  · rintro ⟨h, rfl⟩
    exact quotedRest_plain h rest

end ApiStubs.Script
