import ApiStubs.Proofs.RootElement
import Mathlib.Data.List.Basic

/-!
# The causes of faults

A fragment in its root is read token by token, and each fault names a place of the text. What
stands there is the cause of the fault, and it needs no reader to be recognized.

* `Scanned`: the tokens up to a place, with their events and the elements they leave open;
* `Cause`: what stands at the place of a fault;
* `Cause.readFrom_eq`: where a cause stands the reading ends with its fault;
* `exists_cause_of_fault`: where the reading ends with a fault its cause stands;
* `read_eq_fault_iff`: both directions for a fragment, and what is never the place of a fault.
-/

namespace ApiStubs.Fragment

open Text

/-! ### Places in a text -/

/-- Complete tokens lead from a text to a place in it. -/
inductive Scanned : List String → List Char → List Event → List String → List Char → Prop
  | here {elements : List String} {place : List Char} : Scanned elements place [] elements place
  | token {elements left last : List String} {a : Char} {s rest place : List Char} {token : Token}
      {es events : List Event} (ht : Token.read a s = .ok (token, rest))
      (he : token.events elements = .ok (es, left)) (h : Scanned left rest events last place) :
      Scanned elements (a :: s) (es ++ events) last place

section Scanned

variable {size : Nat} {elements last : List String} {text place : List Char} {events : List Event}

theorem Scanned.suffix (h : Scanned elements text events last place) : place <:+ text := by
  induction h with
  | here => exact List.suffix_rfl
  | token ht _ _ ih => exact ih.trans (Token.shape_of_read ht).suffix

theorem Scanned.readFrom_eq (h : Scanned elements text events last place) :
    readFrom size elements text = (readFrom size last place).after events := by
  induction h with
  | here => simp
  | token ht he _ ih => rw [readFrom_of_token ht he, ih, Reading.after_after]

/-- The events leave the elements open that the scan has on its list. -/
theorem Scanned.replay_eq (h : Scanned elements text events last place) :
    replay elements events = some last := by
  induction h with
  | here => rfl
  | token _ he _ ih => rw [replay_append, Token.replay_eq he, Option.bind_some, ih]

end Scanned

/-- The place is known by the number of bytes before it. -/
theorem eq_of_byteLength_eq {front front' place place' : List Char}
    (h : front ++ place = front' ++ place') (hb : byteLength front = byteLength front') :
    place = place' := by
  have hpos : ∀ {c : Char} {s : List Char}, byteLength (c :: s) ≠ 0 := fun {c s} => by
    have := c.utf8Size_pos
    rw [byteLength_cons]
    omega
  induction front generalizing front' with
  | nil =>
    cases front' with
    | nil => exact h
    | cons c front' => exact absurd hb.symm hpos
  | cons c front ih =>
    cases front' with
    | nil => exact absurd hb hpos
    | cons c' front' =>
      obtain ⟨rfl, htail⟩ := List.cons.inj h
      exact ih htail (Nat.add_left_cancel hb)

/-! ### What stands at the place of a fault -/

/-- The number of bytes before the place. -/
def Fault.offset : Fault → Nat
  | .unexpectedEndTag _ offset | .unterminatedTag offset | .unterminatedComment offset => offset

/-- The text at a place with this offset is no complete token, or an end tag of no element, and the
fault says so. -/
inductive Cause (elements : List String) (offset : Nat) : List Char → Fault → Prop
  /-- A comment without its end. -/
  | comment {s : List Char} (hs : ¬"-->".toList <:+: s) :
      Cause elements offset ("<!--".toList ++ s) (.unterminatedComment offset)
  /-- An end tag of an element that is not open. -/
  | endTag {name s : List Char} (hgt : '>' ∉ name) (hn : elementName (trim name) ∉ elements) :
      Cause elements offset ('<' :: '/' :: (name ++ '>' :: s))
        (.unexpectedEndTag (elementName (trim name)) offset)
  /-- A character data section without its end. -/
  | data {s : List Char} (hs : ¬"]]>".toList <:+: s) :
      Cause elements offset ("<![CDATA[".toList ++ s) (.unterminatedTag offset)
  /-- A start tag with a quote outside the others that is never closed. -/
  | quote {c q : Char} {s value : List Char} (hc : isTagLetter c = true) (ht : TagText (c :: s))
      (hq : isQuote q = true) (hv : q ∉ value) :
      Cause elements offset ('<' :: c :: (s ++ q :: value)) (.unterminatedTag offset)

section Cause

variable {size offset : Nat} {elements : List String} {place rest s : List Char} {a : Char}
  {token : Token} {fault : Fault}

theorem Cause.offset_eq (h : Cause elements offset place fault) : fault.offset = offset := by
  cases h <;> rfl

/-- Where a cause stands the reading ends with its fault. -/
theorem Cause.readFrom_eq (h : Cause elements (size - byteLength place) place fault) :
    readFrom size elements place = ⟨[], some fault⟩ := by
  generalize ho : size - byteLength place = offset at h
  cases h with
  | comment hs =>
    subst ho
    exact readFrom_of_unterminated (read_openComment (splitFirst?_eq_none_iff.2 hs))
  | @endTag name s hgt hn =>
    subst ho
    exact readFrom_of_unexpected (Token.read_endTag hgt s) (Token.events_endTag_of_notMem hn)
  | data hs =>
    subst ho
    exact readFrom_of_unterminated (read_openData (splitFirst?_eq_none_iff.2 hs))
  | quote hc ht hq hv =>
    subst ho
    exact readFrom_of_unterminated (read_openQuote hc ht hq hv)

/-! ### What else could be cut off -/

theorem TagText.getLast?_ne (h : TagText s) : s.getLast? ≠ some '>' := by
  induction h with
  | nil => simp
  | @plain c s hc hq h ih =>
    rw [List.getLast?_cons]
    cases hl : s.getLast? with
    | none => simpa using hc
    | some d => simpa [hl] using ih
  | @quoted q value s hq hv h ih =>
    rw [List.getLast?_cons, List.getLast?_append, List.getLast?_cons]
    cases hl : s.getLast? with
    | none =>
      rintro h
      obtain rfl : q = '>' := by simpa using h
      cases hq
    | some d => simpa [hl] using ih

/-- A tag that the next `>` ends is not cut off where the text ends with one. -/
theorem OpenTag.getLast?_ne (h : OpenTag s) : s.getLast? ≠ some '>' := by
  cases h with
  | startTag hc h =>
    rw [List.getLast?_cons_cons]
    exact h.getLast?_ne
  | declaration hc _ _ hs =>
    intro hlast
    rcases hc with rfl | rfl <;> simpa [hs] using List.mem_of_getLast? hlast
  | endTag hs =>
    intro hlast
    simpa [hs] using List.mem_of_getLast? hlast

theorem cause_of_unterminated {u : Token.Unterminated} (ht : Token.read a s = .error u)
    (hgt : (a :: s).getLast? = some '>') : Cause elements offset (a :: s) (u.fault offset) := by
  cases u with
  | comment =>
    obtain ⟨body, rfl, rfl, hs⟩ := openComment_of_read ht
    exact .comment (splitFirst?_eq_none_iff.1 hs)
  | tag =>
    generalize hp : a :: s = place at hgt ⊢
    have hcut : CutTag place := hp ▸ cutTag_of_read ht
    cases hcut with
    | opened h => exact absurd hgt h.getLast?_ne
    | quoted hc ht hq hv => exact .quote hc ht hq hv
    | @data s hs =>
      refine .data fun hmem => ?_
      rw [contains_iff_isInfix.2 hmem] at hs
      cases hs

theorem cause_of_unexpected {name : String} (ht : Token.read a s = .ok (token, rest))
    (he : token.events elements = .error name) :
    Cause elements offset (a :: s) (.unexpectedEndTag name offset) := by
  obtain ⟨rfl, hn⟩ := Token.eq_endTag_of_events he
  obtain ⟨raw, htext, hgt, rfl⟩ := (Token.shape_of_read ht).exists_endTag rfl
  rw [htext]
  exact .endTag hgt hn

end Cause

/-- Where the reading of a text ends with a fault its cause stands. -/
theorem exists_cause_of_fault {size : Nat} {elements : List String} {text : List Char}
    {events : List Event} {fault : Fault} (hgt : text.getLast? = some '>')
    (h : readFrom size elements text = ⟨events, some fault⟩) :
    ∃ last place, Scanned elements text events last place ∧
      Cause last (size - byteLength place) place fault := by
  match text with
  | [] => cases hgt
  | a :: s =>
    cases ht : Token.read a s with
    | error u =>
      obtain ⟨rfl, hfault⟩ := Reading.mk.inj ((readFrom_of_unterminated ht).symm.trans h)
      obtain rfl := Option.some.inj hfault
      exact ⟨elements, a :: s, .here, cause_of_unterminated ht hgt⟩
    | ok cut =>
      obtain ⟨token, rest⟩ := cut
      cases he : token.events elements with
      | error name =>
        obtain ⟨rfl, hfault⟩ := Reading.mk.inj ((readFrom_of_unexpected ht he).symm.trans h)
        obtain rfl := Option.some.inj hfault
        exact ⟨elements, a :: s, .here, cause_of_unexpected ht he⟩
      | ok out =>
        obtain ⟨es, left⟩ := out
        have hle : rest.length ≤ s.length := Token.length_le_of_read ht
        rw [readFrom_of_token ht he] at h
        cases hr : readFrom size left rest with | mk later fault' =>
        rw [hr] at h
        obtain ⟨rfl, rfl⟩ := Reading.mk.inj h
        obtain ⟨front, hfront⟩ := (Token.shape_of_read ht).suffix
        have hne : rest ≠ [] := by
          rintro rfl
          simp at hr
        rw [← hfront, List.getLast?_append_of_ne_nil front hne] at hgt
        obtain ⟨last, place, hscan, hcause⟩ := exists_cause_of_fault hgt hr
        exact ⟨last, place, .token ht he hscan, hcause⟩
termination_by text.length

/-! ### Fragments in their root -/

/-- The start tag of the root. -/
def rootStart : List Char := '<' :: (rootElement.toList ++ ['>'])

theorem toList_wrap_eq (fragment : String) :
    (wrap fragment).toList = rootStart ++ (fragment.toList ++ rootEnd) := by
  simp [toList_wrap, rootStart]

theorem byteLength_sub {text front place : List Char} (h : text = front ++ place) :
    byteLength text - byteLength place = byteLength front := by
  rw [h, byteLength_append, Nat.add_sub_cancel]

/-- The text begins an end tag or a declaration. -/
inductive EndTagOrDeclaration : List Char → Prop
  | endTag (s : List Char) : EndTagOrDeclaration ('<' :: '/' :: s)
  | declaration {c : Char} {s : List Char} (hc : c = '!' ∨ c = '?')
      (hcomment : ¬"!--".toList <+: c :: s) (hdata : ¬"![CDATA[".toList <+: c :: s) :
      EndTagOrDeclaration ('<' :: c :: s)

/-- Its end is the next `>`, of which there is always one in a text that ends with it. -/
theorem EndTagOrDeclaration.exists_read {place : List Char} (h : EndTagOrDeclaration place)
    (hgt : place.getLast? = some '>') :
    ∃ s token rest, place = '<' :: s ∧ Token.read '<' s = .ok (token, rest) := by
  cases h with
  | endTag s =>
    have hmem : '>' ∈ s := by simpa using List.mem_of_getLast? hgt
    obtain ⟨name, rest, rfl, hname⟩ := List.eq_append_cons_of_mem hmem
    exact ⟨_, _, rest, rfl, Token.read_endTag hname rest⟩
  | @declaration c s hc hcomment hdata =>
    have hmem : '>' ∈ s := by
      rcases hc with rfl | rfl <;> simpa using List.mem_of_getLast? hgt
    obtain ⟨content, rest, rfl, hcontent⟩ := List.eq_append_cons_of_mem hmem
    exact ⟨_, _, rest, rfl, Token.read_declaration hc hcontent hcomment hdata⟩

theorem EndTagOrDeclaration.not_cause {elements : List String} {offset : Nat} {place : List Char}
    (h : EndTagOrDeclaration place) : ¬Cause elements offset place (.unterminatedTag offset) := by
  generalize hf : Fault.unterminatedTag offset = fault
  intro hcause
  cases hcause with
  | comment => cases hf
  | endTag => cases hf
  | @data s hs =>
    cases h with
    | declaration hc hcomment hdata => exact hdata ⟨s, rfl⟩
  | quote hl ht hq hv =>
    cases h with
    | endTag s => cases hl
    | declaration hc hcomment hdata => rcases hc with rfl | rfl <;> cases hl

section Fragment

variable {fragment : String} {events : List Event} {fault : Fault}

theorem getLast?_of_wrap {front place : List Char} (h : (wrap fragment).toList = front ++ place)
    (hne : place ≠ []) : place.getLast? = some '>' := by
  have hlast : (wrap fragment).toList.getLast? = some '>' := by
    rw [toList_wrap_eq, rootEnd, ← List.append_assoc, ← List.append_assoc, List.getLast?_concat]
  rwa [h, List.getLast?_append_of_ne_nil front hne] at hlast

/-- The scan of a failing fragment starts with the root and ends at the cause of the fault. -/
theorem exists_cause_of_read (h : read fragment = ⟨events, some fault⟩) :
    ∃ front elements place, (wrap fragment).toList = rootStart ++ front ++ place ∧
      Scanned [] (wrap fragment).toList events elements place ∧
      Cause elements (byteLength (rootStart ++ front)) place fault := by
  have hroot := Token.read_rootStart (fragment.toList ++ rootEnd)
  rw [read, toList_wrap, readFrom_of_token hroot rfl] at h
  cases hr : readFrom _ [rootElement] (fragment.toList ++ rootEnd) with | mk later fault' =>
  rw [hr] at h
  obtain ⟨rfl, rfl⟩ := Reading.mk.inj h
  have hgt : (fragment.toList ++ rootEnd).getLast? = some '>' :=
    getLast?_of_wrap (toList_wrap_eq fragment) (by simp [rootEnd_eq])
  obtain ⟨elements, place, hscan, hcause⟩ := exists_cause_of_fault hgt hr
  obtain ⟨front, hfront⟩ := hscan.suffix
  have hplace : (wrap fragment).toList = rootStart ++ front ++ place := by
    rw [toList_wrap_eq, ← hfront, List.append_assoc]
  rw [← toList_wrap, byteLength_sub hplace] at hcause
  refine ⟨front, elements, place, hplace, ?_, hcause⟩
  rw [toList_wrap]
  exact .token hroot rfl hscan

theorem read_of_cause {front place : List Char} {elements : List String}
    (hplace : (wrap fragment).toList = front ++ place)
    (hscan : Scanned [] (wrap fragment).toList events elements place)
    (hcause : Cause elements (byteLength front) place fault) :
    read fragment = ⟨events, some fault⟩ := by
  rw [← byteLength_sub hplace] at hcause
  rw [read, hscan.readFrom_eq, hcause.readFrom_eq, Reading.after, List.append_nil]

/-- Another place has another offset. -/
theorem EndTagOrDeclaration.fault_ne {front place : List Char} (h : EndTagOrDeclaration place)
    (hplace : (wrap fragment).toList = front ++ place) :
    (read fragment).fault ≠ some (.unterminatedTag (byteLength front)) := by
  intro hfault
  have hread : read fragment = ⟨(read fragment).events, _⟩ := congrArg (Reading.mk _) hfault
  obtain ⟨front', elements, place', hplace', -, hcause⟩ := exists_cause_of_read hread
  have hb : byteLength front = byteLength (rootStart ++ front') := hcause.offset_eq
  rw [hb] at hcause
  obtain rfl := eq_of_byteLength_eq (hplace.symm.trans hplace') hb
  exact h.not_cause hcause

end Fragment

/-- A fault of a fragment describes its cause, and every cause that is reached is a fault.

* Complete tokens lead to the place of a fault. It is a character behind the start tag of the root,
  the offset is the number of bytes before it, and the events are those of the tokens.
* Where a comment or a character data section has no end, where an end tag is that of no open
  element and where a quote in a start tag is never closed, the reading ends with that fault.
* Every end tag and every declaration ends in its text, so neither is ever a tag without its end. -/
theorem read_eq_fault_iff (fragment : String) :
    (∀ events fault, read fragment = ⟨events, some fault⟩ ↔
      ∃ front elements place, (wrap fragment).toList = rootStart ++ front ++ place ∧
        Scanned [] (wrap fragment).toList events elements place ∧
        replay [] events = some elements ∧
        Cause elements (byteLength (rootStart ++ front)) place fault) ∧
      ∀ front place, (wrap fragment).toList = front ++ place → EndTagOrDeclaration place →
        (∃ s token rest, place = '<' :: s ∧ Token.read '<' s = .ok (token, rest)) ∧
          (read fragment).fault ≠ some (.unterminatedTag (byteLength front)) := by
  refine ⟨fun events fault => ⟨fun h => ?_, ?_⟩, fun front place hplace h => ⟨?_, ?_⟩⟩
  · obtain ⟨front, elements, place, hplace, hscan, hcause⟩ := exists_cause_of_read h
    exact ⟨front, elements, place, hplace, hscan, hscan.replay_eq, hcause⟩
  · rintro ⟨front, elements, place, hplace, hscan, -, hcause⟩
    exact read_of_cause hplace hscan hcause
  · exact h.exists_read (getLast?_of_wrap hplace (by rintro rfl; cases h))
  · exact h.fault_ne hplace

end ApiStubs.Fragment
