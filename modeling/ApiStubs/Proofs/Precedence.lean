import ApiStubs.Inference
import ApiStubs.Proofs.TokenShapes
import Mathlib.Data.Nat.Find

/-!
# Which rule gives a property its value

There are several rules for the value of a property, and the first that applies decides. When a rule
applies is said for each of them alone, so that only their order tells which one is used.

* `FirstToken`, `LeftmostToken`: the text in the first braces of a raw signature, which is what the
  leftmost match of the pattern of tokens captures;
* `Rule`, `Rule.place`: the rules in their order;
* `Gives`, `Decides`: a rule that applies, and the first of these;
* `Decides.inferDefault_eq`: the value is that of the rule that decides;
* `inferDefault_precedence`: the rule that decides, also for other specializers and with more text
  around the description.
-/

namespace ApiStubs.Inference

open Text

/-! ### The first token of a raw signature -/

/-- The text between the first opening brace and the first closing brace behind it. -/
def FirstToken (s token : List Char) : Prop :=
  ∃ before after, s = before ++ '{' :: (token ++ '}' :: after) ∧ '{' ∉ before ∧ '}' ∉ token

/-- A match of the pattern of tokens: an opening brace, a text without a closing brace, and a
closing brace. It captures the text in between. -/
def TokenMatch (s before token : List Char) : Prop :=
  ∃ after, s = before ++ '{' :: (token ++ '}' :: after) ∧ '}' ∉ token

/-- The leftmost match of the pattern captures the token. -/
def LeftmostToken (s token : List Char) : Prop :=
  ∃ before, TokenMatch s before token ∧
    ∀ before' token', TokenMatch s before' token' → before.length ≤ before'.length

theorem leftmostToken_iff {s token : List Char} : LeftmostToken s token ↔ FirstToken s token := by
  symm
  constructor
  · rintro ⟨before, after, hs, hbefore, htoken⟩
    refine ⟨before, ⟨after, hs, htoken⟩, ?_⟩
    rintro before' token' ⟨after', hs', -⟩
    rw [hs] at hs'
    rcases List.append_eq_append_iff.1 hs' with ⟨more, rfl, -⟩ | ⟨more, rfl, hmore⟩
    · simp
    · -- a match further left would have its brace before the first one
      cases more with
      | nil => simp
      | cons c more =>
        obtain ⟨rfl, -⟩ := List.cons.inj hmore
        simp at hbefore
  · rintro ⟨before, ⟨after, hs, htoken⟩, hfirst⟩
    refine ⟨before, after, hs, fun hmem => ?_, htoken⟩
    obtain ⟨front, back, rfl, -⟩ := List.eq_append_cons_of_mem hmem
    have hclose : '}' ∈ back ++ '{' :: (token ++ '}' :: after) := by simp
    obtain ⟨inside, behind, hinside, hnot⟩ := List.eq_append_cons_of_mem hclose
    have hmatch : TokenMatch s front inside := by
      refine ⟨behind, ?_, hnot⟩
      rw [hs, ← hinside, List.append_assoc, List.cons_append]
    have hle := hfirst front inside hmatch
    rw [List.length_append, List.length_cons] at hle
    omega

theorem typeToken?_eq_some_iff {textRaw word : String} : typeToken? textRaw = some word ↔
    ∃ token, FirstToken textRaw.toList token ∧ trim token = word.toList := by
  unfold typeToken?
  constructor
  · intro h
    split at h
    · next before rest hopen =>
      split at h
      · next token after hclose =>
        obtain rfl := Option.some.inj h
        refine ⟨token, ⟨before, after, ?_, notMem_of_splitFirst?_singleton hopen,
          notMem_of_splitFirst?_singleton hclose⟩, String.toList_ofList.symm⟩
        rw [eq_append_of_splitFirst? hopen, eq_append_of_splitFirst? hclose]
        simp
      · cases h
    · cases h
  · rintro ⟨token, ⟨before, after, hs, hbefore, htoken⟩, hword⟩
    rw [hs, splitFirst?_singleton hbefore]
    simp only [splitFirst?_singleton htoken, hword, String.ofList_toList]

/-- The token of a raw signature is what the leftmost match captures, trimmed. -/
theorem typeToken?_eq_some_iff_leftmost {textRaw word : String} : typeToken? textRaw = some word ↔
    ∃ token, LeftmostToken textRaw.toList token ∧ trim token = word.toList := by
  simp only [typeToken?_eq_some_iff, leftmostToken_iff]

/-- The first token is a type with this value. -/
inductive TokenValue (textRaw : String) : String → Prop
  | boolean {token : List Char} (ht : FirstToken textRaw.toList token)
      (hw : Surrounded "Boolean".toList token) : TokenValue textRaw "true"
  | number {token : List Char} (ht : FirstToken textRaw.toList token)
      (hw : Surrounded "Number".toList token) : TokenValue textRaw "0"

theorem typeToken?_eq_some_iff_surrounded {textRaw word : String} (hne : word.toList ≠ [])
    (hb : word.toList.any isBlank = false) : typeToken? textRaw = some word ↔
      ∃ token, FirstToken textRaw.toList token ∧ Surrounded word.toList token := by
  simp only [typeToken?_eq_some_iff, trim_eq_iff hne hb]

theorem typeToken?_eq_boolean_iff {textRaw : String} : typeToken? textRaw = some "Boolean" ↔
    ∃ token, FirstToken textRaw.toList token ∧ Surrounded "Boolean".toList token :=
  typeToken?_eq_some_iff_surrounded (by decide) rfl

theorem typeToken?_eq_number_iff {textRaw : String} : typeToken? textRaw = some "Number" ↔
    ∃ token, FirstToken textRaw.toList token ∧ Surrounded "Number".toList token :=
  typeToken?_eq_some_iff_surrounded (by decide) rfl

theorem signatureLiteral?_eq_some_iff {textRaw literal : String} :
    signatureLiteral? textRaw = some literal ↔ TokenValue textRaw literal := by
  unfold signatureLiteral?
  constructor
  · intro h
    split at h
    · next hword =>
      obtain rfl := Option.some.inj h
      obtain ⟨token, ht, hw⟩ := typeToken?_eq_boolean_iff.1 hword
      exact .boolean ht hw
    · next hword =>
      obtain rfl := Option.some.inj h
      obtain ⟨token, ht, hw⟩ := typeToken?_eq_number_iff.1 hword
      exact .number ht hw
    · cases h
  · intro h
    cases h with
    | boolean ht hw =>
      rw [typeToken?_eq_boolean_iff.2 ⟨_, ht, hw⟩]
      rfl
    | number ht hw =>
      rw [typeToken?_eq_number_iff.2 ⟨_, ht, hw⟩]
      rfl

/-! ### Rules -/

/-- A rule for the value of a property. -/
inductive Rule where
  /-- A type that the description marks up as code. -/
  | boolean | number | readable | writable
  /-- The type that the raw signature gives. -/
  | token
  /-- What is known of the container. -/
  | specializer
  /-- Nothing is known. -/
  | undefined
  deriving DecidableEq, Repr

namespace Rule

/-- The place of a rule in their order. -/
def place : Rule → Nat
  | boolean => 0
  | number => 1
  | readable => 2
  | writable => 3
  | token => 4
  | specializer => 5
  | undefined => 6

/-- The rule follows the documentation of the property. -/
def isHint (rule : Rule) : Bool := rule.place ≤ token.place

theorem place_injective : Function.Injective place := by
  intro a b h
  cases a <;> cases b <;> first | rfl | cases h

end Rule

/-- The description marks up the type as code, wherever that is. -/
def Mentions (desc type : String) : Prop := ("<code>" ++ type ++ "</code>").toList <:+: desc.toList

instance (desc type : String) : Decidable (Mentions desc type) :=
  inferInstanceAs (Decidable (_ <:+: _))

theorem Mentions.within {desc type : String} (h : Mentions desc type) (before after : String) :
    Mentions (before ++ desc ++ after) type := by
  have htext : (before ++ desc ++ after).toList = before.toList ++ desc.toList ++ after.toList := by
    rw [String.toList_append, String.toList_append]
  unfold Mentions at h ⊢
  rw [htext]
  exact h.trans (List.infix_append ..)

theorem describedLiteral?_eq (desc textRaw : String) : describedLiteral? desc textRaw =
    if Mentions desc "Boolean" then some "true"
    else if Mentions desc "Number" then some "0"
    else if Mentions desc "Readable Stream" then some "require('stream').Readable()"
    else if Mentions desc "Writable Stream" ∨ textRaw = "process.stderr" then
      some "require('stream').Writable()"
    else none := by
  have hmentions (type : String) :
      contains ("<code>" ++ type ++ "</code>").toList desc.toList = decide (Mentions desc type) :=
    Bool.eq_iff_iff.2 (contains_iff_isInfix.trans decide_eq_true_iff.symm)
  simp only [describedLiteral?, hmentions, decide_eq_true_eq, Bool.or_eq_true, beq_iff_eq]
  rfl

section

variable {name desc textRaw : String} {specializer : Option Specializer} {rule : Rule}
  {value : String}

variable (name desc textRaw specializer) in
/-- The rule applies to a property, and gives it the value. -/
inductive Gives : Rule → String → Prop
  | boolean (h : Mentions desc "Boolean") : Gives .boolean "true"
  | number (h : Mentions desc "Number") : Gives .number "0"
  | readable (h : Mentions desc "Readable Stream") : Gives .readable "require('stream').Readable()"
  | writable (h : Mentions desc "Writable Stream" ∨ textRaw = "process.stderr") :
      Gives .writable "require('stream').Writable()"
  | token {literal : String} (h : TokenValue textRaw literal) : Gives .token literal
  | specializer {known : Specializer} {literal : String} (hs : specializer = some known)
      (h : known name = some literal) : Gives .specializer literal
  | undefined : Gives .undefined "undefined"

variable (name desc textRaw specializer) in
/-- The rule is the first that applies, and gives the value. -/
structure Decides (rule : Rule) (value : String) : Prop where
  gives : Gives name desc textRaw specializer rule value
  first : ∀ rule' value', Gives name desc textRaw specializer rule' value' →
    rule.place ≤ rule'.place

variable (name desc textRaw specializer) in
theorem exists_decides : ∃ rule value, Decides name desc textRaw specializer rule value := by
  classical
  have hsome : ∃ place rule value,
      Gives name desc textRaw specializer rule value ∧ rule.place = place :=
    ⟨_, _, _, .undefined, rfl⟩
  obtain ⟨rule, value, hgives, hplace⟩ := Nat.find_spec hsome
  refine ⟨rule, value, hgives, fun rule' value' h => ?_⟩
  rw [hplace]
  exact Nat.find_min' hsome ⟨rule', value', h, rfl⟩

/-- No rule before the one that decides applies. -/
theorem Decides.not_gives (h : Decides name desc textRaw specializer rule value) {rule' : Rule}
    (hlt : rule'.place < rule.place) (value' : String) :
    ¬Gives name desc textRaw specializer rule' value' :=
  fun hgives => Nat.not_le_of_lt hlt (h.first rule' value' hgives)

theorem Decides.not_boolean (h : Decides name desc textRaw specializer rule value)
    (hlt : Rule.boolean.place < rule.place) : ¬Mentions desc "Boolean" :=
  fun hb => h.not_gives hlt _ (.boolean hb)

theorem Decides.not_number (h : Decides name desc textRaw specializer rule value)
    (hlt : Rule.number.place < rule.place) : ¬Mentions desc "Number" :=
  fun hn => h.not_gives hlt _ (.number hn)

theorem Decides.not_readable (h : Decides name desc textRaw specializer rule value)
    (hlt : Rule.readable.place < rule.place) : ¬Mentions desc "Readable Stream" :=
  fun hr => h.not_gives hlt _ (.readable hr)

/-- Where a later rule decides, the description has no hint. -/
theorem Decides.describedLiteral?_eq_none
    (h : Decides name desc textRaw specializer rule value)
    (hlt : Rule.writable.place < rule.place) : describedLiteral? desc textRaw = none := by
  rw [describedLiteral?_eq, if_neg (h.not_boolean (Nat.lt_trans (by decide) hlt)),
    if_neg (h.not_number (Nat.lt_trans (by decide) hlt)),
    if_neg (h.not_readable (Nat.lt_trans (by decide) hlt)),
    if_neg fun hw => h.not_gives hlt _ (.writable hw)]

/-- Where a still later rule decides, the raw signature has none either. -/
theorem Decides.signatureLiteral?_eq_none
    (h : Decides name desc textRaw specializer rule value)
    (hlt : Rule.token.place < rule.place) : signatureLiteral? textRaw = none := by
  cases hs : signatureLiteral? textRaw with
  | none => rfl
  | some literal =>
    exact absurd (.token (signatureLiteral?_eq_some_iff.1 hs)) (h.not_gives hlt literal)

/-- The value of a property is that of the rule that decides. -/
theorem Decides.inferDefault_eq (h : Decides name desc textRaw specializer rule value) :
    inferDefault name desc textRaw specializer = value := by
  cases h.gives with
  | boolean hb => rw [inferDefault, describedLiteral?_eq, if_pos hb]
  | number hn =>
    rw [inferDefault, describedLiteral?_eq, if_neg (h.not_boolean (by decide)), if_pos hn]
  | readable hr =>
    rw [inferDefault, describedLiteral?_eq, if_neg (h.not_boolean (by decide)),
      if_neg (h.not_number (by decide)), if_pos hr]
  | writable hw =>
    rw [inferDefault, describedLiteral?_eq, if_neg (h.not_boolean (by decide)),
      if_neg (h.not_number (by decide)), if_neg (h.not_readable (by decide)), if_pos hw]
  | token ht =>
    rw [inferDefault, h.describedLiteral?_eq_none (by decide), signatureLiteral?_eq_some_iff.2 ht]
  | specializer hs hl =>
    rw [inferDefault, h.describedLiteral?_eq_none (by decide),
      h.signatureLiteral?_eq_none (by decide), hs]
    simp [hl]
  | undefined =>
    have hnone : (specializer.bind fun known => known name) = none := by
      cases hs : specializer with
      | none => rfl
      | some known =>
        cases hl : known name with
        | none => exact hl
        | some literal => exact absurd (.specializer hs hl) (h.not_gives (by decide) literal)
    rw [inferDefault, h.describedLiteral?_eq_none (by decide),
      h.signatureLiteral?_eq_none (by decide), hnone]
    rfl

variable (name desc textRaw specializer) in
theorem exists_decides_inferDefault : ∃ rule,
    Decides name desc textRaw specializer rule (inferDefault name desc textRaw specializer) := by
  obtain ⟨rule, value, h⟩ := exists_decides name desc textRaw specializer
  exact ⟨rule, h.inferDefault_eq ▸ h⟩

/-- Only one rule decides. -/
theorem Decides.rule_eq (h : Decides name desc textRaw specializer rule value) {rule' : Rule}
    {value' : String} (h' : Decides name desc textRaw specializer rule' value') : rule = rule' :=
  Rule.place_injective
    (Nat.le_antisymm (h.first rule' value' h'.gives) (h'.first rule value h.gives))

/-! ### Other specializers and longer descriptions -/

/-- A hint does not ask what is known of the container. -/
theorem Gives.of_isHint (h : Gives name desc textRaw specializer rule value)
    (hr : rule.isHint = true) (other : Option Specializer) :
    Gives name desc textRaw other rule value := by
  cases h with
  | boolean h => exact .boolean h
  | number h => exact .number h
  | readable h => exact .readable h
  | writable h => exact .writable h
  | token h => exact .token h
  | specializer => cases hr
  | undefined => cases hr

theorem Decides.of_isHint (h : Decides name desc textRaw specializer rule value)
    (hr : rule.isHint = true) (other : Option Specializer) :
    Decides name desc textRaw other rule value := by
  refine ⟨h.gives.of_isHint hr other, fun rule' value' h' => ?_⟩
  by_cases hr' : rule'.isHint = true
  · exact h.first rule' value' (h'.of_isHint hr' specializer)
  · -- the rules that are no hints come after those that are
    simp only [Rule.isHint, decide_eq_true_eq] at hr hr'
    omega

/-- A rule that applies still does when there is more text around the description. -/
theorem Gives.within (h : Gives name desc textRaw specializer rule value) (before after : String) :
    Gives name (before ++ desc ++ after) textRaw specializer rule value := by
  cases h with
  | boolean h => exact .boolean (h.within before after)
  | number h => exact .number (h.within before after)
  | readable h => exact .readable (h.within before after)
  | writable h => exact .writable (h.imp_left fun h => h.within before after)
  | token h => exact .token h
  | specializer hs hl => exact .specializer hs hl
  | undefined => exact .undefined

variable (name desc textRaw specializer) in
/-- The value of a property comes from the first rule that applies, and from that one only.

* If the rule is a hint in the documentation, the value is the same for all specializers.
* With more text before and after the description the same rule decides or an earlier one. -/
theorem inferDefault_precedence : ∃ rule,
    Decides name desc textRaw specializer rule (inferDefault name desc textRaw specializer) ∧
      (∀ rule' value, Decides name desc textRaw specializer rule' value → rule' = rule ∧
        value = inferDefault name desc textRaw specializer) ∧
      (rule.isHint = true → ∀ other,
        inferDefault name desc textRaw other = inferDefault name desc textRaw specializer) ∧
      ∀ before after, ∃ earlier, earlier.place ≤ rule.place ∧
        Decides name (before ++ desc ++ after) textRaw specializer earlier
          (inferDefault name (before ++ desc ++ after) textRaw specializer) := by
  obtain ⟨rule, h⟩ := exists_decides_inferDefault name desc textRaw specializer
  refine ⟨rule, h, fun rule' value h' => ⟨h'.rule_eq h, h'.inferDefault_eq.symm⟩,
    fun hr other => ?_, fun before after => ?_⟩
  · exact (h.of_isHint hr other).inferDefault_eq
  · obtain ⟨earlier, h'⟩ :=
      exists_decides_inferDefault name (before ++ desc ++ after) textRaw specializer
    exact ⟨earlier, h'.first _ _ (h.gives.within before after), h'⟩

end

end ApiStubs.Inference
