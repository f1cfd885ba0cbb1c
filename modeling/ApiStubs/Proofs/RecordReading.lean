import ApiStubs.Json.Record
import Mathlib.Data.List.Basic

/-!
# Reading records

An object is read member by member, and what has been read so far is kept in slots. In the end that
comes to looking each field up by its key, wherever its member stands.

* `valuesOf`: the values of the members with a key;
* `Field.Settles`, `Fields.Settles`: the value that a field takes, and the row of all fields;
* `Fields.Admits`: the members that may stand in a record;
* `readMembers_eq_ok_iff`: a row is read exactly if all members may stand there and settle it;
* `Fields.Settles.perm`: the order of the members does not count.
-/

namespace ApiStubs.Json

variable {α β : Type} {αs : List Type}

/-- The members of an object. -/
abbrev Members := List (Option String × Json)

/-- The values of the members with a key. -/
def valuesOf (key : String) (members : Members) : List Json :=
  members.filterMap fun m => if m.1 = some key then some m.2 else none

theorem valuesOf_cons_self (key : String) (v : Json) (members : Members) :
    valuesOf key ((some key, v) :: members) = v :: valuesOf key members := by
  simp [valuesOf]

theorem valuesOf_cons_of_ne {key other : String} (h : other ≠ key) (v : Json) (members : Members) :
    valuesOf key ((some other, v) :: members) = valuesOf key members := by
  simp [valuesOf, h]

/-! ### The value of a field -/

/-- The field takes the value `a`, given what its slot holds and the values that members still give
it: one value at most, and without any the one it has by itself. -/
def Field.Settles (field : Field α) (a : α) : Option α → List Json → Prop
  | some b, [] => b = a
  | none, [] => field.absent = some a
  | none, [v] => field.decode v = .ok a
  | _, _ => False

/-- One value in two orders. -/
theorem Field.Settles.perm {field : Field α} {a : α} {slot : Option α} {vs ws : List Json}
    (h : field.Settles a slot vs) (hp : vs.Perm ws) : field.Settles a slot ws := by
  match slot, vs, h with
  | some b, [], h => rwa [List.nil_perm.1 hp]
  | none, [], h => rwa [List.nil_perm.1 hp]
  | none, [v], h => rwa [← List.singleton_perm.1 hp]

theorem Field.settles_some_cons {field : Field α} {a b : α} {v : Json} {vs : List Json} :
    ¬field.Settles a (some b) (v :: vs) := by
  intro h
  cases h

theorem Field.settles_none_cons_iff {field : Field α} {a : α} {v : Json} {vs : List Json} :
    field.Settles a none (v :: vs) ↔ field.decode v = .ok a ∧ vs = [] := by
  cases vs with
  | nil => exact (and_iff_left rfl).symm
  | cons w vs => exact iff_of_false id fun h => nomatch h.2

theorem Field.settles_some_iff {field : Field α} {a b : α} {vs : List Json} :
    field.Settles a (some b) vs ↔ b = a ∧ vs = [] := by
  cases vs with
  | nil => exact (and_iff_left rfl).symm
  | cons w vs => exact iff_of_false id fun h => nomatch h.2

/-! ### The values of a record -/

namespace Fields

/-- The fields take the values of the row. -/
def Settles : {αs : List Type} → Fields αs → Row αs → Slots αs → Members → Prop
  | _, nil, _, _, _ => True
  | _, cons field fields, (a, row), (slot, slots), members =>
    field.Settles a slot (valuesOf field.key members) ∧ fields.Settles row slots members

theorem Settles.perm {fields : Fields αs} {row : Row αs} {slots : Slots αs} {ms ns : Members}
    (h : fields.Settles row slots ms) (hp : ms.Perm ns) : fields.Settles row slots ns := by
  induction fields with
  | nil => trivial
  | cons field fields ih => exact ⟨h.1.perm (hp.filterMap _), ih h.2⟩

/-! ### Reading members -/

theorem readMember_self (field : Field α) (fields : Fields αs) (v : Json) (slot : Option α)
    (slots : Slots αs) :
    (cons field fields).readMember field.key v (slot, slots) =
      match slot with
      | some _ => some (.error (.duplicateField field.key))
      | none => some ((field.decode v).map fun a => (some a, slots)) :=
  if_pos rfl

theorem readMember_of_ne {field : Field α} {key : String} (h : field.key ≠ key)
    (fields : Fields αs) (v : Json) (slot : Option α) (slots : Slots αs) :
    (cons field fields).readMember key v (slot, slots) =
      (fields.readMember key v slots).map fun r => r.map fun slots => (slot, slots) :=
  if_neg h

theorem readMember_eq_none {fields : Fields αs} {key : String} (hkey : key ∉ fields.keys) (v : Json)
    (slots : Slots αs) : fields.readMember key v slots = none := by
  induction fields with
  | nil => rfl
  | cons field fields ih =>
    obtain ⟨hne, hkey⟩ := List.ne_and_not_mem_of_not_mem_cons hkey
    obtain ⟨slot, slots⟩ := slots
    rw [readMember_of_ne (Ne.symm hne), ih hkey]
    rfl

theorem readMember_ne_none {fields : Fields αs} {key : String} (hkey : key ∈ fields.keys) (v : Json)
    (slots : Slots αs) : fields.readMember key v slots ≠ none := by
  induction fields with
  | nil => cases hkey
  | cons field fields ih =>
    obtain ⟨slot, slots⟩ := slots
    by_cases hself : field.key = key
    · subst hself
      rw [readMember_self]
      cases slot <;> nofun
    · have hkey : key ∈ fields.keys := (List.mem_cons.1 hkey).resolve_left (Ne.symm hself)
      rw [readMember_of_ne hself]
      exact fun h => ih hkey slots (Option.map_eq_none_iff.1 h)

/-- A member without a field settles nothing. -/
theorem settles_cons_of_notMem {fields : Fields αs} {key : String} (hkey : key ∉ fields.keys)
    (row : Row αs) (slots : Slots αs) (v : Json) (members : Members) :
    fields.Settles row slots ((some key, v) :: members) ↔ fields.Settles row slots members := by
  induction fields with
  | nil => exact Iff.rfl
  | cons field fields ih =>
    obtain ⟨hne, hkey⟩ := List.ne_and_not_mem_of_not_mem_cons hkey
    show Field.Settles _ _ _ _ ∧ _ ↔ Field.Settles _ _ _ _ ∧ _
    rw [valuesOf_cons_of_ne hne, ih hkey]

/-- Reading a member with a field fills the slot of the field, which must be empty. -/
theorem settles_cons_iff {fields : Fields αs} (hn : fields.keys.Nodup) {key : String}
    (hkey : key ∈ fields.keys) (row : Row αs) (slots : Slots αs) (v : Json) (members : Members) :
    fields.Settles row slots ((some key, v) :: members) ↔
      ∃ filled, fields.readMember key v slots = some (.ok filled) ∧
        fields.Settles row filled members := by
  induction fields with
  | nil => cases hkey
  | cons field fields ih =>
    obtain ⟨a, row⟩ := row
    obtain ⟨slot, slots⟩ := slots
    obtain ⟨hfresh, hn⟩ := List.nodup_cons.1 hn
    by_cases hself : field.key = key
    · subst hself
      show Field.Settles _ _ _ _ ∧ _ ↔ _
      rw [valuesOf_cons_self, settles_cons_of_notMem hfresh, readMember_self]
      cases slot with
      | some b =>
        constructor
        · rintro ⟨h, -⟩
          exact absurd h Field.settles_some_cons
        · rintro ⟨filled, h, -⟩
          cases Option.some.inj h
      | none =>
        rw [Field.settles_none_cons_iff]
        constructor
        · rintro ⟨⟨hdecode, hvalues⟩, hrest⟩
          refine ⟨(some a, slots), by rw [hdecode]; rfl, ?_, hrest⟩
          rw [hvalues]
          rfl
        · rintro ⟨filled, h, hself, hrest⟩
          cases hdecode : field.decode v with
          | error fault =>
            rw [hdecode] at h
            cases Option.some.inj h
          | ok b =>
            rw [hdecode] at h
            obtain rfl := Except.ok.inj (Option.some.inj h)
            obtain ⟨rfl, hvalues⟩ := Field.settles_some_iff.1 hself
            exact ⟨⟨rfl, hvalues⟩, hrest⟩
    · have hkey : key ∈ fields.keys := (List.mem_cons.1 hkey).resolve_left (Ne.symm hself)
      show Field.Settles _ _ _ _ ∧ _ ↔ _
      rw [valuesOf_cons_of_ne (Ne.symm hself), ih hn hkey, readMember_of_ne hself]
      constructor
      · rintro ⟨h, filled, hread, hrest⟩
        exact ⟨(slot, filled), by rw [hread]; rfl, h, hrest⟩
      · rintro ⟨⟨slot', filled⟩, hread, h, hrest⟩
        obtain ⟨r, hr, hmap⟩ := Option.map_eq_some_iff.1 hread
        cases r with
        | error fault => cases hmap
        | ok read =>
          obtain ⟨rfl, rfl⟩ := Prod.mk.inj (Except.ok.inj hmap)
          exact ⟨h, read, hr, hrest⟩

/-- What is missing in the end is settled by the fields alone. -/
theorem finish_eq_ok_iff {fields : Fields αs} {row : Row αs} {slots : Slots αs} :
    fields.finish slots = .ok row ↔ fields.Settles row slots [] := by
  induction fields with
  | nil => exact iff_of_true rfl trivial
  | cons field fields ih =>
    obtain ⟨a, row⟩ := row
    obtain ⟨slot, slots⟩ := slots
    have hslot : field.Settles a slot [] ↔ slot.or field.absent = some a := by
      cases slot with
      | none => exact Iff.rfl
      | some b => exact Option.some_inj.symm
    show _ ↔ field.Settles a slot [] ∧ fields.Settles row slots []
    rw [finish, hslot, ← ih]
    cases slot.or field.absent with
    | none => exact iff_of_false nofun fun h => nomatch h.1
    | some b =>
      cases fields.finish slots with
      | error fault => exact iff_of_false nofun fun h => nomatch h.2
      | ok rest =>
        show Except.ok (b, rest) = Except.ok (a, row) ↔ _
        constructor
        · intro h
          obtain ⟨rfl, rfl⟩ := Prod.mk.inj (Except.ok.inj h)
          exact ⟨rfl, rfl⟩
        · rintro ⟨hb, hrest⟩
          rw [Option.some.inj hb, Except.ok.inj hrest]

/-- The members may stand in a record: each has a key, and one without a field is complete, if the
record takes such members at all. -/
def Admits (fields : Fields αs) (strict : Bool) (members : Members) : Prop :=
  ∀ m ∈ members, ∃ key, m.1 = some key ∧
    (key ∈ fields.keys ∨ strict = false ∧ m.2.complete = true)

/-- A row is read exactly if all members may stand in the record and settle the row. -/
theorem readMembers_eq_ok_iff {fields : Fields αs} (hn : fields.keys.Nodup) {strict : Bool}
    {row : Row αs} {slots : Slots αs} {members : Members} :
    fields.readMembers strict slots members = .ok row ↔
      fields.Admits strict members ∧ fields.Settles row slots members := by
  induction members generalizing slots with
  | nil =>
    rw [readMembers, finish_eq_ok_iff]
    exact (and_iff_right fun m hm => nomatch hm).symm
  | cons m members ih =>
    obtain ⟨key, v⟩ := m
    simp only [Admits, List.forall_mem_cons] at ih ⊢
    cases key with
    | none => exact iff_of_false nofun fun h => nomatch h.1.1
    | some key =>
      simp only [readMembers, Option.some.injEq, exists_eq_left']
      by_cases hkey : key ∈ fields.keys
      · rw [settles_cons_iff hn hkey]
        -- the key has a field, so that the member is read into its slot or refused
        cases hread : fields.readMember key v slots with
        | none => exact absurd hread (readMember_ne_none hkey v slots)
        | some read =>
          cases read with
          | error fault => simp
          | ok filled => simp [ih, hkey]
      · rw [settles_cons_of_notMem hkey, readMember_eq_none hkey]
        cases strict with
        | true => simp [hkey]
        | false =>
          cases hv : v.complete with
          | true => simp [ih]
          | false => simp [hkey]

end Fields

end ApiStubs.Json
