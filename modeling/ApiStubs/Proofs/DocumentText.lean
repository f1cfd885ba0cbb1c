import ApiStubs.DocTable
import ApiStubs.Doc.Codec
import ApiStubs.Inference
import ApiStubs.Proofs.JsonReading
import ApiStubs.Proofs.RecordReading

/-!
# Documentation as text

What is written is read back: a documentation, the options of the table, a runtime. Absent facets
and empty ones stay apart, since the first are left out and the second are empty arrays.

* `Codec.Lawful`: a form in which every value is read back;
* `Field.Lawful`, `lawful_required`, `lawful_withDefault`, `lawful_optional`, `lawful_nullable`: the
  same for the fields of a record;
* `lawful_record`: a record of such fields has such a form;
* `decode_toText`: so a value is read back from its text;
* `decode_written`: this holds of every documentation, of all options and of every runtime.
-/

namespace ApiStubs

namespace Json

variable {α β : Type} {αs : List Type}

/-! ### Forms that lose nothing -/

/-- Every value is read back from its form. The form has no numbers, and is never null. -/
structure Codec.Lawful (c : Codec α) : Prop where
  decode_encode : ∀ a, c.decode (c.encode a) = .ok a
  textual : ∀ a, (c.encode a).textual = true
  ne_null : ∀ a, c.encode a ≠ .null

theorem Codec.lawful_text : Codec.text.Lawful where
  decode_encode _ := rfl
  textual _ := rfl
  ne_null _ := nofun

theorem Codec.Lawful.list {c : Codec α} (hc : c.Lawful) : (Codec.list c).Lawful where
  decode_encode as := by
    show Decoder.items c.decode (as.map c.encode) = .ok as
    induction as with
    | nil => rfl
    | cons a as ih =>
      rw [List.map_cons, Decoder.items, hc.decode_encode, ih]
      rfl
  textual as := by
    show allTextual (as.map c.encode) = true
    induction as with
    | nil => rfl
    | cons a as ih => exact Bool.and_eq_true_iff.2 ⟨hc.textual a, ih⟩
  ne_null _ := nofun

theorem optional_eq {d : Decoder α} {v : Json} (hv : v ≠ .null) :
    Decoder.optional d v = (d v).map some := by
  unfold Decoder.optional
  split
  · exact absurd rfl hv
  · rfl

/-- The decoder of a value that may be null. -/
theorem Codec.Lawful.optional_decode {c : Codec α} (hc : c.Lawful) (a : α) :
    Decoder.optional c.decode (c.encode a) = .ok (some a) := by
  rw [optional_eq (hc.ne_null a), hc.decode_encode]
  rfl

/-- A field whose value is read back: from its member, or from the lack of one. -/
structure Field.Lawful (field : Field α) : Prop where
  decode_encode : ∀ a v, field.encode a = some v → field.decode v = .ok a ∧ v.textual = true
  absent : ∀ a, field.encode a = none → field.absent = some a

theorem lawful_required {c : Codec α} (hc : c.Lawful) (key : String) :
    (Field.required key c).Lawful where
  decode_encode a v h := by
    obtain rfl := Option.some.inj h
    exact ⟨hc.decode_encode a, hc.textual a⟩
  absent _ h := nomatch h

theorem lawful_withDefault {c : Codec α} (hc : c.Lawful) (key : String) (value : α) :
    (Field.withDefault key c value).Lawful where
  decode_encode a v h := by
    obtain rfl := Option.some.inj h
    exact ⟨hc.decode_encode a, hc.textual a⟩
  absent _ h := nomatch h

theorem lawful_optional {c : Codec α} (hc : c.Lawful) (key : String) :
    (Field.optional key c).Lawful where
  decode_encode a v h := by
    obtain ⟨b, rfl, rfl⟩ := Option.map_eq_some_iff.1 h
    exact ⟨hc.optional_decode b, hc.textual b⟩
  absent a h := by
    rw [Option.map_eq_none_iff.1 h]
    rfl

theorem lawful_nullable {c : Codec α} (hc : c.Lawful) (key : String) :
    (Field.nullable key c).Lawful where
  decode_encode a v h := by
    obtain rfl := Option.some.inj h
    cases a with
    | none => exact ⟨rfl, rfl⟩
    | some b => exact ⟨hc.optional_decode b, hc.textual b⟩
  absent _ h := nomatch h

/-! ### Records -/

namespace Fields

/-- The values of all fields are read back. -/
inductive Lawful : {αs : List Type} → Fields αs → Prop
  | nil : nil.Lawful
  | cons {α : Type} {αs : List Type} {field : Field α} {fields : Fields αs}
      (hfield : field.Lawful) (hfields : fields.Lawful) : (cons field fields).Lawful

/-- The members of a record as they stand in its object. -/
def members (fields : Fields αs) (row : Row αs) : Members :=
  (fields.write row).map fun m => (some m.1, m.2)

theorem members_cons_of_some {field : Field α} {a : α} {v : Json} (h : field.encode a = some v)
    (fields : Fields αs) (row : Row αs) :
    (cons field fields).members (a, row) = (some field.key, v) :: fields.members row := by
  simp only [members, write, h, List.map_cons]

theorem members_cons_of_none {field : Field α} {a : α} (h : field.encode a = none)
    (fields : Fields αs) (row : Row αs) :
    (cons field fields).members (a, row) = fields.members row := by
  simp only [members, write, h]

/-- Every member has the key of a field. -/
theorem exists_key_of_mem_members {fields : Fields αs} {row : Row αs}
    {m : Option String × Json} (hm : m ∈ fields.members row) :
    ∃ key ∈ fields.keys, m.1 = some key := by
  induction fields with
  | nil => cases hm
  | cons field fields ih =>
    obtain ⟨a, row⟩ := row
    have hrest : m ∈ fields.members row → ∃ key ∈ (cons field fields).keys, m.1 = some key := by
      intro h
      obtain ⟨key, hkey, hm⟩ := ih h
      exact ⟨key, List.mem_cons_of_mem _ hkey, hm⟩
    cases he : field.encode a with
    | none =>
      rw [members_cons_of_none he] at hm
      exact hrest hm
    | some v =>
      rw [members_cons_of_some he] at hm
      rcases List.mem_cons.1 hm with rfl | hm
      · exact ⟨field.key, List.mem_cons_self, rfl⟩
      · exact hrest hm

theorem valuesOf_members_of_notMem {fields : Fields αs} {key : String} (hkey : key ∉ fields.keys)
    (row : Row αs) : valuesOf key (fields.members row) = [] := by
  refine List.filterMap_eq_nil_iff.2 fun m hm => ?_
  obtain ⟨other, hother, hm⟩ := exists_key_of_mem_members hm
  rw [hm, if_neg]
  rintro h
  exact hkey (Option.some.inj h ▸ hother)

/-- The members of a row settle it, so that it is read back. -/
theorem Lawful.settles {fields : Fields αs} (hf : fields.Lawful) (hn : fields.keys.Nodup)
    (row : Row αs) : fields.Settles row fields.noSlots (fields.members row) := by
  induction fields with
  | nil => trivial
  | cons field fields ih =>
    obtain ⟨a, row⟩ := row
    obtain _ | ⟨hfield, hf⟩ := hf
    obtain ⟨hfresh, hn⟩ := List.nodup_cons.1 hn
    have hrest := ih hf hn row
    have hnone : valuesOf field.key (fields.members row) = [] :=
      valuesOf_members_of_notMem hfresh row
    cases he : field.encode a with
    | none =>
      rw [members_cons_of_none he]
      refine ⟨?_, hrest⟩
      rw [hnone]
      exact hfield.absent a he
    | some v =>
      rw [members_cons_of_some he]
      refine ⟨?_, (settles_cons_of_notMem hfresh _ _ _ _).2 hrest⟩
      rw [valuesOf_cons_self, hnone]
      exact (hfield.decode_encode a v he).1

theorem Lawful.textual {fields : Fields αs} (hf : fields.Lawful) (row : Row αs) :
    membersTextual (fields.members row) = true := by
  induction fields with
  | nil => rfl
  | cons field fields ih =>
    obtain ⟨a, row⟩ := row
    obtain _ | ⟨hfield, hf⟩ := hf
    cases he : field.encode a with
    | none =>
      rw [members_cons_of_none he]
      exact ih hf row
    | some v =>
      rw [members_cons_of_some he]
      exact Bool.and_eq_true_iff.2 ⟨(hfield.decode_encode a v he).2, ih hf row⟩

end Fields

/-- A record of lawful fields with keys of their own is lawful, if its values come back from their
rows. -/
theorem lawful_record {fields : Fields αs} (hf : fields.Lawful) (hn : fields.keys.Nodup)
    {ofRow : Row αs → β} {toRow : β → Row αs} (hrow : ∀ b, ofRow (toRow b) = b) (name : String)
    (strict : Bool) : (record name strict fields ofRow toRow).Lawful where
  decode_encode b := by
    have hadmits : fields.Admits strict (fields.members (toRow b)) := by
      intro m hm
      obtain ⟨key, hkey, hm⟩ := Fields.exists_key_of_mem_members hm
      exact ⟨key, hm, .inl hkey⟩
    have hread := (Fields.readMembers_eq_ok_iff hn).2 ⟨hadmits, hf.settles hn (toRow b)⟩
    show (fields.readMembers strict fields.noSlots (fields.members (toRow b))).map ofRow = .ok b
    rw [hread, Except.map, hrow]
  textual b := hf.textual (toRow b)
  ne_null _ := nofun

/-- A value is read back from its text. -/
theorem decode_toText {c : Codec α} (hc : c.Lawful) (a : α) :
    decode c.decode (c.encode a).toText = .ok a := by
  unfold decode
  rw [read_toText (hc.textual a)]
  simp only [hc.decode_encode, if_true]

end Json

open Json

/-! ### Documentation entries -/

namespace Doc

theorem Param.lawful_codec : Param.codec.Lawful :=
  lawful_record
    (.cons (lawful_required Codec.lawful_text _) <|
      .cons (lawful_optional Codec.lawful_text _) <|
      .cons (lawful_optional Codec.lawful_text _) .nil) (by decide) (fun _ => rfl) _ _

theorem Return.lawful_codec : Return.codec.Lawful :=
  lawful_record
    (.cons (lawful_optional Codec.lawful_text _) <|
      .cons (lawful_optional Codec.lawful_text _) .nil)
    (by decide) (fun _ => rfl) _ _

theorem Signature.lawful_codec : Signature.codec.Lawful :=
  lawful_record
    (.cons (lawful_required Param.lawful_codec.list _) <|
      .cons (lawful_optional Return.lawful_codec _) .nil) (by decide) (fun _ => rfl) _ _

theorem Method.lawful_codec : Method.codec.Lawful :=
  lawful_record
    (.cons (lawful_required Codec.lawful_text _) <|
      .cons (lawful_optional Codec.lawful_text _) <|
      .cons (lawful_required Signature.lawful_codec.list _) .nil) (by decide) (fun _ => rfl) _ _

theorem Event.lawful_codec : Event.codec.Lawful :=
  lawful_record
    (.cons (lawful_required Codec.lawful_text _) <|
      .cons (lawful_optional Codec.lawful_text _) .nil)
    (by decide) (fun _ => rfl) _ _

theorem Property.lawful_codec : Property.codec.Lawful :=
  lawful_record
    (.cons (lawful_required Codec.lawful_text _) <|
      .cons (lawful_optional Codec.lawful_text _) <|
      .cons (lawful_optional Codec.lawful_text _) .nil) (by decide) (fun _ => rfl) _ _

theorem Scope.lawful_codec : Scope.codec.Lawful :=
  lawful_record
    (.cons (lawful_required Codec.lawful_text _) <|
      .cons (lawful_optional Codec.lawful_text _) <|
      .cons (lawful_optional Method.lawful_codec.list _) <|
      .cons (lawful_optional Event.lawful_codec.list _) <|
      .cons (lawful_optional Property.lawful_codec.list _) .nil) (by decide) (fun _ => rfl) _ _

theorem Module.lawful_codec : Module.codec.Lawful :=
  lawful_record
    (.cons (lawful_required Codec.lawful_text _) <|
      .cons (lawful_optional Codec.lawful_text _) <|
      .cons (lawful_optional Method.lawful_codec.list _) <|
      .cons (lawful_optional Event.lawful_codec.list _) <|
      .cons (lawful_optional Property.lawful_codec.list _) <|
      .cons (lawful_optional Scope.lawful_codec.list _) .nil) (by decide) (fun _ => rfl) _ _

theorem Section.lawful_codec : Section.codec.Lawful :=
  lawful_record
    (.cons (lawful_withDefault Codec.lawful_text _ _) <|
      .cons (lawful_optional Module.lawful_codec.list _) .nil) (by decide) (fun _ => rfl) _ _

theorem Tree.lawful_codec : Tree.codec.Lawful :=
  lawful_record
    (.cons (lawful_withDefault Module.lawful_codec.list _ _) <|
      .cons (lawful_withDefault Section.lawful_codec.list _ _) .nil) (by decide) (fun _ => rfl) _ _

end Doc

/-! ### Options and runtimes -/

theorem DocTable.Format.lawful_codec : DocTable.Format.codec.Lawful where
  decode_encode format := by cases format <;> rfl
  textual _ := rfl
  ne_null _ := nofun

theorem DocTable.Options.lawful_codec : DocTable.Options.codec.Lawful :=
  lawful_record
    (.cons (lawful_withDefault Format.lawful_codec _ _) <|
      .cons (lawful_withDefault Codec.lawful_text _ _) <|
      .cons (lawful_withDefault Codec.lawful_text _ _) <|
      .cons (lawful_withDefault Codec.lawful_text _ _) <|
      .cons (lawful_nullable Codec.lawful_text _) .nil)
    (by decide) (fun _ => rfl) _ _

theorem Inference.Runtime.lawful_codec : Inference.Runtime.codec.Lawful :=
  lawful_record
    (.cons (lawful_withDefault Codec.lawful_text _ _) <|
      .cons (lawful_withDefault Codec.lawful_text _ _) <|
      .cons (lawful_withDefault Codec.lawful_text _ _) .nil)
    (by decide) (fun _ => rfl) _ _

/-! ### Reading what is written -/

/-- Every value is read back from its text, and a text that can be read gives, once written again,
the same value and from then on the same text. -/
structure Json.Codec.ReadsBack {α : Type} (c : Codec α) : Prop where
  read_written : ∀ a, Json.decode c.decode (c.encode a).toText = .ok a
  written_again : ∀ text a, Json.decode c.decode text = .ok a →
    ∃ again, Json.decode c.decode (c.encode a).toText = .ok again ∧ again = a ∧
      (c.encode again).toText = (c.encode a).toText

theorem Json.Codec.Lawful.readsBack {α : Type} {c : Codec α} (hc : c.Lawful) : c.ReadsBack where
  read_written := decode_toText hc
  written_again _ a _ := ⟨a, decode_toText hc a, rfl, rfl⟩

/-- Documentation, the options of the table and runtimes are read back from their texts: the text
of a value is JSON to its end, reading it gives the value and no other, and writing what was read
gives the text again. -/
theorem decode_written :
    (∀ tree : Doc.Tree, read tree.toText = ⟨Doc.Tree.codec.encode tree, true⟩ ∧
      Doc.Tree.ofText tree.toText = .ok tree) ∧
    (∀ text tree, Doc.Tree.ofText text = .ok tree →
      ∃ again, Doc.Tree.ofText tree.toText = .ok again ∧ again = tree ∧
        again.toText = tree.toText) ∧
    DocTable.Options.codec.ReadsBack ∧ Inference.Runtime.codec.ReadsBack := by
  have htree := Doc.Tree.lawful_codec.readsBack
  refine ⟨fun tree => ⟨read_toText (Doc.Tree.lawful_codec.textual tree), htree.read_written tree⟩,
    htree.written_again, DocTable.Options.lawful_codec.readsBack,
    Inference.Runtime.lawful_codec.readsBack⟩

end ApiStubs
