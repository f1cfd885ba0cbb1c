import ApiStubs.Proofs.DocumentText
import Mathlib.Logic.Relation

/-!
# Ways to write a documentation

The text of a documentation leaves room: members may stand in any order, further members may stand
among them, and a record may be written as an array. Here these freedoms are rewritings of a value,
at any depth, and whatever was read before is read after them.

* `Place`: a field as texts see it;
* `Rewrites`, `ItemRewrites`: one rewriting of a record, and of an array of records;
* `Param.places` to `Tree.places`: the places of each kind of entry;
* `Stable`: a decoder that reads the same before and after;
* `Fits`: places that are those of the fields of a record;
* `stable_record`: the decoder of a record is stable under rewritings of its places;
* `ofText_rewritten`: a documentation that is read stays the same under all rewritings.
-/

namespace ApiStubs

namespace Json

variable {α β : Type} {αs : List Type}

/-! ### Rewritings -/

/-- A field as texts see it: the key of its member, what an array holds in its place if it is
absent, and how its value may be rewritten. -/
structure Place where
  key : String
  absent : Json := .null
  inner : Json → Json → Prop := fun _ _ => False

/-- The items of a record: for each place the value of its member, or what stands for it. -/
def positional (places : List Place) (members : Members) : List Json :=
  places.map fun p => (valuesOf p.key members).head?.getD p.absent

/-- A record with these places is rewritten once, itself or in one of its values. -/
inductive Rewrites (places : List Place) : Json → Json → Prop where
  /-- The members in another order. -/
  | permuted {members more : Members} (h : members.Perm more) :
    Rewrites places (.object members) (.object more)
  /-- A further member, whose key belongs to no place; its value is any JSON. -/
  | inserted (before after : Members) {key : String} {v : Json} (hkey : ∀ p ∈ places, p.key ≠ key)
      (hv : v.complete = true) :
    Rewrites places (.object (before ++ after)) (.object (before ++ (some key, v) :: after))
  /-- The array of the values in place of the object. -/
  | listed (members : Members) :
    Rewrites places (.object members) (.array (positional places members))
  /-- A rewriting inside the value of a member. -/
  | member (before after : Members) {p : Place} {v w : Json} (hp : p ∈ places) (h : p.inner v w) :
    Rewrites places (.object (before ++ (some p.key, v) :: after))
      (.object (before ++ (some p.key, w) :: after))
  /-- A rewriting inside an item, where the record is an array. -/
  | item (before after : List Json) {p : Place} {v w : Json} (hp : places[before.length]? = some p)
      (h : p.inner v w) :
    Rewrites places (.array (before ++ v :: after)) (.array (before ++ w :: after))

/-- One item of an array is rewritten. -/
inductive ItemRewrites (R : Json → Json → Prop) : Json → Json → Prop where
  | item (before after : List Json) {v w : Json} (h : R v w) :
    ItemRewrites R (.array (before ++ v :: after)) (.array (before ++ w :: after))

end Json

/-! ### The places of each kind of entry -/

namespace Doc

open Json (Place Rewrites ItemRewrites)

def Param.places : List Place := [{ key := "name" }, { key := "type" }, { key := "desc" }]

def Return.places : List Place := [{ key := "type" }, { key := "desc" }]

def Signature.places : List Place :=
  [{ key := "params", inner := ItemRewrites (Rewrites Param.places) },
   { key := "return", inner := Rewrites Return.places }]

def Method.places : List Place :=
  [{ key := "name" }, { key := "desc" },
   { key := "signatures", inner := ItemRewrites (Rewrites Signature.places) }]

def Event.places : List Place := [{ key := "name" }, { key := "desc" }]

def Property.places : List Place := [{ key := "name" }, { key := "desc" }, { key := "textRaw" }]

def Scope.places : List Place :=
  [{ key := "name" }, { key := "desc" },
   { key := "methods", inner := ItemRewrites (Rewrites Method.places) },
   { key := "events", inner := ItemRewrites (Rewrites Event.places) },
   { key := "properties", inner := ItemRewrites (Rewrites Property.places) }]

def Module.places : List Place :=
  Scope.places ++ [{ key := "classes", inner := ItemRewrites (Rewrites Scope.places) }]

def Section.places : List Place :=
  [{ key := "name", absent := .str "" },
   { key := "globals", inner := ItemRewrites (Rewrites Module.places) }]

def Tree.places : List Place :=
  [{ key := "modules", absent := .array [], inner := ItemRewrites (Rewrites Module.places) },
   { key := "miscs", absent := .array [], inner := ItemRewrites (Rewrites Section.places) }]

end Doc

namespace Json

variable {α β : Type} {αs : List Type}

/-! ### Stable decoders -/

/-- What the decoder reads is read after a rewriting as well. Null is never rewritten. -/
structure Stable (d : Decoder α) (R : Json → Json → Prop) : Prop where
  decode_eq : ∀ {v w a}, R v w → d v = .ok a → d w = .ok a
  ne_null : ∀ {v w}, R v w → v ≠ .null ∧ w ≠ .null

theorem stable_false (d : Decoder α) : Stable d fun _ _ => False where
  decode_eq h := h.elim
  ne_null h := h.elim

theorem map_eq_ok_iff {f : α → β} {x : Except Fault α} {b : β} :
    x.map f = .ok b ↔ ∃ a, x = .ok a ∧ f a = b := by
  cases x with
  | error fault => exact iff_of_false nofun fun ⟨_, h, _⟩ => nomatch h
  | ok a =>
    constructor
    · intro h
      exact ⟨a, rfl, Except.ok.inj h⟩
    · rintro ⟨c, hc, rfl⟩
      rw [← Except.ok.inj hc]
      rfl

theorem Stable.optional {d : Decoder α} {R : Json → Json → Prop} (h : Stable d R) :
    Stable (Decoder.optional d) R where
  decode_eq {v w a} hR hd := by
    obtain ⟨hv, hw⟩ := h.ne_null hR
    rw [optional_eq hv] at hd
    obtain ⟨b, hb, rfl⟩ := map_eq_ok_iff.1 hd
    rw [optional_eq hw, h.decode_eq hR hb]
    rfl
  ne_null := h.ne_null

theorem items_cons_eq_ok_iff {d : Decoder α} {v : Json} {vs : List Json} {as : List α} :
    Decoder.items d (v :: vs) = .ok as ↔
      ∃ a bs, d v = .ok a ∧ Decoder.items d vs = .ok bs ∧ a :: bs = as := by
  rw [Decoder.items]
  cases d v with
  | error fault =>
    constructor
    · intro h
      cases h
    · rintro ⟨_, _, h, -⟩
      cases h
  | ok a => simp [map_eq_ok_iff]

theorem Stable.items {d : Decoder α} {R : Json → Json → Prop} (h : Stable d R) {v w : Json}
    (hR : R v w) {before after : List Json} {as : List α}
    (hd : Decoder.items d (before ++ v :: after) = .ok as) :
    Decoder.items d (before ++ w :: after) = .ok as := by
  induction before generalizing as with
  | nil =>
    obtain ⟨a, bs, ha, hbs, rfl⟩ := items_cons_eq_ok_iff.1 hd
    exact items_cons_eq_ok_iff.2 ⟨a, bs, h.decode_eq hR ha, hbs, rfl⟩
  | cons u before ih =>
    obtain ⟨a, bs, ha, hbs, rfl⟩ := items_cons_eq_ok_iff.1 hd
    exact items_cons_eq_ok_iff.2 ⟨a, bs, ha, ih hbs, rfl⟩

theorem Stable.list {c : Codec α} {R : Json → Json → Prop} (h : Stable c.decode R) :
    Stable (Codec.list c).decode (ItemRewrites R) where
  decode_eq hR hd := by
    obtain ⟨before, after, hR⟩ := hR
    exact h.items hR hd
  ne_null hR := by
    obtain ⟨before, after, hR⟩ := hR
    exact ⟨nofun, nofun⟩

/-! ### Places and fields -/

/-- The place is that of the field: what stands for an absent value is read as the value that the
field has by itself, and rewritings of its value do not change what is read. -/
structure Place.Fits (p : Place) (field : Field α) : Prop where
  key_eq : field.key = p.key
  absent : ∀ a, field.absent = some a → field.decode p.absent = .ok a
  stable : Stable field.decode p.inner

theorem fits_required {c : Codec α} {R : Json → Json → Prop} (h : Stable c.decode R) (key : String)
    (absent : Json) : Place.Fits ⟨key, absent, R⟩ (Field.required key c) where
  key_eq := rfl
  absent _ ha := nomatch ha
  stable := h

theorem fits_optional {c : Codec α} {R : Json → Json → Prop} (h : Stable c.decode R)
    (key : String) : Place.Fits ⟨key, .null, R⟩ (Field.optional key c) where
  key_eq := rfl
  absent a ha := by
    obtain rfl := Option.some.inj ha
    rfl
  stable := h.optional

theorem fits_withDefault {c : Codec α} {R : Json → Json → Prop} (h : Stable c.decode R)
    {absent : Json} {value : α} (hvalue : c.decode absent = .ok value) (key : String) :
    Place.Fits ⟨key, absent, R⟩ (Field.withDefault key c value) where
  key_eq := rfl
  absent a ha := by
    obtain rfl := Option.some.inj ha
    exact hvalue
  stable := h

/-- The places are those of the fields, in the same order. -/
inductive Fits : {αs : List Type} → List Place → Fields αs → Prop where
  | nil : Fits [] .nil
  | cons {α : Type} {αs : List Type} {p : Place} {places : List Place} {field : Field α}
      {fields : Fields αs} (hp : p.Fits field) (hplaces : Fits places fields) :
    Fits (p :: places) (.cons field fields)

theorem Fits.keys_eq {places : List Place} {fields : Fields αs} (h : Fits places fields) :
    fields.keys = places.map Place.key := by
  induction h with
  | nil => rfl
  | cons hp _ ih => rw [Fields.keys, hp.key_eq, ih, List.map_cons]

theorem Fits.mem_keys {places : List Place} {fields : Fields αs} (h : Fits places fields)
    {p : Place} (hp : p ∈ places) : p.key ∈ fields.keys := by
  rw [h.keys_eq]
  exact List.mem_map_of_mem hp

/-- A rewritten value settles the same row. -/
theorem Fits.settles {places : List Place} {fields : Fields αs} (h : Fits places fields)
    (hn : fields.keys.Nodup) {p : Place} (hp : p ∈ places) {v w : Json} (hR : p.inner v w)
    {row : Row αs} {slots : Slots αs} {members : Members}
    (hs : fields.Settles row slots ((some p.key, v) :: members)) :
    fields.Settles row slots ((some p.key, w) :: members) := by
  induction h with
  | nil => cases hp
  | @cons _ _ q places field fields hq hplaces ih =>
    obtain ⟨a, row⟩ := row
    obtain ⟨slot, slots⟩ := slots
    obtain ⟨hfresh, hn⟩ := List.nodup_cons.1 hn
    obtain ⟨hself, hrest⟩ := hs
    rcases List.mem_cons.1 hp with rfl | hp
    · rw [hq.key_eq, valuesOf_cons_self] at hself
      rw [hq.key_eq] at hfresh
      refine ⟨?_, (Fields.settles_cons_of_notMem hfresh ..).2
        ((Fields.settles_cons_of_notMem hfresh ..).1 hrest)⟩
      rw [hq.key_eq, valuesOf_cons_self]
      cases slot with
      | some b => exact absurd hself Field.settles_some_cons
      | none =>
        obtain ⟨hdecode, hvalues⟩ := Field.settles_none_cons_iff.1 hself
        exact Field.settles_none_cons_iff.2 ⟨hq.stable.decode_eq hR hdecode, hvalues⟩
    · -- the key of this field is another one, so that its values stay
      have hne : p.key ≠ field.key := fun he => hfresh (he ▸ hplaces.mem_keys hp)
      refine ⟨?_, ih hn hp hrest⟩
      rwa [valuesOf_cons_of_ne hne] at hself ⊢

theorem readItems_cons_eq_ok_iff {field : Field α} {fields : Fields αs} {expected : String}
    {i : Nat} {v : Json} {vs : List Json} {a : α} {row : Row αs} :
    (Fields.cons field fields).readItems expected i (v :: vs) = .ok (a, row) ↔
      field.decode v = .ok a ∧ fields.readItems expected (i + 1) vs = .ok row := by
  rw [Fields.readItems]
  cases field.decode v with
  | error fault => exact iff_of_false nofun fun h => nomatch h.1
  | ok b =>
    refine map_eq_ok_iff.trans ?_
    constructor
    · rintro ⟨read, hread, h⟩
      obtain ⟨rfl, rfl⟩ := Prod.mk.inj h
      exact ⟨rfl, hread⟩
    · rintro ⟨hb, hread⟩
      exact ⟨row, hread, by rw [Except.ok.inj hb]⟩

/-- The array of the values is read as the row that they settle. -/
theorem Fits.readItems_positional {places : List Place} {fields : Fields αs}
    (h : Fits places fields) {row : Row αs} {members : Members}
    (hs : fields.Settles row fields.noSlots members) (expected : String) (i : Nat) :
    fields.readItems expected i (positional places members) = .ok row := by
  induction h generalizing i with
  | nil => rfl
  | @cons _ _ p places field fields hp hplaces ih =>
    obtain ⟨a, row⟩ := row
    obtain ⟨hself, hrest⟩ := hs
    refine readItems_cons_eq_ok_iff.2 ⟨?_, ih hrest (i + 1)⟩
    change field.decode ((valuesOf p.key members).head?.getD p.absent) = .ok a
    rw [hp.key_eq] at hself
    cases hvalues : valuesOf p.key members with
    | nil =>
      rw [hvalues] at hself
      exact hp.absent a hself
    | cons v vs =>
      rw [hvalues] at hself
      exact (Field.settles_none_cons_iff.1 hself).1

/-- A rewritten item is read as before. -/
theorem Fits.readItems {places : List Place} {fields : Fields αs} (h : Fits places fields)
    {before after : List Json} {p : Place} (hp : places[before.length]? = some p) {v w : Json}
    (hR : p.inner v w) {expected : String} {i : Nat} {row : Row αs}
    (hread : fields.readItems expected i (before ++ v :: after) = .ok row) :
    fields.readItems expected i (before ++ w :: after) = .ok row := by
  induction h generalizing before i with
  | nil => cases hp
  | @cons _ _ q places field fields hq hplaces ih =>
    obtain ⟨a, row⟩ := row
    cases before with
    | nil =>
      obtain rfl := Option.some.inj hp
      obtain ⟨ha, hrest⟩ := readItems_cons_eq_ok_iff.1 hread
      exact readItems_cons_eq_ok_iff.2 ⟨hq.stable.decode_eq hR ha, hrest⟩
    | cons u before =>
      obtain ⟨ha, hrest⟩ := readItems_cons_eq_ok_iff.1 hread
      exact readItems_cons_eq_ok_iff.2 ⟨ha, ih hp hrest⟩

/-! ### Records -/

/-- An object is read as a record if its members may stand there and settle the row of a value. -/
theorem decode_object_iff {fields : Fields αs} (hn : fields.keys.Nodup) {name : String}
    {ofRow : Row αs → β} {toRow : β → Row αs} {members : Members} {b : β} :
    (record name false fields ofRow toRow).decode (.object members) = .ok b ↔
      ∃ row, (fields.Admits false members ∧ fields.Settles row fields.noSlots members) ∧
        ofRow row = b := by
  simp only [← Fields.readMembers_eq_ok_iff hn]
  exact map_eq_ok_iff

theorem stable_record {places : List Place} {fields : Fields αs} (h : Fits places fields)
    (hn : fields.keys.Nodup) {name : String} {ofRow : Row αs → β} {toRow : β → Row αs} :
    Stable (record name false fields ofRow toRow).decode (Rewrites places) where
  decode_eq {v w b} hR hd := by
    cases hR with
    | permuted hp =>
      obtain ⟨row, ⟨hadmits, hsettles⟩, hrow⟩ := (decode_object_iff hn).1 hd
      exact (decode_object_iff hn).2
        ⟨row, ⟨fun m hm => hadmits m (hp.mem_iff.2 hm), hsettles.perm hp⟩, hrow⟩
    | @inserted before after key v hkey hv =>
      obtain ⟨row, ⟨hadmits, hsettles⟩, hrow⟩ := (decode_object_iff hn).1 hd
      have hfresh : key ∉ fields.keys := by
        intro hmem
        rw [h.keys_eq] at hmem
        obtain ⟨p, hp, he⟩ := List.mem_map.1 hmem
        exact hkey p hp he
      refine (decode_object_iff hn).2 ⟨row, ⟨?_, ?_⟩, hrow⟩
      · intro m hm
        rcases List.mem_cons.1 (List.perm_middle.mem_iff.1 hm) with rfl | hm
        · exact ⟨key, rfl, .inr ⟨rfl, hv⟩⟩
        · exact hadmits m hm
      · -- in front of the others the member can be told apart from them
        have hfront := (Fields.settles_cons_of_notMem hfresh row fields.noSlots v _).2 hsettles
        exact hfront.perm List.perm_middle.symm
    | listed members =>
      obtain ⟨row, ⟨-, hsettles⟩, hrow⟩ := (decode_object_iff hn).1 hd
      exact map_eq_ok_iff.2 ⟨row, h.readItems_positional hsettles _ 0, hrow⟩
    | @member before after p v w hp hR =>
      obtain ⟨row, ⟨hadmits, hsettles⟩, hrow⟩ := (decode_object_iff hn).1 hd
      refine (decode_object_iff hn).2 ⟨row, ⟨?_, ?_⟩, hrow⟩
      · intro m hm
        rcases List.mem_cons.1 (List.perm_middle.mem_iff.1 hm) with rfl | hm
        · exact ⟨p.key, rfl, .inl (h.mem_keys hp)⟩
        · exact hadmits m (List.perm_middle.mem_iff.2 (List.mem_cons_of_mem _ hm))
      · exact (h.settles hn hp hR (hsettles.perm List.perm_middle)).perm List.perm_middle.symm
    | item before after hp hR =>
      obtain ⟨row, hread, hrow⟩ := map_eq_ok_iff.1 hd
      exact map_eq_ok_iff.2 ⟨row, h.readItems hp hR hread, hrow⟩
  ne_null hR := by
    cases hR <;> exact ⟨nofun, nofun⟩

/-- What is read of a text is read of its value. -/
theorem decode_value_of_decode {d : Decoder α} {text : String} {a : α}
    (h : decode d text = .ok a) : d (read text).value = .ok a := by
  unfold decode at h
  cases hd : d (read text).value with
  | error fault => simp only [hd, reduceCtorEq] at h
  | ok b =>
    simp only [hd] at h
    split at h
    · rw [Except.ok.inj h]
    · cases h

end Json

open Json

/-! ### Documentation entries -/

namespace Doc

theorem Param.stable_codec : Stable Param.codec.decode (Rewrites Param.places) :=
  stable_record
    (.cons (fits_required (stable_false _) _ _) <| .cons (fits_optional (stable_false _) _) <|
      .cons (fits_optional (stable_false _) _) .nil) (by decide)

theorem Return.stable_codec : Stable Return.codec.decode (Rewrites Return.places) :=
  stable_record
    (.cons (fits_optional (stable_false _) _) <| .cons (fits_optional (stable_false _) _) .nil)
    (by decide)

theorem Signature.stable_codec : Stable Signature.codec.decode (Rewrites Signature.places) :=
  stable_record
    (.cons (fits_required Param.stable_codec.list _ _) <|
      .cons (fits_optional Return.stable_codec _) .nil) (by decide)

theorem Method.stable_codec : Stable Method.codec.decode (Rewrites Method.places) :=
  stable_record
    (.cons (fits_required (stable_false _) _ _) <| .cons (fits_optional (stable_false _) _) <|
      .cons (fits_required Signature.stable_codec.list _ _) .nil) (by decide)

theorem Event.stable_codec : Stable Event.codec.decode (Rewrites Event.places) :=
  stable_record
    (.cons (fits_required (stable_false _) _ _) <| .cons (fits_optional (stable_false _) _) .nil)
    (by decide)

theorem Property.stable_codec : Stable Property.codec.decode (Rewrites Property.places) :=
  stable_record
    (.cons (fits_required (stable_false _) _ _) <| .cons (fits_optional (stable_false _) _) <|
      .cons (fits_optional (stable_false _) _) .nil) (by decide)

theorem Scope.stable_codec : Stable Scope.codec.decode (Rewrites Scope.places) :=
  stable_record
    (.cons (fits_required (stable_false _) _ _) <| .cons (fits_optional (stable_false _) _) <|
      .cons (fits_optional Method.stable_codec.list _) <|
      .cons (fits_optional Event.stable_codec.list _) <|
      .cons (fits_optional Property.stable_codec.list _) .nil) (by decide)

theorem Module.stable_codec : Stable Module.codec.decode (Rewrites Module.places) :=
  stable_record
    (.cons (fits_required (stable_false _) _ _) <| .cons (fits_optional (stable_false _) _) <|
      .cons (fits_optional Method.stable_codec.list _) <|
      .cons (fits_optional Event.stable_codec.list _) <|
      .cons (fits_optional Property.stable_codec.list _) <|
      .cons (fits_optional Scope.stable_codec.list _) .nil) (by decide)

theorem Section.stable_codec : Stable Section.codec.decode (Rewrites Section.places) :=
  stable_record
    (.cons (fits_withDefault (stable_false _) rfl _) <|
      .cons (fits_optional Module.stable_codec.list _) .nil) (by decide)

theorem Tree.stable_codec : Stable Tree.codec.decode (Rewrites Tree.places) :=
  stable_record
    (.cons (fits_withDefault Module.stable_codec.list rfl _) <|
      .cons (fits_withDefault Section.stable_codec.list rfl _) .nil) (by decide)

/-- A documentation that is read stays the same under all rewritings of its records: the rewritten
value is that documentation, and every text of it is read as that documentation. -/
theorem ofText_rewritten {text : String} {tree : Tree} {w : Json} (h : Tree.ofText text = .ok tree)
    (hw : Relation.ReflTransGen (Rewrites Tree.places) (read text).value w) :
    Tree.codec.decode w = .ok tree ∧
      ∀ other, read other = ⟨w, true⟩ → Tree.ofText other = .ok tree := by
  have hdecode : Tree.codec.decode w = .ok tree := by
    induction hw with
    | refl => exact decode_value_of_decode h
    | tail _ hR ih => exact Tree.stable_codec.decode_eq hR ih
  refine ⟨hdecode, fun other hother => ?_⟩
  unfold Tree.ofText decode
  simp only [hother, hdecode, if_true]

/-- In `{"modules":[{"name":"fs","desc":"Files"}],"miscs":[]}` the module takes a further member and
becomes an array, then the two members change places, and in the end all is an array. -/
theorem ofText_rewritten_files :
    let tree : Tree := { modules := [{ name := "fs", desc := some "Files" }] }
    let files : Json := .array [str "fs", str "Files", .null, .null, .null, .null]
    Relation.ReflTransGen (Rewrites Tree.places) (read tree.toText).value
        (.array [.array [files], .array []]) ∧
      Tree.ofText (Json.array [.array [files], .array []]).toText = .ok tree := by
  intro tree files
  have hread : read tree.toText = ⟨Tree.codec.encode tree, true⟩ :=
    read_toText (Tree.lawful_codec.textual tree)
  have hrewritten : Relation.ReflTransGen (Rewrites Tree.places) (read tree.toText).value
      (.array [.array [files], .array []]) := by
    rw [hread]
    let around (v : Json) : Members := [(some "modules", .array [v]), (some "miscs", .array [])]
    have hmodule {v w : Json} (h : Rewrites Module.places v w) :
        Rewrites Tree.places (.object (around v)) (.object (around w)) :=
      .member [] _ (p := ⟨"modules", .array [], _⟩) List.mem_cons_self (.item [] [] h)
    let further : Members :=
      [(some "name", str "fs"), (some "ty", .bool true), (some "desc", str "Files")]
    have hfurther : Rewrites Module.places
        (.object [(some "name", str "fs"), (some "desc", str "Files")]) (.object further) :=
      .inserted [(some "name", str "fs")] _ (by decide) rfl
    have hlisted : Rewrites Module.places (.object further) files := .listed further
    have hswapped : Rewrites Tree.places (.object (around files))
        (.object (around files).reverse) := .permuted (.swap _ _ _)
    have hall : Rewrites Tree.places (.object (around files).reverse)
        (.array [.array [files], .array []]) := .listed (around files).reverse
    have hinner := (Relation.ReflTransGen.single (hmodule hfurther)).tail (hmodule hlisted)
    exact (hinner.tail hswapped).tail hall
  exact ⟨hrewritten, (ofText_rewritten (decode_toText Tree.lawful_codec tree) hrewritten).2 _
    (read_toText rfl)⟩

end Doc

end ApiStubs
