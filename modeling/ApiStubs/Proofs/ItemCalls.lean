import ApiStubs.Proofs.OffsetReading

/-!
# The calls of a reader come to an end

A reader is called for one item after another. Between two items it may pass over comments,
declarations and blank text, and every such pass goes forward in the source, so that each call comes
back. The items are the events of the fragment and its fault, and behind them is nothing.

* `Reading.items`: the items of a reading;
* `Within.exists_pass`, `Within.exists_next`: a pass and a call, by the items still to come;
* `Within.calls_reader`: several calls;
* `OffsetReader.Reached`, `OffsetReader.InPlace`: the readers of a fragment, and what holds of them;
* `OffsetReader.calls_end`: all readers of a fragment are in their place, and the calls have an end.
-/

namespace ApiStubs.Fragment

/-! ### Items -/

/-- The items of a reading: its events, and its fault behind them. -/
def Reading.items (r : Reading) : List Item := r.events.map .ok ++ r.fault.toList.map .error

/-- Only the last item is not an event. -/
theorem Reading.tail_items {r : Reading} (h : ∀ event, r.items.head? ≠ some (.ok event)) :
    r.items.tail = [] := by
  obtain ⟨events, fault⟩ := r
  cases events with
  | cons event events => exact absurd rfl (h event)
  | nil => cases fault <;> rfl

@[simp] theorem Reading.items_after (r : Reading) (events : List Event) :
    (r.after events).items = events.map .ok ++ r.items := by
  simp [items]

namespace Cursor

variable {source : List Char} {c later : Cursor} {event : Option Event} {fault : Fault}

/-- A pass stays in the source, and does not go back in it. -/
theorem Goes.suffix (h : c.Goes event later) : later.rest <:+ c.rest ∧ later.size = c.size := by
  cases h with
  | handOut hp => exact ⟨List.suffix_rfl, rfl⟩
  | close hp hf hr => exact ⟨List.suffix_rfl, rfl⟩
  | token hp hf hr ht he =>
    refine ⟨?_, rfl⟩
    rw [hr]
    exact (Token.shape_of_read ht).suffix

/-- A pass that fails stays in the source too, and behind it nothing is left to hand out. -/
theorem Fails.suffix (h : c.Fails fault later) :
    later.rest <:+ c.rest ∧ later.size = c.size ∧ later.reading = ⟨[], none⟩ := by
  cases h with
  | unterminated hp hf hr ht =>
    exact ⟨List.suffix_rfl, rfl, by simp [reading, hp, Reading.after]⟩
  | unexpected hp hf hr ht he =>
    rw [hr]
    exact ⟨(Token.shape_of_read ht).suffix, rfl, by simp [reading, hp, Reading.after]⟩

/-- A pass of a reader that stands in the source does not fail, and leaves it in the source. It
hands out the next item, or nothing yet. -/
theorem Within.exists_pass (h : c.Within source) :
    ∃ later : Cursor, later.Within source ∧ later.rest <:+ c.rest ∧
      ((c.reader source).pass =
          some (.gave c.reading.items.head? (later.reader source)) ∧
        later.reading.items = c.reading.items.tail ∨
      (c.reader source).pass = some (.again (later.reader source)) ∧
        later.reading.items = c.reading.items) := by
  rw [h.pass_reader]
  cases hp : c.pass with
  | ended =>
    have hitems : c.reading.items = [] := by rw [reading_of_ended hp]; rfl
    refine ⟨c, h, List.suffix_rfl, .inl ⟨?_, ?_⟩⟩
    · rw [hitems]
      rfl
    · rw [hitems, List.tail_nil]
  | failed fault later =>
    obtain ⟨hsuffix, hsize, hlater⟩ := (fails_of_pass hp).suffix
    refine ⟨later, ⟨hsuffix.trans h.suffix, hsize.trans h.size_eq⟩, hsuffix, .inl ⟨?_, ?_⟩⟩
    · rw [reading_of_failed hp]
      rfl
    · rw [reading_of_failed hp, hlater]
      rfl
  | went event later =>
    have hgoes := goes_of_pass hp
    obtain ⟨hsuffix, hsize⟩ := hgoes.suffix
    refine ⟨later, ⟨hsuffix.trans h.suffix, hsize.trans h.size_eq⟩, hsuffix, ?_⟩
    rw [hgoes.reading_eq, Reading.items_after]
    cases event with
    | none => exact .inr ⟨rfl, rfl⟩
    | some event => exact .inl ⟨rfl, rfl⟩

theorem Within.position_le (h : c.Within source) (hl : later.Within source)
    (hs : later.rest <:+ c.rest) : (c.reader source).position ≤ (later.reader source).position := by
  obtain ⟨taken, htaken⟩ := hs
  show c.offset ≤ later.offset
  rw [offset, offset, h.size_eq, hl.size_eq, ← htaken, byteLength_append]
  omega

/-! ### Calls -/

/-- A call hands out the next item of the reading. -/
theorem Within.exists_next {source : List Char} {c : Cursor} (h : c.Within source) :
    ∃ later : Cursor, later.Within source ∧ later.rest <:+ c.rest ∧
      (c.reader source).next = some (c.reading.items.head?, later.reader source) ∧
      later.reading.items = c.reading.items.tail := by
  obtain ⟨later, hlater, hsuffix, ⟨hpass, hitems⟩ | ⟨hpass, hitems⟩⟩ := h.exists_pass
  · exact ⟨later, hlater, hsuffix, OffsetReader.next_of_gave hpass, hitems⟩
  · have hleft := OffsetReader.left_lt_of_pass hpass
    obtain ⟨last, hlast, hsuffix', hnext, hitems'⟩ := hlater.exists_next
    rw [hitems] at hnext hitems'
    exact ⟨last, hlast, hsuffix'.trans hsuffix, (OffsetReader.next_of_again hpass).trans hnext,
      hitems'⟩
termination_by (c.reader source).left

/-- Where no items are left, calls hand out nothing. -/
theorem Within.calls_of_nil {source : List Char} {c : Cursor} (h : c.Within source)
    (hi : c.reading.items = []) (n : Nat) :
    (c.reader source).calls n = some (List.replicate n none) := by
  induction n generalizing c with
  | zero => rfl
  | succ n ih =>
    obtain ⟨later, hlater, -, hnext, hitems⟩ := h.exists_next
    rw [hi] at hnext hitems
    rw [OffsetReader.calls_succ hnext, ih hlater hitems]
    rfl

/-- Calls hand out the items that are still to come, and after them nothing. -/
theorem Within.calls_reader {source : List Char} {c : Cursor} (h : c.Within source) (n : Nat) :
    (c.reader source).calls (c.reading.items.length + n) =
      some (c.reading.items.map some ++ List.replicate n none) := by
  generalize hi : c.reading.items = items
  induction items generalizing c with
  | nil => rw [List.length_nil, Nat.zero_add, h.calls_of_nil hi, List.map_nil, List.nil_append]
  | cons item items ih =>
    obtain ⟨later, hlater, -, hnext, hitems⟩ := h.exists_next
    rw [hi] at hnext hitems
    rw [List.length_cons, Nat.add_right_comm, OffsetReader.calls_succ hnext, ih hlater hitems]
    rfl

theorem within_start (fragment : String) : (Cursor.start fragment).Within (wrap fragment).toList :=
  ⟨List.suffix_rfl, rfl⟩

theorem reader_start (fragment : String) :
    (Cursor.start fragment).reader (wrap fragment).toList = OffsetReader.start fragment := by
  simp [reader, Cursor.start, OffsetReader.start, offset]

end Cursor

namespace OffsetReader

/-! ### The readers of a fragment -/

/-- The reader is reached from the start of the fragment by passes. -/
inductive Reached (fragment : String) : OffsetReader → Prop
  | start : Reached fragment (start fragment)
  | pass {r : OffsetReader} {step : Step} (h : Reached fragment r) (hp : r.pass = some step) :
      Reached fragment step.next

/-- Every reader stands where a cursor in its source stands. -/
theorem Reached.exists_cursor {fragment : String} {r : OffsetReader} (h : Reached fragment r) :
    ∃ c : Cursor, c.Within (wrap fragment).toList ∧ c.reader (wrap fragment).toList = r := by
  induction h with
  | start => exact ⟨_, Cursor.within_start fragment, Cursor.reader_start fragment⟩
  | @pass r step h hp ih =>
    obtain ⟨c, hc, rfl⟩ := ih
    obtain ⟨later, hlater, -, ⟨hpass, -⟩ | ⟨hpass, -⟩⟩ := hc.exists_pass
    · obtain rfl := Option.some.inj (hpass.symm.trans hp)
      exact ⟨later, hlater, rfl⟩
    · obtain rfl := Option.some.inj (hpass.symm.trans hp)
      exact ⟨later, hlater, rfl⟩

/-- A reader in its place, wherever in the wrapped fragment it has come to. -/
structure InPlace (fragment : String) (r : OffsetReader) : Prop where
  /-- The place is between two characters, or at one end of the source. -/
  on_boundary : ∃ front rest, r.source = front ++ rest ∧ r.position = byteLength front
  source_eq : r.source = (wrap fragment).toList
  /-- Every cut of a pass is possible, and no pass goes back. -/
  pass_eq : ∃ step, r.pass = some step ∧ r.position ≤ step.next.position
  /-- A pass without an item goes forward, or ends the input. -/
  progress : ∀ later, r.pass = some (.again later) → r.position < later.position ∨
    r.position = byteLength r.source ∧ r.finished = false ∧ later.finished = true
  /-- A call comes to an end, and does not go back. If it gives no event, no later call gives
  anything. -/
  next_eq : ∃ item later, r.next = some (item, later) ∧ r.position ≤ later.position ∧
    ((∀ event, item ≠ some (.ok event)) → ∀ n, later.calls n = some (List.replicate n none))

theorem Reached.inPlace {fragment : String} {r : OffsetReader} (h : Reached fragment r) :
    InPlace fragment r := by
  obtain ⟨c, hc, rfl⟩ := h.exists_cursor
  obtain ⟨front, hsource, hoffset⟩ := hc.exists_front
  refine ⟨⟨front, c.rest, hsource, hoffset⟩, rfl, ?_, ?_, ?_⟩
  · obtain ⟨later, hlater, hsuffix, ⟨hpass, -⟩ | ⟨hpass, -⟩⟩ := hc.exists_pass
    · exact ⟨_, hpass, hc.position_le hlater hsuffix⟩
    · exact ⟨_, hpass, hc.position_le hlater hsuffix⟩
  · intro later hpass
    rcases forward_or_closed_of_pass hpass with ⟨-, hforward⟩ | ⟨hend, hf, rfl⟩
    · exact .inl hforward.position_lt
    · have hle : c.offset ≤ byteLength (wrap fragment).toList := by
        rw [hsource, hoffset, byteLength_append]
        exact Nat.le_add_right ..
      exact .inr ⟨Nat.le_antisymm hle hend, hf, rfl⟩
  · obtain ⟨later, hlater, hsuffix, hnext, hitems⟩ := hc.exists_next
    refine ⟨_, _, hnext, hc.position_le hlater hsuffix, fun hevent n => ?_⟩
    exact hlater.calls_of_nil (hitems.trans (Reading.tail_items hevent)) n

/-- A fragment is read to its end, whatever stands in it.

* Wherever the reader has come to, its place is between two characters of the wrapped fragment and
  every cut succeeds. A pass that hands out no item goes forward or ends the input, no pass goes
  back, and every call comes back with an item or with nothing.
* The calls hand out the events of the fragment, then its fault if there is one, and from then on
  nothing. -/
theorem calls_end (fragment : String) :
    (∀ r, Reached fragment r → InPlace fragment r) ∧
      ∀ n, (start fragment).calls
          ((read fragment).events.length + (read fragment).fault.toList.length + n) =
        some ((read fragment).events.map (some ∘ .ok) ++
          ((read fragment).fault.toList.map (some ∘ .error) ++ List.replicate n none)) := by
  refine ⟨fun r h => h.inPlace, fun n => ?_⟩
  have hcalls := (Cursor.within_start fragment).calls_reader n
  rw [Cursor.reader_start, Cursor.reading_start] at hcalls
  simpa [Reading.items] using hcalls

end OffsetReader

end ApiStubs.Fragment
