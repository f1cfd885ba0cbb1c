import ApiStubs.Proofs.CodeBlocks
import ApiStubs.Text.Search
import Mathlib.Data.List.Infix

/-!
# Indented lines

A writer is gone through by operations, some of which go a level deeper and hold it until they let
it go. How deep a line stands is then known from the operations alone, and an indented block is
undone by taking the spaces away again.

* `HasLines`, `textLinesFrom_eq_iff`: the lines of a text, said without cutting it;
* `endedLines?`, `outdented?`, `outdentedLines?`: written lines, and what they are without their
  indentation;
* `outdentedLines?_written_block`: a block that is written and outdented has the lines it had;
* `levels`, `Nested`: the levels held after operations, and operations that let go none but those;
* `depth_apply`, `output_apply`: one operation; `depth_run`, `output_run`: a run of them;
* `Orderly`: what is known of a run, from its operations;
* `orderly_of_nested`: every run of nested operations on a fresh writer is orderly.
-/

namespace ApiStubs

open Text

/-! ### The lines of a text -/

/-- The text is made of these lines. Each ends with a line feed or with a carriage return and a line
feed; a last one that is not empty need not end. -/
inductive HasLines : List Char → List (List Char) → Prop
  | none : HasLines [] []
  | last {l : List Char} (hne : l ≠ []) (hn : '\n' ∉ l) : HasLines l [l]
  | lineFeed {l s : List Char} {ls : List (List Char)} (hn : '\n' ∉ l)
      (hr : l.getLast? ≠ some '\r') (h : HasLines s ls) : HasLines (l ++ '\n' :: s) (l :: ls)
  | pair {l s : List Char} {ls : List (List Char)} (hn : '\n' ∉ l) (h : HasLines s ls) :
      HasLines (l ++ '\r' :: '\n' :: s) (l :: ls)

theorem HasLines.lineFeed_notMem {s : List Char} {ls : List (List Char)} (h : HasLines s ls) :
    ∀ l ∈ ls, '\n' ∉ l := by
  induction h with
  | none => simp
  | last hne hn => simpa using hn
  | lineFeed hn hr h ih => simpa using ⟨hn, ih⟩
  | pair hn h ih => simpa using ⟨hn, ih⟩

theorem lineOfReverse_of_ne {line : List Char} (h : line.head? ≠ some '\r') :
    lineOfReverse line = line.reverse := by
  unfold lineOfReverse
  split
  · exact absurd rfl h
  · rfl

theorem textLinesFrom_line {l : List Char} (hn : '\n' ∉ l) (s : List Char) :
    textLinesFrom [] (l ++ '\n' :: s) = lineOfReverse l.reverse :: textLinesFrom [] s := by
  rw [textLinesFrom_append hn, List.append_nil, textLinesFrom.eq_3, if_pos rfl]

theorem HasLines.textLinesFrom_eq {s : List Char} {ls : List (List Char)} (h : HasLines s ls) :
    textLinesFrom [] s = ls := by
  induction h with
  | none => rfl
  | @last l hne hn =>
    have hrev : l.reverse ≠ [] := by simpa using hne
    conv => lhs; rw [← List.append_nil l]
    rw [textLinesFrom_append hn, List.append_nil, textLinesFrom.eq_2 _ hrev, List.reverse_reverse]
  | lineFeed hn hr h ih =>
    rw [textLinesFrom_line hn, ih, lineOfReverse_of_ne (by rwa [List.head?_reverse]),
      List.reverse_reverse]
  | @pair l s ls hn h ih =>
    have hn' : '\n' ∉ l ++ ['\r'] := by simp [hn]
    have hline := textLinesFrom_line hn' s
    rw [List.append_assoc, List.singleton_append, ih, List.reverse_concat] at hline
    rw [hline, lineOfReverse, List.reverse_reverse]

/-- What has been read of a line goes in front of its rest. -/
theorem hasLines_textLinesFrom (s : List Char) {line : List Char} (hline : '\n' ∉ line) :
    HasLines (line.reverse ++ s) (textLinesFrom line s) := by
  induction s generalizing line with
  | nil =>
    rw [List.append_nil]
    cases line with
    | nil => exact .none
    | cons c line => exact .last (by simp) (by rwa [List.mem_reverse])
  | cons c s ih =>
    rw [textLinesFrom.eq_3]
    split
    · next hc =>
      subst hc
      have hrest : HasLines s (textLinesFrom [] s) := @ih [] List.not_mem_nil
      unfold lineOfReverse
      split
      · next line =>
        have hn : '\n' ∉ line.reverse := by simpa using hline
        rw [List.reverse_cons, List.append_assoc]
        exact .pair hn hrest
      · next hr =>
        refine .lineFeed (by simpa using hline) ?_ hrest
        rw [List.getLast?_reverse]
        intro he
        obtain ⟨t, rfl⟩ := List.head?_eq_some_iff.1 he
        exact hr t rfl
    · next hc =>
      have hread := @ih (c :: line) (by simpa [Ne.symm hc] using hline)
      rwa [List.reverse_cons, List.append_assoc] at hread

theorem hasLines_of_text (s : List Char) : HasLines s (textLinesFrom [] s) :=
  @hasLines_textLinesFrom s [] List.not_mem_nil

theorem textLinesFrom_eq_iff {s : List Char} {ls : List (List Char)} :
    textLinesFrom [] s = ls ↔ HasLines s ls :=
  ⟨fun h => h ▸ hasLines_of_text s, HasLines.textLinesFrom_eq⟩

/-! ### Written lines -/

/-- The lines of a text that ends each of them with a line feed, the last one too. -/
def endedLines? : List Char → Option (List (List Char))
  | [] => some []
  | c :: s =>
    if c = '\n' then (endedLines? s).map ([] :: ·)
    else match endedLines? s with
      | some (l :: ls) => some ((c :: l) :: ls)
      | _ => none

theorem endedLines?_line {l : List Char} (hn : '\n' ∉ l) (s : List Char) :
    endedLines? (l ++ '\n' :: s) = (endedLines? s).map (l :: ·) := by
  induction l with
  | nil => rw [List.nil_append, endedLines?, if_pos rfl]
  | cons c l ih =>
    obtain ⟨hc, hn⟩ := List.ne_and_not_mem_of_not_mem_cons hn
    rw [List.cons_append, endedLines?, if_neg (Ne.symm hc), ih hn]
    cases endedLines? s <;> rfl

/-- The line without the spaces of its depth, if it has them and more behind them. An empty line has
none. -/
def outdented? (depth : Nat) (l : List Char) : Option (List Char) :=
  if l = [] then some []
  else (stripPrefix? (List.replicate (4 * depth) ' ') l).filter fun rest => !rest.isEmpty

/-- The lines of a written text without the spaces of the depth at which they were written. -/
def outdentedLines? (depth : Nat) (s : List Char) : Option (List (List Char)) :=
  (endedLines? s).bind fun ls => ls.mapM (outdented? depth)

/-- What stands in front of the line feed when a line is written. -/
def withIndentation (depth : Nat) (l : List Char) : List Char :=
  if l = [] then [] else List.replicate (4 * depth) ' ' ++ l

theorem outdented?_withIndentation (depth : Nat) (l : List Char) :
    outdented? depth (withIndentation depth l) = some l := by
  by_cases hl : l = []
  · simp [outdented?, withIndentation, hl]
  · have hstrip : stripPrefix? (List.replicate (4 * depth) ' ')
        (List.replicate (4 * depth) ' ' ++ l) = some l := stripPrefix?_eq_some_iff.2 rfl
    rw [withIndentation, if_neg hl, outdented?, if_neg (by simp [hl]), hstrip]
    simp [hl]

theorem lineFeed_notMem_withIndentation {l : List Char} (hn : '\n' ∉ l) (depth : Nat) :
    '\n' ∉ withIndentation depth l := by
  unfold withIndentation
  split
  · exact List.not_mem_nil
  · simp [hn]

theorem toList_indentedLine (depth : Nat) (text : String) :
    (indentedLine depth text).toList = withIndentation depth text.toList ++ ['\n'] := by
  unfold indentedLine withIndentation indentWidth
  by_cases ht : text = ""
  · simp [ht]
  · have hne : text.toList ≠ [] := by simpa using ht
    simp [ht, hne, Nat.mul_comm]

theorem mapM_outdented?_withIndentation (depth : Nat) (ls : List (List Char)) :
    (ls.map (withIndentation depth)).mapM (outdented? depth) = some ls := by
  induction ls with
  | nil => rfl
  | cons l ls ih => simp [outdented?_withIndentation, ih]

theorem endedLines?_indentedLines {ls : List (List Char)} (h : ∀ l ∈ ls, '\n' ∉ l) (depth : Nat) :
    endedLines? (ls.flatMap fun l => withIndentation depth l ++ ['\n']) =
      some (ls.map (withIndentation depth)) := by
  induction ls with
  | nil => rfl
  | cons l ls ih =>
    have hl := lineFeed_notMem_withIndentation (h l (by simp)) depth
    rw [List.flatMap_cons, List.append_assoc, List.singleton_append, endedLines?_line hl,
      ih fun k hk => h k (by simp [hk])]
    rfl

namespace Writer

/-! ### One operation -/

/-- What an operation writes at a depth. -/
def Operation.written (depth : Nat) : Operation → String
  | .line text => indentedLine depth text
  | .block text => String.join ((textLines text).map (indentedLine depth))
  | .raw text => text
  | .indent => ""
  | .dedent => ""

theorem toList_written_line (depth : Nat) {text : String} (h : text ≠ "") :
    ((Operation.line text).written depth).toList =
      List.replicate (4 * depth) ' ' ++ text.toList ++ ['\n'] := by
  have hne : text.toList ≠ [] := by simpa using h
  show (indentedLine depth text).toList = _
  rw [toList_indentedLine, withIndentation, if_neg hne]

theorem toList_written_block (depth : Nat) (text : String) :
    ((Operation.block text).written depth).toList =
      (textLinesFrom [] text.toList).flatMap fun l => withIndentation depth l ++ ['\n'] := by
  simp only [Operation.written, textLines, String.toList_join, List.map_map, List.flatMap_map,
    Function.comp_def, toList_indentedLine, String.toList_ofList]

/-- A block that is written and outdented has the lines it had, and no others. -/
theorem outdentedLines?_written_block (depth : Nat) (text : String) (ls : List (List Char)) :
    outdentedLines? depth ((Operation.block text).written depth).toList = some ls ↔
      HasLines text.toList ls := by
  rw [toList_written_block, outdentedLines?,
    endedLines?_indentedLines (hasLines_of_text text.toList).lineFeed_notMem]
  show (List.map (withIndentation depth) _).mapM (outdented? depth) = some ls ↔ _
  rw [mapM_outdented?_withIndentation, Option.some.injEq, textLinesFrom_eq_iff]

theorem output_foldl_line (w : Writer) (ls : List String) :
    (ls.foldl line w).output = w.output ++ String.join (ls.map (indentedLine w.depth)) := by
  induction ls generalizing w with
  | nil => simp
  | cons l ls ih => simp [ih, String.append_assoc]

/-- An operation adds what it writes at the depth it finds. -/
theorem output_apply (w : Writer) (op : Operation) :
    (w.apply op).output = w.output ++ op.written w.depth := by
  cases op with
  | line text => rfl
  | block text => exact output_foldl_line w (textLines text)
  | raw text => rfl
  | indent => exact String.append_empty.symm
  | dedent => exact String.append_empty.symm

/-- An operation that can be done changes the depth by the level it takes or lets go. -/
theorem depth_apply {w : Writer} {op : Operation} (h : w.admits op = true) :
    (w.apply op).depth + [op].count .dedent = w.depth + [op].count .indent := by
  cases op with
  | line text => rfl
  | block text => exact depth_block w text
  | raw text => rfl
  | indent => rfl
  | dedent =>
    have hd : w.depth ≠ 0 := by simpa [admits] using h
    show w.depth - 1 + 1 = w.depth
    omega

/-! ### Runs -/

/-- The levels that are held after operations, each of which takes one, lets the innermost one go,
or does neither. -/
def levels (ops : List Operation) : Nat := ops.count .indent - ops.count .dedent

/-- No operation lets a level go when none is held. -/
def Nested (ops : List Operation) : Prop :=
  ∀ before ∈ ops.inits, before.count .dedent ≤ before.count .indent

instance (ops : List Operation) : Decidable (Nested ops) :=
  inferInstanceAs (Decidable (∀ before ∈ ops.inits, _))

theorem Nested.count_le {ops before : List Operation} (h : Nested ops) (hp : before <+: ops) :
    before.count .dedent ≤ before.count .indent :=
  h before ((List.mem_inits ..).2 hp)

theorem Nested.front {ops before : List Operation} (h : Nested ops) (hp : before <+: ops) :
    Nested before :=
  fun _ hb => h.count_le (((List.mem_inits ..).1 hb).trans hp)

theorem run_concat (w : Writer) (ops : List Operation) (op : Operation) :
    w.run (ops ++ [op]) = (w.run ops).apply op :=
  run_append w ops [op]

/-- A level that is let go is held. -/
theorem Nested.levels_pos {ops : List Operation} (h : Nested (ops ++ [.dedent])) :
    0 < levels ops := by
  have hle := h.count_le (List.prefix_refl _)
  rw [List.count_append, List.count_append] at hle
  simp at hle
  unfold levels
  omega

theorem admits_of_depth_eq {w : Writer} {ops : List Operation} {op : Operation}
    (h : Nested (ops ++ [op])) (hd : w.depth = levels ops) : w.admits op = true := by
  cases op with
  | dedent => simpa [admits, hd] using Nat.ne_of_gt h.levels_pos
  | line text => rfl
  | block text => rfl
  | raw text => rfl
  | indent => rfl

/-- The depth of a writer is the number of levels held. -/
theorem depth_run {ops : List Operation} (h : Nested ops) : (run {} ops).depth = levels ops := by
  induction ops using List.reverseRecOn with
  | nil => rfl
  | append_singleton ops op ih =>
    have hops := h.front (List.prefix_append ops [op])
    have hd := ih hops
    have hstep := depth_apply (admits_of_depth_eq h hd)
    have hle := hops.count_le (List.prefix_refl ops)
    rw [run_concat]
    unfold levels at hd ⊢
    rw [List.count_append, List.count_append]
    omega

/-- The output is what the operations write, in their order, each at the levels held so far. -/
theorem output_run {ops : List Operation} (h : Nested ops) : (run {} ops).output =
    String.join (ops.mapIdx fun i op => op.written (levels (ops.take i))) := by
  induction ops using List.reverseRecOn with
  | nil => rfl
  | append_singleton ops op ih =>
    have hops := h.front (List.prefix_append ops [op])
    have hfront : ops.mapIdx (fun i op' => op'.written (levels ((ops ++ [op]).take i))) =
        ops.mapIdx fun i op' => op'.written (levels (ops.take i)) := by
      refine List.mapIdx_eq_mapIdx_iff.2 fun i hi => ?_
      rw [List.take_append_of_le_length (Nat.le_of_lt hi)]
    rw [run_concat, output_apply, ih hops, depth_run hops, List.mapIdx_concat, hfront,
      String.join_append]
    simp

/-- What is known of a run on a fresh writer, at every operation of it. -/
structure Orderly (ops : List Operation) : Prop where
  /-- At every moment the depth is the number of levels held. -/
  depth : ∀ before, before <+: ops → (run {} before).depth = levels before
  /-- Every operation can be done, so that no level is let go at depth zero. -/
  admitted : ∀ before op, before ++ [op] <+: ops → (run {} before).admits op = true
  /-- Once all levels are let go the depth is zero again. -/
  released : ops.count .dedent = ops.count .indent → (run {} ops).depth = 0
  /-- The output is what the operations write, in their order, each at the levels held so far. -/
  output : (run {} ops).output =
    String.join (ops.mapIdx fun i op => op.written (levels (ops.take i)))
  /-- What is written stays, and the next operation writes behind it. -/
  kept : ∀ before op, before ++ [op] <+: ops →
    (run {} (before ++ [op])).output = (run {} before).output ++ op.written (levels before)
  /-- A line is written as four spaces for each level, its text and one line feed. -/
  line : ∀ before text, before ++ [.line text] <+: ops → text ≠ "" →
    (run {} (before ++ [.line text])).output.toList = (run {} before).output.toList ++
      List.replicate (4 * (run {} before).depth) ' ' ++ text.toList ++ ['\n']
  /-- An empty line is written as one line feed. -/
  emptyLine : ∀ before, before ++ [.line ""] <+: ops →
    (run {} (before ++ [.line ""])).output = (run {} before).output ++ "\n"
  /-- A block is written as lines that are, without their indentation, the lines of its text. -/
  block : ∀ before text, before ++ [.block text] <+: ops →
    ∃ added, (run {} (before ++ [.block text])).output = (run {} before).output ++ added ∧
      ∀ ls, outdentedLines? (run {} before).depth added.toList = some ls ↔ HasLines text.toList ls

/-- Every run of nested operations on a fresh writer is orderly. -/
theorem orderly_of_nested {ops : List Operation} (h : Nested ops) : Orderly ops where
  depth before hp := depth_run (h.front hp)
  admitted before op hp := by
    have hn := h.front hp
    exact admits_of_depth_eq hn (depth_run (hn.front (List.prefix_append ..)))
  released he := by rw [depth_run h, levels, he, Nat.sub_self]
  output := output_run h
  kept before op hp := by
    have hn := (h.front hp).front (List.prefix_append before [op])
    rw [run_concat, output_apply, depth_run hn]
  line before text _ ht := by
    rw [run_concat, output_apply, String.toList_append, toList_written_line _ ht]
    simp only [List.append_assoc]
  emptyLine before _ := by
    rw [run_concat, output_apply]
    rfl
  block before text _ := by
    refine ⟨(Operation.block text).written (run {} before).depth, ?_,
      outdentedLines?_written_block _ text⟩
    rw [run_concat, output_apply]

/-- Operations that go two levels deep, with blocks and lines at each of them. -/
def twoLevels : List Operation :=
  [.line "function a() \x7b", .indent, .block "if (x) \x7b\r\n\n  y();\n\x7d\r", .indent,
   .line "deep();", .dedent, .line "", .dedent, .raw "\x7d;"]

theorem orderly_twoLevels : Nested twoLevels ∧ Orderly twoLevels :=
  have h : Nested twoLevels := by decide
  ⟨h, orderly_of_nested h⟩

end Writer

end ApiStubs
