import ApiStubs.Proofs.CommentLines
import ApiStubs.Proofs.Emissions
import ApiStubs.Proofs.Signatures

/-!
# The comments on listeners

The functions that manage listeners are documented by the events that they are for. A name with a
space is a heading among the events, not an event that code can use, and leaves no trace. Each
comment is one line of the writer. Names go into it as they are, so that it is one line of the text
only if they hold no line end.

* `Doc.usable`: the events that are no headings;
* `documented`: the functions among lines, each with the comments below it;
* `Summarizes`, `ListsEvent`: what a comment says of an event;
* `TellsEvents`: what the lines of the functions say of all events;
* `emitEvents_tells`: what is emitted is the same without the headings, and tells the other events;
  each of them is on a line of its own exactly if `Event.onOneLine` holds of it.
-/

namespace ApiStubs

open Doc Stub Text Name

/-- The events whose name has no space. -/
def Doc.usable (events : List Doc.Event) : List Doc.Event :=
  events.filter fun e => ' ' ∉ e.name.toList

theorem Doc.filter_isListable (events : List Doc.Event) :
    events.filter (·.isListable) = usable events := by
  refine List.filter_congr fun e _ => ?_
  rw [Event.isListable]
  simp

theorem Doc.usable_usable (events : List Doc.Event) : usable (usable events) = usable events := by
  rw [usable, usable, List.filter_filter]
  simp

/-! ### Summaries -/

namespace Text

/-- The text is all of the description if that is one line, and else its first line, with a mark.
Paragraph tags are left out, and so are the carriage returns before the line feed. -/
inductive Summarizes (desc : List Char) : List Char → Prop
  | whole {text : List Char} (h : '\n' ∉ desc) (htext : WithoutParagraphs desc text) :
      Summarizes desc text
  | firstLine {first later text : List Char} {returns : Nat}
      (hdesc : desc = first ++ List.replicate returns '\r' ++ '\n' :: later)
      (hfirst : '\n' ∉ first) (hend : first.getLast? ≠ some '\r')
      (htext : WithoutParagraphs first text) : Summarizes desc (text ++ " ...".toList)

/-- A text is what is left of it without the carriage returns at its end, and these returns. -/
theorem exists_dropTrailingReturns (s : List Char) :
    ∃ returns, s = dropTrailingReturns s ++ List.replicate returns '\r' ∧
      (dropTrailingReturns s).getLast? ≠ some '\r' := by
  have hdrop : dropTrailingReturns s = s.rdropWhile (· == '\r') := rfl
  refine ⟨(s.rtakeWhile (· == '\r')).length, ?_, ?_⟩
  · have hreturns : s.rtakeWhile (· == '\r') =
        List.replicate (s.rtakeWhile (· == '\r')).length '\r' :=
      List.eq_replicate_of_mem fun c hc => by simpa using List.mem_rtakeWhile_imp hc
    rw [← hreturns, hdrop, List.rdropWhile_append_rtakeWhile]
  · intro hlast
    have hne : s.rdropWhile (· == '\r') ≠ [] := by
      intro hnil
      simp [hdrop, hnil] at hlast
    refine List.rdropWhile_last_not (· == '\r') s hne ?_
    rw [hdrop, List.getLast?_eq_some_getLast hne] at hlast
    simpa using hlast

theorem summarizes_plainSummary (desc : List Char) : Summarizes desc (plainSummary desc) := by
  unfold plainSummary
  cases hcut : splitFirst? ['\n'] desc with
  | none =>
    have hone : '\n' ∉ desc := splitFirst?_singleton_eq_none hcut
    exact .whole hone (withoutParagraphs_dropParagraphs desc)
  | some cut =>
    obtain ⟨first, later⟩ := cut
    obtain ⟨returns, hreturns, hend⟩ := exists_dropTrailingReturns first
    have hdesc : desc =
        dropTrailingReturns first ++ List.replicate returns '\r' ++ '\n' :: later := by
      rw [← hreturns, eq_append_of_splitFirst? hcut, List.append_assoc, List.singleton_append]
    have hfirst : '\n' ∉ dropTrailingReturns first := by
      intro hmem
      refine notMem_of_splitFirst?_singleton hcut ?_
      rw [hreturns]
      exact List.mem_append_left _ hmem
    exact .firstLine hdesc hfirst hend (withoutParagraphs_dropParagraphs _)

end Text

namespace Stub

/-! ### Functions and the comments below them -/

/-- The lines with names in identifier positions: these names, and the comments directly below, as
long as they are deeper. -/
def documented : List Line → List (List String × List String)
  | [] => []
  | l :: ls =>
    match namesIn l.text.toList with
    | [] => documented ls
    | names => (names, comments (ls.takeWhile fun k => l.depth < k.depth)) :: documented ls

theorem documented_append {ls : List Line} (h : ∀ l ∈ ls, namesIn l.text.toList = [])
    (rest : List Line) : documented (ls ++ rest) = documented rest := by
  induction ls with
  | nil => rfl
  | cons l ls ih =>
    obtain ⟨hl, hls⟩ := List.forall_mem_cons.1 h
    rw [List.cons_append, documented, hl, ih hls]

/-- A function with the comments below it, up to a line at its own depth. -/
theorem documented_cons {depth : Nat} {text name : String} {params : List String}
    {below rest : List Line} (h : namesIn text.toList = name :: params)
    (hbelow : ∀ l ∈ below, depth < l.depth ∧ isComment l.text = true)
    (hrest : ∀ l ∈ rest.head?, ¬depth < l.depth) :
    documented (⟨depth, text⟩ :: (below ++ rest)) =
      (name :: params, below.map Line.text) :: documented rest := by
  have htake : (below ++ rest).takeWhile (fun l => depth < l.depth) = below := by
    rw [List.takeWhile_append_of_pos fun l hl => by simpa using (hbelow l hl).1]
    cases rest with
    | nil => simp
    | cons l rest =>
      rw [List.takeWhile_cons_of_neg (by simpa using hrest l rfl), List.append_nil]
  rw [documented, h]
  simp only
  rw [htake, comments_eq_map fun l hl => (hbelow l hl).2,
    documented_append fun l hl => namesIn_of_isComment (hbelow l hl).2]

/-! ### The functions that manage listeners -/

/-- A function that manages listeners, with its parameters and its comment. -/
structure Listener where
  name : String
  params : List String
  comment : List String

/-- The lines of the function. -/
def Listener.lines (f : Listener) : List Line :=
  listenerLines f.name (", ".intercalate f.params) f.comment

/-- The function in the stubs is read as it is, with its comment and nothing else. -/
structure Listener.Readable (f : Listener) : Prop where
  words : ∀ word ∈ f.name :: f.params, IsWord word
  comments : ∀ text ∈ f.comment, isComment text = true

theorem Listener.depth_of_mem_head? {f : Listener} {rest : List Line} {l : Line}
    (hl : l ∈ (f.lines ++ rest).head?) : l.depth = 0 := by
  unfold lines listenerLines at hl
  split at hl
  · obtain rfl := by simpa using hl
    rfl
  · obtain rfl := by simpa using hl
    rfl

theorem Listener.Readable.documented_eq {f : Listener} (h : f.Readable) {rest : List Line}
    (hrest : ∀ l ∈ rest.head?, l.depth = 0) :
    documented (f.lines ++ rest) = (f.name :: f.params, f.comment) :: documented rest := by
  obtain ⟨hname, hparams⟩ := List.forall_mem_cons.1 h.words
  unfold Listener.lines listenerLines
  by_cases hc : f.comment = []
  · have hread := namesIn_functionOpening hname hparams (.inr rfl)
    have hnone : ∀ l ∈ ([] : List Line), 0 < l.depth ∧ isComment l.text = true := by simp
    rw [if_pos (List.isEmpty_iff.2 hc), hc]
    exact documented_cons hread hnone fun l hl => by rw [hrest l hl]; exact Nat.lt_irrefl 0
  · have hread := namesIn_functionOpening hname hparams (.inl rfl)
    rw [String.append_empty] at hread
    have hbelow : ∀ l ∈ f.comment.map fun text => (⟨1, text⟩ : Line),
        0 < l.depth ∧ isComment l.text = true := by
      intro l hl
      obtain ⟨text, htext, rfl⟩ := List.mem_map.1 hl
      exact ⟨Nat.one_pos, h.comments text htext⟩
    have hbrace : documented ([⟨0, "\x7d"⟩] ++ rest) = documented rest :=
      documented_append (by decide) rest
    rw [if_neg (mt List.isEmpty_iff.1 hc), List.cons_append, List.append_assoc,
      documented_cons hread hbelow (by simp), hbrace, List.map_map]
    simp [Function.comp_def]

theorem documented_listeners {fs : List Listener} (h : ∀ f ∈ fs, f.Readable) :
    documented (fs.flatMap Listener.lines) = fs.map fun f => (f.name :: f.params, f.comment) := by
  induction fs with
  | nil => rfl
  | cons f fs ih =>
    obtain ⟨hf, hfs⟩ := List.forall_mem_cons.1 h
    have hrest : ∀ l ∈ (fs.flatMap Listener.lines).head?, l.depth = 0 := by
      cases fs with
      | nil => simp
      | cons g gs => exact fun l hl => g.depth_of_mem_head? hl
    rw [List.flatMap_cons, hf.documented_eq hrest, ih hfs, List.map_cons]

/-- The functions, documented by events with their summaries, by their names, or not at all. -/
def listeners (full names : List String) : List Listener :=
  [⟨"addListener", ["event", "listener"], full⟩, ⟨"once", ["event", "listener"], full⟩,
   ⟨"removeListener", ["event", "listener"], names⟩, ⟨"removeAllListeners", ["event"], names⟩,
   ⟨"listeners", ["event"], names⟩, ⟨"setMaxListeners", ["n"], []⟩,
   ⟨"emit", ["event", "args"], full⟩, ⟨"on", ["event", "listener"], full⟩]

theorem eventsLines_eq (events : List Doc.Event) : eventsLines events =
    (listeners (eventsComment (usable events)) (eventNamesComment (usable events))).flatMap
      Listener.lines := by
  have hlistener : ", ".intercalate ["event", "listener"] = "event, listener" := rfl
  have hargs : ", ".intercalate ["event", "args"] = "event, args" := rfl
  have hone (param : String) : ", ".intercalate [param] = param := rfl
  rw [← filter_isListable]
  simp [eventsLines, listeners, Listener.lines, hlistener, hargs, hone]

/-! ### What the comments say -/

/-- The comment on an event has its name, and the summary of its description if there is one. -/
inductive ListsEvent : Doc.Event → String → Prop
  | described {e : Doc.Event} {desc : String} {about : List Char} (hd : e.desc = some desc)
      (hs : Summarizes desc.toList about) :
      ListsEvent e ("/// " ++ e.name ++ ": " ++ String.ofList about ++ "&#10;")
  | undescribed {e : Doc.Event} (hd : e.desc = none) : ListsEvent e ("/// " ++ e.name ++ "&#10;")

theorem listsEvent_eventLine (e : Doc.Event) : ListsEvent e (eventLine e) := by
  unfold eventLine
  cases hd : e.desc with
  | none =>
    simp only [String.append_empty]
    exact .undescribed hd
  | some desc =>
    have hlists := ListsEvent.described hd (summarizes_plainSummary desc.toList)
    simp only [String.append_assoc] at hlists ⊢
    exact hlists

/-- The comment lists the event. It is one line of the text exactly if the name and the description
of the event keep it there. -/
structure Lists (e : Doc.Event) (text : String) : Prop where
  tells : ListsEvent e text
  oneLine : ('\n' ∉ text.toList ∧ '\r' ∉ text.toList) ↔ e.onOneLine = true

theorem lists_eventLine (e : Doc.Event) : Lists e (eventLine e) where
  tells := listsEvent_eventLine e
  oneLine := by rw [← isOneLine_iff, isOneLine_eventLine]

/-- What the functions that manage listeners say of events. Four have a comment on each event, in
order, three have the names in one comment, and one has no comment. These are lines as they are
written. -/
def TellsEvents (events : List Doc.Event) (lines : List Line) : Prop :=
  ∃ entries, List.Forall₂ Lists events entries ∧
    let full := ["/// <summary>", "/// Supported events: &#10;"] ++ entries ++ ["/// </summary>"]
    let names := ["/// <summary>Supported Events: " ++ ", ".intercalate (events.map (·.name)) ++
      "</summary>"]
    documented lines =
      [(["addListener", "event", "listener"], full),
       (["once", "event", "listener"], full),
       (["removeListener", "event", "listener"], names),
       (["removeAllListeners", "event"], names),
       (["listeners", "event"], names),
       (["setMaxListeners", "n"], []),
       (["emit", "event", "args"], full),
       (["on", "event", "listener"], full)]

theorem readable_of_mem_listeners {full names : List String}
    (hfull : ∀ text ∈ full, isComment text = true) (hnames : ∀ text ∈ names, isComment text = true)
    {f : Listener} (hf : f ∈ listeners full names) : f.Readable := by
  have hwords : ∀ words ∈ (listeners [] []).map fun f => f.name :: f.params,
      ∀ word ∈ words, IsWord word := by decide
  have hcomments : ∀ comment ∈ (listeners full names).map Listener.comment,
      ∀ text ∈ comment, isComment text = true := by
    have hnone : ∀ text ∈ ([] : List String), isComment text = true := by simp
    simp only [listeners, List.map_cons, List.map_nil, List.forall_mem_cons]
    exact ⟨hfull, hfull, hnames, hnames, hnames, hnone, hfull, hfull, by simp⟩
  -- the words do not depend on the comments
  have hsame : (listeners full names).map (fun f => f.name :: f.params) =
      (listeners [] []).map fun f => f.name :: f.params := rfl
  rw [← hsame] at hwords
  exact ⟨hwords _ (List.mem_map_of_mem hf), hcomments _ (List.mem_map_of_mem hf)⟩

theorem tellsEvents_eventsLines (events : List Doc.Event) :
    TellsEvents (usable events) (eventsLines events) := by
  refine ⟨(usable events).map eventLine, ?_, ?_⟩
  · rw [List.forall₂_map_right_iff]
    exact List.forall₂_same.2 fun e _ => lists_eventLine e
  · rw [eventsLines_eq, documented_listeners fun _ => readable_of_mem_listeners
      (fun _ => isComment_of_mem_eventsComment) fun _ => isComment_of_mem_eventNamesComment]
    rfl

theorem writes_eventsDraft (events : List Doc.Event) :
    (eventsDraft events).Writes (eventsLines events) [] :=
  writes_eventsDraft? (some events)

theorem comments_eventsLines_onOneLine_iff (events : List Doc.Event) :
    (∀ l ∈ eventsLines events, isComment l.text = true →
      '\n' ∉ l.text.toList ∧ '\r' ∉ l.text.toList) ↔
        ∀ e ∈ usable events, e.onOneLine = true := by
  simp only [← isOneLine_iff]
  rw [← commentsFit_iff, commentsFit_eventsLines, filter_isListable, List.all_eq_true]

/-- What is emitted for events depends on those whose name has no space only: without the others
it is the same. It adds its lines to any sheet, and these lines tell the events.

* `addListener`, `once`, `emit` and `on` have one comment on each event, with the summary of its
  description exactly if it has one;
* `removeListener`, `removeAllListeners` and `listeners` have the names of the events, and
  `setMaxListeners` has no comment;
* each comment is one line of the text exactly if no name of an event holds a line end, and no
  description brings one. -/
theorem emitEvents_tells (events : List Doc.Event) :
    emitEvents events = emitEvents (usable events) ∧
      (∀ sheet, emitEvents events sheet = .ok () (sheet.add (eventsDraft events).lines [])) ∧
      TellsEvents (usable events) (eventsDraft events).lines ∧
      ((∀ l ∈ (eventsDraft events).lines, isComment l.text = true →
        '\n' ∉ l.text.toList ∧ '\r' ∉ l.text.toList) ↔
          ∀ e ∈ usable events, e.onOneLine = true) := by
  have hwrites := writes_eventsDraft events
  refine ⟨?_, fun sheet => ?_, ?_, ?_⟩
  · unfold emitEvents
    rw [filter_isListable, filter_isListable, usable_usable]
  · rw [(follows_emitEvents events).apply_eq, hwrites]
  · rw [hwrites.lines_eq]
    exact tellsEvents_eventsLines events
  · rw [hwrites.lines_eq]
    exact comments_eventsLines_onOneLine_iff events

/-- An event whose name has two lines and no space. -/
def splitEvent : Doc.Event := { name := "a\nb" }

/-- The event is listed, but on two lines of the text. -/
theorem listing_splitEvent :
    usable [splitEvent] = [splitEvent] ∧
      ⟨1, "/// a\nb&#10;"⟩ ∈ (eventsDraft [splitEvent]).lines ∧
      render 1 [⟨1, "/// a\nb&#10;"⟩] = "        /// a\n" ++ "b&#10;\n" := by
  refine ⟨by decide, ?_, by decide⟩
  rw [(writes_eventsDraft _).lines_eq]
  exact eventLine_mem_eventsLines (List.mem_singleton.2 rfl) (by decide)

end Stub

end ApiStubs
