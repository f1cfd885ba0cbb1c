import ApiStubs.Command
import ApiStubs.Proofs.FileWriting
import ApiStubs.Proofs.Violations

/-!
# What a run leaves behind

Up to the writing of its artifacts a run only reads, so that a failure before that leaves all files
as they were. The two artifacts are written one after the other: if only the second cannot be
written, the first stays.

* `Reads`: a part of a run that leaves the files as they are, with its result;
* `FileTree.settings?`, `FileTree.artifacts?`: the settings and artifacts that the files give;
* `reads_discover`, `reads_generateFrom`: the run finds them, by reading alone;
* `perform_eq`: all of a run;
* `perform_whole_or_nothing_iff`: a run leaves all or nothing, unless it can write the stubs only.
-/

namespace ApiStubs

variable {α β : Type} {t : FileTree}

/-! ### Parts that only read -/

/-- The part of a run leaves the files as they are. It gives the result, or fails without one. -/
def Reads (t : FileTree) (x : ExceptT Failure (StateM FileTree) α) (result : Option α) : Prop :=
  ∃ outcome : Except Failure α, x.run.run t = (outcome, t) ∧ outcome.toOption = result

theorem reads_pure (a : α) : Reads t (pure a) (some a) := ⟨.ok a, rfl, rfl⟩

theorem reads_throw (failure : Failure) :
    Reads t (throw failure : ExceptT Failure (StateM FileTree) α) none :=
  ⟨.error failure, rfl, rfl⟩

theorem reads_lift {x : StateM FileTree α} {a : α} (h : x.run t = (a, t)) :
    Reads t (liftM x) (some a) := by
  refine ⟨.ok a, ?_, rfl⟩
  show (Except.ok <$> x).run t = _
  rw [StateT.run_map, h]
  rfl

theorem Reads.bind {x : ExceptT Failure (StateM FileTree) α}
    {f : α → ExceptT Failure (StateM FileTree) β} {result : Option α} {g : α → Option β}
    (hx : Reads t x result) (hf : ∀ a, result = some a → Reads t (f a) (g a)) :
    Reads t (x >>= f) (result.bind g) := by
  obtain ⟨outcome, hx, rfl⟩ := hx
  cases outcome with
  | error failure =>
    refine ⟨.error failure, ?_, rfl⟩
    rw [ExceptT.run_bind, StateT.run_bind, hx]
    rfl
  | ok a =>
    obtain ⟨outcome, hfa, hg⟩ := hf a rfl
    refine ⟨outcome, ?_, hg⟩
    rw [ExceptT.run_bind, StateT.run_bind, hx]
    exact hfa

/-- What a part of a run gives, it gives for all that it reads. -/
theorem Reads.eq_some {x : ExceptT Failure (StateM FileTree) α} {result : Option α} {a : α}
    {u : FileTree} (hx : Reads t x result) (h : x.run.run t = (.ok a, u)) : result = some a := by
  obtain ⟨outcome, hrun, rfl⟩ := hx
  rw [(Prod.mk.inj (hrun.symm.trans h)).1]
  rfl

theorem Reads.run_eq {x : ExceptT Failure (StateM FileTree) α} {a : α} (hx : Reads t x (some a)) :
    x.run.run t = (.ok a, t) := by
  obtain ⟨outcome, hrun, hsome⟩ := hx
  cases outcome with
  | error failure => cases hsome
  | ok b =>
    obtain rfl := Option.some.inj hsome
    exact hrun

theorem reads_isThere (path : String) :
    Reads t (liftM (FileTree.access.isThere path)) (some (t.isThere path)) :=
  reads_lift rfl

theorem reads_readOr (failure : String → Failure) (path : String) :
    Reads t (readOr FileTree.access failure path) (t.read? path) := by
  have hread : Reads t (liftM (FileTree.access.read? path)) (some (t.read? path)) := reads_lift rfl
  refine hread.bind (g := id) fun text? _ => ?_
  cases text? with
  | none => exact reads_throw _
  | some text => exact reads_pure text

/-! ### What the files give -/

namespace FileTree

/-- The configuration of a file, for a reader outside of its directory. -/
def config? (t : FileTree) (path : String) : Option Config :=
  (t.read? path).bind fun text => (Config.ofText? text).map (Config.relativeTo (Path.parent path))

/-- The configuration of a run: that of the named file, or else that of the directory, if it has
one. -/
def configFor? (t : FileTree) (directory : String) (named : Option String) : Option Config :=
  match named with
  | some path => if t.isThere path then t.config? path else none
  | none =>
    if t.isThere (Config.defaultFile directory) then t.config? (Config.defaultFile directory)
    else some {}

/-- The settings of a run: what is given goes before what the configuration says. -/
def settings? (t : FileTree) (directory : String) (given : Given) : Option Settings :=
  (t.configFor? directory (given.lookup .config)).map fun config =>
    Settings.resolve config given.flags directory (t.isThere (Settings.defaultHeader directory))

/-- The text of the header, if the settings name one. -/
def header? (t : FileTree) (s : Settings) : Option (Option String) :=
  match s.header with
  | some path => (t.read? path).map some
  | none => some none

/-- The artifacts of the documentation that the settings name. -/
def artifacts? (t : FileTree) (s : Settings) : Option Artifacts :=
  (t.read? s.input).bind fun source => (Doc.Tree.ofText source).toOption.bind fun tree =>
    (t.header? s).bind fun header => (generate (s.options header) tree).toOption

end FileTree

theorem reads_load (path : String) :
    Reads t (Config.load FileTree.access path) (t.config? path) := by
  refine (reads_readOr _ path).bind fun text _ => ?_
  cases Config.ofText? text with
  | none => exact reads_throw _
  | some config => exact reads_pure _

theorem reads_discoverConfig (directory : String) (named : Option String) :
    Reads t (Config.discover FileTree.access named directory) (t.configFor? directory named) := by
  cases named with
  | some path =>
    refine (reads_isThere path).bind (g := fun there => if there then t.config? path else none)
      fun there _ => ?_
    cases there with
    | true => exact reads_load path
    | false => exact reads_throw _
  | none =>
    refine (reads_isThere (Config.defaultFile directory)).bind
      (g := fun there => if there then t.config? (Config.defaultFile directory) else some {})
      fun there _ => ?_
    cases there with
    | true => exact reads_load _
    | false => exact reads_pure _

theorem reads_discoverSettings (directory : String) (named : Option String) (flags : Flags) :
    Reads t (Settings.discover FileTree.access named flags directory)
      ((t.configFor? directory named).map fun config => Settings.resolve config flags directory
        (t.isThere (Settings.defaultHeader directory))) := by
  rw [Option.map_eq_bind]
  refine (reads_discoverConfig directory named).bind fun config _ => ?_
  exact (reads_isThere (Settings.defaultHeader directory)).bind fun hasHeader _ => reads_pure _

theorem reads_discover (directory : String) (given : Given) :
    Reads t (Settings.discover FileTree.access (given.lookup .config) given.flags directory)
      (t.settings? directory given) :=
  reads_discoverSettings directory (given.lookup .config) given.flags

theorem reads_headerText (s : Settings) :
    Reads t (s.headerText FileTree.access) (t.header? s) := by
  unfold Settings.headerText FileTree.header?
  cases s.header with
  | none => exact reads_pure _
  | some path =>
    simp only [Option.map_eq_bind]
    exact (reads_readOr _ path).bind fun text _ => reads_pure _

theorem reads_generateFrom (s : Settings) :
    Reads t (generateFrom FileTree.access s) (t.artifacts? s) := by
  refine (reads_readOr _ s.input).bind fun source _ => ?_
  cases Doc.Tree.ofText source with
  | error fault => exact reads_throw _
  | ok tree =>
    refine (reads_headerText s).bind fun header _ => ?_
    cases generate (s.options header) tree with
    | error violation => exact reads_throw _
    | ok artifacts => exact reads_pure _

/-! ### All of a run -/

theorem Reads.run_of_none {x : ExceptT Failure (StateM FileTree) α} (hx : Reads t x none)
    (f : α → ExceptT Failure (StateM FileTree) β) :
    ∃ failure, (x >>= f).run.run t = (.error failure, t) := by
  obtain ⟨outcome, hx, hnone⟩ := hx
  cases outcome with
  | error failure =>
    refine ⟨failure, ?_⟩
    rw [ExceptT.run_bind, StateT.run_bind, hx]
    rfl
  | ok a => cases hnone

theorem Reads.run_of_some {x : ExceptT Failure (StateM FileTree) α} {a : α}
    (hx : Reads t x (some a)) (f : α → ExceptT Failure (StateM FileTree) β) :
    (x >>= f).run.run t = (f a).run.run t := by
  rw [ExceptT.run_bind, StateT.run_bind, hx.run_eq]
  rfl

section Writing

variable {u v : FileTree} {s : Settings} {a : Artifacts}

theorem run_writeOr_some {failure : String → Failure} {path text : String}
    (h : t.write? path text = some u) :
    (writeOr FileTree.access failure path text).run.run t = (.ok (), u) := by
  have hwrite : (FileTree.access.write path text).run t = (true, u) := by
    simp only [FileTree.access, StateT.run_bind, StateT.run_get, pure_bind, h]
    rfl
  unfold writeOr
  rw [ExceptT.run_bind, StateT.run_bind]
  show ((Except.ok <$> FileTree.access.write path text).run t >>= _) = _
  rw [StateT.run_map, hwrite]
  rfl

theorem run_writeOr_none {failure : String → Failure} {path text : String}
    (h : t.write? path text = none) :
    (writeOr FileTree.access failure path text).run.run t = (.error (failure path), t) := by
  have hwrite : (FileTree.access.write path text).run t = (false, t) := by
    simp only [FileTree.access, StateT.run_bind, StateT.run_get, pure_bind, h]
    rfl
  unfold writeOr
  rw [ExceptT.run_bind, StateT.run_bind]
  show ((Except.ok <$> FileTree.access.write path text).run t >>= _) = _
  rw [StateT.run_map, hwrite]
  rfl

theorem run_writeArtifacts_of_stubs (h : t.write? s.stubs a.stubs = none) :
    (writeArtifacts FileTree.access s a).run.run t =
      (.error (.unwritableStubs s.stubs), t) := by
  unfold writeArtifacts
  rw [ExceptT.run_bind, StateT.run_bind, run_writeOr_none h]
  rfl

theorem run_writeArtifacts_of_table (hu : t.write? s.stubs a.stubs = some u)
    (h : u.write? s.table a.table = none) :
    (writeArtifacts FileTree.access s a).run.run t =
      (.error (.unwritableTable s.table), u) := by
  unfold writeArtifacts
  rw [ExceptT.run_bind, StateT.run_bind, run_writeOr_some hu]
  exact run_writeOr_none h

theorem run_writeArtifacts (hu : t.write? s.stubs a.stubs = some u)
    (hv : u.write? s.table a.table = some v) :
    (writeArtifacts FileTree.access s a).run.run t = (.ok (), v) := by
  unfold writeArtifacts
  rw [ExceptT.run_bind, StateT.run_bind, run_writeOr_some hu]
  exact run_writeOr_some hv

end Writing

/-- The outcome of a run that ended like this. -/
def Outcome.ofRun : Except Failure Unit → Outcome
  | .ok () => {}
  | .error failure => { status := 1, report := failure.report }

theorem status_ofRun_error (failure : Failure) : (Outcome.ofRun (.error failure)).status ≠ 0 := by
  show (1 : UInt32) ≠ 0
  decide

theorem run_perform {directory : String} {arguments : List String} {given : Given}
    (h : Request.ofArguments arguments = .ok (.run given)) {result : Except Failure Unit}
    {after : FileTree}
    (hrun : (runCommand FileTree.access directory given).run.run t = (result, after)) :
    (perform FileTree.access directory arguments).run t = (Outcome.ofRun result, after) := by
  unfold perform
  rw [h]
  simp only
  rw [StateT.run_bind, hrun]
  cases result with
  | error failure => rfl
  | ok a => rfl

/-- Both artifacts of the run are in their files, and no other file has changed. -/
def Whole (t : FileTree) (directory : String) (given : Given) (after : FileTree) : Prop :=
  ∃ s a, t.settings? directory given = some s ∧ t.artifacts? s = some a ∧
    after.read? s.stubs = some a.stubs ∧ after.read? s.table = some a.table ∧
    ∀ l, t.locate? s.stubs ≠ some l → t.locate? s.table ≠ some l → after.textAt? l = t.textAt? l

/-- The run can write its stubs, which are new, but not its table. -/
def StubsOnly (t : FileTree) (directory : String) (given : Given) : Prop :=
  ∃ s a, t.settings? directory given = some s ∧ t.artifacts? s = some a ∧
    t.isWritable s.stubs = true ∧ t.isWritable s.table = false ∧ t.read? s.stubs ≠ some a.stubs

section Run

variable {directory : String} {given : Given} {s : Settings} {a : Artifacts}

theorem stubsOnly_iff (hs : t.settings? directory given = some s) (ha : t.artifacts? s = some a) :
    StubsOnly t directory given ↔
      t.isWritable s.stubs = true ∧ t.isWritable s.table = false ∧
        t.read? s.stubs ≠ some a.stubs := by
  constructor
  · rintro ⟨s', a', hs', ha', hrest⟩
    obtain rfl := Option.some.inj (hs.symm.trans hs')
    obtain rfl := Option.some.inj (ha.symm.trans ha')
    exact hrest
  · intro hrest
    exact ⟨s, a, hs, ha, hrest⟩

/-- A run without settings or artifacts fails and leaves the files as they are. -/
theorem run_runCommand_of_none
    (h : (t.settings? directory given).bind t.artifacts? = none) :
    ∃ failure, (runCommand FileTree.access directory given).run.run t = (.error failure, t) := by
  have hsettings := reads_discover (t := t) directory given
  cases hs : t.settings? directory given with
  | none =>
    rw [hs] at hsettings
    exact hsettings.run_of_none _
  | some s =>
    rw [hs] at hsettings h
    have hartifacts := reads_generateFrom (t := t) s
    rw [show t.artifacts? s = none from h] at hartifacts
    obtain ⟨failure, hf⟩ := hartifacts.run_of_none (writeArtifacts FileTree.access s)
    exact ⟨failure, (hsettings.run_of_some _).trans hf⟩

/-- A run with settings and artifacts ends as their writing does. -/
theorem run_runCommand_of_some (hs : t.settings? directory given = some s)
    (ha : t.artifacts? s = some a) :
    (runCommand FileTree.access directory given).run.run t =
      (writeArtifacts FileTree.access s a).run.run t := by
  have hsettings := reads_discover (t := t) directory given
  have hartifacts := reads_generateFrom (t := t) s
  rw [hs] at hsettings
  rw [ha] at hartifacts
  exact (hsettings.run_of_some _).trans (hartifacts.run_of_some _)

/-- What a run leaves when both artifacts are written. -/
theorem whole_of_write? (hs : t.settings? directory given = some s)
    (ha : t.artifacts? s = some a)
    (hd : ∀ l, t.locate? s.stubs = some l → t.locate? s.table ≠ some l) {u v : FileTree}
    (hu : t.write? s.stubs a.stubs = some u) (hv : u.write? s.table a.table = some v) :
    Whole t directory given v := by
  have hlocate : u.locate? = t.locate? := FileTree.locate?_write? hu
  have hne : u.locate? s.table ≠ u.locate? s.stubs := by
    obtain ⟨l, hl, -⟩ := FileTree.eq_of_write? hu
    rw [hlocate, hl]
    exact hd l hl
  refine ⟨s, a, hs, ha, ?_, FileTree.read?_write?_self hv, ?_⟩
  · rw [FileTree.read?_write?_of_ne hv hne]
    exact FileTree.read?_write?_self hu
  · intro l hstubs htable
    rw [FileTree.textAt?_write?_of_ne hv (by rwa [hlocate]),
      FileTree.textAt?_write?_of_ne hu hstubs]

end Run

/-- A run whose two outputs are different files either succeeds and leaves both artifacts in them,
or fails and leaves every file as it was, unless it can write new stubs but not the table. -/
theorem perform_whole_or_nothing_iff {t : FileTree} {directory : String} {arguments : List String}
    {given : Given} (h : Request.ofArguments arguments = .ok (.run given))
    (hd : ∀ s l, t.settings? directory given = some s → t.locate? s.stubs = some l →
      t.locate? s.table ≠ some l) :
    ∃ outcome after, (perform FileTree.access directory arguments).run t = (outcome, after) ∧
      ((outcome.status = 0 ∧ Whole t directory given after ∨ outcome.status ≠ 0 ∧ after = t) ↔
        ¬StubsOnly t directory given) := by
  cases hnone : (t.settings? directory given).bind t.artifacts? with
  | none =>
    -- all that came before was reading
    obtain ⟨failure, hrun⟩ := run_runCommand_of_none hnone
    refine ⟨_, t, run_perform h hrun, iff_of_true (.inr ⟨status_ofRun_error _, rfl⟩) ?_⟩
    rintro ⟨s, a, hs, ha, -⟩
    rw [hs, Option.bind_some, ha] at hnone
    cases hnone
  | some a =>
    obtain ⟨s, hs, ha⟩ := Option.bind_eq_some_iff.1 hnone
    have hrun := run_runCommand_of_some hs ha
    rw [stubsOnly_iff hs ha]
    cases hu : t.write? s.stubs a.stubs with
    | none =>
      rw [run_writeArtifacts_of_stubs hu] at hrun
      refine ⟨_, t, run_perform h hrun, iff_of_true (.inr ⟨status_ofRun_error _, rfl⟩) ?_⟩
      rw [FileTree.write?_eq_none_iff.1 hu]
      simp
    | some u =>
      have hstubs : t.isWritable s.stubs = true := by
        cases hw : t.isWritable s.stubs with
        | true => rfl
        | false => simp [FileTree.write?_eq_none_iff.2 hw] at hu
      have htable : u.isWritable s.table = t.isWritable s.table := by
        rw [FileTree.isWritable_write? hu]
      cases hv : u.write? s.table a.table with
      | none =>
        -- the stubs stay, which shows unless their file held them already
        rw [run_writeArtifacts_of_table hu hv] at hrun
        refine ⟨_, u, run_perform h hrun, ?_⟩
        rw [FileTree.write?_eq_none_iff.1 hv] at htable
        rw [FileTree.write?_eq_self_iff hu, hstubs, ← htable]
        simp [Outcome.ofRun]
      | some v =>
        rw [run_writeArtifacts hu hv] at hrun
        refine ⟨_, v, run_perform h hrun, iff_of_true (.inl ⟨rfl, ?_⟩) ?_⟩
        · exact whole_of_write? hs ha (fun l => hd s l hs) hu hv
        · rintro ⟨-, hw, -⟩
          rw [← htable] at hw
          simp [FileTree.write?_eq_none_iff.2 hw] at hv

/-! ### Two directories -/

/-- The shortest documentation: all sections are absent. -/
theorem ofText_empty : Doc.Tree.ofText "{}" = .ok {} := by
  have htokens : Json.tokenize "{}".toList = [.openObject, .closeObject] := by
    show Json.tokenize ['{', '}'] = _
    rw [Json.tokenize_cons rfl rfl, Json.tokenize_cons rfl rfl, Json.tokenize]
  unfold Doc.Tree.ofText Json.decode Json.read
  rw [htokens]
  rfl

/-- A directory with a documentation. -/
def workTree : FileTree := { home := ["work"], files := [(["work", "all.json"], "{}")] }

/-- The same, where the name of the table is that of a directory. -/
def blockedTree : FileTree :=
  { workTree with files := workTree.files ++ [(["work", "out", "x"], "y")] }

theorem perform_whole_or_nothing_workTree :
    ∃ outcome after, (perform FileTree.access "/work" []).run workTree = (outcome, after) ∧
      (outcome.status = 0 ∧ Whole workTree "/work" [] after ∨
        outcome.status ≠ 0 ∧ after = workTree) := by
  have hs : workTree.settings? "/work" [] =
      some ⟨"/work/all.json", none, "/work/all.js", "/work/modules.cs", {}, {}⟩ := by decide
  have hd : ∀ s l, workTree.settings? "/work" [] = some s → workTree.locate? s.stubs = some l →
      workTree.locate? s.table ≠ some l := by
    intro s l hsettings hl
    rw [hs] at hsettings
    obtain rfl := Option.some.inj hsettings
    have hstubs : workTree.locate? "/work/all.js" = some ["work", "all.js"] := by decide
    obtain rfl := Option.some.inj (hstubs.symm.trans hl)
    decide
  obtain ⟨outcome, after, hrun, hiff⟩ :=
    perform_whole_or_nothing_iff (t := workTree) (by decide : Request.ofArguments [] = _) hd
  refine ⟨outcome, after, hrun, hiff.2 ?_⟩
  rintro ⟨s, a, hsettings, -, -, htable, -⟩
  rw [hs] at hsettings
  obtain rfl := Option.some.inj hsettings
  revert htable
  decide

/-- The run fails at the table, and the stubs stay behind. -/
theorem perform_blockedTree :
    ∃ outcome after, (perform FileTree.access "/work" ["--doc-table", "out"]).run blockedTree =
        (outcome, after) ∧
      outcome.status = 1 ∧ outcome.report = "Error: writing doc table to out" ∧
      blockedTree.read? "/work/all.js" = none ∧ after.read? "/work/all.js" ≠ none := by
  have hs : blockedTree.settings? "/work" [(.docTable, "out")] =
      some ⟨"/work/all.json", none, "/work/all.js", "out", {}, {}⟩ := by decide
  have hinput : blockedTree.read? "/work/all.json" = some "{}" := by decide
  obtain ⟨a, ha⟩ : ∃ a, blockedTree.artifacts?
      ⟨"/work/all.json", none, "/work/all.js", "out", {}, {}⟩ = some a := by
    obtain ⟨a, ha⟩ := (stopsAt_generateWith (.ofRuntime {}) {} {}).exists_ok_iff.2 (by decide)
    refine ⟨a, ?_⟩
    unfold FileTree.artifacts?
    rw [hinput, Option.bind_some, ofText_empty]
    exact congrArg Except.toOption ha
  have hstubs : blockedTree.isWritable "/work/all.js" = true := by decide
  have htable : blockedTree.isWritable "out" = false := by decide
  obtain ⟨u, hu⟩ : ∃ u, blockedTree.write? "/work/all.js" a.stubs = some u := by
    rw [← Option.ne_none_iff_exists', Ne, FileTree.write?_eq_none_iff, hstubs]
    decide
  have hv : u.write? "out" a.table = none := by
    rw [FileTree.write?_eq_none_iff, FileTree.isWritable_write? hu, htable]
  have hrun := run_runCommand_of_some hs ha
  rw [run_writeArtifacts_of_table hu hv] at hrun
  refine ⟨_, u, run_perform (by decide) hrun, rfl, by decide, by decide, ?_⟩
  rw [FileTree.read?_write?_self hu]
  simp

end ApiStubs
