import ApiStubs.Proofs.CommandRuns

/-!
# The layers of settings

The files of a run are named by flags, by its configuration, or by default, each file for itself.
The layout of the table and the runtime come from the configuration key by key, and no flag changes
them except the one for the format.

* `IsText`, `Spells`, `IsRecord`: what a value of a configuration file says;
* `Keyed`: what is said under a key, or the default if the key is not there;
* `Written`, `FileTree.Configures`: what is written in the configuration file of a run;
* `Written.path?`: the path of a file, seen from the directory of the configuration file;
* `NamesFormat`, `GivesLayout`, `GivesRuntime`: options that are taken key by key, or by default;
* `Settings.Layered`: settings that come from the three layers;
* `discover_layered`: a run with a configuration that loads finds such settings.
-/

namespace ApiStubs

open Toml

/-! ### What a value says -/

namespace Toml

/-- The value is a string. -/
def IsText (v : Toml) (s : String) : Prop := v = .text s

/-- The value is a word: as a string, or as the only key of a table, with nothing in its value. -/
inductive Spells : Toml → String → Prop
  | text {word : String} : Spells (.text word) word
  | keyOfTable {origin inner : Origin} {word : String} :
      Spells (.table origin [(word, .table inner [])]) word
  | keyOfArray {origin : Origin} {word : String} : Spells (.table origin [(word, .array [])]) word

/-- The value has these members: it is a table with them, all under keys of the record, or an array
with their values in the order of the keys. -/
inductive IsRecord (keys : List String) : Toml → Members → Prop
  | table {origin : Origin} {members : Members} (h : ∀ m ∈ members, m.1 ∈ keys) :
      IsRecord keys (.table origin members) members
  | array {items : List Toml} : IsRecord keys (.array items) (keys.zip items)
  | tables {earlier : List Members} {last : Members} :
      IsRecord keys (.tables earlier last)
        (keys.zip ((earlier.reverse ++ [last]).map (.table .header)))

/-- What is said under a key, or the default if the key is not there. -/
inductive Keyed {α : Type} (members : Members) (key : String) (reads : Toml → α → Prop)
    (default : α) : α → Prop
  | written {v : Toml} {a : α} (hv : members.lookup key = some v) (ha : reads v a) :
      Keyed members key reads default a
  | absent (h : members.lookup key = none) : Keyed members key reads default default

theorem isText_of_text? {v : Toml} {s : String} (h : v.text? = some s) : v.IsText s := by
  unfold text? at h
  split at h
  · exact congrArg Toml.text (Option.some.inj h)
  · cases h

theorem spells_of_keyword? {α : Type} {words : List (String × α)} {v : Toml} {a : α}
    (h : keyword? words v = some a) : ∃ word, v.Spells word ∧ words.lookup word = some a := by
  unfold keyword? at h
  split at h
  · exact ⟨_, .text, h⟩
  · next origin word v =>
    obtain ⟨hempty, h⟩ := Option.ite_none_right_eq_some.1 h
    unfold Toml.isEmpty at hempty
    split at hempty
    · exact ⟨word, .keyOfArray, h⟩
    · exact ⟨word, .keyOfTable, h⟩
    · cases hempty
  · cases h

theorem isRecord_of_record? {keys : List String} {v : Toml} {members : Members}
    (h : v.record? keys = some members) : IsRecord keys v members := by
  unfold record? at h
  split at h
  · obtain ⟨hall, h⟩ := Option.ite_none_right_eq_some.1 h
    obtain rfl := Option.some.inj h
    exact .table (by simpa using hall)
  · obtain ⟨items, hitems, rfl⟩ := Option.map_eq_some_iff.1 h
    unfold items? at hitems
    split at hitems
    · obtain rfl := Option.some.inj hitems
      exact .array
    · obtain rfl := Option.some.inj hitems
      rw [List.reverse_cons]
      exact .tables
    · cases hitems

theorem keyed_of_field? {α : Type} {members : Members} {key : String}
    {decode : Toml → Option α} {reads : Toml → α → Prop} {default a : α}
    (hdecode : ∀ v a, decode v = some a → reads v a)
    (h : field? members key decode default = some a) : Keyed members key reads default a := by
  unfold field? at h
  split at h
  · next v hv => exact .written hv (hdecode v a h)
  · next hv =>
    obtain rfl := Option.some.inj h
    exact .absent hv

theorem keyed_isText {members : Members} {key default s : String}
    (h : field? members key text? default = some s) : Keyed members key IsText default s :=
  keyed_of_field? (fun _ _ => isText_of_text?) h

end Toml

/-! ### What is written in a configuration file -/

/-- What is written in a configuration file, by its keys and those of its two tables. -/
structure Written where
  /-- The directory of the file. -/
  directory : String := ""
  members : Members := []
  layout : Members := []
  runtime : Members := []

namespace Written

/-- The keys of a configuration. -/
def keys : List String :=
  ["input", "header", "stubs_output", "doc_table_output", "doc_table", "runtime"]

def layoutKeys : List String := ["format", "namespace", "class_name", "field_name", "banner"]

def runtimeKeys : List String := ["node_version", "v8_version", "platform"]

/-- This is written in a file with the value. A table that is not there is like an empty one. -/
structure StandsIn (w : Written) (root : Toml) : Prop where
  members : IsRecord keys root w.members
  layout : Keyed w.members "doc_table" (IsRecord layoutKeys) [] w.layout
  runtime : Keyed w.members "runtime" (IsRecord runtimeKeys) [] w.runtime

/-- The path that is written under a key: as it is if it is absolute, and else in the directory of
the file. -/
def path? (w : Written) (key : String) : Option String :=
  match w.members.lookup key with
  | some (.text path) => some (if Path.isAbsolute path then path else Path.join w.directory path)
  | _ => none

end Written

/-- This is written in the configuration file of a run in the directory. The file is the named one,
or that of the directory, which need not be there. -/
inductive FileTree.Configures (t : FileTree) (directory : String) : Option String → Written → Prop
  | file {named : Option String} {path text : String} {root : Toml} {w : Written}
      (hpath : path = named.getD (Path.join directory "noderef.toml"))
      (there : t.isThere path = true) (hread : t.read? path = some text)
      (hroot : Toml.read? text = some root) (hdirectory : w.directory = Path.parent path)
      (hw : w.StandsIn root) : Configures t directory named w
  | nothing (hnone : t.isThere (Path.join directory "noderef.toml") = false) :
      Configures t directory none {}

/-- The value is the name of a format. -/
inductive NamesFormat (v : Toml) : DocTable.Format → Prop
  | csharp (h : v.Spells "csharp") : NamesFormat v .csharp
  | json (h : v.Spells "json") : NamesFormat v .json

/-- The layout is written in the table, or is the default, key by key. -/
structure GivesLayout (members : Members) (o : DocTable.Options) : Prop where
  format : Keyed members "format" NamesFormat .csharp o.format
  space : Keyed members "namespace" IsText "Microsoft.NodejsTools.Intellisense" o.space
  className : Keyed members "class_name" IsText "CompletionSource" o.className
  fieldName : Keyed members "field_name" IsText "_nodejsModules" o.fieldName
  banner : Keyed members "banner" (fun v banner => ∃ s, banner = some s ∧ v.IsText s) none o.banner

/-- The runtime is written in the table, or is the default, key by key. -/
structure GivesRuntime (members : Members) (r : Inference.Runtime) : Prop where
  nodeVersion : Keyed members "node_version" IsText "0.10.0" r.nodeVersion
  v8Version : Keyed members "v8_version" IsText "3.14.5.8" r.v8Version
  platform : Keyed members "platform" IsText "win32" r.platform

theorem namesFormat_of_keyword? {v : Toml} {format : DocTable.Format}
    (h : keyword? DocTable.Format.names v = some format) : NamesFormat v format := by
  obtain ⟨word, hspells, hlookup⟩ := spells_of_keyword? h
  unfold DocTable.Format.names at hlookup
  by_cases hcsharp : word = "csharp"
  · subst hcsharp
    obtain rfl := Option.some.inj hlookup
    exact .csharp hspells
  by_cases hjson : word = "json"
  · subst hjson
    obtain rfl := Option.some.inj hlookup
    exact .json hspells
  · rw [List.lookup_cons, beq_eq_false_iff_ne.2 hcsharp, List.lookup_cons,
      beq_eq_false_iff_ne.2 hjson] at hlookup
    cases hlookup

/-! ### Configurations -/

/-- The configuration is the one that is written. -/
structure Written.Gives (w : Written) (c : Config) : Prop where
  input : c.files.input = w.path? "input"
  header : c.files.header = w.path? "header"
  stubs : c.files.stubs = w.path? "stubs_output"
  table : c.files.table = w.path? "doc_table_output"
  layout : GivesLayout w.layout c.layout
  runtime : GivesRuntime w.runtime c.runtime

/-- Where nothing is written, everything is the default. -/
theorem Written.gives_nothing : Written.Gives {} {} :=
  ⟨rfl, rfl, rfl, rfl, ⟨.absent rfl, .absent rfl, .absent rfl, .absent rfl, .absent rfl⟩,
    ⟨.absent rfl, .absent rfl, .absent rfl⟩⟩

theorem layout?_eq_some {v : Toml} {o : DocTable.Options} (h : Config.layout? v = some o) :
    ∃ members, IsRecord Written.layoutKeys v members ∧ GivesLayout members o := by
  obtain ⟨members, hm, h⟩ := Option.bind_eq_some_iff.1 h
  obtain ⟨format, hformat, h⟩ := Option.bind_eq_some_iff.1 h
  obtain ⟨space, hspace, h⟩ := Option.bind_eq_some_iff.1 h
  obtain ⟨className, hclass, h⟩ := Option.bind_eq_some_iff.1 h
  obtain ⟨fieldName, hfield, h⟩ := Option.bind_eq_some_iff.1 h
  obtain ⟨banner, hbanner, h⟩ := Option.bind_eq_some_iff.1 h
  obtain rfl := Option.some.inj h
  refine ⟨members, isRecord_of_record? hm, keyed_of_field? (fun _ _ => namesFormat_of_keyword?)
    hformat, keyed_isText hspace, keyed_isText hclass, keyed_isText hfield,
    keyed_of_field? (fun v banner h => ?_) hbanner⟩
  obtain ⟨s, hs, rfl⟩ := Option.map_eq_some_iff.1 h
  exact ⟨s, rfl, isText_of_text? hs⟩

theorem runtime?_eq_some {v : Toml} {r : Inference.Runtime} (h : Config.runtime? v = some r) :
    ∃ members, IsRecord Written.runtimeKeys v members ∧ GivesRuntime members r := by
  obtain ⟨members, hm, h⟩ := Option.bind_eq_some_iff.1 h
  obtain ⟨node, hnode, h⟩ := Option.bind_eq_some_iff.1 h
  obtain ⟨v8, hv8, h⟩ := Option.bind_eq_some_iff.1 h
  obtain ⟨platform, hplatform, h⟩ := Option.bind_eq_some_iff.1 h
  obtain rfl := Option.some.inj h
  exact ⟨members, isRecord_of_record? hm, keyed_isText hnode, keyed_isText hv8,
    keyed_isText hplatform⟩

/-- A table within a record is decoded by its members, and without it by none. -/
theorem Toml.Keyed.exists_record {α : Type} {members : Members} {key : String} {keys : List String}
    {default a : α} {P : Members → α → Prop} (habsent : P [] default)
    (h : Keyed members key (fun v a => ∃ inner, IsRecord keys v inner ∧ P inner a) default a) :
    ∃ inner, Keyed members key (IsRecord keys) [] inner ∧ P inner a := by
  cases h with
  | written hv ha =>
    obtain ⟨inner, hinner, hp⟩ := ha
    exact ⟨inner, .written hv hinner, hp⟩
  | absent h => exact ⟨[], .absent h, habsent⟩

/-- A path of a configuration, for a reader outside of its directory. -/
theorem Written.path?_eq {w : Written} {key : String} {written : Option String}
    (h : field? w.members key (fun v => v.text?.map some) none = some written) :
    written.map (Path.join w.directory) = w.path? key := by
  unfold field? at h
  unfold path?
  cases hlookup : w.members.lookup key with
  | none =>
    rw [hlookup] at h
    obtain rfl := Option.some.inj h
    rfl
  | some v =>
    rw [hlookup] at h
    obtain ⟨path, htext, rfl⟩ := Option.map_eq_some_iff.1 h
    obtain rfl : v = .text path := isText_of_text? htext
    show some (Path.join w.directory path) = some _
    by_cases habsolute : Path.isAbsolute path = true
    · rw [if_pos habsolute, Path.join_of_isAbsolute habsolute]
    · rw [if_neg habsolute]

/-- A configuration that is decoded is the one that is written. -/
theorem Written.exists_gives {v : Toml} {c : Config} (h : Config.ofToml? v = some c)
    (directory : String) :
    ∃ w : Written, w.directory = directory ∧ w.StandsIn v ∧ w.Gives (c.relativeTo directory) := by
  obtain ⟨members, hmembers, h⟩ := Option.bind_eq_some_iff.1 h
  obtain ⟨input, hinput, h⟩ := Option.bind_eq_some_iff.1 h
  obtain ⟨header, hheader, h⟩ := Option.bind_eq_some_iff.1 h
  obtain ⟨stubs, hstubs, h⟩ := Option.bind_eq_some_iff.1 h
  obtain ⟨table, htable, h⟩ := Option.bind_eq_some_iff.1 h
  obtain ⟨o, ho, h⟩ := Option.bind_eq_some_iff.1 h
  obtain ⟨r, hr, h⟩ := Option.bind_eq_some_iff.1 h
  obtain rfl := Option.some.inj h
  obtain ⟨layout, hlayout, hoptions⟩ :=
    (keyed_of_field? (fun _ _ => layout?_eq_some) ho).exists_record gives_nothing.layout
  obtain ⟨runtime, hruntime, hprofile⟩ :=
    (keyed_of_field? (fun _ _ => runtime?_eq_some) hr).exists_record gives_nothing.runtime
  let w : Written := { directory, members, layout, runtime }
  exact ⟨w, rfl, ⟨isRecord_of_record? hmembers, hlayout, hruntime⟩, w.path?_eq hinput,
    w.path?_eq hheader, w.path?_eq hstubs, w.path?_eq htable, hoptions, hprofile⟩

/-- The configuration of a run is the one that is written in its file. -/
theorem FileTree.exists_configures {t : FileTree} {directory : String} {named : Option String}
    {c : Config} (h : t.configFor? directory named = some c) :
    ∃ w, t.Configures directory named w ∧ w.Gives c := by
  have hfile {path : String} (there : t.isThere path = true) (hc : t.config? path = some c)
      (hpath : path = named.getD (Path.join directory "noderef.toml")) :
      ∃ w, t.Configures directory named w ∧ w.Gives c := by
    obtain ⟨text, hread, hc⟩ := Option.bind_eq_some_iff.1 hc
    obtain ⟨config, hconfig, rfl⟩ := Option.map_eq_some_iff.1 hc
    obtain ⟨root, hroot, hconfig⟩ := Option.bind_eq_some_iff.1 hconfig
    obtain ⟨w, hdirectory, hw, hgives⟩ := Written.exists_gives hconfig (Path.parent path)
    exact ⟨w, .file hpath there hread hroot hdirectory hw, hgives⟩
  unfold configFor? at h
  cases named with
  | some path =>
    simp only [Option.ite_none_right_eq_some] at h
    exact hfile h.1 h.2 rfl
  | none =>
    simp only at h
    split at h
    · next there => exact hfile there h rfl
    · next hnone =>
      obtain rfl := Option.some.inj h
      exact ⟨{}, .nothing (Bool.eq_false_iff.2 hnone), Written.gives_nothing⟩

/-! ### Settings -/

/-- The settings come from flags, from what is written, and from the directory, each by itself.

* A file is the one that its flag names, or else the one that is written, or else the default in the
  directory. There is a default header only if the directory has it, and the name of the default
  table goes by the format.
* The format is that of the flag, or else what is written or its default; nothing else of the layout
  or the runtime depends on flags. -/
structure Settings.Layered (t : FileTree) (directory : String) (flags : Flags) (w : Written)
    (s : Settings) : Prop where
  input : s.input =
    (flags.files.input.or (w.path? "input")).getD (Path.join directory "all.json")
  header : s.header = (flags.files.header.or (w.path? "header")).or
    (if t.isThere (Path.join directory "IntellisenseHeader.js") then
      some (Path.join directory "IntellisenseHeader.js") else none)
  stubs : s.stubs =
    (flags.files.stubs.or (w.path? "stubs_output")).getD (Path.join directory "all.js")
  table : s.table = (flags.files.table.or (w.path? "doc_table_output")).getD
    (Path.join directory (if s.layout.format = .json then "modules.json" else "modules.cs"))
  layout : ∃ o, GivesLayout w.layout o ∧
    s.layout = { o with format := flags.format.getD o.format }
  runtime : GivesRuntime w.runtime s.runtime

theorem Written.Gives.layered {w : Written} {c : Config} (h : w.Gives c) (t : FileTree)
    (directory : String) (flags : Flags) :
    (Settings.resolve c flags directory (t.isThere (Settings.defaultHeader directory))).Layered t
      directory flags w := by
  have htable (format : DocTable.Format) : Settings.defaultTable format =
      if format = .json then "modules.json" else "modules.cs" := by
    cases format <;> rfl
  refine ⟨?_, ?_, ?_, ?_, ⟨c.layout, h.layout, rfl⟩, h.runtime⟩
  · rw [← h.input]
    rfl
  · rw [← h.header]
    rfl
  · rw [← h.stubs]
    rfl
  · rw [← h.table, ← htable]
    rfl

/-- A run finds settings when its configuration loads, or when it has none, and they come from the
three layers. It does not change any file on the way. -/
theorem discover_layered {t u : FileTree} {directory : String} {named : Option String}
    {config : Config}
    (h : (Config.discover FileTree.access named directory).run.run t = (.ok config, u))
    (flags : Flags) :
    ∃ w s, t.Configures directory named w ∧ s.Layered t directory flags w ∧
      (Settings.discover FileTree.access named flags directory).run.run t = (.ok s, t) := by
  have hconfig := reads_discoverConfig (t := t) directory named
  have hsome := hconfig.eq_some h
  obtain ⟨w, hw, hgives⟩ := FileTree.exists_configures hsome
  have hsettings := reads_discoverSettings (t := t) directory named flags
  rw [hsome] at hsettings
  exact ⟨w, _, hw, hgives.layered t directory flags, hsettings.run_eq⟩

/-- A configuration outside of the working directory. -/
def siteText : String :=
  "header = \"top.js\"\nstubs_output = \"/srv/all.js\"\n" ++
  "[doc_table]\nnamespace = \"Docs\"\n[runtime]\nplatform = \"linux\"\n"

def siteTree : FileTree := { home := ["work"], files := [(["conf", "site.toml"], siteText)] }

/-- Flags for one file and for the format. -/
def siteFlags : Flags := { files := { input := some "docs.json" }, format := some .json }

def siteConfig : Config :=
  { files := { header := some "/conf/top.js", stubs := some "/srv/all.js" }
    layout := { space := "Docs" }
    runtime := { platform := "linux" } }

def siteSettings : Settings :=
  { input := "docs.json"
    header := some "/conf/top.js"
    stubs := "/srv/all.js"
    table := "/work/modules.json"
    layout := { format := .json, space := "Docs" }
    runtime := { platform := "linux" } }

theorem discover_layered_siteTree :
    ∃ w, siteTree.Configures "/work" (some "/conf/site.toml") w ∧
      siteSettings.Layered siteTree "/work" siteFlags w ∧
      (Settings.discover FileTree.access (some "/conf/site.toml") siteFlags "/work").run.run
        siteTree = (.ok siteSettings, siteTree) := by
  have hconfig : siteTree.configFor? "/work" (some "/conf/site.toml") = some siteConfig := by
    decide +kernel
  have hload := reads_discoverConfig (t := siteTree) "/work" (some "/conf/site.toml")
  rw [hconfig] at hload
  obtain ⟨w, s, hw, hlayered, hrun⟩ := discover_layered hload.run_eq siteFlags
  have hsettings :=
    reads_discoverSettings (t := siteTree) "/work" (some "/conf/site.toml") siteFlags
  have hresolve : Settings.resolve siteConfig siteFlags "/work"
      (siteTree.isThere (Settings.defaultHeader "/work")) = siteSettings := by decide
  rw [hconfig, Option.map_some, hresolve] at hsettings
  obtain rfl : siteSettings = s :=
    Except.ok.inj (Prod.mk.inj (hsettings.run_eq.symm.trans hrun)).1
  exact ⟨w, hw, hlayered, hrun⟩

end ApiStubs
