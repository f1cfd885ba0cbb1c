import ApiStubs.Proofs.Descriptions
import ApiStubs.Proofs.ModuleNames

/-!
# The table as JSON read back

The table in JSON is one array and a line feed behind it. Read back it has an object for each
module, with the name and the description and nothing else.

* `plainDescription`: the description of a module as running text;
* `rowObject`: the object of a module;
* `emit_json_read`: the table is read as the objects of the modules.
-/

namespace ApiStubs.DocTable

open Doc Fragment

/-- The description as running text over several lines. It is empty where there is none, and where
it cannot be read. -/
def plainDescription (m : Module) : String :=
  match m.desc with
  | none => ""
  | some desc => (renderInline desc .plain).toOption.getD ""

/-- The object of a module: its name in code and its description. -/
def rowObject (m : Module) : Json :=
  .object [(some "name", .text (some (Name.identifier m.name))),
    (some "doc", .text (some (plainDescription m)))]

theorem entry_plain (m : Module) :
    (entry .plain m).1 = ⟨Name.identifier m.name, plainDescription m⟩ := by
  cases hd : m.desc with
  | none => rw [entry_of_desc_eq_none .plain hd, plainDescription, hd]
  | some desc =>
    have hdoc : plainDescription m = (renderInline desc .plain).toOption.getD "" := by
      rw [plainDescription, hd]
    rw [entry, hdoc, hd, Option.getD_some]
    cases renderInline desc .plain with
    | ok doc => rfl
    | error fault => rfl

theorem toJson_entry_plain (m : Module) : (entry .plain m).1.toJson = rowObject m := by
  rw [entry_plain]
  rfl

theorem emit_json (o : Options) (modules : List Module) :
    (emit { o with format := .json } modules).1 =
      (Json.array (modules.map rowObject)).toIndentedText := by
  have hrows : (entries .plain modules).map Entry.toJson = modules.map rowObject := by
    rw [entries, List.map_map]
    exact List.map_congr_left fun m _ => toJson_entry_plain m
  show jsonTable (entries .plain modules) = _
  rw [jsonTable, hrows]

/-- The table as JSON, whatever the other options are, is the text of an array and a line feed.
Both with the line feed and without it the text is read as one object for each module, in the order
of the modules and with duplicates kept. The members of an object are the name of the module in code
and its description as running text. -/
theorem emit_json_read (o : Options) (modules : List Module) :
    ∃ inside text, text = "[" ++ inside ++ "]" ∧
      (emit { o with format := .json } modules).1 = text ++ "\n" ∧
      Json.read text = ⟨.array (modules.map rowObject), true⟩ ∧
      Json.read (emit { o with format := .json } modules).1 =
        ⟨.array (modules.map rowObject), true⟩ := by
  have htextual : (Json.array (modules.map rowObject)).textual = true := by
    rw [← List.map_congr_left fun m _ => toJson_entry_plain m]
    have hrows := textual_rows (entries .plain modules)
    rwa [entries, List.map_map] at hrows
  obtain ⟨inside, hinside⟩ := Json.renderIndented_array 0 (modules.map rowObject)
  have hread := Json.read_renderIndented htextual 0 Json.tokenize_nil
  rw [List.append_nil] at hread
  refine ⟨String.ofList inside, _, ?_, ?_, hread, ?_⟩
  · rw [hinside]
    apply String.toList_injective
    simp
  · rw [emit_json, Json.toIndentedText, String.ofList_append]
  · rw [emit_json, Json.read_toIndentedText htextual]

end ApiStubs.DocTable
