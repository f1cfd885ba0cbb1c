import ApiStubs.Name
import ApiStubs.Report

/-!
# The functions of a stub

Every documented scope becomes a function. Its name follows from the documented name and from the
role of the scope.

* `Role`: a module, a global object, or a class inside one of them;
* `memberName`: the name of a member of a container;
* `Role.functionName`: the name of the function of a scope.
-/

namespace ApiStubs.Stub

/-- What a scope is. -/
inductive Role where
  /-- A module, made on demand by the loader. -/
  | module
  /-- A global object, declared as a variable. -/
  | global
  /-- A class inside a module or global object. -/
  | nested
  deriving DecidableEq, Repr

/-- The identifier of a name in a container, refused if nothing is left of it. -/
def memberName (container raw : String) : Except Violation String :=
  let name := Name.identifier raw
  if name = "" then .error (.emptyIdentifier container raw) else .ok name

/-- The container named in violations of a module's own name. -/
def rootContainer : String := "<root>"

/-- The container named in violations of a class's own name. -/
def classContainer : String := "<class>"

/-- The identifier of a class, refused if it is not fit for code. -/
def className (raw : String) : Except Violation String :=
  match Name.classIdentifier? raw with
  | some name => .ok name
  | none => .error (.emptyIdentifier classContainer raw)

/-- The name of the function that a scope becomes. -/
def Role.functionName (raw : String) : Role → Except Violation String
  | .module => memberName rootContainer raw
  | .global => (memberName "" raw).map ("__" ++ ·)
  | .nested => (className raw).map ("_" ++ ·)

theorem memberName_eq_ok_iff {container raw name : String} :
    memberName container raw = .ok name ↔ Name.identifier raw = name ∧ name ≠ "" := by
  rw [memberName]
  by_cases h : Name.identifier raw = ""
  · simp only [h, if_true]
    constructor
    · intro h; cases h
    · rintro ⟨rfl, h⟩; exact absurd rfl h
  · simp only [h, if_false, Except.ok.injEq]
    exact ⟨fun e => ⟨e, e ▸ h⟩, And.left⟩

end ApiStubs.Stub
