import ApiStubs.Fragment.Event

/-!
# What can go wrong

* `Violation`: a name or method for which there is no stub; it ends the generation;
* `Diagnostic`: something that is noticed and worked around.
-/

namespace ApiStubs

/-- Why no stub can be written. Members are reported with the function name of their container. -/
inductive Violation where
  /-- A method without any signature. -/
  | missingSignatures (container method : String)
  /-- A name that leaves no identifier. -/
  | emptyIdentifier (container raw : String)
  deriving DecidableEq, Repr

/-- The wording of a violation. -/
def Violation.message : Violation → String
  | .missingSignatures container method =>
    "Method `" ++ method ++ "` in `" ++ container ++ "` has no signatures"
  | .emptyIdentifier container raw =>
    "`" ++ raw ++ "` in `" ++ container ++ "` does not yield a valid identifier"

/-- What was noticed on the way. -/
inductive Diagnostic where
  /-- A description that cannot be read counts as empty. -/
  | unparseableDescription (context : String) (fault : Fragment.Fault)
  /-- A factory method makes objects of a class that its container does not declare. -/
  | missingFactoryTarget (container method className : String)
  deriving DecidableEq, Repr

/-- The wording of a diagnostic. -/
def Diagnostic.message : Diagnostic → String
  | .unparseableDescription context fault =>
    "description of `" ++ context ++ "` dropped: " ++ fault.message
  | .missingFactoryTarget container method className =>
    "`" ++ container ++ "." ++ method ++ "` constructs `" ++ className ++ "`, which `" ++
      container ++ "` does not declare"

end ApiStubs
