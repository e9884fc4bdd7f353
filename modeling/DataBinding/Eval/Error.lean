import DataBinding.Value.Member

/-!
# Errors of evaluation

Results:

* `EvalError.message_type`: the report of a fault names it a type error.
-/

namespace DataBinding

/-- Why an evaluation fails. -/
inductive EvalError where
  /-- An operation does not apply to a value. -/
  | type (fault : TypeFault)
  /-- A name has no value. -/
  | notDefined (name : String)
  /-- A pipeline is evaluated that was not written as calls. -/
  | pipeline
  /-- A built-in name stands for nothing here. -/
  | unavailable (name : String)
  | invalidRegex (pattern : String)
  /-- A program is called with a wrong number of values. -/
  | arity (expected found : Nat)
  /-- The accessor or a function of the host reports a failure. -/
  | accessor (report : String)
  deriving DecidableEq, Repr

/-- The report of the error. -/
def EvalError.message : EvalError → String
  | type fault => "Type error: " ++ fault.message
  | notDefined name => "Reference error: " ++ name ++ " is not defined"
  | pipeline => "Unsupported: filter pipelines must be transformed before evaluation"
  | unavailable name => "Unsupported: " ++ name ++ " is not available"
  | invalidRegex pattern => "Invalid regular expression /" ++ pattern ++ "/"
  | arity expected found =>
    "Expected " ++ toString expected ++ " direct values, got " ++ toString found
  | accessor report => "Accessor error: " ++ report

/-- The report of a fault names it a type error. -/
theorem EvalError.message_type (f : TypeFault) : (type f).message = "Type error: " ++ f.message := rfl

end DataBinding
