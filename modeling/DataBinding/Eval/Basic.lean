import DataBinding.Eval.Error

/-!
# Evaluations

An evaluation gives a value or halts, and notes on its trace the identities it gave out and the reads
it made of the host's data. The trace goes on when an evaluation halts.

Results:

* `Eval.run_note`: a read is noted at the end of the trace.
* `Eval.run_fail`: an error leaves the trace as it is.
-/

namespace DataBinding

/-- Why an evaluation ends without a value. -/
inductive Halt where
  | error (e : EvalError)
  /-- Calls of arrow functions are nested too deep. -/
  | tooDeep
  deriving DecidableEq, Repr

/-- The report of the halt. -/
def Halt.message : Halt → String
  | error e => e.message
  | tooDeep => "Calls are nested too deep"

/-- One read of the host's data. -/
structure Read where
  tag : String
  keys : List Value

/-- What an evaluation leaves behind. -/
structure Trace where
  /-- The next identity to give out -/
  next : Nat
  /-- The reads, in order -/
  reads : List Read

/-- An evaluation. -/
abbrev Eval := ExceptT Halt (StateM Trace)

/-- What the host answers. -/
abbrev Answer (α : Type) := ExceptT EvalError Fresh α

/-- The host: its data by tag and keys, and its functions by name. -/
structure Host where
  read : String → List Value → Answer Value
  call : String → Value → List Value → Answer Value

/-- How a function is called: with a receiver and arguments. -/
abbrev Caller := Function → Value → List Value → Eval Value

namespace Eval

variable {α : Type}

/-- Ends with an error. -/
def fail (e : EvalError) : Eval α := throw (.error e)

/-- Ends with a fault. -/
def fault (f : TypeFault) : Eval α := fail (.type f)

/-- The value, or the fault. -/
def ofExcept : Except TypeFault α → Eval α
  | .ok a => pure a
  | .error f => fault f

/-- Makes values. -/
def ofFresh (x : Fresh α) : Eval α :=
  modifyGet fun t => ((x.run t.next).1, { t with next := (x.run t.next).2 })

/-- The answer of the host. -/
def ofAnswer (x : Answer α) : Eval α := do
  match ← ofFresh x.run with
  | .ok a => return a
  | .error e => fail e

/-- Notes a read. -/
def note (r : Read) : Eval Unit := modify fun t => { t with reads := t.reads ++ [r] }

/-- Reads the host's data. The read is noted before the host answers. -/
def read (host : Host) (tag : String) (keys : List Value) : Eval Value := do
  note ⟨tag, keys⟩
  ofAnswer (host.read tag keys)

/-- The outcome, and the trace from a first identity on. -/
def start (x : Eval α) (next : Nat) : Except Halt α × Trace := (x.run).run ⟨next, []⟩

/-- A read is noted at the end of the trace. -/
theorem run_note (r : Read) (t : Trace) :
    ((note r).run).run t = (.ok (), { t with reads := t.reads ++ [r] }) := rfl

/-- An error leaves the trace as it is. -/
theorem run_fail (e : EvalError) (t : Trace) :
    ((fail e : Eval α).run).run t = (.error (.error e), t) := rfl

end Eval

end DataBinding
