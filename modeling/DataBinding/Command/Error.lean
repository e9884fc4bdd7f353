import DataBinding.Eval.Basic
import DataBinding.Program.Basic

/-!
# Errors of the commands

Results:

* `CommandError.message_compile`: the report of a compile error names it so.
-/

namespace DataBinding

/-- Why a command fails. -/
inductive CommandError where
  | config (e : ConfigError)
  | compile (e : CompileError)
  | eval (h : Halt)
  | lex (e : LexError)
  /-- The data is no JSON text. -/
  | dataText
  /-- The data is no JSON object. -/
  | dataShape
  /-- A file cannot be read. -/
  | file

/-- The report of the error. -/
def CommandError.message : CommandError → String
  | config e => "Config error: " ++ e.message
  | compile e => "Compile error: " ++ e.message
  | eval h => "Evaluation error: " ++ h.message
  | lex e => "Lex error: " ++ e.message
  | dataText => "Invalid JSON"
  | dataShape => "Data must be a JSON object mapping type tags and direct symbols to values"
  | file => "IO error"

/-- The report of a compile error names it so. -/
theorem CommandError.message_compile (e : CompileError) :
    (compile e).message = "Compile error: " ++ e.message := rfl

end DataBinding
