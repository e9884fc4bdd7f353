import DataBinding.Command.Data
import DataBinding.Command.Error
import DataBinding.Json.Form
import DataBinding.Program.Run

/-!
# The commands

Compiling a source, evaluating it on data, and listing its tokens. A source is an expression or a
template.

Results:

* `Command.loadLinker_none`: without a text the standard configuration is used.
-/

namespace DataBinding.Command

/-- The linker of the text of a configuration, which must be valid. Without a text the standard
    configuration is used. -/
def loadLinker : Option String → Except CommandError Linker
  | none => return .ofConfig .standard
  | some text =>
    match Linker.read? text with
    | none => throw (.config .malformed)
    | some l => do
      l.config.validate.mapError .config
      return l

/-- Without a text the standard configuration is used. -/
theorem loadLinker_none : loadLinker none = .ok (.ofConfig .standard) := rfl

/-- The program of a source. -/
def program (l : Linker) (isTemplate : Bool) (source : String) : Except CommandError Program :=
  (if isTemplate then l.compileTemplate source else l.compile source).mapError .compile

/-- What is shown of a program. -/
def summary (p : Program) : Json :=
  .object [("code", .string p.code), ("parameters", .array (p.parameters.map .string)),
    ("watchers", .array (p.watchers.map .string))]

/-- Compiles a source. -/
def compile (l : Linker) (isTemplate : Bool) (source : String) : Except CommandError Json := do
  let p ← program l isTemplate source
  return summary p

/-- The members of the text of a data object. No text stands for no members. -/
def readData : Option String → Except CommandError (Dict Json)
  | none => return []
  | some text =>
    match Json.read? text with
    | none => throw .dataText
    | some (.object members) => return members
    | some _ => throw .dataShape

/-- Runs a program on the members of a data object. -/
def runOn (c : Config) (p : Program) (members : Dict Json) : Except Halt Value × Trace :=
  Eval.start (do
    let data ← Eval.ofFresh (Data.ofMembers c members)
    p.call data.documents.host data.direct) 0

/-- Evaluates a source on the text of a data object. -/
def evaluate (l : Linker) (isTemplate : Bool) (source : String) (data : Option String) :
    Except CommandError Json := do
  let p ← program l isTemplate source
  let members ← readData data
  let v ← (runOn l.config p members).1.mapError .eval
  return v.toJson

/-! ## Tokens -/

/-- The text with blanks before it, up to a width. -/
def padLeft (width : Nat) (s : String) : String :=
  String.ofList (List.replicate (width - s.length) ' ') ++ s

/-- The text with blanks behind it, up to a width. -/
def padRight (width : Nat) (s : String) : String :=
  s ++ String.ofList (List.replicate (width - s.length) ' ')

/-- The line of a token: its position, its kind and its text. -/
def tokenLine (t : Token) : String :=
  padLeft 4 (toString t.position) ++ "  " ++ padRight 24 t.kind.describe ++ " " ++ t.raw

/-- The lines of the tokens of a source. The end of the source has no line. -/
def tokenLines (source : String) : Except CommandError (List String) := do
  let tokens ← (tokenize source).mapError .lex
  return (tokens.filter fun t => !t.kind.isEof).map tokenLine

end DataBinding.Command
