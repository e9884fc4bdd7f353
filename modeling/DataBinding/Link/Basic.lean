import DataBinding.Config.Symbols
import DataBinding.Config.Json
import DataBinding.Expr.Basic
import DataBinding.Text.Visible

/-!
# Linking expressions to their data

Linking turns a parsed expression into one that says for every name where its value comes from, and
lists the paths of data that it depends on. A `Linker` is a configuration with hooks that may take
over before or after the work.

Results:

* `isBuiltin_accessorName`: the accessor is no name to be read from a container.
-/

namespace DataBinding

/-- Names of built-in values, which are never read from a container. -/
def builtins : List String := [
  "undefined", "NaN", "Infinity", "isFinite", "isNaN", "parseFloat", "parseInt", "decodeURI",
  "decodeURIComponent", "encodeURI", "encodeURIComponent", "Object", "Boolean", "Symbol", "Error",
  "Promise", "Array", "String", "RegExp", "Number", "JSON", "Math", accessorName]

/-- Is the name built in? -/
def isBuiltin (name : String) : Bool := builtins.contains name

/-- The accessor is no name to be read from a container. -/
theorem isBuiltin_accessorName : isBuiltin accessorName = true := by decide

/-- Why an expression cannot be linked. -/
inductive LinkError where
  /-- The name starts with a dollar sign, stands for no symbol, and no container holds it. -/
  | unknownDollar (name : String)
  deriving DecidableEq, Repr

/-- The report of the error. -/
def LinkError.message : LinkError → String
  | unknownDollar name => "Unknown symbol '" ++ name ++ "': no dollar symbol is configured"

/-- A linked expression and the paths it depends on. -/
structure Linked where
  tree : Expr
  watchers : List String

/-- A hook may answer for the linker. -/
abbrev Hook := Config → Expr → Option Linked

/-- A configuration with its hooks. -/
structure Linker where
  config : Config
  /-- Asked with the parsed expression. -/
  before : Option Hook
  /-- Asked with the linked expression. -/
  after : Option Hook

namespace Linker

/-- A configuration without hooks. -/
def ofConfig (config : Config) : Linker := ⟨config, none, none⟩

/-- The linker of a text. No hook is written in a text. -/
def read? (text : String) : Option Linker := (Config.read? text).map ofConfig

/-- A truth value for diagnosis. -/
def shownBool (b : Bool) : String := if b then "true" else "false"

/-- Named parts of a value for diagnosis. -/
def shownRecord (name : String) (fields : List (String × String)) : String :=
  name ++ " \x7b " ++ ", ".intercalate (fields.map fun (f, v) => f ++ ": " ++ v) ++ " \x7d"

/-- A symbol for diagnosis. -/
def shownSymbol (s : SymbolSpec) : String :=
  shownRecord "SymbolConfig"
    [("name", Text.visible s.name), ("direct", shownBool s.direct), ("level", shownBool s.leveled)]

/-- A name that may be missing, for diagnosis. -/
def shownOption : Option String → String
  | some s => "Some(" ++ Text.visible s ++ ")"
  | none => "None"

/-- The linker for diagnosis: the configuration, and which hooks there are. -/
def shown (l : Linker) : String :=
  shownRecord "CompileConfig" [
    ("symbols", "[" ++ ", ".intercalate (l.config.symbols.map shownSymbol) ++ "]"),
    ("call", Text.visible l.config.callContainer),
    ("default", Text.visible l.config.container),
    ("dollar", shownOption l.config.dollarContainer),
    ("allow_unknown_dollar", shownBool l.config.allowUnknownDollar),
    ("on_before_process", shownBool l.before.isSome),
    ("on_after_process", shownBool l.after.isSome)]

end Linker

end DataBinding
