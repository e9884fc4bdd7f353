import DataBinding.Config.Basic
import DataBinding.Json.Form

/-!
# Configurations as JSON

A configuration is an object with the members `symbols`, `call`, `default`, `dollar` and
`allowUnknownDollar`; a symbol is an object with the members `symbol`, `direct` and `level`. The last
two members of each may be missing. Members with other names are skipped, whatever they hold, and no
known member may stand twice. Either object may also be written as the array of its members.

Results:

* `Config.fieldForms?_length`: the fields found are as many as the names asked for.
-/

namespace DataBinding

namespace Config

open Json

/-! ## Writing -/

/-- The object of a symbol. -/
def symbolJson (s : SymbolSpec) : Json :=
  .object [("symbol", .string s.name), ("direct", .bool s.direct), ("level", .bool s.leveled)]

/-- The object of a configuration. A container for names after a dollar sign is written only if there
    is one. -/
def toJson (c : Config) : Json :=
  .object ([("symbols", .array (c.symbols.map symbolJson)), ("call", .string c.callContainer),
      ("default", .string c.container)] ++
    (c.dollarContainer.map fun name => ("dollar", Json.string name)).toList ++
    [("allowUnknownDollar", .bool c.allowUnknownDollar)])

/-! ## Reading -/

/-- The member of a name, which must not stand twice. -/
def memberForm? (members : List (String × Form)) (name : String) : Option (Option Form) :=
  match members.filter fun m => m.1 == name with
  | [] => some none
  | [m] => some (some m.2)
  | _ => none

/-- The fields of an object by their names, or of an array by their order. -/
def fieldForms? (names : List String) : Form → Option (List (Option Form))
  | .object members => do
    let members ← members.mapM fun (name, f) => name.map fun name => (name, f)
    names.mapM (memberForm? members)
  | .array items =>
    if names.length < items.length then none
    else some (items.map some ++ List.replicate (names.length - items.length) none)
  | _ => none

/-- A field that must hold a string. -/
def stringField? : Option Form → Option String
  | some (.string s) => s
  | _ => none

/-- A field that may be missing or hold a truth value. -/
def boolField? : Option Form → Option Bool
  | none => some false
  | some (.bool b) => some b
  | _ => none

/-- A field that may be missing, null or hold a string. -/
def optionField? : Option Form → Option (Option String)
  | none | some .null => some none
  | some (.string s) => s.map some
  | _ => none

/-- The symbol of a form. -/
def symbolOfForm? (f : Form) : Option SymbolSpec := do
  match ← fieldForms? ["symbol", "direct", "level"] f with
  | [name, direct, leveled] =>
    let name ← stringField? name
    let direct ← boolField? direct
    let leveled ← boolField? leveled
    return ⟨name, direct, leveled⟩
  | _ => none

/-- A field that must hold symbols. -/
def symbolsField? : Option Form → Option (List SymbolSpec)
  | some (.array items) => items.mapM symbolOfForm?
  | _ => none

/-- The configuration of a form. -/
def ofForm? (f : Form) : Option Config := do
  match ← fieldForms? ["symbols", "call", "default", "dollar", "allowUnknownDollar"] f with
  | [symbols, call, container, dollar, allow] =>
    let symbols ← symbolsField? symbols
    let call ← stringField? call
    let container ← stringField? container
    let dollar ← optionField? dollar
    let allow ← boolField? allow
    return ⟨symbols, call, container, dollar, allow⟩
  | _ => none

/-- The configuration of a text. -/
def read? (text : String) : Option Config := (Form.read? text).bind ofForm?

theorem length_of_mapM {α β : Type} {f : α → Option β} {xs : List α} {ys : List β}
    (h : xs.mapM f = some ys) : ys.length = xs.length := by
  induction xs generalizing ys with
  | nil => simp_all
  | cons x xs ih =>
    simp only [List.mapM_cons, Option.bind_eq_bind, Option.bind_eq_some_iff] at h
    obtain ⟨y, -, zs, hz, h⟩ := h
    obtain rfl := Option.some.inj h
    simp [ih hz]

/-- The fields found are as many as the names asked for. -/
theorem fieldForms?_length {names : List String} {f : Form} {fields : List (Option Form)}
    (h : fieldForms? names f = some fields) : fields.length = names.length := by
  unfold fieldForms? at h
  split at h
  · simp only [Option.bind_eq_bind, Option.bind_eq_some_iff] at h
    obtain ⟨ms, -, h⟩ := h
    exact length_of_mapM h
  · split at h
    · simp at h
    · obtain rfl := Option.some.inj h
      simp only [List.length_append, List.length_map, List.length_replicate]
      omega
  · simp at h

end Config

end DataBinding
