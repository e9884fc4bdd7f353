import DataBinding.Link.Basic
import DataBinding.Proofs.Json.Written

/-!
# Reading a written configuration

The object of a configuration has each field under its name, once, and leaves out a container for names
after a dollar sign just if there is none. So the fields are found again, whatever the names hold, and
whether or not the configuration is valid.

Results:

* `Config.ofForm?_toJson`: the form of the object is read as the configuration.
* `Linker.read?_written`: the text of a configuration is read as it, without hooks.
-/

namespace DataBinding

namespace Config

open Json

theorem symbolOfForm?_symbolJson (s : SymbolSpec) : symbolOfForm? (symbolJson s).form = some s := by
  cases s
  rfl

theorem mapM_symbolOfForm? (symbols : List SymbolSpec) :
    (itemForms (symbols.map symbolJson)).mapM symbolOfForm? = some symbols := by
  induction symbols with
  | nil => rfl
  | cons s rest ih =>
    rw [List.map_cons, itemForms, List.mapM_cons, symbolOfForm?_symbolJson, ih]
    rfl

theorem areNumberFree_symbols (symbols : List SymbolSpec) :
    areNumberFree (symbols.map symbolJson) = true := by
  induction symbols with
  | nil => rw [List.map_nil, areNumberFree]
  | cons s rest ih =>
    rw [List.map_cons, areNumberFree, ih]
    simp [symbolJson, isNumberFree, membersNumberFree]

/-- There is no number in a configuration. -/
theorem isNumberFree_toJson (c : Config) : c.toJson.isNumberFree = true := by
  cases hd : c.dollarContainer <;>
    simp [toJson, hd, isNumberFree, membersNumberFree, areNumberFree_symbols]

/-- The form of the object is read as the configuration. -/
theorem ofForm?_toJson (c : Config) : ofForm? c.toJson.form = some c := by
  obtain ⟨symbols, call, container, dollar, allow⟩ := c
  have hfields : fieldForms? ["symbols", "call", "default", "dollar", "allowUnknownDollar"]
      (toJson ⟨symbols, call, container, dollar, allow⟩).form =
        some [some (.array (itemForms (symbols.map symbolJson))), some (.string (some call)),
          some (.string (some container)), dollar.map fun name => .string (some name),
          some (.bool allow)] := by
    cases dollar <;> rfl
  have hsymbols : symbolsField? (some (.array (itemForms (symbols.map symbolJson)))) = some symbols :=
    mapM_symbolOfForm? symbols
  have hdollar : optionField? (dollar.map fun name => .string (some name)) = some dollar := by
    cases dollar <;> rfl
  rw [ofForm?, hfields]
  simp [hsymbols, hdollar, stringField?, boolField?]

end Config

namespace Linker

/-- The text of the configuration of a linker, without spaces or indented, is read with the symbols in
    their order, the containers and the rule for names after a dollar sign, and without hooks. What is
    read passes the same check, has the same parameters and recognizes the same names. -/
theorem read?_written (l : Linker) {text : String}
    (h : text = l.config.toJson.compact ∨ text = l.config.toJson.pretty) : ∃ l',
      read? text = some l' ∧
      l'.config.symbols = l.config.symbols ∧
      l'.config.callContainer = l.config.callContainer ∧
      l'.config.container = l.config.container ∧
      l'.config.dollarContainer = l.config.dollarContainer ∧
      l'.config.allowUnknownDollar = l.config.allowUnknownDollar ∧
      l'.before = none ∧ l'.after = none ∧
      l'.config.validate = l.config.validate ∧
      l'.config.parameters = l.config.parameters ∧
      ∀ raw, l'.config.recognize? raw = l.config.recognize? raw := by
  have hform : Json.Form.read? text = some l.config.toJson.form := by
    rcases h with rfl | rfl
    · exact Json.Form.read?_compact l.config.isNumberFree_toJson
    · exact Json.Form.read?_pretty l.config.isNumberFree_toJson
  have hread : read? text = some (ofConfig l.config) := by
    rw [read?, Config.read?, hform, Option.bind_some, Config.ofForm?_toJson]
    rfl
  exact ⟨ofConfig l.config, hread, rfl, rfl, rfl, rfl, rfl, rfl, rfl, rfl, rfl, fun _ => rfl⟩

/-- A linker with a hook and a name that is refused, which is written with escapes. -/
theorem read?_written_escaped :
    let c : Config := ⟨[⟨"a\"\x01", true, false⟩], "a", "b", none, true⟩
    let text := "\x7b\"symbols\":[\x7b\"symbol\":\"a\\\"\\u0001\",\"direct\":true,\"level\":false\x7d]," ++
      "\"call\":\"a\",\"default\":\"b\",\"allowUnknownDollar\":true\x7d"
    c.toJson.compact = text ∧ ∃ l', read? text = some l' ∧ l'.config.symbols = c.symbols ∧
      l'.config.dollarContainer = none ∧ l'.before = none ∧
      l'.config.validate = .error (.invalidName "a\"\x01") := by
  intro c text
  have htext : c.toJson.compact = text := by decide +kernel
  let l : Linker := ⟨c, some fun _ _ => none, none⟩
  obtain ⟨l', hread, hsymbols, -, -, hdollar, -, hbefore, -, hvalid, -⟩ :=
    read?_written l (.inl htext.symm)
  exact ⟨htext, l', hread, hsymbols, hdollar, hbefore, hvalid⟩

end Linker

end DataBinding
