/-!
# Configurations

A configuration names the symbols under which an expression finds its data. In a source a symbol is
written with a dollar sign before its name. A direct symbol is handed to the compiled expression as a
parameter; every other one is read through the accessor.

Names without a symbol are read from containers: callees from one symbol, names after a dollar sign
from another if there is one, all others from a third.

Results:

* `Config.checkNames_ok_iff`: the names pass exactly when they are well formed and different.
-/

namespace DataBinding

/-- The name of the accessor, the first parameter of every compiled expression. -/
def accessorName : String := "$_get_by_any"

/-- A symbol. -/
structure SymbolSpec where
  name : String
  /-- The symbol is a parameter of compiled expressions. -/
  direct : Bool
  /-- Digits may follow the name: they select a level of the symbol. -/
  leveled : Bool
  deriving DecidableEq, Repr

/-- The symbols and the containers. -/
structure Config where
  symbols : List SymbolSpec
  /-- The symbol that holds names in the place of a callee. -/
  callContainer : String
  /-- The symbol that holds all other names. -/
  container : String
  /-- The symbol that holds names after a dollar sign. -/
  dollarContainer : Option String
  /-- Without a container of their own, names after a dollar sign count as other names. -/
  allowUnknownDollar : Bool
  deriving DecidableEq, Repr

/-- What a container is for. -/
inductive Role where
  | other
  | call
  | dollar
  deriving DecidableEq, Repr

/-- The word for the role in reports. -/
def Role.word : Role → String
  | other => "default"
  | call => "call"
  | dollar => "dollar"

/-- Why a configuration is refused. -/
inductive ConfigError where
  /-- A symbol is not called by a letter or `_` followed by letters, digits and `_`. -/
  | invalidName (name : String)
  /-- Two symbols have one name. -/
  | duplicateSymbol (name : String)
  /-- A container is no symbol. -/
  | unknownSymbol (role : Role) (name : String)
  /-- The text of the configuration does not have its form. -/
  | malformed
  deriving DecidableEq, Repr

/-- The report of the error. -/
def ConfigError.message : ConfigError → String
  | invalidName name => "Invalid symbol name '" ++ name ++ "'"
  | duplicateSymbol name => "Symbol '" ++ name ++ "' is configured more than once"
  | unknownSymbol role name =>
    "The " ++ role.word ++ " symbol '" ++ name ++ "' is not a configured symbol"
  | malformed => "Invalid configuration"

namespace Config

/-! ## Building -/

/-- A configuration without symbols. -/
def ofContainers (container callContainer : String) : Config :=
  ⟨[], callContainer, container, none, false⟩

/-- Adds a symbol after the others. -/
def add (c : Config) (spec : SymbolSpec) : Config := { c with symbols := c.symbols ++ [spec] }

/-- Adds a symbol that is neither direct nor leveled. -/
def addPlain (c : Config) (name : String) : Config := c.add ⟨name, false, false⟩

/-- Adds a leveled symbol. -/
def addLeveled (c : Config) (name : String) : Config := c.add ⟨name, false, true⟩

/-- Adds a direct symbol. -/
def addDirect (c : Config) (name : String) : Config := c.add ⟨name, true, false⟩

/-- The configuration for use without any other: names are read from the leveled symbol `scope`, and
    callees from the direct symbol `hooks`. -/
def standard : Config := ((ofContainers "scope" "hooks").addLeveled "scope").addDirect "hooks"

/-! ## Checking -/

/-- Is the character a letter of the basic alphabet or `_`? -/
def isNameStart (c : Char) : Bool := c.isAlpha || c == '_'

/-- Is the character a letter of the basic alphabet, a digit or `_`? -/
def isNamePart (c : Char) : Bool := c.isAlphanum || c == '_'

/-- Can a symbol be called so? -/
def isSymbolName (name : String) : Bool :=
  match name.toList with
  | [] => false
  | c :: rest => isNameStart c && rest.all isNamePart

/-- Refuses the first symbol whose name is not well formed or among `seen` or those before it. -/
def checkNames (seen : List String) : List SymbolSpec → Except ConfigError Unit
  | [] => .ok ()
  | s :: rest =>
    if !isSymbolName s.name then .error (.invalidName s.name)
    else if s.name ∈ seen then .error (.duplicateSymbol s.name)
    else checkNames (s.name :: seen) rest

/-- The names of the symbols. -/
def names (c : Config) : List String := c.symbols.map SymbolSpec.name

/-- Refuses a container that is no symbol. -/
def checkRole (c : Config) (role : Role) (name : String) : Except ConfigError Unit :=
  if name ∈ c.names then .ok () else .error (.unknownSymbol role name)

/-- Refuses a configuration with ill-formed or repeated names, or with a container that is no
    symbol. -/
def validate (c : Config) : Except ConfigError Unit := do
  checkNames [] c.symbols
  c.checkRole .other c.container
  c.checkRole .call c.callContainer
  match c.dollarContainer with
  | some name => c.checkRole .dollar name
  | none => return ()

/-- The names pass exactly when they are well formed and different. -/
theorem checkNames_ok_iff {seen : List String} {specs : List SymbolSpec} :
    checkNames seen specs = .ok () ↔
      (∀ s ∈ specs, isSymbolName s.name = true ∧ s.name ∉ seen) ∧
        (specs.map SymbolSpec.name).Nodup := by
  induction specs generalizing seen with
  | nil => simp [checkNames]
  | cons s rest ih =>
    simp only [checkNames]
    split
    · rename_i h
      simp only [reduceCtorEq, List.forall_mem_cons, false_iff]
      intro h'
      simp [h'.1.1.1] at h
    · split
      · rename_i h
        simp only [reduceCtorEq, List.forall_mem_cons, false_iff]
        exact fun h' => h'.1.1.2 h
      · rename_i h₁ h₂
        rw [ih]
        constructor
        · rintro ⟨h, nd⟩
          refine ⟨fun x hx => ?_, List.nodup_cons.2 ⟨fun hm => ?_, nd⟩⟩
          · rcases List.mem_cons.1 hx with rfl | hx
            · exact ⟨by simpa using h₁, h₂⟩
            · exact ⟨(h x hx).1, fun hs => (h x hx).2 (List.mem_cons_of_mem _ hs)⟩
          · obtain ⟨x, hx, he⟩ := List.mem_map.1 hm
            exact (h x hx).2 (he ▸ List.mem_cons_self)
        · rintro ⟨h, nd⟩
          have nd := List.nodup_cons.1 nd
          refine ⟨fun x hx => ⟨(h x (List.mem_cons_of_mem _ hx)).1, fun hm => ?_⟩, nd.2⟩
          rcases List.mem_cons.1 hm with he | hm
          · exact nd.1 (he ▸ List.mem_map_of_mem hx)
          · exact (h x (List.mem_cons_of_mem _ hx)).2 hm

/-! ## The calling convention -/

/-- The names of the direct symbols, in order. -/
def directNames (c : Config) : List String :=
  (c.symbols.filter SymbolSpec.direct).map SymbolSpec.name

/-- The parameters of compiled expressions: the accessor, then the direct symbols as written. -/
def parameters (c : Config) : List String := accessorName :: c.directNames.map ("$" ++ ·)

end Config

end DataBinding
