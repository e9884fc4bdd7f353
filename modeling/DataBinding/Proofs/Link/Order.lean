import DataBinding.Link.Linked
import DataBinding.Proofs.Link.Reads
import DataBinding.Proofs.Link.Resolve

/-!
# Symbols in another order

Symbols of different names are found by their names, whatever their order. Linking looks at the symbols
only to recognize a name, so it comes to the same tree or to the same fault in any order of them.

Results:

* `Config.Reordered.recognize?_eq`: the same names are recognized.
* `Config.Reordered.validate`: a configuration still passes.
* `Config.Reordered.linkTree_eq`: the linked tree stays the same.
-/

namespace DataBinding.Config

/-- `c'` is `c` with its symbols in another order. -/
structure Reordered (c c' : Config) : Prop where
  symbols : c'.symbols.Perm c.symbols
  callContainer : c'.callContainer = c.callContainer
  container : c'.container = c.container
  dollarContainer : c'.dollarContainer = c.dollarContainer
  allowUnknownDollar : c'.allowUnknownDollar = c.allowUnknownDollar

variable {c c' : Config}

/-! ## Recognizing -/

namespace Reordered

theorem names_perm (h : c.Reordered c') : c'.names.Perm c.names := h.symbols.map _

theorem directNames_perm (h : c.Reordered c') : c'.directNames.Perm c.directNames :=
  (h.symbols.filter _).map _

theorem isContainer_iff (h : c.Reordered c') {name : String} :
    c'.IsContainer name ↔ c.IsContainer name := by
  rw [IsContainer, IsContainer, h.container, h.callContainer, h.dollarContainer]

/-- A configuration passes in any order of its symbols. -/
theorem validate (h : c.Reordered c') (hv : c.validate = .ok ()) : c'.validate = .ok () := by
  obtain ⟨formed, nodup, containers⟩ := validate_eq_ok_iff.1 hv
  refine validate_eq_ok_iff.2 ⟨fun s hs => formed s (h.symbols.mem_iff.1 hs), ?_, fun name hn => ?_⟩
  · exact h.names_perm.nodup_iff.2 nodup
  · exact h.names_perm.mem_iff.2 (containers name (h.isContainer_iff.1 hn))

/-- The symbol of a name is found in any order. -/
theorem find?_eq (h : c.Reordered c') (hn : c.names.Nodup) (name : String) :
    c'.find? name = c.find? name := by
  apply Option.ext
  intro s
  rw [find?_eq_some_iff (h.names_perm.nodup_iff.2 hn), find?_eq_some_iff hn, h.symbols.mem_iff]

theorem recognizeLevel?_eq (h : c.Reordered c') (hn : c.names.Nodup) (cs : List Char) :
    c'.recognizeLevel? cs = c.recognizeLevel? cs := by
  simp only [recognizeLevel?, recognizeLevelAt?, h.find?_eq hn]

/-- Competing leveled names are told apart by their lengths, not by their order. -/
theorem recognize?_eq (h : c.Reordered c') (hn : c.names.Nodup) (raw : String) :
    c'.recognize? raw = c.recognize? raw := by
  simp only [recognize?, h.find?_eq hn, h.recognizeLevel?_eq hn]

end Reordered

/-! ## Names -/

/-- Two configurations see the same in every name. -/
structure SeesAlike (c c' : Config) : Prop where
  recognize? : ∀ raw, c'.recognize? raw = c.recognize? raw
  callContainer : c'.callContainer = c.callContainer
  lift : ∀ name, c'.lift name = c.lift name
  isUnknownDollar : ∀ name, c'.isUnknownDollar name = c.isUnknownDollar name

theorem Reordered.seesAlike (h : c.Reordered c') (hn : c.names.Nodup) : c.SeesAlike c' where
  recognize? := h.recognize?_eq hn
  callContainer := h.callContainer
  lift name := by rw [lift, lift, h.dollarContainer, h.container]
  isUnknownDollar name := by
    rw [isUnknownDollar, isUnknownDollar, h.allowUnknownDollar, h.dollarContainer]

namespace SeesAlike

theorem isRecognized (h : c.SeesAlike c') (raw : String) :
    c'.isRecognized raw = c.isRecognized raw := by
  rw [Config.isRecognized, Config.isRecognized, h.recognize?]

theorem resolveName (h : c.SeesAlike c') (scope : List String) (callee : Bool) (s : Symbol) :
    c'.resolveName scope callee s = c.resolveName scope callee s := by
  simp only [Config.resolveName, h.isRecognized, h.isUnknownDollar, h.callContainer, h.lift]

theorem wrapName (h : c.SeesAlike c') (e : Expr) : c'.wrapName e = c.wrapName e := by
  cases e with
  | symbol s => simp only [Config.wrapName, h.isRecognized, h.lift]
  | _ => rfl

mutual

theorem resolve (h : c.SeesAlike c') (scope : List String) (callee : Bool) :
    (e : Expr) → c'.resolve scope callee e = c.resolve scope callee e
  | .symbol s => h.resolveName scope callee s
  | .literal _ => rfl
  | .conditional condition yes alternative => by
    rw [Config.resolve, Config.resolve, h.resolve scope false condition, h.resolve scope false yes,
      h.resolve scope false alternative]
  | .unary op operand => by rw [Config.resolve, Config.resolve, h.resolve scope false operand]
  | .binary op left right => by
    rw [Config.resolve, Config.resolve, h.resolve scope false left, h.resolve scope false right]
  | .member target name => by rw [Config.resolve, Config.resolve, h.resolve scope false target]
  | .index target key => by
    rw [Config.resolve, Config.resolve, h.resolve scope false target, h.resolve scope false key]
  | .call f args => by
    rw [Config.resolve, Config.resolve, h.resolve scope true f, h.resolveList scope args]
  | .array elements => by rw [Config.resolve, Config.resolve, h.resolveList scope elements]
  | .object entries => by rw [Config.resolve, Config.resolve, h.resolveEntries scope entries]
  | .parens inner => by rw [Config.resolve, Config.resolve, h.resolve scope false inner]
  | .pipeline input stages => by
    rw [Config.resolve, Config.resolve, h.resolve scope false input, h.resolveStages scope stages]
  | .arrow params body => by
    rw [Config.resolve, Config.resolve, h.resolve (extendScope scope params) false body]

theorem resolveList (h : c.SeesAlike c') (scope : List String) :
    (es : List Expr) → c'.resolveList scope es = c.resolveList scope es
  | [] => rfl
  | e :: rest => by
    rw [Config.resolveList, Config.resolveList, h.resolve scope false e, h.resolveList scope rest]

theorem resolveEntries (h : c.SeesAlike c') (scope : List String) :
    (entries : List (ObjectKey × Expr)) → c'.resolveEntries scope entries = c.resolveEntries scope entries
  | [] => rfl
  | (key, e) :: rest => by
    rw [Config.resolveEntries, Config.resolveEntries, h.resolve scope false e,
      h.resolveEntries scope rest]

theorem resolveStages (h : c.SeesAlike c') (scope : List String) :
    (stages : List (Symbol × List Expr)) → c'.resolveStages scope stages = c.resolveStages scope stages
  | [] => rfl
  | (f, args) :: rest => by
    rw [Config.resolveStages, Config.resolveStages, h.resolveList scope args,
      h.resolveStages scope rest]

end

/-! ## Reads -/

theorem isReadSymbol (h : c.SeesAlike c') (scope : List String) (s : Symbol) :
    c'.isReadSymbol scope s = c.isReadSymbol scope s := by
  rw [Config.isReadSymbol, Config.isReadSymbol, h.recognize?]

mutual

/-- Reads are written alike, also in the place of a callee. -/
theorem reading (h : c.SeesAlike c') (scope : List String) : (e : Expr) →
    c'.reading scope e = c.reading scope e ∧ c'.callee scope e = c.callee scope e
  | .symbol s => by
    have he : c'.reading scope (.symbol s) = c.reading scope (.symbol s) := by
      rw [Config.reading, Config.reading, h.isReadSymbol]
    exact ⟨he, congrArg Reading.expr he⟩
  | .literal _ => ⟨rfl, rfl⟩
  | .conditional condition yes alternative => by
    have he : c'.reading scope (.conditional condition yes alternative) =
        c.reading scope (.conditional condition yes alternative) := by
      rw [Config.reading, Config.reading, (h.reading scope condition).1, (h.reading scope yes).1,
        (h.reading scope alternative).1]
    exact ⟨he, congrArg Reading.expr he⟩
  | .unary op operand => by
    have he : c'.reading scope (.unary op operand) = c.reading scope (.unary op operand) := by
      rw [Config.reading, Config.reading, (h.reading scope operand).1]
    exact ⟨he, congrArg Reading.expr he⟩
  | .binary op left right => by
    have he : c'.reading scope (.binary op left right) = c.reading scope (.binary op left right) := by
      rw [Config.reading, Config.reading, (h.reading scope left).1, (h.reading scope right).1]
    exact ⟨he, congrArg Reading.expr he⟩
  | .member target name => by
    rw [Config.reading, Config.reading, callee, callee, (h.reading scope target).1]
    exact ⟨rfl, rfl⟩
  | .index target key => by
    rw [Config.reading, Config.reading, callee, callee, (h.reading scope target).1,
      (h.reading scope key).1]
    exact ⟨rfl, rfl⟩
  | .call f args => by
    rw [callee_call, callee_call, reading_call, reading_call, (h.reading scope f).2,
      h.readingList scope args]
    exact ⟨rfl, rfl⟩
  | .array elements => by
    have he : c'.reading scope (.array elements) = c.reading scope (.array elements) := by
      rw [Config.reading, Config.reading, h.readingList scope elements]
    exact ⟨he, congrArg Reading.expr he⟩
  | .object entries => by
    have he : c'.reading scope (.object entries) = c.reading scope (.object entries) := by
      rw [Config.reading, Config.reading, h.readingEntries scope entries]
    exact ⟨he, congrArg Reading.expr he⟩
  | .parens inner => by
    have he : c'.reading scope (.parens inner) = c.reading scope (.parens inner) := by
      rw [Config.reading, Config.reading, (h.reading scope inner).1]
    exact ⟨he, congrArg Reading.expr he⟩
  | .pipeline input stages => by
    have he : c'.reading scope (.pipeline input stages) = c.reading scope (.pipeline input stages) := by
      rw [Config.reading, Config.reading, (h.reading scope input).1, h.readingStages scope stages]
    exact ⟨he, congrArg Reading.expr he⟩
  | .arrow params body => by
    have he : c'.reading scope (.arrow params body) = c.reading scope (.arrow params body) := by
      rw [Config.reading, Config.reading, (h.reading (extendScope scope params) body).1]
    exact ⟨he, congrArg Reading.expr he⟩

theorem readingList (h : c.SeesAlike c') (scope : List String) :
    (es : List Expr) → c'.readingList scope es = c.readingList scope es
  | [] => rfl
  | e :: rest => by
    rw [Config.readingList, Config.readingList, (h.reading scope e).1, h.readingList scope rest]

theorem readingEntries (h : c.SeesAlike c') (scope : List String) :
    (entries : List (ObjectKey × Expr)) → c'.readingEntries scope entries = c.readingEntries scope entries
  | [] => rfl
  | (key, e) :: rest => by
    rw [Config.readingEntries, Config.readingEntries, (h.reading scope e).1,
      h.readingEntries scope rest]

theorem readingStages (h : c.SeesAlike c') (scope : List String) :
    (stages : List (Symbol × List Expr)) → c'.readingStages scope stages = c.readingStages scope stages
  | [] => rfl
  | (f, args) :: rest => by
    rw [Config.readingStages, Config.readingStages, h.readingList scope args,
      h.readingStages scope rest]

end

/-- Linking comes to the same tree or to the same fault. -/
theorem linkTree (h : c.SeesAlike c') (e : Expr) : c'.linkTree e = c.linkTree e := by
  have reads : c'.withReads = c.withReads := by
    funext e
    rw [withReads, withReads, (h.reading [] e).1]
  rw [Config.linkTree, Config.linkTree, resolved, resolved, h.wrapName, h.resolve, reads]

end SeesAlike

/-- The linked tree does not depend on the order of the symbols. -/
theorem Reordered.linkTree_eq (h : c.Reordered c') (hn : c.names.Nodup) (e : Expr) :
    c'.linkTree e = c.linkTree e := (h.seesAlike hn).linkTree e

end DataBinding.Config
