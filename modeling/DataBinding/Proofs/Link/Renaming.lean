import DataBinding.Link.Linked
import DataBinding.Proofs.Link.Names

/-!
# Renaming a parameter

A `Renaming` gives a parameter of one arrow function a new name, together with the occurrences that it
binds. The arrow functions of an expression are counted in the order of the text; a `Spot` says where
the one that is meant stands, seen from the part of the expression that is being renamed.

Results:

* `Spot.pass_pass`: the spot seen from behind several parts.
* `Renaming.Corresponds.enter`: the names in sight before and after the renaming, in the body of an
  arrow function.
* `Expr.watchers_rename`: renaming leaves the watchers alone.
-/

namespace DataBinding

namespace Expr

/-- Is the expression an arrow function? -/
def isArrow : Expr → Bool
  | arrow .. => true
  | _ => false

/-- The number of arrow functions in an expression. -/
def arrows (e : Expr) : Nat := e.walk.countP isArrow

/-- The number of arrow functions in a list of expressions. -/
def arrowsIn : List Expr → Nat
  | [] => 0
  | e :: es => e.arrows + arrowsIn es

@[simp] theorem arrowsIn_nil : arrowsIn [] = 0 := rfl

@[simp] theorem arrowsIn_cons (e : Expr) (es : List Expr) :
    arrowsIn (e :: es) = e.arrows + arrowsIn es := rfl

@[simp] theorem arrowsIn_append (es fs : List Expr) :
    arrowsIn (es ++ fs) = arrowsIn es + arrowsIn fs := by
  induction es with
  | nil => simp
  | cons e es ih => simp [ih, Nat.add_assoc]

theorem countP_flatMap_walk (es : List Expr) : (es.flatMap walk).countP isArrow = arrowsIn es := by
  induction es with
  | nil => rfl
  | cons e es ih =>
    rw [List.flatMap_cons, List.countP_append, ih]
    rfl

theorem arrows_eq (e : Expr) : e.arrows = (if e.isArrow then 1 else 0) + arrowsIn e.children := by
  rw [arrows, walk_eq, List.countP_cons, countP_flatMap_walk, Nat.add_comm]

section

variable {e f a b d : Expr} {es : List Expr} {entries : List (ObjectKey × Expr)} {s : Symbol}
  {l : Literal} {name : String} {params : List Symbol} {stages : List (Symbol × List Expr)}

@[simp] theorem arrows_conditional : (conditional a b d).arrows = a.arrows + (b.arrows + d.arrows) := by
  simp [arrows_eq (conditional ..), isArrow, children]

@[simp] theorem arrows_unary {op : UnaryOp} : (unary op e).arrows = e.arrows := by
  simp [arrows_eq (unary ..), isArrow, children]

@[simp] theorem arrows_binary {op : BinaryOp} : (binary op a b).arrows = a.arrows + b.arrows := by
  simp [arrows_eq (binary ..), isArrow, children]

@[simp] theorem arrows_member : (member e name).arrows = e.arrows := by
  simp [arrows_eq (member ..), isArrow, children]

@[simp] theorem arrows_index : (index a b).arrows = a.arrows + b.arrows := by
  simp [arrows_eq (index ..), isArrow, children]

@[simp] theorem arrows_literal : (literal l).arrows = 0 := by
  simp [arrows_eq (literal _), isArrow, children]

@[simp] theorem arrows_symbol : (symbol s).arrows = 0 := by
  simp [arrows_eq (symbol _), isArrow, children]

@[simp] theorem arrows_call : (call f es).arrows = f.arrows + arrowsIn es := by
  simp [arrows_eq (call ..), isArrow, children]

@[simp] theorem arrows_array : (array es).arrows = arrowsIn es := by
  simp [arrows_eq (array _), isArrow, children]

@[simp] theorem arrows_object : (object entries).arrows = arrowsIn (entries.map Prod.snd) := by
  simp [arrows_eq (object _), isArrow, children]

@[simp] theorem arrows_parens : (parens e).arrows = e.arrows := by
  simp [arrows_eq (parens _), isArrow, children]

@[simp] theorem arrows_arrow : (arrow params e).arrows = 1 + e.arrows := by
  simp [arrows_eq (arrow ..), isArrow, children]

end

end Expr

/-! ## Renamings -/

/-- A parameter of an arrow function gets a new name. -/
structure Renaming where
  /-- Its place among the parameters of the arrow function -/
  index : Nat
  old : String
  new : String

/-- Where the arrow function stands whose parameter is renamed. -/
inductive Spot where
  /-- So many other arrow functions come first. -/
  | ahead (count : Nat)
  /-- Its parameter is in sight. -/
  | around
  /-- It comes before, or its parameter is hidden. -/
  | gone

/-- The spot seen from behind some arrow functions. -/
def Spot.pass : Spot → Nat → Spot
  | ahead k, n => if k < n then gone else ahead (k - n)
  | spot, _ => spot

@[simp] theorem Spot.pass_zero (spot : Spot) : spot.pass 0 = spot := by
  cases spot <;> rfl

/-- The spot seen from behind several parts. -/
@[simp] theorem Spot.pass_pass (spot : Spot) (m n : Nat) :
    (spot.pass m).pass n = spot.pass (m + n) := by
  cases spot with
  | ahead k =>
    by_cases hm : k < m
    · have hmn : k < m + n := by omega
      simp [pass, hm, hmn]
    · by_cases hn : k - m < n
      · have hmn : k < m + n := by omega
        simp [pass, hm, hn, hmn]
      · have hmn : ¬ k < m + n := by omega
        simp only [pass, hm, hn, hmn, if_false]
        rw [Nat.sub_sub]
  | around => rfl
  | gone => rfl

namespace Renaming

/-- Does the renamed parameter stand at its place? -/
def IsParam (r : Renaming) (params : List Symbol) : Prop :=
  params[r.index]?.map Symbol.name = some r.old

instance (r : Renaming) (params : List Symbol) : Decidable (r.IsParam params) :=
  inferInstanceAs (Decidable (_ = _))

/-- Does the renamed parameter bind its name? Of several parameters of one name the last one does. -/
def Binds (r : Renaming) (params : List Symbol) : Prop :=
  r.IsParam params ∧ r.old ∉ (params.drop (r.index + 1)).map Symbol.name

instance (r : Renaming) (params : List Symbol) : Decidable (r.Binds params) :=
  inferInstanceAs (Decidable (_ ∧ _))

/-- The parameters of an arrow function after the renaming. -/
def params (r : Renaming) : Spot → List Symbol → List Symbol
  | .ahead 0, params => if r.IsParam params then params.set r.index (.ofName r.new) else params
  | _, params => params

/-- The spot seen from the body of an arrow function. -/
def enter (r : Renaming) : Spot → List Symbol → Spot
  | .ahead 0, params => if r.Binds params then .around else .gone
  | .ahead (k + 1), _ => .ahead k
  | .around, params => if r.old ∈ params.map Symbol.name then .gone else .around
  | .gone, _ => .gone

/-- A name that is read, after the renaming. -/
def symbol (r : Renaming) : Spot → Symbol → Symbol
  | .around, s => if s.name = r.old then .ofName r.new else s
  | _, s => s

/-- A name that is not the old one stays. -/
theorem symbol_of_ne (r : Renaming) (spot : Spot) {s : Symbol} (h : s.name ≠ r.old) :
    r.symbol spot s = s := by
  cases spot with
  | around => exact if_neg h
  | _ => rfl

end Renaming

namespace Expr

mutual

/-- The expression after the renaming. -/
def rename (r : Renaming) (spot : Spot) : Expr → Expr
  | conditional condition yes alternative =>
    conditional (rename r spot condition) (rename r (spot.pass condition.arrows) yes)
      (rename r (spot.pass (condition.arrows + yes.arrows)) alternative)
  | unary op operand => unary op (rename r spot operand)
  | binary op left right =>
    binary op (rename r spot left) (rename r (spot.pass left.arrows) right)
  | member target name => member (rename r spot target) name
  | index target key => index (rename r spot target) (rename r (spot.pass target.arrows) key)
  | literal l => literal l
  | symbol s => symbol (r.symbol spot s)
  | call callee args =>
    call (rename r spot callee) (renameList r (spot.pass callee.arrows) args)
  | array elements => array (renameList r spot elements)
  | object entries => object (renameEntries r spot entries)
  | parens inner => parens (rename r spot inner)
  | pipeline input stages =>
    pipeline (rename r spot input) (renameStages r (spot.pass input.arrows) stages)
  | arrow params body => arrow (r.params spot params) (rename r (r.enter spot params) body)

/-- The expressions of a list after the renaming. -/
def renameList (r : Renaming) (spot : Spot) : List Expr → List Expr
  | [] => []
  | e :: rest => rename r spot e :: renameList r (spot.pass e.arrows) rest

/-- The entries of an object literal after the renaming. -/
def renameEntries (r : Renaming) (spot : Spot) :
    List (ObjectKey × Expr) → List (ObjectKey × Expr)
  | [] => []
  | (key, e) :: rest => (key, rename r spot e) :: renameEntries r (spot.pass e.arrows) rest

/-- The stages of a pipeline after the renaming. -/
def renameStages (r : Renaming) (spot : Spot) :
    List (Symbol × List Expr) → List (Symbol × List Expr)
  | [] => []
  | (f, args) :: rest =>
    (r.symbol spot f, renameList r spot args) :: renameStages r (spot.pass (arrowsIn args)) rest

end

variable {r : Renaming} {spot : Spot}

@[simp] theorem renameList_append (es fs : List Expr) : renameList r spot (es ++ fs) =
    renameList r spot es ++ renameList r (spot.pass (arrowsIn es)) fs := by
  induction es generalizing spot with
  | nil => simp [renameList]
  | cons e es ih => simp [renameList, ih]

theorem map_snd_renameEntries (entries : List (ObjectKey × Expr)) :
    (renameEntries r spot entries).map Prod.snd = renameList r spot (entries.map Prod.snd) := by
  induction entries generalizing spot with
  | nil => rfl
  | cons entry entries ih =>
    obtain ⟨key, e⟩ := entry
    simp [renameEntries, renameList, ih]

theorem stageArgs_renameStages (stages : List (Symbol × List Expr)) :
    stageArgs (renameStages r spot stages) = renameList r spot (stageArgs stages) := by
  induction stages generalizing spot with
  | nil => rfl
  | cons stage stages ih =>
    obtain ⟨f, args⟩ := stage
    simp only [stageArgs, List.flatMap_cons] at ih ⊢
    simp [renameStages, ih]

/-- The children of what is no arrow function are renamed one after the other. -/
theorem children_rename {e : Expr} (h : e.isArrow = false) :
    (e.rename r spot).children = renameList r spot e.children := by
  cases e with
  | arrow => cases h
  | object entries => exact map_snd_renameEntries entries
  | pipeline input stages =>
    show _ :: _ = _
    rw [children, renameList, stageArgs_renameStages]
  | _ => simp [rename, children, renameList]

/-! ## Watchers -/

theorem pathSegments_renameList (es : List Expr) :
    pathSegments (renameList r spot es) = pathSegments es := by
  induction es generalizing spot with
  | nil => rfl
  | cons e es ih =>
    cases e with
    | literal l => simp [renameList, rename, pathSegments, ih]
    | _ => rfl

/-- Renaming keeps the path that a node depends on, since no name comes to be the accessor or ceases
    to be it. -/
theorem watched?_rename (ho : r.old ≠ accessorName) (hn : r.new ≠ accessorName) (e : Expr) :
    (e.rename r spot).watched? = e.watched? := by
  have segments : (e.rename r spot).watchedSegments = e.watchedSegments := by
    cases e with
    | call f args =>
      cases f with
      | symbol s =>
        have hs : (r.symbol spot s).name = accessorName ↔ s.name = accessorName := by
          by_cases hs : s.name = r.old
          · cases spot with
            | around => simp [Renaming.symbol, hs, Symbol.ofName, ho, hn]
            | _ => rfl
          · rw [r.symbol_of_ne spot hs]
        simp only [rename, watchedSegments, hs, pathSegments_renameList]
      | _ => rfl
    | _ => rfl
  rw [watched?, watched?, segments]

theorem filterMap_watched?_renameList {es : List Expr}
    (h : ∀ e ∈ es, ∀ spot : Spot,
      (e.rename r spot).walk.filterMap watched? = e.walk.filterMap watched?) :
    ((renameList r spot es).flatMap walk).filterMap watched? =
      (es.flatMap walk).filterMap watched? := by
  induction es generalizing spot with
  | nil => rfl
  | cons e es ih =>
    rw [renameList, List.flatMap_cons, List.flatMap_cons, List.filterMap_append,
      List.filterMap_append, h e List.mem_cons_self, ih fun x hx => h x (List.mem_cons_of_mem _ hx)]

/-- Renaming leaves the watchers alone. -/
theorem watchers_rename (ho : r.old ≠ accessorName) (hn : r.new ≠ accessorName) (e : Expr)
    (spot : Spot) : (e.rename r spot).watchers = e.watchers := by
  have walk : (e.rename r spot).walk.filterMap watched? = e.walk.filterMap watched? := by
    induction e using walk.induct generalizing spot with
    | case1 e ih =>
      rw [walk_eq, walk_eq, List.filterMap_cons, List.filterMap_cons, watched?_rename ho hn]
      have children : ((e.rename r spot).children.flatMap Expr.walk).filterMap watched? =
          (e.children.flatMap Expr.walk).filterMap watched? := by
        cases ha : e.isArrow with
        | false =>
          rw [children_rename ha]
          exact filterMap_watched?_renameList fun x hx spot => ih x hx spot
        | true =>
          cases e with
          | arrow params body =>
            have hb := ih body List.mem_cons_self (r.enter spot params)
            simpa [rename, Expr.children] using hb
          | _ => cases ha
      rw [children]
  rw [watchers, watchers, walk]

end Expr

/-! ## Names in sight -/

namespace Renaming

variable {r : Renaming} {spot : Spot} {S S' : List String} {params : List Symbol}

/-- How the names in sight before and after the renaming correspond: the old name stands for the new
    one where the renamed parameter is in sight, and every other name for itself. The new name occurs
    nowhere before, so nothing is asked about it. -/
def Corresponds (r : Renaming) (S S' : List String) : Spot → Prop
  | .around => r.old ∈ S ∧ r.new ∈ S' ∧ ∀ n, n ≠ r.old → n ≠ r.new → (n ∈ S ↔ n ∈ S')
  | _ => ∀ n, n ≠ r.new → (n ∈ S ↔ n ∈ S')

theorem Corresponds.pass (h : r.Corresponds S S' spot) (n : Nat) :
    r.Corresponds S S' (spot.pass n) := by
  cases spot with
  | ahead k =>
    rw [Spot.pass]
    split
    · exact h
    · exact h
  | around => exact h
  | gone => exact h

/-- A name that stays is in sight after the renaming if it was before. -/
theorem Corresponds.mem_iff (h : r.Corresponds S S' spot) {n : String} (ho : n ≠ r.old)
    (hn : n ≠ r.new) : n ∈ S ↔ n ∈ S' := by
  cases spot with
  | around => exact h.2.2 n ho hn
  | ahead k => exact h n hn
  | gone => exact h n hn

/-- A name is in sight after the renaming if it was before. -/
theorem Corresponds.mem_symbol_iff (h : r.Corresponds S S' spot) {s : Symbol} (hn : s.name ≠ r.new) :
    s.name ∈ S ↔ (r.symbol spot s).name ∈ S' := by
  by_cases hs : s.name = r.old
  · cases spot with
    | around =>
      have hnew : (r.symbol .around s).name = r.new := by simp [symbol, hs, Symbol.ofName]
      rw [hnew, hs]
      exact ⟨fun _ => h.2.1, fun _ => h.1⟩
    | ahead k => exact h _ hn
    | gone => exact h _ hn
  · rw [r.symbol_of_ne spot hs]
    exact h.mem_iff hs hn

/-- A name that is not in sight stays, and it is not in sight after the renaming either. -/
theorem Corresponds.symbol_of_not_mem (h : r.Corresponds S S' spot) {s : Symbol}
    (hn : s.name ≠ r.new) (hs : s.name ∉ S) : r.symbol spot s = s ∧ s.name ∉ S' := by
  have hstay : r.symbol spot s = s := by
    by_cases he : s.name = r.old
    · cases spot with
      | around => exact absurd (he ▸ h.1) hs
      | _ => rfl
    · exact r.symbol_of_ne spot he
  exact ⟨hstay, fun h' => hs ((h.mem_symbol_iff hn).2 (hstay.symm ▸ h'))⟩

theorem mem_names_set_of_ne {n : String} (hn : n ≠ r.new)
    (h : n ≠ r.old ∨ n ∈ (params.drop (r.index + 1)).map Symbol.name) (hp : r.IsParam params) :
    n ∈ params.map Symbol.name ↔ n ∈ (params.set r.index (.ofName r.new)).map Symbol.name := by
  constructor
  · intro hm
    obtain ⟨s, hs, rfl⟩ := List.mem_map.1 hm
    obtain ⟨i, hi⟩ := List.mem_iff_getElem?.1 hs
    by_cases he : r.index = i
    · -- Only the renamed parameter stands here, so the name has to stand later on as well.
      have hold : s.name = r.old := by
        rw [IsParam, he, hi] at hp
        exact Option.some.inj hp
      obtain ⟨s', hs', hname⟩ := List.mem_map.1 (h.resolve_left fun hne => hne hold)
      obtain ⟨j, hj⟩ := List.mem_iff_getElem?.1 hs'
      rw [List.getElem?_drop] at hj
      refine List.mem_map.2 ⟨s', List.mem_iff_getElem?.2 ⟨r.index + 1 + j, ?_⟩, hname⟩
      rw [List.getElem?_set_ne (by omega)]
      exact hj
    · refine List.mem_map.2 ⟨s, List.mem_iff_getElem?.2 ⟨i, ?_⟩, rfl⟩
      rw [List.getElem?_set_ne he]
      exact hi
  · intro hm
    obtain ⟨s, hs, rfl⟩ := List.mem_map.1 hm
    rcases List.mem_or_eq_of_mem_set hs with hs | rfl
    · exact List.mem_map.2 ⟨s, hs, rfl⟩
    · exact absurd rfl hn

/-- The names in sight correspond in the body of an arrow function if they do around it. -/
theorem Corresponds.enter (h : r.Corresponds S S' spot) (params : List Symbol) :
    r.Corresponds (Config.extendScope S params) (Config.extendScope S' (r.params spot params))
      (r.enter spot params) := by
  have extend : ∀ {params' : List Symbol} {n : String}, (n ∈ S ↔ n ∈ S') →
      (n ∈ params.map Symbol.name ↔ n ∈ params'.map Symbol.name) →
      (n ∈ Config.extendScope S params ↔ n ∈ Config.extendScope S' params') := by
    intro params' n hs hp
    rw [Config.extendScope, Config.extendScope, List.mem_append, List.mem_append, hs, hp]
  cases spot with
  | ahead k =>
    cases k with
    | succ k => exact fun n hn => extend (h n hn) Iff.rfl
    | zero =>
      rw [enter, Renaming.params]
      by_cases hp : r.IsParam params
      · rw [if_pos hp]
        by_cases hb : r.Binds params
        · rw [if_pos hb]
          obtain ⟨s, hs, hname⟩ := Option.map_eq_some_iff.1 hp
          have hlt : r.index < params.length := (List.getElem?_eq_some_iff.1 hs).1
          refine ⟨?_, ?_, fun n ho hn => extend (h n hn) (mem_names_set_of_ne hn (.inl ho) hp)⟩
          · refine List.mem_append_right _ (List.mem_map.2 ⟨s, ?_, hname⟩)
            exact List.mem_of_getElem? hs
          · refine List.mem_append_right _ (List.mem_map.2 ⟨.ofName r.new, ?_, rfl⟩)
            exact List.mem_set hlt _
        · rw [if_neg hb]
          have hdrop : r.old ∈ (params.drop (r.index + 1)).map Symbol.name :=
            Decidable.byContradiction fun hd => hb ⟨hp, hd⟩
          intro n hn
          refine extend (h n hn) (mem_names_set_of_ne hn ?_ hp)
          by_cases ho : n = r.old
          · exact .inr (ho ▸ hdrop)
          · exact .inl ho
      · rw [if_neg hp, if_neg fun hb => hp hb.1]
        exact fun n hn => extend (h n hn) Iff.rfl
  | around =>
    show r.Corresponds (Config.extendScope S params) (Config.extendScope S' params)
      (if r.old ∈ params.map Symbol.name then .gone else .around)
    split
    · rename_i hm
      intro n hn
      by_cases ho : n = r.old
      · subst ho
        exact ⟨fun _ => List.mem_append_right _ hm, fun _ => List.mem_append_right _ hm⟩
      · exact extend (h.2.2 n ho hn) Iff.rfl
    · exact ⟨List.mem_append_left _ h.1, List.mem_append_left _ h.2.1,
        fun n ho hn => extend (h.2.2 n ho hn) Iff.rfl⟩
  | gone => exact fun n hn => extend (h n hn) Iff.rfl

end Renaming

end DataBinding
