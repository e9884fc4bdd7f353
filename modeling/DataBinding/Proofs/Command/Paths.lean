import DataBinding.Proofs.Command.Data
import DataBinding.Proofs.Value.Identity

/-!
# Reading data along a path

A symbol with keys behind points is the simplest source there is. A symbol that is not direct is read
from its document, where nothing is found beyond what is undefined or null; a direct symbol has a value,
whose members are asked for one after the other, so that the same is a fault.

Results:

* `Expr.parse_pathText`: the tree of a path.
* `Config.linkTree_path_of_read`, `Config.linkTree_path_of_direct`: a path is one read of the accessor, or
  stays as it is.
* `Program.run_call_read`, `Program.run_call_path`: what the two are evaluated to.
* `Command.evaluate_path`: the answer to a path on a data object.
-/

namespace DataBinding

/-! ## Texts and trees -/

/-- The text with keys behind points. -/
def pathText (text : String) (keys : List String) : String :=
  keys.foldl (fun t k => t ++ "." ++ k) text

namespace Expr

/-- The tree with members taken by these names. -/
def path (e : Expr) (keys : List String) : Expr := keys.foldl member e

/-- The tree has this text, which needs no more parentheses, and a point may follow it. -/
structure IsWritten (e : Expr) (t : String) : Prop where
  prints : e.PrintsAll
  printed : e.printed = e
  level : e.level = postfixLevel
  point : e.AllowsPoint
  text : e.print = .ok t

theorem isWritten_symbol {s : Symbol} (h : IsToken s.raw (.name s.name)) :
    (symbol s).IsWritten s.raw where
  prints := printsAll_of_children h (by simp [children])
  printed := rfl
  level := rfl
  point := nofun
  text := rfl

theorem IsWritten.member {e : Expr} {t k : String} (h : e.IsWritten t) (hk : isIdentifier k = true) :
    (e.member k).IsWritten (t ++ "." ++ k) where
  prints := printsAll_of_children (fun _ => h.point) (List.forall_mem_singleton.2 h.prints)
  printed := by
    rw [Expr.printed, if_pos hk, h.printed, grouped, if_neg (by rw [h.level]; exact Nat.lt_irrefl _)]
  level := rfl
  point := nofun
  text := by
    rw [print, h.text]
    show Except.ok (memberText (wrapped postfixLevel e t) k) = _
    rw [wrapped, if_neg (by rw [h.level]; exact Nat.lt_irrefl _), memberText, if_pos hk]

theorem IsWritten.path {e : Expr} {t : String} (h : e.IsWritten t) {keys : List String}
    (hk : ∀ k ∈ keys, isIdentifier k = true) : (e.path keys).IsWritten (pathText t keys) := by
  induction keys generalizing e t with
  | nil => exact h
  | cons k ks ih =>
    rw [List.forall_mem_cons] at hk
    exact ih (h.member hk.1) hk.2

/-- The tree of a path. -/
theorem parse_pathText {s : Symbol} (h : IsToken s.raw (.name s.name)) {keys : List String}
    (hk : ∀ k ∈ keys, isIdentifier k = true) :
    parse (pathText s.raw keys) = .ok ((symbol s).path keys) := by
  have hw := (isWritten_symbol h).path hk
  obtain ⟨code, hcode, hparse⟩ := parse_printed hw.prints
  cases hw.text.symm.trans hcode
  rw [hparse, hw.printed]

end Expr

namespace Config

variable {c : Config}

/-! ## Spellings of symbols -/

theorem isNamePart_of_isDigit {ch : Char} (h : ch.isDigit = true) : isNamePart ch = true := by
  rw [isNamePart, Char.isAlphanum, h, Bool.or_true, Bool.true_or]

/-- What is recognized goes on with letters, digits and underscores only. -/
theorem isNamePart_of_recognize? (hv : c.validate = .ok ()) {raw : String} {r : Recognized}
    (h : c.recognize? ("$" ++ raw) = some r) : ∀ ch ∈ raw.toList, isNamePart ch = true := by
  rw [recognize?_dollar] at h
  split at h
  · rename_i s hs
    obtain ⟨hm, rfl⟩ := find?_eq_some hs
    exact forall_isNamePart hv (List.mem_map_of_mem hm)
  · obtain ⟨s, level, hcut, -⟩ := (recognizeLevel?_eq_some_iff (names_nodup hv)).1 h
    intro ch hch
    rw [hcut.append, List.mem_append] at hch
    rcases hch with hch | hch
    · exact forall_isNamePart hv (List.mem_map_of_mem hcut.mem) ch hch
    · exact isNamePart_of_isDigit (hcut.isLevel.2 ch hch)

theorem isToken_of_recognize? (hv : c.validate = .ok ()) {raw : String} {r : Recognized}
    (h : c.recognize? ("$" ++ raw) = some r) : IsToken ("$" ++ raw) (.name ("$" ++ raw)) :=
  isToken_dollar <| List.all_eq_true.2 fun ch hch =>
    isIdentifierPart_of_isNamePart (isNamePart_of_recognize? hv h ch hch)

/-- No member of a direct symbol is called like the spelling of another symbol. -/
theorem ne_of_recognize? (hv : c.validate = .ok ()) {raw : String} {r : Recognized}
    (h : c.recognize? ("$" ++ raw) = some r) (hd : r.direct = false) :
    ∀ name ∈ c.directNames, raw ≠ "$" ++ name ∧ raw ≠ name := by
  intro name hn
  have plain : Data.IsPlainName raw := fun hhead =>
    absurd (isNamePart_of_recognize? hv h '$' (List.mem_of_mem_head? hhead)) (by decide)
  refine ⟨plain.ne_dollar name, ?_⟩
  rintro rfl
  obtain ⟨r', hr', hd'⟩ := exists_direct_of_mem_outside hv (List.mem_map_of_mem hn)
  cases h.symm.trans hr'
  rw [hd] at hd'
  cases hd'

/-! ## Linking -/

/-- A path is its symbol or a member. -/
theorem path_cases (s : Symbol) (keys : List String) :
    (Expr.symbol s).path keys = .symbol s ∨
      ∃ target name, (Expr.symbol s).path keys = .member target name := by
  have member : ∀ (e : Expr) (k : String) (ks : List String),
      ∃ target name, (e.member k).path ks = .member target name := by
    intro e k ks
    induction ks generalizing e k with
    | nil => exact ⟨e, k, rfl⟩
    | cons k' ks ih => exact ih (e.member k) k'
  cases keys with
  | nil => exact .inl rfl
  | cons k ks => exact .inr (member _ k ks)

theorem resolve_path {e : Expr} (h : c.resolve [] false e = .ok e) (keys : List String) :
    c.resolve [] false (e.path keys) = .ok (e.path keys) := by
  induction keys generalizing e with
  | nil => exact h
  | cons k ks ih =>
    refine ih (e := e.member k) ?_
    rw [resolve, h]
    rfl

/-- The names of a path with a symbol stay. -/
theorem linkTree_path {s : Symbol} (h : c.isRecognized s.raw = true) (keys : List String) :
    c.linkTree ((Expr.symbol s).path keys) = .ok (c.withReads ((Expr.symbol s).path keys)) := by
  have hroot : c.wrapName ((Expr.symbol s).path keys).withoutPipeline = (Expr.symbol s).path keys := by
    rcases path_cases s keys with hp | ⟨target, name, hp⟩
    · rw [hp]
      exact if_pos h
    · rw [hp]
      rfl
  have hname : c.resolve [] false (.symbol s) = .ok (.symbol s) := by
    rw [resolve, resolveName, h]
    rfl
  rw [linkTree, resolved, hroot, resolve_path hname]
  rfl

theorem reading_path_of_read {e : Expr} {args : List Expr} (h : c.reading [] e = .read args)
    (keys : List String) : c.reading [] (e.path keys) = .read (args ++ keys.map .ofString) := by
  induction keys generalizing e args with
  | nil =>
    rw [List.map_nil, List.append_nil]
    exact h
  | cons k ks ih =>
    have hk : c.reading [] (e.member k) = .read (args ++ [.ofString k]) := by
      rw [reading, h]
      rfl
    show c.reading [] ((e.member k).path ks) = _
    rw [ih hk, List.append_assoc]
    rfl

theorem reading_path_of_other {e : Expr} (h : c.reading [] e = .other e) (keys : List String) :
    c.reading [] (e.path keys) = .other (e.path keys) := by
  induction keys generalizing e with
  | nil => exact h
  | cons k ks ih =>
    refine ih (e := e.member k) ?_
    rw [reading, h]
    rfl

theorem tagOf_ofName (raw : String) : tagOf (.ofName ("$" ++ raw)) = raw := by
  simp [tagOf, Symbol.ofName]

variable {raw : String} {r : Recognized}

/-- A path with a symbol that is not direct is one read. -/
theorem linkTree_path_of_read (h : c.recognize? ("$" ++ raw) = some r) (hd : r.direct = false)
    (keys : List String) : c.linkTree ((Expr.ofName ("$" ++ raw)).path keys) =
      .ok (.call (.ofName accessorName) ((raw :: keys).map .ofString)) := by
  have hread : c.isReadSymbol [] (.ofName ("$" ++ raw)) = true :=
    isReadSymbol_eq_true_iff.2 ⟨List.not_mem_nil, r, h, hd⟩
  have hroot := reading_symbol_of_eq_true hread
  rw [tagOf_ofName] at hroot
  rw [Expr.ofName, linkTree_path (by simp [isRecognized, Symbol.ofName, h]), withReads,
    reading_path_of_read hroot]
  rfl

/-- A path with a direct symbol stays as it is. -/
theorem linkTree_path_of_direct (h : c.recognize? ("$" ++ raw) = some r) (hd : r.direct = true)
    (keys : List String) : c.linkTree ((Expr.ofName ("$" ++ raw)).path keys) =
      .ok ((Expr.ofName ("$" ++ raw)).path keys) := by
  have hread : c.isReadSymbol [] (.ofName ("$" ++ raw)) = false := by
    simp [isReadSymbol, Symbol.ofName, h, hd]
  rw [Expr.ofName, linkTree_path (by simp [isRecognized, Symbol.ofName, h]), withReads,
    reading_path_of_other (reading_symbol_of_eq_false hread)]
  rfl

end Config

/-! ## Runs -/

theorem Eval.ofExcept_bind {α β : Type} (x : Except TypeFault α) (f : α → Except TypeFault β) :
    (ofExcept x >>= fun a => ofExcept (f a)) = ofExcept (x >>= f) := by
  cases x <;> rfl

theorem Eval.run_ofExcept {α : Type} (x : Except TypeFault α) (t : Trace) :
    ((ofExcept x).run).run t = (x.mapError fun f => .error (.type f), t) := by
  cases x <;> rfl

namespace Expr

variable {env : Env} {call : Caller} {locals : Dict Value}

/-- The members of a path are taken one after the other. -/
theorem evalIn_path {e : Expr} {x : Except TypeFault Value}
    (h : e.evalIn env call locals = Eval.ofExcept x) (keys : List String) :
    (e.path keys).evalIn env call locals = Eval.ofExcept (x >>= fun v => v.follow keys) := by
  induction keys generalizing e x with
  | nil =>
    rw [show (x >>= fun v => v.follow []) = x from bind_pure x]
    exact h
  | cons k ks ih =>
    have hk : (e.member k).evalIn env call locals =
        Eval.ofExcept (x >>= fun v => v.member (.string k)) := by
      rw [evalIn, h, Eval.ofExcept_bind]
    show ((e.member k).path ks).evalIn env call locals = _
    rw [ih hk, bind_assoc]
    rfl

theorem evalList_ofString (keys : List String) :
    evalList env call locals (keys.map ofString) = pure (keys.map .string) := by
  induction keys with
  | nil => rw [List.map_nil, evalList, List.map_nil]
  | cons k ks ih =>
    rw [List.map_cons, evalList, ih, ofString, evalIn]
    rfl

end Expr

namespace Program

variable {p : Program} {direct : List Value} {keys : List String}

/-- A read finds in the documents what the keys lead to, without a fault. -/
theorem run_call_read {raw : String}
    (hp : p.tree = .call (.ofName accessorName) ((raw :: keys).map .ofString))
    (hl : p.directNames.length = direct.length) (docs : Documents) (t : Trace) :
    (((p.call docs.host direct).run).run t).1 =
      .ok (((Dict.get? docs raw).getD .undefined).reach keys) := by
  rw [call_eq hl, Env.eval, hp, Expr.ofName, Expr.evalIn, if_pos ⟨rfl, rfl⟩,
    Expr.evalList_ofString, ← Documents.walk_eq_reach]
  rfl

/-- The members of a bound value are taken one after the other, up to a fault. -/
theorem run_call_path {s : Symbol} {host : Host} {v : Value} (hp : p.tree = (Expr.symbol s).path keys)
    (hl : p.directNames.length = direct.length)
    (hv : Dict.get? (p.env host direct).bound s.name = some v) (t : Trace) :
    (((p.call host direct).run).run t).1 =
      (v.follow keys).mapError fun f => .error (.type f) := by
  have hs : (Expr.symbol s).evalIn (p.env host direct) ((p.env host direct).call maxCallDepth) [] =
      Eval.ofExcept (.ok v) := by
    rw [Expr.evalIn, lookup, Dict.get?_nil, hv]
    rfl
  rw [call_eq hl, Env.eval, hp, Expr.evalIn_path hs, Eval.run_ofExcept]
  rfl

end Program

namespace Command

/-- A source that is compiled is evaluated on the members of the data object. -/
theorem evaluate_eq {l : Linker} {source : String} {p : Program} {data : Option String}
    {members : Dict Json} (hp : l.compile source = .ok p) (hd : readData data = .ok members) :
    evaluate l false source data =
      ((runOn l.config p members).1.map Value.toJson).mapError .eval := by
  unfold evaluate program
  rw [if_neg Bool.false_ne_true, hp, hd]
  show ((runOn l.config p members).1.mapError CommandError.eval >>= fun v => pure v.toJson) = _
  cases (runOn l.config p members).1 <;> rfl

/-- A run is the call of the program with the data of the members. -/
theorem exists_runOn_eq (c : Config) (p : Program) (members : Dict Json) :
    ∃ t, runOn c p members = ((p.call ((Data.ofMembers c members).run 0).1.documents.host
      ((Data.ofMembers c members).run 0).1.direct).run).run t := ⟨_, rfl⟩

theorem unnumbered_valueOf (j : Option Json) (n m : Nat) :
    ((Data.valueOf j).run n).1.unnumbered = ((Data.valueOf j).run m).1.unnumbered := by
  cases j with
  | none => rfl
  | some j => exact Value.unnumbered_ofJson j n m

variable {c : Config} {members : Dict Json} {keys : List String}

/-- The run of a read gives what the keys lead to from the member of the tag. -/
theorem runOn_read (hv : c.validate = .ok ()) (hm : (Dict.keys members).Nodup) {raw : String}
    {r : Recognized} (hr : c.recognize? ("$" ++ raw) = some r) (hd : r.direct = false) {p : Program}
    (hp : p.tree = .call (.ofName accessorName) ((raw :: keys).map .ofString))
    (hparams : p.parameters = c.parameters) (next : Nat) :
    (runOn c p members).1.map Value.toJson =
      .ok ((((Data.valueOf (Dict.get? members raw)).run next).1.reach keys).toJson) := by
  have holds := Data.holds_ofMembers hv hm 0
  obtain ⟨t, ht⟩ := exists_runOn_eq c p members
  generalize ((Data.ofMembers c members).run 0).1 = d at holds ht
  obtain ⟨m, hdoc⟩ := holds.document raw (Config.ne_of_recognize? hv hr hd)
  have hl : p.directNames.length = d.direct.length := by
    rw [Program.directNames, hparams, ← holds.direct.length_eq]
    exact List.length_map _
  have hvalue : (Dict.get? d.documents raw).getD .undefined =
      ((Data.valueOf (Dict.get? members raw)).run m).1 := by
    rw [hdoc]
    cases Dict.get? members raw <;> rfl
  rw [ht, Program.run_call_read hp hl, hvalue]
  exact congrArg Except.ok
    (Value.toJson_reach_congr (unnumbered_valueOf (Dict.get? members raw) m next) keys)

/-- The run of a path with a direct symbol gives what the keys lead to from its member, or a fault. -/
theorem runOn_path (hv : c.validate = .ok ()) (hm : (Dict.keys members).Nodup) {name : String}
    (hn : name ∈ c.directNames) {p : Program} (hp : p.tree = (Expr.ofName ("$" ++ name)).path keys)
    (hparams : p.parameters = c.parameters) (next : Nat) :
    (runOn c p members).1.map Value.toJson =
      ((((Data.valueOf (Data.memberOf members name)).run next).1.follow keys).map
        Value.toJson).mapError fun f => .error (.type f) := by
  have holds := Data.holds_ofMembers hv hm 0
  obtain ⟨t, ht⟩ := exists_runOn_eq c p members
  generalize ((Data.ofMembers c members).run 0).1 = d at holds ht
  have names : p.directNames = c.outside := by
    rw [Program.directNames, hparams]
    rfl
  have hl : p.directNames.length = d.direct.length := by
    rw [names, ← holds.direct.length_eq]
    exact List.length_map _
  have different : p.directNames.Nodup := names ▸ Config.outside_nodup hv
  obtain ⟨i, hi⟩ := List.mem_iff_getElem?.1 hn
  obtain ⟨v, hvi⟩ : ∃ v, d.direct[i]? = some v := by
    have hlt : i < d.direct.length := holds.direct.length_eq ▸ (List.getElem?_eq_some_iff.1 hi).1
    exact ⟨_, List.getElem?_eq_getElem hlt⟩
  obtain ⟨m, rfl⟩ : ∃ m, v = ((Data.valueOf (Data.memberOf members name)).run m).1 :=
    (List.forall₂_iff_zip.1 holds.direct).2
      (List.mem_iff_getElem?.2 ⟨i, List.getElem?_zip_eq_some.2 ⟨hi, hvi⟩⟩)
  have hname : p.directNames[i]? = some ("$" ++ name) := by
    rw [names, Config.outside, List.getElem?_map, hi]
    rfl
  have hbound := Program.bound_getElem? d.documents.host hl different hname hvi
  rw [ht, Program.run_call_path hp hl hbound, ← Value.toJson_follow_congr
    (unnumbered_valueOf (Data.memberOf members name) m next) keys]
  cases (((Data.valueOf (Data.memberOf members name)).run m).1).follow keys <;> rfl

end Command

/-- The answer to a path on a data object. With a symbol that is not direct it is what the keys lead to
    from the member of its tag, where nothing is found beyond what is missing, undefined or null. With a
    direct symbol it is what they lead to from the member of the symbol, with its dollar sign or else
    without it, and the first key that is asked of something undefined or null is a type fault. There
    are no other errors. The identities that the values are made with do not matter. -/
theorem Command.evaluate_path {c : Config} (hv : c.validate = .ok ()) {data : Option String}
    {members : Dict Json} (hd : readData data = .ok members) {keys : List String}
    (hk : ∀ k ∈ keys, isIdentifier k = true) :
    (∀ raw r, c.recognize? ("$" ++ raw) = some r → r.direct = false → ∀ next,
      evaluate (.ofConfig c) false (pathText ("$" ++ raw) keys) data =
        .ok ((((Data.valueOf (Dict.get? members raw)).run next).1.reach keys).toJson)) ∧
    ∀ s ∈ c.symbols, s.direct = true → ∀ next,
      evaluate (.ofConfig c) false (pathText ("$" ++ s.name) keys) data =
        ((((Data.valueOf ((Dict.get? members ("$" ++ s.name)).or (Dict.get? members s.name))).run
          next).1.follow keys).map Value.toJson).mapError fun f => .eval (.error (.type f)) := by
  have hm := nodup_keys_of_readData hd
  constructor
  · intro raw r hr hdirect next
    have hparse := Expr.parse_pathText (s := .ofName ("$" ++ raw)) (Config.isToken_of_recognize? hv hr) hk
    obtain ⟨code, hp⟩ :=
      Linker.exists_compile_eq hv hparse (Config.linkTree_path_of_read hr hdirect keys)
    refine (evaluate_eq hp hd).trans ?_
    rw [show (Linker.ofConfig c).config = c from rfl, runOn_read hv hm hr hdirect rfl rfl next]
    rfl
  · intro s hs hdirect next
    have hname : s.name ∈ c.directNames :=
      List.mem_map_of_mem (List.mem_filter.2 ⟨hs, hdirect⟩)
    obtain ⟨r, hr, hrd⟩ := Config.exists_direct_of_mem_outside hv (List.mem_map_of_mem hname)
    have hparse :=
      Expr.parse_pathText (s := .ofName ("$" ++ s.name)) (Config.isToken_of_recognize? hv hr) hk
    obtain ⟨code, hp⟩ :=
      Linker.exists_compile_eq hv hparse (Config.linkTree_path_of_direct hr hrd keys)
    refine (evaluate_eq hp hd).trans ?_
    rw [show (Linker.ofConfig c).config = c from rfl, runOn_path hv hm hname rfl rfl next,
      Data.memberOf]
    cases ((((Data.valueOf _).run next).1.follow keys).map Value.toJson) <;> rfl

/-- A key that is missing, and a reserved word as a key after it -/
theorem Command.evaluate_path_missing :
    let data := some "\x7b\"scope\":\x7b\"a\":true\x7d\x7d"
    Config.standard.validate = .ok () ∧
      readData data = .ok [("scope", .object [("a", .bool true)])] ∧
      (∀ k ∈ ["b", "if"], isIdentifier k = true) ∧
      evaluate (.ofConfig .standard) false "$scope.b.if" data = .ok .null ∧
      evaluate (.ofConfig .standard) false "$hooks.b.if" data =
        .error (.eval (.error (.type (.nullishMember "undefined" "b")))) := by
  intro data
  have hk : ∀ k ∈ ["b", "if"], isIdentifier k = true := by decide
  obtain ⟨read, direct⟩ := evaluate_path (c := .standard) rfl readData_single hk
  exact ⟨rfl, readData_single, hk, read "scope" ⟨"scope", none, false⟩ rfl rfl 0,
    direct ⟨"hooks", true, false⟩ (by decide) rfl 0⟩

end DataBinding
