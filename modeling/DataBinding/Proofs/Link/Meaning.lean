import DataBinding.Link.Linked
import DataBinding.Proofs.Grammar.Whole
import DataBinding.Proofs.Likeness.Reading
import DataBinding.Proofs.Link.Resolve

/-!
# What reads as calls mean

Reads as calls of the accessor mean what the symbols mean that they are made of: where a resolved tree
gives a value with its symbols bound to documents, the linked tree gives the same value by reading the
documents, up to the reads in the bodies of arrow functions.

Results:

* `Config.isDocumented_of_resolved`: the names of a resolved tree.
* `Config.eval_withReads`: writing reads as calls preserves the value.
-/

namespace DataBinding

namespace Config

variable {c : Config}

theorem plainRule_container (hv : c.validate = .ok ()) (hn : "_get_by_any" ∉ c.names)
    {scope : List String} {name : String} (h : c.IsContainer name) :
    plainRule.name scope false (.ofName ("$" ++ name)) := by
  refine ⟨rfl, fun he => hn ?_⟩
  have ha : "$" ++ name = "$" ++ "_get_by_any" := he
  rw [← (String.append_right_inj "$").1 ha]
  exact mem_names_of_validate hv h

/-- Containers are spelled as they are called. -/
theorem resolves_plainRule (hv : c.validate = .ok ()) (hn : "_get_by_any" ∉ c.names) :
    c.Resolves plainRule plainRule where
  name hs _ := hs
  container h := plainRule_container hv hn h
  param hs := hs
  call := trivial

/-- The resolved tree of a text that does not name the accessor is documented if its symbols that stand
    for data are bound to their documents. -/
theorem isDocumented_of_resolved {source : String} {e r : Expr} {docs : Documents}
    {bound : Dict Value} (hv : c.validate = .ok ()) (hn : "_get_by_any" ∉ c.names)
    (he : Expr.parse source = .ok e) (ha : ¬ NamesAccessor source) (hr : c.resolved e = .ok r)
    (hd : ∀ s, .symbol s ∈ r.walk → ∀ q, c.recognize? s.raw = some q → q.direct = false →
      Dict.get? bound s.name = some (docs.read (tagOf s) [])) : c.IsDocumented docs bound r := by
  obtain ⟨ts, last, ht, -, hs, -⟩ := Expr.parse_sound he
  have names : e.withoutPipeline.Obeys plainRule [] false :=
    hs.obeys (admits_plainRule ht ha) fun t hm => List.mem_append_left _ hm
  have rule : r.Obeys plainRule [] false :=
    (resolves_plainRule hv hn).obeys_resolved (plainRule_container hv hn) names hr
  refine ⟨fun s hm => ?_, fun s hm => ?_, hd, fun params body hm => ?_, fun input stages hm => ?_⟩
  all_goals obtain ⟨_, _, ho⟩ := rule.of_mem_walk hm
  · exact ho.1
  · exact ho.2
  · exact ho.1
  · exact ho

/-- Writing reads as calls preserves the value: if the resolved tree of a text gives a value where its
    symbols that stand for data are bound to their documents, the linked tree gives that value by
    reading the documents, up to reads in the bodies of arrow functions. -/
theorem eval_withReads {source : String} {e r : Expr} {docs : Documents} {env env' : Env} {next : Nat}
    {v : Value} (hv : c.validate = .ok ()) (hn : "_get_by_any" ∉ c.names)
    (he : Expr.parse source = .ok e) (ha : ¬ NamesAccessor source) (hr : c.resolved e = .ok r)
    (henv : c.Documented docs env env')
    (hd : ∀ s, .symbol s ∈ r.walk → ∀ q, c.recognize? s.raw = some q → q.direct = false →
      Dict.get? env.bound s.name = some (docs.read (tagOf s) []))
    (h : (Eval.start (env.eval r) next).1 = .ok v) :
    ∃ v', (Eval.start (env'.eval (c.withReads r)) next).1 = .ok v' ∧
      Value.Like (c.Rewrites docs env.bound) v v' := by
  have run := henv.alike_eval (isDocumented_of_resolved hv hn he ha hr hd) ⟨next, []⟩ ⟨next, []⟩ rfl
  change (((env.eval r).run).run ⟨next, []⟩).1 = .ok v at h
  show ∃ v', (((env'.eval (c.withReads r)).run).run ⟨next, []⟩).1 = .ok v' ∧ _
  generalize ((env.eval r).run).run ⟨next, []⟩ = outcome,
    ((env'.eval (c.withReads r)).run).run ⟨next, []⟩ = outcome' at run h
  cases run with
  | value hl _ =>
    cases h
    exact ⟨_, rfl, hl⟩
  | halt => cases h
  | lenient => cases h

/-- Two chains of members, one of them with a computed key in a callback. -/
theorem eval_withReads_callback : ∃ (e r : Expr) (docs : Documents) (bound : Dict Value),
    Expr.parse "a.map(x => b[x])" = .ok e ∧ standard.resolved e = .ok r ∧
      (Eval.start ((⟨docs.host, bound⟩ : Env).eval r) 3).1 = .ok (.array 4 [.string "v"]) ∧
      ∃ v', (Eval.start ((⟨docs.host, []⟩ : Env).eval (standard.withReads r)) 3).1 = .ok v' ∧
        Value.Like (standard.Rewrites docs bound) (.array 4 [.string "v"]) v' := by
  let doc : Value := .object 0 [("a", .array 1 [.string "k"]), ("b", .object 2 [("k", .string "v")])]
  let docs : Documents := [("scope", doc)]
  let bound : Dict Value := [("$scope", doc)]
  let r : Expr := .call (.member (.member (.ofName "$scope") "a") "map")
    [.arrow [.ofName "x"] (.index (.member (.ofName "$scope") "b") (.ofName "x"))]
  have silent : ¬ NamesAccessor "a.map(x => b[x])" :=
    not_namesAccessor Expr.tokenize_callback (by simp [accessorName])
  have plain : ∀ f, ¬ doc.Holds f := Value.not_holds_of_like (.object _ (.cons _
    (.array _ (.cons (.string _) .nil)) (.cons _ (.object _ (.cons _ (.string _) .nil)) .nil)))
  have resolved : standard.resolved (.call (.member (.ofName "a") "map")
      [.arrow [.ofName "x"] (.index (.ofName "b") (.ofName "x"))]) = .ok r := rfl
  have recognized : standard.recognize? "$scope" = some ⟨"scope", none, false⟩ := rfl
  have documented : standard.Documented docs ⟨docs.host, bound⟩ ⟨docs.host, []⟩ := by
    refine ⟨fun tag v hv => ?_, rfl, fun name _ _ _ _ _ _ n => ⟨.error _, rfl⟩, fun name hd => ?_,
      fun name v hv => by cases hv⟩
    · rw [Dict.get?_cons] at hv
      split at hv
      · cases hv
        exact plain
      · cases hv
    · show Dict.get? bound name = none
      rw [Dict.get?_cons, if_neg]
      · rfl
      · rintro rfl
        cases hd _ recognized
  have bindings : ∀ s, .symbol s ∈ r.walk → ∀ q, standard.recognize? s.raw = some q →
      q.direct = false → Dict.get? bound s.name = some (docs.read (tagOf s) []) := by
    intro s hs q hq hd
    have hm : s = .ofName "$scope" ∨ s = .ofName "x" := by
      simpa [r, Expr.walk_eq, Expr.children, Expr.ofName] using hs
    rcases hm with rfl | rfl
    · rfl
    · cases hq
  have value : (Eval.start ((⟨docs.host, bound⟩ : Env).eval r) 3).1 =
      .ok (.array 4 [.string "v"]) := rfl
  exact ⟨_, r, docs, bound, Expr.parse_callback, resolved, value,
    eval_withReads rfl (by decide) Expr.parse_callback silent resolved documented bindings value⟩

end Config

end DataBinding
