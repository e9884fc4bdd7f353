import DataBinding.Program.Run
import DataBinding.Proofs.Likeness.Documents
import DataBinding.Proofs.Likeness.Watched
import DataBinding.Proofs.Link.Reads
import DataBinding.Proofs.Link.Resolve
import DataBinding.Proofs.Program.Parts

/-!
# The watchers of a program

The watchers of a compiled program are the paths of the calls of the accessor in its tree, and linking
makes such calls of recognized symbols only. So every read of a run goes along a watcher, and every
watcher starts with the tag of a symbol.

Results:

* `Config.reads_dataRule`: the calls of the accessor after linking.
* `Linker.compileChecked_watched`, `Linker.compileTemplate_watched`: the trees of programs are watched.
* `Program.reads_covered`: the watchers of a program cover every read that a run makes.
-/

namespace DataBinding

/-! ## Calls of the accessor after linking -/

namespace Config

variable {c : Config}

/-- The path starts with the tag of a symbol that stands for data behind the accessor. -/
def IsDataPath (c : Config) (path : String) : Prop :=
  ∃ tag keys r, path = ".".intercalate (tag :: keys) ∧ c.recognize? ("$" ++ tag) = some r ∧
    r.direct = false

/-- What is recognized is a dollar sign and a tag. -/
theorem eq_dollar_tagOf {s : Symbol} {r : Recognized} (h : c.recognize? s.raw = some r) :
    s.raw = "$" ++ tagOf s := by
  unfold recognize? at h
  unfold tagOf
  split at h
  · rename_i cs hs
    apply String.toList_inj.1
    simp only [hs, String.toList_append, String.toList_ofList]
    rfl
  · cases h

/-- No callee is the accessor. -/
def calleeRule : NameRule :=
  ⟨fun _ callee s => callee = true → s.name ≠ accessorName, fun _ => True, fun _ _ => True⟩

/-- The calls of the accessor start with the tag of a symbol. -/
def dataRule (c : Config) : NameRule :=
  ⟨fun _ _ _ => True, fun _ => True, fun s args => s.name = accessorName →
    ∃ tag rest r, args = .ofString tag :: rest ∧ c.recognize? ("$" ++ tag) = some r ∧
      r.direct = false⟩

/-- Resolving makes no callee the accessor: containers are no callees. -/
theorem resolves_calleeRule : c.Resolves calleeRule calleeRule where
  name hs _ := hs
  container _ h := by cases h
  param _ := trivial
  call := trivial

/-- Writing reads as calls makes calls of the accessor with the tag of a symbol. -/
theorem reads_dataRule : c.Reads calleeRule c.dataRule where
  name _ _ := trivial
  accessor := trivial
  param _ := trivial
  call hs he := absurd he (hs rfl)
  read {scope s rest} hs _ := by
    obtain ⟨-, r, hr, hd⟩ := isReadSymbol_eq_true_iff.1 hs
    exact ⟨tagOf s, rest, r, rfl, eq_dollar_tagOf hr ▸ hr, hd⟩

end Config

/-! ## Watchers of a tree -/

namespace Expr

variable {c : Config} {e : Expr}

theorem mem_watchers_iff {path : String} : path ∈ e.watchers ↔
    ∃ s args tag keys, call (symbol s) args ∈ e.walk ∧ s.name = accessorName ∧
      pathSegments args = tag :: keys ∧ ".".intercalate (tag :: keys) = path := by
  rw [watchers, mem_distinct, List.mem_filterMap]
  constructor
  · rintro ⟨x, hx, hw⟩
    unfold watched? at hw
    split at hw
    · cases hw
    · rename_i segments hne
      unfold watchedSegments at hw hne
      split at hw
      · rename_i s args
        split at hw
        · rename_i hs
          cases hw
          cases hp : pathSegments args with
          | nil => exact absurd (by simp [hs, hp]) hne
          | cons tag keys => exact ⟨s, args, tag, keys, hx, hs, hp, rfl⟩
        · simp_all
      · simp_all
  · rintro ⟨s, args, tag, keys, hx, hs, hp, rfl⟩
    exact ⟨_, hx, by simp [watched?, watchedSegments, hs, hp]⟩

theorem pathSegments_ofString (tag : String) (rest : List Expr) :
    pathSegments (ofString tag :: rest) = tag :: pathSegments rest := rfl

/-- A tree in which the calls of the accessor start with tags is watched by its own watchers. -/
theorem isWatched_watchers (h : e.Obeys c.dataRule [] false) : e.IsWatched e.watchers := by
  intro s args hw hs
  obtain ⟨tag, rest, r, rfl, -⟩ := h.call_of_mem_walk hw hs
  exact ⟨tag, pathSegments rest, rfl, mem_watchers_iff.2 ⟨s, _, _, _, hw, hs, rfl, rfl⟩⟩

/-- Its watchers start with these tags. -/
theorem isDataPath_of_mem_watchers (h : e.Obeys c.dataRule [] false) {path : String}
    (hp : path ∈ e.watchers) : c.IsDataPath path := by
  obtain ⟨s, args, tag, keys, hw, hs, hk, rfl⟩ := mem_watchers_iff.1 hp
  obtain ⟨tag', rest, r, rfl, hr, hd⟩ := h.call_of_mem_walk hw hs
  obtain ⟨rfl, rfl⟩ := List.cons.inj ((pathSegments_ofString tag' rest).symm.trans hk)
  exact ⟨tag', _, r, rfl, hr, hd⟩

/-! ## The sum of parts -/

variable {paths : List String}

theorem IsWatched.withoutParens (h : e.IsWatched paths) : e.withoutParens.IsWatched paths := by
  cases e with
  | parens inner => exact h.child List.mem_cons_self
  | _ => exact h

/-- The sum of parts is watched if each part is. -/
theorem isWatched_concatenate {parts : List Expr} (h : ∀ part ∈ parts, part.IsWatched paths) :
    (concatenate parts).IsWatched paths :=
  concatenate_of (isWatched_ofString "") (fun _ he => he.withoutParens)
    (fun _ _ hl hr => hl.add hr) h

end Expr

/-! ## Compiled programs -/

/-- The tree is watched by the paths, which start with tags of symbols. -/
structure Expr.IsWatchedData (c : Config) (paths : List String) (e : Expr) : Prop where
  watched : e.IsWatched paths
  data : ∀ path ∈ paths, c.IsDataPath path

namespace Linker

variable {c : Config} {source : String} {p : Program}

/-- The tree of a text in which the accessor is not named has data behind its calls. -/
theorem obeys_dataRule_of_linkTree {e tree : Expr} (hn : ¬ NamesAccessor source)
    (he : Expr.parse source = .ok e) (h : c.linkTree e = .ok tree) :
    tree.Obeys c.dataRule [] false := by
  obtain ⟨r, hr, rfl⟩ := map_eq_ok_iff.1 h
  obtain ⟨ts, last, ht, -, hs, -⟩ := Expr.parse_sound he
  have admits : Expr.Admits Config.calleeRule fun t => t.kind ≠ .name accessorName := by
    refine ⟨fun hne hk _ he => ?_, fun _ _ => trivial, fun _ _ => trivial⟩
    rw [hk.1, he] at hne
    exact hne rfl
  have names : ∀ t ∈ ts, t.kind ≠ .name accessorName := fun t hm hk =>
    hn ⟨_, ht, t, List.mem_append_left _ hm, hk⟩
  have resolved : r.Obeys Config.calleeRule [] false :=
    Config.resolves_calleeRule.obeys_resolved (fun _ h => by cases h) (hs.obeys admits names) hr
  exact Config.reads_dataRule.obeys_withReads resolved

theorem compileChecked_watched (hn : ¬ NamesAccessor source)
    (h : (ofConfig c).compileChecked source = .ok p) : p.tree.IsWatchedData c p.watchers := by
  obtain ⟨e, linked, code, he, hl, -, rfl⟩ := compileChecked_eq_ok_iff.1 h
  rw [link_ofConfig] at hl
  obtain ⟨tree, ht, rfl⟩ := map_eq_ok_iff.1 hl
  have rule := obeys_dataRule_of_linkTree hn he ht
  exact ⟨Expr.isWatched_watchers rule, fun _ => Expr.isDataPath_of_mem_watchers rule⟩

theorem compileSegment_watched {s : Segment} {part : Expr × List String}
    (hn : ∀ span, s = .expression span → ¬ NamesAccessor span)
    (h : (ofConfig c).compileSegment s = .ok part) : part.1.IsWatchedData c part.2 := by
  cases s with
  | literal text =>
    cases h
    exact ⟨Expr.isWatched_ofString text, by simp⟩
  | expression span =>
    obtain ⟨program, hp, h⟩ := bind_eq_ok_iff.1 h
    cases h
    have w := compileChecked_watched (hn span rfl) hp
    exact ⟨w.watched.parens, w.data⟩

theorem compileTemplate_watched {segments : List Segment} (hs : Template.split source = .ok segments)
    (hn : ∀ span, .expression span ∈ segments → ¬ NamesAccessor span)
    (h : (ofConfig c).compileTemplate source = .ok p) : p.tree.IsWatchedData c p.watchers := by
  obtain ⟨-, segments', parts, code, hs', hp, -, rfl⟩ := compileTemplate_eq_ok_iff.1 h
  cases hs.symm.trans hs'
  have w : ∀ part ∈ parts, part.1.IsWatchedData c part.2 :=
    forall_compileSegments (fun s hm part hc => compileSegment_watched
      (fun span he => hn span (he ▸ hm)) hc) hp
  have mem : ∀ part ∈ parts, ∀ path ∈ part.2, path ∈ distinct (parts.flatMap Prod.snd) :=
    fun part hm path hpath => mem_distinct.2 (List.mem_flatMap.2 ⟨part, hm, hpath⟩)
  refine ⟨Expr.isWatched_concatenate fun e he => ?_, fun path hpath => ?_⟩
  · obtain ⟨part, hm, rfl⟩ := List.mem_map.1 he
    exact (w part hm).watched.mono (mem part hm)
  · obtain ⟨part, hm, hpath⟩ := List.mem_flatMap.1 (mem_distinct.1 hpath)
    exact (w part hm).data path hpath

theorem Compiles.watched (h : (ofConfig c).Compiles p) : p.tree.IsWatchedData c p.watchers := by
  cases h with
  | source h hn => exact compileChecked_watched hn (compile_eq_ok_iff.1 h).2
  | template h hs hn => exact compileTemplate_watched hs hn h

end Linker

/-! ## Runs -/

/-- The watchers of a program cover every read that a run makes, whether it ends in a value or halts,
    and they start with tags of symbols, if neither the host nor the values that the program is called
    with bring arrow functions of their own. -/
theorem Program.reads_covered {c : Config} {p : Program} {host : Host} {direct : List Value}
    (hp : (Linker.ofConfig c).Compiles p) (hh : host.IsClosed)
    (hd : ∀ v ∈ direct, ∀ f, ¬ v.Holds f) (next : Nat) :
    (∀ r ∈ (Eval.start (p.call host direct) next).2.reads, r.IsCovered p.watchers) ∧
      ∀ path ∈ p.watchers, c.IsDataPath path := by
  refine ⟨?_, hp.watched.data⟩
  unfold call
  split
  · intro r hr
    cases hr
  · exact Expr.isCovered_of_eval hh (fun _ _ hb => hd _ (mem_of_bound hb)) hp.watched.watched next

/-- A read with a computed key in a callback of an array. -/
theorem Program.reads_covered_callback : ∃ p,
    (Linker.ofConfig .standard).compile "a.map(x => b[x])" = .ok p ∧
      p.watchers = ["scope.a", "scope.b"] ∧
      (∀ r ∈ (Eval.start (p.call (Documents.host [("scope", .object 0 [("a", .array 1 [.string "k"])])])
        [.undefined]) 2).2.reads, r.IsCovered p.watchers) ∧
      ∀ path ∈ p.watchers, Config.standard.IsDataPath path := by
  have silent : ¬ NamesAccessor "a.map(x => b[x])" :=
    not_namesAccessor Expr.tokenize_callback (by simp [accessorName])
  have closed : (Documents.host [("scope", .object 0 [("a", .array 1 [.string "k"])])]).IsClosed := by
    refine Documents.isClosed_host fun tag v hv => Value.not_holds_of_like ?_
    rw [Dict.get?_cons] at hv
    split at hv
    · cases hv
      exact .object _ (.cons _ (.array _ (.cons (.string _) .nil)) .nil)
    · cases hv
  have plain : ∀ v ∈ [Value.undefined], ∀ f, ¬ v.Holds f := by
    intro v hv
    obtain rfl := List.mem_singleton.1 hv
    exact Value.not_holds_of_like .undefined
  exact ⟨_, Linker.compile_callback, rfl,
    reads_covered (.source Linker.compile_callback silent) closed plain 2⟩

end DataBinding
