import DataBinding.Proofs.Printing.Embedded
import DataBinding.Proofs.Program.Parts

/-!
# Pipelines and nested calls

A pipeline says with stages behind each other what nested calls say inside out. Both texts are made of the
same sources: in the pipeline the input stands in front and the arguments behind the names of their
stages, in the nested calls the input stands innermost, as the first argument. The tree of the one, with
its stages applied, is the tree of the other.

Results:

* `parse_pipelineText`: the tree of a pipeline.
* `IsPhrase.nestedText`: the tree of the nested calls.
* `Linker.compile_pipelineText`: a pipeline is compiled as the nested calls are.
-/

namespace DataBinding

open DataBinding.Expr (Spelled SpelledStages)

/-! ## Texts -/

/-- A stage of a pipeline in a text: a name, or a call of a name. -/
inductive StageText where
  | name (callee : String)
  | call (callee : String) (args : List String)

namespace StageText

def callee : StageText → String
  | name f => f
  | call f _ => f

def args : StageText → List String
  | name _ => []
  | call _ args => args

/-- The text of the stage -/
def text : StageText → String
  | name f => f
  | call f args => callText f args

/-- The characters of the stage behind a pipe -/
def piped (s : StageText) : List Char := ' ' :: '|' :: ' ' :: s.text.toList

end StageText

/-- The text of a pipeline: the input, and each stage behind a pipe. -/
def pipelineText (input : String) (stages : List StageText) : String :=
  stages.foldl (fun text s => text ++ " | " ++ s.text) input

/-- The text of nested calls: each callee gets the text before it as its first argument. -/
def nestedText (input : String) (stages : List StageText) : String :=
  stages.foldl (fun text s => callText s.callee (text :: s.args)) input

theorem toList_pipelineText (input : String) (stages : List StageText) :
    (pipelineText input stages).toList =
      input.toList ++ stages.flatMap StageText.piped := by
  induction stages generalizing input with
  | nil => exact (List.append_nil _).symm
  | cons s rest ih =>
    rw [pipelineText, List.foldl_cons, ← pipelineText, ih, List.flatMap_cons]
    simp [StageText.piped, String.toList_append]

/-- What stands in front of stages, or of none, is complete. -/
theorem endsTokens_stages (stages : List StageText) :
    Token.EndsTokens (stages.flatMap StageText.piped ++ []) := by
  cases stages with
  | nil => exact .nil
  | cons => exact .cons rfl

/-! ## Stages -/

/-- The stage has this text. -/
structure IsStage (s : StageText) (stage : Symbol × List Expr) : Prop where
  callee : IsPhrase s.callee (.symbol stage.1)
  args : List.Forall₂ IsPhrase s.args stage.2

theorem IsStage.exists_phrase {s : StageText} {stage : Symbol × List Expr} (h : IsStage s stage) :
    ∃ e, IsPhrase s.text e ∧ e.stage? = some stage := by
  obtain ⟨f, es⟩ := stage
  obtain ⟨hf, hargs⟩ := h
  cases s with
  | name f' =>
    cases hargs
    exact ⟨_, hf, rfl⟩
  | call f' args => exact ⟨_, hf.call hargs, rfl⟩

/-- A pipe in front of a blank. -/
theorem lexes_pipe {r : List Char} : Lexes false ['|'] (' ' :: r) true fun ts =>
    ∃ t, ts = [t] ∧ t.kind = .operator .pipe := by
  refine (lexes_of_scanKind (.operator .pipe) rfl rfl rfl fun p => ?_).imp
    fun ts ⟨t, ht, hk⟩ => ⟨t, ht, hk.1⟩
  rfl

/-- Stages behind each other, up to the end of a text. -/
theorem lexes_stages {texts : List StageText} {stages : List (Symbol × List Expr)}
    (h : List.Forall₂ IsStage texts stages) :
    Lexes false (texts.flatMap StageText.piped) [] false (SpelledStages stages) := by
  induction h with
  | nil => exact lexes_nil.imp fun ts hts => hts ▸ .nil
  | @cons s stage texts stages hs hrest ih =>
    obtain ⟨e, he, hstage⟩ := hs.exists_phrase
    have behind : Lexes true (s.text.toList ++ texts.flatMap StageText.piped) [] false
        fun ts => ∃ us ws, ts = us ++ ws ∧ Spelled e us ∧ SpelledStages stages ws :=
      (he.lexes _ (endsTokens_stages texts)).append ih fun us ws hu hw => ⟨us, ws, rfl, hu, hw⟩
    show Lexes false (' ' :: '|' :: ' ' :: (s.text.toList ++ _)) [] false _
    refine .blank (lexes_pipe.append behind.blank fun us ts hu hts => ?_)
    obtain ⟨pipe, rfl, hp⟩ := hu
    obtain ⟨us, ws, rfl, hus, hws⟩ := hts
    have spelled : SpelledStages (stage :: stages) (pipe :: (us ++ ws)) :=
      Expr.spelled_of_stage? hstage hus hp hws
    exact spelled

theorem stratifiedStages_of_stages {texts : List StageText} {stages : List (Symbol × List Expr)}
    (h : List.Forall₂ IsStage texts stages) : Expr.StratifiedStages stages := by
  induction h with
  | nil => trivial
  | cons hs _ ih => exact ⟨stratifiedList_of_phrases hs.args, ih⟩

/-! ## Trees -/

section

variable {input : String} {e : Expr} {texts : List StageText} {stages : List (Symbol × List Expr)}

/-- The tree of the text of a pipeline -/
theorem parse_pipelineText (hi : IsPhrase input e) (hs : List.Forall₂ IsStage texts stages)
    (hne : stages ≠ []) : Expr.parse (pipelineText input texts) = .ok (.pipeline e stages) := by
  have hlex : Lexes true (pipelineText input texts).toList [] false
      (Expr.SpelledText (.pipeline e stages)) := by
    rw [toList_pipelineText]
    exact (hi.lexes _ (endsTokens_stages texts)).append (lexes_stages hs)
      fun us ws hu hw => .pipeline hu hw
  obtain ⟨ts, last, htokens, hlast, hts⟩ := hlex.tokenize_eq
  exact Expr.parse_complete htokens hlast hts
    ⟨hi.stratified, hne, stratifiedStages_of_stages hs⟩

/-- The text of nested calls is read as the tree with the stages applied. -/
theorem IsPhrase.nestedText (hi : IsPhrase input e) (hs : List.Forall₂ IsStage texts stages) :
    IsPhrase (nestedText input texts) (e.applyStages stages) := by
  induction hs generalizing input e with
  | nil => exact hi
  | cons h _ ih => exact ih (h.callee.call (.cons hi h.args))

end

theorem Expr.withoutPipeline_eq_self {e : Expr} (h : e.isPipeline = false) : e.withoutPipeline = e := by
  cases e with
  | pipeline => cases h
  | _ => rfl

/-! ## Programs -/

/-- The text is a source without a pipeline. -/
def IsFlatSource (x : String) : Prop := ∃ e, Expr.parse x = .ok e ∧ e.isPipeline = false

theorem exists_phrases {args : List String} (h : ∀ x ∈ args, IsFlatSource x) :
    ∃ es, List.Forall₂ IsPhrase args es := by
  induction args with
  | nil => exact ⟨[], .nil⟩
  | cons x rest ih =>
    rw [List.forall_mem_cons] at h
    obtain ⟨e, he⟩ := h.1
    obtain ⟨es, hes⟩ := ih h.2
    exact ⟨e :: es, .cons (isPhrase_iff.2 he) hes⟩

theorem exists_stages {texts : List StageText} (h : ∀ s ∈ texts, IsToken s.callee (.name s.callee) ∧
    ∀ x ∈ s.args, IsFlatSource x) : ∃ stages, List.Forall₂ IsStage texts stages := by
  induction texts with
  | nil => exact ⟨[], .nil⟩
  | cons s rest ih =>
    rw [List.forall_mem_cons] at h
    obtain ⟨es, hes⟩ := exists_phrases h.1.2
    obtain ⟨stages, hstages⟩ := ih h.2
    exact ⟨(.ofName s.callee, es) :: stages, .cons ⟨isPhrase_name h.1.1, hes⟩ hstages⟩

namespace Linker

/-- Sources whose trees are the same without a pipeline have the same program. -/
theorem compile_congr {c : Config} {source source' : String} {e e' : Expr}
    (he : Expr.parse source = .ok e) (he' : Expr.parse source' = .ok e')
    (h : e.withoutPipeline = e'.withoutPipeline) :
    (ofConfig c).compile source = (ofConfig c).compile source' := by
  have linked : (ofConfig c).link e = (ofConfig c).link e' := by
    rw [link_ofConfig, link_ofConfig, Config.linkTree, Config.linkTree, Config.resolved,
      Config.resolved, h]
  rw [compile, compile, compileChecked, compileChecked, he, he']
  show (c.validate.mapError _ >>= fun _ => ((ofConfig c).link e).mapError _ >>= _) =
    (c.validate.mapError _ >>= fun _ => ((ofConfig c).link e').mapError _ >>= _)
  rw [linked]

/-- A pipeline whose input and arguments are sources without a pipeline is read as a pipeline, the nested
    calls of its stages are read as the tree with the stages applied, and the two have the same program or
    fail alike. -/
theorem compile_pipelineText (c : Config) {input : String} {stages : List StageText}
    (hi : IsFlatSource input) (hne : stages ≠ [])
    (hs : ∀ s ∈ stages, IsToken s.callee (.name s.callee) ∧ ∀ x ∈ s.args, IsFlatSource x) :
    (∃ e trees, Expr.parse (pipelineText input stages) = .ok (.pipeline e trees) ∧
      Expr.parse (nestedText input stages) = .ok (e.applyStages trees)) ∧
    (ofConfig c).compile (pipelineText input stages) =
      (ofConfig c).compile (nestedText input stages) := by
  obtain ⟨e, he⟩ := hi
  have phrase : IsPhrase input e := isPhrase_iff.2 he
  obtain ⟨trees, htrees⟩ := exists_stages hs
  have hne : trees ≠ [] := by
    rintro rfl
    cases htrees
    exact hne rfl
  have pipeline := parse_pipelineText phrase htrees hne
  have nested := phrase.nestedText htrees
  have same : (Expr.pipeline e trees).withoutPipeline = (e.applyStages trees).withoutPipeline :=
    (Expr.withoutPipeline_eq_self (isPhrase_iff.1 nested).2).symm
  exact ⟨⟨e, trees, pipeline, nested.parse_eq⟩, compile_congr pipeline nested.parse_eq same⟩

/-- A conditional as the input, a bare name as a stage, and an arrow function as an argument -/
theorem compile_pipelineText_conditional :
    pipelineText "a ? b : c" [.name "f", .call "g" ["x => x", "1"]] = "a ? b : c | f | g(x => x, 1)" ∧
      nestedText "a ? b : c" [.name "f", .call "g" ["x => x", "1"]] =
        "g(f(a ? b : c), x => x, 1)" ∧
      (ofConfig .standard).compile "a ? b : c | f | g(x => x, 1)" =
        (ofConfig .standard).compile "g(f(a ? b : c), x => x, 1)" := by
  have pipeline : pipelineText "a ? b : c" [.name "f", .call "g" ["x => x", "1"]] =
      "a ? b : c | f | g(x => x, 1)" := by cbv
  have nested : nestedText "a ? b : c" [.name "f", .call "g" ["x => x", "1"]] =
      "g(f(a ? b : c), x => x, 1)" := by cbv
  have conditional : IsFlatSource "a ? b : c" := by
    have tokens : tokenize "a ? b : c" = .ok [⟨.name "a", "a", 0⟩, ⟨.operator .question, "?", 2⟩,
        ⟨.name "b", "b", 4⟩, ⟨.punct .colon, ":", 6⟩, ⟨.name "c", "c", 8⟩, ⟨.eof, "", 9⟩] := by
      rw [tokenize_eq_ok_iff]
      iterate 5 refine Cursor.scan_cons rfl rfl ?_
      exact Cursor.scan_last rfl rfl
    refine ⟨.conditional (.ofName "a") (.ofName "b") (.ofName "c"), ?_, rfl⟩
    rw [Expr.parse, Tokens.ofSource_of_tokenize tokens]
    cbv
  have arrow : IsFlatSource "x => x" := by
    have tokens : tokenize "x => x" = .ok [⟨.name "x", "x", 0⟩, ⟨.arrow, "=>", 2⟩,
        ⟨.name "x", "x", 5⟩, ⟨.eof, "", 6⟩] := by
      rw [tokenize_eq_ok_iff]
      iterate 3 refine Cursor.scan_cons rfl rfl ?_
      exact Cursor.scan_last rfl rfl
    refine ⟨.arrow [.ofName "x"] (.ofName "x"), ?_, rfl⟩
    rw [Expr.parse, Tokens.ofSource_of_tokenize tokens]
    cbv
  have one : IsFlatSource "1" :=
    ⟨_, Expr.parse_of_scan (Cursor.scan_cons rfl rfl (Cursor.scan_last rfl rfl)) rfl
      (.literal (l := ⟨.number 1, "1"⟩) ⟨rfl, rfl⟩) trivial, rfl⟩
  have name : ∀ f ∈ ["f", "g"], IsToken f (.name f) := by
    rw [List.forall_mem_cons, List.forall_mem_singleton]
    exact ⟨⟨_, _, tokenize_eq_ok_iff.2 (Cursor.scan_cons rfl rfl (Cursor.scan_last rfl rfl)), rfl, rfl⟩,
      ⟨_, _, tokenize_eq_ok_iff.2 (Cursor.scan_cons rfl rfl (Cursor.scan_last rfl rfl)), rfl, rfl⟩⟩
  have stages : ∀ s ∈ [StageText.name "f", .call "g" ["x => x", "1"]],
      IsToken s.callee (.name s.callee) ∧ ∀ x ∈ s.args, IsFlatSource x := by
    rw [List.forall_mem_cons, List.forall_mem_singleton]
    refine ⟨⟨name "f" (by decide), List.forall_mem_nil _⟩, name "g" (by decide), ?_⟩
    exact List.forall_mem_cons.2 ⟨arrow, List.forall_mem_singleton.2 one⟩
  have compiled := compile_pipelineText .standard conditional (List.cons_ne_nil _ _) stages
  rw [pipeline, nested] at compiled
  exact ⟨pipeline, nested, compiled.2⟩

end Linker

end DataBinding
