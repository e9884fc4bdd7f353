import DataBinding.Proofs.Grammar.Complete

/-!
# Pipelines

What the parsers of stages and of pipelines take and find. Behind a pipe stands a name or a call of a
name, and what follows it is another pipe or the end of the input.

Results:

* `Expr.stages_sound`, `Expr.pipeline_sound`: what the parsers give is spelled by what they take.
* `Expr.stagesAt_complete`, `Expr.pipelineAt_complete`: up to the end of the input they find what is
  spelled.
-/

namespace DataBinding

namespace Expr

open Tokens

/-- A pipeline at a place, without the bound on what it leaves. -/
def pipelineAt (c : Tokens) : Except ParseError (Expr × Tokens) := unbounded (parsePipeline c)

theorem pipelineAt_eq (c : Tokens) : pipelineAt c = (do
    let (e, c₁) ← expressionAt c
    let (stages, c₂) ← stagesAt c₁
    return (if stages.isEmpty then e else .pipeline e stages, c₂)) := by
  unfold pipelineAt expressionAt stagesAt parsePipeline
  simp only [unbounded_bind, bind_unbounded]
  rfl

/-! ## What is taken -/

/-- A stage is a name or a call of a name. -/
theorem spelled_of_stage? {e : Expr} {s : Symbol} {args : List Expr} {ts us : List Token}
    {stages : List (Symbol × List Expr)} {pipe : Token} (h : e.stage? = some (s, args))
    (he : Spelled e ts) (hp : pipe.kind = .operator .pipe) (hs : SpelledStages stages us) :
    SpelledStages ((s, args) :: stages) (pipe :: (ts ++ us)) := by
  cases he with
  | symbol ht =>
    cases h
    exact .name hp ht hs
  | call hf ho hx hc =>
    cases hf with
    | symbol ht =>
      cases h
      simpa using SpelledStages.call hp ht ho hx hc hs
    | _ => cases h
  | _ => cases h

theorem stratifiedList_of_stage? {e : Expr} {s : Symbol} {args : List Expr}
    (h : e.stage? = some (s, args)) (st : e.Stratified) : StratifiedList args := by
  cases e with
  | symbol =>
    cases h
    trivial
  | call callee =>
    cases callee with
    | symbol =>
      cases h
      exact st.2.1
    | _ => cases h
  | _ => cases h

/-- What the parser of stages gives, by induction on the number of tokens ahead. -/
theorem stages_sound {c c' : Tokens} {stages : List (Symbol × List Expr)}
    (h : stagesAt c = .ok (stages, c')) :
    ∃ ts, c.Leads ts c' ∧ SpelledStages stages ts ∧ StratifiedStages stages := by
  rw [stagesAt_eq] at h
  split at h
  · rename_i hp
    obtain ⟨c₁, h₁, h⟩ := bind_eq_ok_iff.1 h
    have l₁ := leads_of_skip h₁
    obtain ⟨⟨e, c₂⟩, h₂, h⟩ := bind_eq_ok_iff.1 h
    obtain ⟨ts, l₂, f, -⟩ := (sound c₁).chain h₂
    have l₃ := l₁.cons l₂
    dsimp only at h
    split at h
    · cases h
    · rename_i stage hstage
      obtain ⟨s, args⟩ := stage
      have hlt := l₃.size_lt
      obtain ⟨⟨rest, c₃⟩, h₃, h⟩ := bind_eq_ok_iff.1 h
      cases h
      obtain ⟨us, l₄, s₄, st₄⟩ := stages_sound h₃
      exact ⟨_, l₃.trans l₄, spelled_of_stage? hstage f.spelled (atOperator_iff.1 hp) s₄,
        stratifiedList_of_stage? hstage f.stratified, st₄⟩
  · cases h
    exact ⟨[], .refl c, .nil, trivial⟩
termination_by c.size

/-- A well stratified tree is a well stratified text. -/
theorem Stratified.stratifiedText {e : Expr} (st : e.Stratified) : StratifiedText e := by
  cases e with
  | pipeline => exact st.elim
  | _ => exact st

theorem pipeline_sound {c c' : Tokens} {e : Expr} (h : pipelineAt c = .ok (e, c')) :
    ∃ ts, c.Leads ts c' ∧ SpelledText e ts ∧ StratifiedText e := by
  rw [pipelineAt_eq] at h
  obtain ⟨⟨input, c₁⟩, h₁, h⟩ := bind_eq_ok_iff.1 h
  obtain ⟨ts, l₁, f₁, -⟩ := (sound c).expression h₁
  obtain ⟨⟨stages, c₂⟩, h₂, h⟩ := bind_eq_ok_iff.1 h
  obtain ⟨us, l₂, s₂, st₂⟩ := stages_sound h₂
  cases h
  refine ⟨ts ++ us, l₁.trans l₂, ?_⟩
  cases stages with
  | nil =>
    cases s₂
    rw [List.append_nil]
    exact ⟨.expression f₁.spelled, f₁.stratified.stratifiedText⟩
  | cons stage rest =>
    exact ⟨.pipeline f₁.spelled s₂, f₁.stratified, by simp, st₂⟩

/-! ## What is found -/

/-- A place where a stage can end. -/
def AtStageEnd (c : Tokens) : Prop := c.head.kind = .eof ∨ c.head.kind = .operator .pipe

theorem AtStageEnd.rests {c : Tokens} (h : AtStageEnd c) : c.Rests := by
  rcases h with h | h
  · constructor <;> rw [Bool.eq_false_iff] <;> simp [h]
  · exact rests_of_operator h

theorem AtStageEnd.stops {c : Tokens} (h : AtStageEnd c) : c.Stops := by
  rcases h with h | h
  · exact stops_of_ne_operator (by simp [h])
  · refine ⟨Option.eq_none_iff_forall_ne_some.2 fun op hop => ?_, ?_⟩
    · rw [binary?_eq_some_iff, h] at hop
      cases hop
    · rw [Bool.eq_false_iff]
      simp [h]

theorem SpelledStages.atStageEnd {stages : List (Symbol × List Expr)} {us : List Token}
    {c c' : Tokens} (hs : SpelledStages stages us) (l : c.Leads us c') (he : c'.head.kind = .eof) :
    AtStageEnd c := by
  cases hs with
  | nil => exact .inl (l.eq_of_nil ▸ he)
  | name hp | call hp => exact .inr (l.head_eq ▸ hp)

theorem stagesAt_of_postfixAt {s : Symbol} {args : List Expr} {stages : List (Symbol × List Expr)}
    {e : Expr} {c c₁ c₂ c' : Tokens} (hp : c.head.kind = .operator .pipe) (h₁ : c.skip = .ok c₁)
    (h₂ : postfixAt c₁ = .ok (e, c₂)) (he : e.stage? = some (s, args))
    (h : stagesAt c₂ = .ok (stages, c')) : stagesAt c = .ok ((s, args) :: stages, c') := by
  rw [stagesAt_eq, if_pos (atOperator_iff.2 hp)]
  simp [bind, Except.bind, h₁, h₂, he, h, pure, Except.pure]

/-- Up to the end of the input the parser of stages finds what is spelled. -/
theorem stagesAt_complete {stages : List (Symbol × List Expr)} {us : List Token} {c c' : Tokens}
    (hs : SpelledStages stages us) (st : StratifiedStages stages) (l : c.Leads us c')
    (he : c'.head.kind = .eof) : stagesAt c = .ok (stages, c') := by
  induction hs generalizing c with
  | nil =>
    rw [l.eq_of_nil, stagesAt_eq, if_neg (by simp [he])]
    rfl
  | @name s stages pipe t us hp ht hs ih =>
    obtain ⟨c₁, h₁, l₁⟩ := l.skip
    rw [show t :: us = [t] ++ us from rfl] at l₁
    obtain ⟨c₂, l₂, l₃⟩ := l₁.split
    have hend := hs.atStageEnd l₃ he
    refine stagesAt_of_postfixAt (e := .symbol s) (l.head_eq ▸ hp) h₁ ?_ rfl (ih st.2 l₃)
    rw [(complete (.symbol s)).chain (.symbol ht) trivial rfl l₂ hend.rests.arrow,
      accessesAt_of_rests _ hend.rests]
  | @call s args stages pipe t opening closing xs us hp ht ho hx hc hs ih =>
    obtain ⟨c₁, h₁, l₁⟩ := l.skip
    rw [show t :: opening :: (xs ++ closing :: us) =
      ([t] ++ opening :: (xs ++ [closing])) ++ us by simp] at l₁
    obtain ⟨c₂, l₂, l₃⟩ := l₁.split
    have hend := hs.atStageEnd l₃ he
    refine stagesAt_of_postfixAt (e := .call (.symbol s) args) (l.head_eq ▸ hp) h₁ ?_ rfl
      (ih st.2 l₃)
    rw [(complete (.call (.symbol s) args)).chain (.call (.symbol ht) ho hx hc)
      ⟨trivial, st.1, Nat.le_refl _, rfl⟩ rfl l₂ hend.rests.arrow, accessesAt_of_rests _ hend.rests]

/-- Up to the end of the input the parser of pipelines finds what is spelled. -/
theorem pipelineAt_complete {e : Expr} {ts : List Token} {c c' : Tokens} (s : SpelledText e ts)
    (st : StratifiedText e) (l : c.Leads ts c') (he : c'.head.kind = .eof) :
    pipelineAt c = .ok (e, c') := by
  cases s with
  | expression s =>
    have st : e.Stratified := by
      cases s <;> exact st
    have hend : AtStageEnd c' := .inl he
    rw [pipelineAt_eq, (complete e).expression s st l hend.rests hend.stops]
    simp only [bind, Except.bind]
    rw [stagesAt_complete .nil trivial (.refl c') he]
    rfl
  | @pipeline input stages ts us s hs =>
    obtain ⟨st, hne, sts⟩ := st
    obtain ⟨c₁, l₁, l₂⟩ := l.split
    have hend := hs.atStageEnd l₂ he
    rw [pipelineAt_eq, (complete input).expression s st l₁ hend.rests hend.stops]
    simp only [bind, Except.bind]
    rw [stagesAt_complete hs sts l₂ he]
    simp [pure, Except.pure, hne]

end Expr

end DataBinding
