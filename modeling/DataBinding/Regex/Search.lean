import DataBinding.Regex.Machine
import DataBinding.Text.Search

/-!
# Searching texts

A machine runs over a text with all its threads in step. The threads at a place are in the order in
which their ways of matching count, and no two of them stand at one step: of two the first decides.
While nothing has matched yet, a thread for a match that starts here joins behind all others.

Results:

* `spread` ends because every step is marked before its successors are tried; the measure counts the
  steps not yet marked.
-/

namespace DataBinding.Regex

/-- What a match has noted: places under numbers, the last note first. -/
abbrev Notes := List (Nat × Nat)

/-- A way of matching up to some place. -/
structure Thread where
  step : Nat
  notes : Notes

/-- A place in a text. -/
structure Place where
  position : Nat
  before : Option Char
  rest : List Char

namespace Place

/-- The start of a text. -/
def start (text : List Char) : Place := ⟨0, none, text⟩

/-- The place after the next character. -/
def next? (p : Place) : Option Place :=
  match p.rest with
  | [] => none
  | c :: rest => some ⟨p.position + 1, some c, rest⟩

/-- The place after `n` more characters. -/
def skip (p : Place) (n : Nat) : Place :=
  if n = 0 then p
  else ⟨p.position + n, (p.rest.take n).getLast?.or p.before, p.rest.drop n⟩

end Place

/-- The threads at a place, each at a step that reads or accepts, and the marks of all steps that
    were met on the way. -/
structure Front where
  threads : Array Thread
  marks : Array Bool

/-- No threads at a place, for a machine of `n` steps. -/
def Front.empty (n : Nat) : Front := ⟨#[], Array.replicate n false⟩

/-- The number of steps without a mark. -/
def Front.unmarked (f : Front) : Nat := f.marks.count false

/-- Marks a step. -/
def Front.mark (f : Front) (i : Nat) (h : i < f.marks.size) : Front :=
  { f with marks := f.marks.set i true }

theorem Front.unmarked_mark {f : Front} {i : Nat} (h : i < f.marks.size)
    (hm : f.marks[i] = false) : (f.mark i h).unmarked < f.unmarked := by
  have hpos : 0 < Array.count false f.marks := by
    rw [Array.count_pos_iff]
    exact hm ▸ Array.getElem_mem h
  simp only [Front.unmarked, Front.mark, Array.count_set, hm]
  simp only [beq_self_eq_true, if_true]
  rw [if_neg (by decide)]
  omega

/-- Adds to a front what the threads of a list reach at a place without reading, the first of them
    first. -/
def spread (m : Array Step) (p : Place) (stack : List Thread) (f : Front) : Front :=
  match stack with
  | [] => f
  | t :: stack =>
    if h : t.step < f.marks.size then
      if hm : f.marks[t.step] = true then spread m p stack f
      else
        have := Front.unmarked_mark h (Bool.eq_false_iff.2 hm)
        let f' := f.mark t.step h
        match m[t.step]? with
        | some (.goTo target) => spread m p (⟨target, t.notes⟩ :: stack) f'
        | some (.choose first second) =>
          spread m p (⟨first, t.notes⟩ :: ⟨second, t.notes⟩ :: stack) f'
        | some (.note slot) =>
          spread m p (⟨t.step + 1, (slot, p.position) :: t.notes⟩ :: stack) f'
        | some (.check l) =>
          if l.holds p.before p.rest.head? then spread m p (⟨t.step + 1, t.notes⟩ :: stack) f'
          else spread m p stack f'
        | some (.read _) | some .accept =>
          spread m p stack { f' with threads := f'.threads.push t }
        | none => spread m p stack f'
    else spread m p stack f
termination_by 2 * f.unmarked + stack.length
decreasing_by all_goals simp only [List.length_cons, Front.unmarked] at *; omega

/-- Adds to the next front what a thread reaches by reading `c`. The place is the one after `c`. -/
def advance (m : Array Step) (c : Char) (p : Place) (t : Thread) (f : Front) : Front :=
  match m[t.step]? with
  | some (.read s) => if s.holds c then spread m p [⟨t.step + 1, t.notes⟩] f else f
  | _ => f

/-- Does the thread accept? -/
def accepts (m : Array Step) (t : Thread) : Bool :=
  match m[t.step]? with
  | some .accept => true
  | _ => false

/-- Runs on from a front at a place, where `found` is the best match so far. -/
def run (m : Array Step) (found : Option Notes) (f : Front) (position : Nat) (before : Option Char) :
    List Char → Option Notes
  | [] =>
    let f := enter f ⟨position, before, []⟩
    (f.threads.toList.find? (accepts m)).elim found fun t => some t.notes
  | c :: rest =>
    let f := enter f ⟨position, before, c :: rest⟩
    let threads := f.threads.toList
    let live := threads.takeWhile fun t => !accepts m t
    let found := (threads.find? (accepts m)).elim found fun t => some t.notes
    if live.isEmpty && found.isSome then found
    else
      let p : Place := ⟨position + 1, some c, rest⟩
      run m found (live.foldl (fun f t => advance m c p t f) (.empty m.size)) p.position p.before rest
where
  /-- The front with a thread that starts at its place, unless something has matched. -/
  enter (f : Front) (p : Place) : Front :=
    if found.isNone then spread m p [⟨0, []⟩] f else f

/-- A match: where it starts and ends, and its notes. -/
structure Match where
  start : Nat
  stop : Nat
  notes : Notes

/-- The first match at or after a place. -/
def find? (m : Array Step) (p : Place) : Option Match := do
  let notes ← run m none (.empty m.size) p.position p.before p.rest
  let start ← notes.lookup 0
  let stop ← notes.lookup 1
  return ⟨start, stop, notes⟩

/-- The place where group `i` starts and the one where it ends. -/
def Match.group? (r : Match) (i : Nat) : Option (Nat × Nat) := do
  let start ← r.notes.lookup (2 * i)
  let stop ← r.notes.lookup (2 * i + 1)
  return (start, stop)

/-- All matches from a place on, none of which overlap. With `blocked`, the empty match at this place
    does not count: it stands at the end of the match before. -/
def matchesFrom (m : Array Step) (p : Place) (blocked : Bool) : List Match :=
  match find? m p with
  | none => []
  | some r =>
    if r.stop ≤ p.position then
      if blocked then
        match _h : p.next? with
        | none => []
        | some q => matchesFrom m q false
      else r :: matchesFrom m p true
    else
      match _h : p.rest with
      | [] => [r]
      | _ :: _ => r :: matchesFrom m (p.skip (r.stop - p.position)) true
termination_by (p.rest.length, if blocked then 0 else 1)
decreasing_by
  · have hlt : q.rest.length < p.rest.length := by
      unfold Place.next? at _h
      split at _h
      · simp at _h
      · rename_i hr
        obtain rfl := Option.some.inj _h
        simp [hr]
    exact Prod.Lex.left _ _ hlt
  · rename_i hb
    refine Prod.Lex.right _ ?_
    simp [hb]
  · refine Prod.Lex.left _ _ ?_
    rename_i hs _ _
    have : r.stop - p.position ≠ 0 := by omega
    simp only [Place.skip, this, if_false, List.length_drop, _h, List.length_cons]
    omega

end DataBinding.Regex
