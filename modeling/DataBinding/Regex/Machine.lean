import DataBinding.Regex.Basic

/-!
# Patterns as machines

A machine is a list of steps. It starts at the first one; a step that reads a character or checks a
place goes on to the next one, and the others say where to go. A repetition is written out: as many
copies as it must make, then nested choices or a loop.

Results:

* `length_code`: the code of a pattern has as many steps as its size says.
-/

namespace DataBinding.Regex

open Unicode (CodeSet)

/-- A step of a machine. -/
inductive Step where
  /-- Reads one character of the set -/
  | read (s : CodeSet)
  | check (l : Look)
  /-- Notes the place under a number -/
  | note (slot : Nat)
  | goTo (target : Nat)
  /-- Goes to the first target, or else to the second -/
  | choose (first second : Nat)
  | accept

/-- The step that chooses between one more turn at `more` and the end at `done`. -/
def Step.turn (greedy : Bool) (more done : Nat) : Step :=
  if greedy then choose more done else choose done more

/-! ## Loops around code -/

/-- Code whose targets depend on where it starts. -/
abbrev Code := Nat → List Step

/-- A loop around a body of `n` steps that runs at least once. -/
def loopOnce (greedy : Bool) (n : Nat) (body : Code) : Code := fun start =>
  body start ++ [.turn greedy start (start + n + 1)]

/-- A body of `n` steps that may be left out. -/
def optional (greedy : Bool) (n : Nat) (body : Code) : Code := fun start =>
  .turn greedy (start + 1) (start + n + 1) :: body (start + 1)

/-- A loop around a body of `n` steps. A body that may take no character is tried first and left out
    only then. -/
def loop (greedy takes : Bool) (n : Nat) (body : Code) : Code := fun start =>
  if takes then optional greedy (n + 1) (fun s => body s ++ [.goTo start]) start
  else optional greedy (n + 1) (loopOnce greedy n body) start

/-- The number of steps of a loop around a body of `n` steps. -/
def loopSize (n : Nat) : Nat := n + 2

/-- `count` copies of a body of `n` steps. -/
def copies (n : Nat) (body : Code) : Nat → Code
  | 0 => fun _ => []
  | count + 1 => fun start => body start ++ copies n body count (start + n)

/-- Up to `count` copies of a body of `n` steps, each inside the choice for the one before it. All
    choices lead to the end. -/
def nested (greedy : Bool) (n : Nat) (body : Code) : Nat → Code
  | 0 => fun _ => []
  | count + 1 => fun start =>
    .turn greedy (start + 1) (start + (n + 1) * (count + 1)) ::
      (body (start + 1) ++ nested greedy n body count (start + 1 + n))

/-! ## Patterns -/

/-- The number of steps of some turns of a body of `n` steps. -/
def turnsSize (n least : Nat) : Option Nat → Nat
  | none => match least with
    | 0 => loopSize n
    | k + 1 => n * k + (n + 1)
  | some most => n * least + (n + 1) * (most - least)

/-- The code of some turns of a body of `n` steps. -/
def turnsCode (greedy takes : Bool) (n least : Nat) (most : Option Nat) (body : Code) : Code :=
  fun start =>
    match most with
    | none => match least with
      | 0 => loop greedy takes n body start
      | k + 1 => copies n body k start ++ loopOnce greedy n body (start + n * k)
    | some most => copies n body least start ++ nested greedy n body (most - least) (start + n * least)

mutual

/-- The number of steps of a pattern. -/
def size : Pattern → Nat
  | .empty => 0
  | .literal cs => cs.length
  | .chars _ _ | .look _ => 1
  | .group none p => size p
  | .group (some _) p => size p + 2
  | .seq ps => seqSize ps
  | .either ps => eitherSize ps
  | .turns p least most _ => turnsSize (size p) least most

/-- The number of steps of patterns one after the other. -/
def seqSize : List Pattern → Nat
  | [] => 0
  | p :: rest => size p + seqSize rest

/-- The number of steps of alternatives. -/
def eitherSize : List Pattern → Nat
  | [] => 0
  | [p] => size p
  | p :: rest => size p + 2 + eitherSize rest

end

mutual

/-- The code of a pattern. -/
def code : Pattern → Code
  | .empty, _ => []
  | .literal cs, _ => cs.map fun c => .read (.singleton c)
  | .chars s _, _ => [.read s]
  | .look l, _ => [.check l]
  | .group none p, start => code p start
  | .group (some i) p, start => .note (2 * i) :: (code p (start + 1) ++ [.note (2 * i + 1)])
  | .seq ps, start => seqCode ps start
  | .either ps, start => eitherCode ps start
  | .turns p least most greedy, start =>
    turnsCode greedy p.takes (size p) least most (code p) start

/-- The code of patterns one after the other. -/
def seqCode : List Pattern → Code
  | [], _ => []
  | p :: rest, start => code p start ++ seqCode rest (start + size p)

/-- The code of alternatives: each but the last is chosen or passed, and jumps to the end. -/
def eitherCode : List Pattern → Code
  | [], _ => []
  | [p], start => code p start
  | p :: rest, start =>
    .choose (start + 1) (start + size p + 2) :: (code p (start + 1) ++
      .goTo (start + size p + 2 + eitherSize rest) :: eitherCode rest (start + size p + 2))

end

/-! ## The length of code -/

theorem length_copies {n : Nat} {body : Code} (h : ∀ s, (body s).length = n) (count s : Nat) :
    (copies n body count s).length = n * count := by
  induction count generalizing s with
  | zero => rfl
  | succ count ih => simp [copies, h, ih, Nat.mul_succ, Nat.add_comm]

theorem length_nested {n : Nat} {body : Code} (greedy : Bool) (h : ∀ s, (body s).length = n)
    (count s : Nat) : (nested greedy n body count s).length = (n + 1) * count := by
  induction count generalizing s with
  | zero => rfl
  | succ count ih =>
    simp only [nested, List.length_cons, List.length_append, h, ih, Nat.mul_succ]
    omega

theorem length_loop {n : Nat} {body : Code} (greedy takes : Bool) (h : ∀ s, (body s).length = n)
    (s : Nat) : (loop greedy takes n body s).length = loopSize n := by
  unfold loop
  split <;> simp [optional, loopOnce, loopSize, h]

theorem length_turnsCode {n : Nat} {body : Code} (greedy takes : Bool) (least : Nat)
    (most : Option Nat) (h : ∀ s, (body s).length = n) (s : Nat) :
    (turnsCode greedy takes n least most body s).length = turnsSize n least most := by
  cases most with
  | some most => simp [turnsCode, turnsSize, length_copies h, length_nested greedy h]
  | none =>
    cases least with
    | zero => exact length_loop greedy takes h s
    | succ k => simp [turnsCode, turnsSize, length_copies h, loopOnce, h]

mutual

/-- The code of a pattern has as many steps as its size says. -/
theorem length_code : (p : Pattern) → (s : Nat) → (code p s).length = size p
  | .empty, _ | .literal _, _ | .chars _ _, _ | .look _, _ => by simp [code, size]
  | .group none p, s => by simp [code, size, length_code p]
  | .group (some _) p, s => by simp [code, size, length_code p]
  | .seq ps, s => by simp [code, size, length_seqCode ps]
  | .either ps, s => by simp [code, size, length_eitherCode ps]
  | .turns p least most greedy, s => by
    rw [code, size]
    exact length_turnsCode _ _ _ _ (length_code p) s

/-- The code of a sequence has as many steps as its size says. -/
theorem length_seqCode : (ps : List Pattern) → (s : Nat) → (seqCode ps s).length = seqSize ps
  | [], _ => by simp [seqCode, seqSize]
  | p :: rest, s => by simp [seqCode, seqSize, length_code p, length_seqCode rest]

/-- The code of alternatives has as many steps as its size says. -/
theorem length_eitherCode : (ps : List Pattern) → (s : Nat) →
    (eitherCode ps s).length = eitherSize ps
  | [], _ => by simp [eitherCode, eitherSize]
  | [p], s => by simp [eitherCode, eitherSize, length_code p]
  | p :: q :: rest, s => by
    simp only [eitherCode, eitherSize, List.length_cons, List.length_append, length_code p,
      length_eitherCode (q :: rest)]
    omega

end

/-- The machine of a pattern. It notes the ends of the whole match under 0 and 1. -/
def Pattern.machine (p : Pattern) : Array Step :=
  (code (.group (some 0) p) 0 ++ [Step.accept]).toArray

end DataBinding.Regex
