import PublishGate.Pattern.Expr

/-! # Patterns as programs -/

namespace PublishGate.Pattern

inductive Step where
  | accept
  | jump (next : Nat)
  | take (set : Charset) (next : Nat)
  | check (l : Look) (next : Nat)
  | fork (first second : Nat)
  | groupStart (next : Nat)
  | groupEnd (next : Nat)
  deriving DecidableEq, Repr, Inhabited

def Step.loop (greedy : Bool) (again leave : Nat) : Step :=
  if greedy then .fork again leave else .fork leave again

namespace Expr

def size : Expr → Nat
  | .empty => 1
  | .chars _ => 1
  | .look _ => 1
  | .group _ e => e.size + 2
  | .seq a b => a.size + b.size
  | .alt a b => a.size + b.size + 1
  | .optional _ e => e.size + 1
  | .plus _ e => e.size + 1
  | .star _ e => if e.mayTakeNothing then e.size + 2 else e.size + 1

/-- The steps of an expression, put at `place` and entered there, that go on at `next`. A loop
around what can match nothing is entered by a fork of its own, so that its first round is tried
before it is left. The groups are not told apart: a version pattern has one. -/
def steps (place next : Nat) : Expr → List Step
  | .empty => [.jump next]
  | .chars set => [.take set next]
  | .look l => [.check l next]
  | .group _ e => .groupStart (place + 1) :: (e.steps (place + 1) (place + 1 + e.size) ++ [.groupEnd next])
  | .seq a b => a.steps place (place + a.size) ++ b.steps (place + a.size) next
  | .alt a b =>
    .fork (place + 1) (place + 1 + a.size) ::
      (a.steps (place + 1) next ++ b.steps (place + 1 + a.size) next)
  | .optional greedy e => .loop greedy (place + 1) next :: e.steps (place + 1) next
  | .plus greedy e => e.steps place (place + e.size) ++ [.loop greedy place next]
  | .star greedy e =>
    if e.mayTakeNothing then
      .loop greedy (place + 1) next ::
        (e.steps (place + 1) (place + 1 + e.size) ++ [.loop greedy (place + 1) next])
    else .loop greedy (place + 1) next :: e.steps (place + 1) place

end Expr

structure Program where
  steps : Array Step
  deriving DecidableEq, Repr, Inhabited

def Program.ofExpr (e : Expr) : Program :=
  ⟨(e.steps 0 e.size ++ [Step.accept]).toArray⟩

end PublishGate.Pattern
