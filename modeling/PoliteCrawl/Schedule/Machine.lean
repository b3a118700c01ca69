/-!
Tasks that share a state. A task takes one step after another until it has to wait: for a lock, for
an answer or for an instant. `Machine.Step` lets any task that can go on do so at any time.
-/

namespace PoliteCrawl

structure Progress (φ σ : Type) where
  phase : φ
  shared : σ
  /-- Tasks that a thing they wait for has happened to. -/
  woken : List Nat := []

/-- The same step of a task that is part of another. -/
def Progress.within {φ σ ψ τ : Type} (p : Progress φ σ) (phase : φ → ψ) (shared : σ → τ) :
    Progress ψ τ where
  phase := phase p.phase
  shared := shared p.shared
  woken := p.woken

/-- What a step of a whole task leads to. No part of a task can start another one. -/
structure Turn (φ σ : Type) extends Progress φ σ where
  spawned : List φ := []

structure Machine (φ σ : Type) where
  /-- A step of the task with a number, unless it has to wait. -/
  step : (now task : Nat) → φ → σ → Option (Turn φ σ)
  /-- The instants at which a task that waits wants to be woken, in the order it chose them. -/
  alarms : φ → List Nat

structure Configuration (φ σ : Type) where
  now : Nat
  tasks : List φ
  shared : σ

def Configuration.after {φ σ : Type} (c : Configuration φ σ) (task : Nat) (p : Turn φ σ) :
    Configuration φ σ :=
  { c with tasks := c.tasks.set task p.phase ++ p.spawned, shared := p.shared }

namespace Machine

variable {φ σ : Type} (m : Machine φ σ)

def stepAt (c : Configuration φ σ) (task : Nat) : Option (Turn φ σ) :=
  c.tasks[task]?.bind fun phase => m.step c.now task phase c.shared

/-- Either some task takes a step, or time passes. -/
inductive Step : Configuration φ σ → Configuration φ σ → Prop where
  | act {c : Configuration φ σ} {task : Nat} {p : Turn φ σ} (h : m.stepAt c task = some p) :
    Step c (c.after task p)
  | pass {c : Configuration φ σ} {later : Nat} (h : c.now ≤ later) :
    Step c { c with now := later }

inductive Steps : Configuration φ σ → Configuration φ σ → Prop where
  | refl (c : Configuration φ σ) : Steps c c
  | tail {a b c : Configuration φ σ} : Steps a b → m.Step b c → Steps a c

end Machine

end PoliteCrawl
