import PoliteCrawl.Valve.Basic

namespace PoliteCrawl

inductive EntryPhase (ι ψ : Type) where
  | start (item : ι)
  /-- There was no room below the threshold. -/
  | pressed (item : ι)
  | asking (wait : ψ) (cutoff : Nat)
  /-- The predicate let the item in, and it is not counted yet. -/
  | passing
  | settled (admission : Option Admission)

namespace EntryPhase

variable {ι ψ σ : Type}

def step (p : WaitPredicate ι ψ σ) (now task : Nat) (phase : EntryPhase ι ψ) (v : Valve) (s : σ) :
    Option (Progress (EntryPhase ι ψ) (Valve × σ)) :=
  match phase with
  | start item =>
    match v.enterBelow? with
    | some v => some { phase := settled (some .below), shared := (v, s) }
    | none => some { phase := pressed item, shared := (v, s) }
  | pressed item =>
    let (timeout, v) := v.drawTimeout
    some { phase := asking (p.start item timeout) (now + timeout), shared := (v, s) }
  | asking wait cutoff =>
    -- the answer is looked at first, and counts if the cutoff has come as well
    match p.verdict? wait with
    | some true => some { phase := passing, shared := (v, s) }
    | some false => some { phase := settled none, shared := (v, s) }
    | none =>
      match p.step now task wait s with
      | some next => some (next.within (asking · cutoff) (v, ·))
      | none =>
        if cutoff ≤ now then some { phase := settled none, shared := (v, p.cancel task wait s) }
        else none
  | passing => some { phase := settled (some .passed), shared := (v.count, s) }
  | settled _ => none

def alarms (p : WaitPredicate ι ψ σ) : EntryPhase ι ψ → List Nat
  | asking wait cutoff => p.alarms wait ++ [cutoff]
  | _ => []

end EntryPhase

end PoliteCrawl
