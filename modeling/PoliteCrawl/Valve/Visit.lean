import PoliteCrawl.Schedule.Simulation
import PoliteCrawl.Valve.Entry

namespace PoliteCrawl

/-- An item that knows what the predicate will say of it, and after how long, if ever. -/
structure Visitor where
  number : Nat
  verdict : Bool := true
  delay : Option Nat := some 0
  deriving DecidableEq, Repr

inductive VisitorWait where
  | start (visitor : Visitor) (timeout : Nat)
  | awaiting (due : Option Nat) (verdict : Bool)
  | done (verdict : Bool)
  deriving DecidableEq, Repr

abbrev Consultations := List (Nat × Nat)

def Visitor.predicate : WaitPredicate Visitor VisitorWait Consultations where
  start := .start
  step now _ phase asked :=
    match phase with
    | .start visitor timeout =>
      some { phase := .awaiting (visitor.delay.map (now + ·)) visitor.verdict
             shared := asked ++ [(visitor.number, timeout)] }
    | .awaiting due verdict =>
      if due.any (· ≤ now) then some { phase := .done verdict, shared := asked } else none
    | .done _ => none
  alarms
    | .awaiting due _ => due.toList
    | _ => []
  verdict?
    | .done verdict => some verdict
    | _ => none
  cancel _ _ asked := asked

inductive HallVisit (ι : Type) where
  /-- Enters and keeps a permit under the item's number. -/
  | enter (item : ι)
  /-- Enters as a guest. -/
  | pass (item : ι)
  /-- Lets a guest out. The valve does not look who it is. -/
  | exit (number : Nat)
  | drop (number : Nat)
  deriving DecidableEq, Repr

inductive VisitAnswer where
  | entered (admission : Option Admission)
  | left
  | dropped (existed : Bool)
  deriving DecidableEq, Repr

/-- A valve with all its permits and guests, each with how it got in, and what its predicate is
asked over. -/
structure Hall (σ : Type) [Inhabited σ] where
  valve : Valve
  permits : List (Nat × Admission) := []
  guests : List (Nat × Admission) := []
  asked : σ := default

namespace Hall

variable {σ : Type} [Inhabited σ]

def without (entries : List (Nat × Admission)) (number : Nat) : List (Nat × Admission) :=
  entries.eraseP (·.1 = number)

def hasPermit (h : Hall σ) (number : Nat) : Bool := h.permits.any (·.1 = number)

def drop (h : Hall σ) (number : Nat) : Hall σ :=
  if h.hasPermit number then
    { h with valve := h.valve.release, permits := without h.permits number }
  else h

/-- Keeps a permit; an older one under its number is given back. -/
def keep (h : Hall σ) (number : Nat) (admission : Admission) : Hall σ :=
  let h := h.drop number
  { h with permits := h.permits ++ [(number, admission)] }

def welcome (h : Hall σ) (number : Nat) (admission : Admission) : Hall σ :=
  { h with guests := h.guests ++ [(number, admission)] }

def exit (h : Hall σ) (number : Nat) : Hall σ :=
  { h with valve := h.valve.release, guests := without h.guests number }

end Hall

inductive HallPhase (ι ψ : Type) where
  | coming (due : Option Nat) (visit : HallVisit ι)
  | entering (item : ι) (keeps : Bool) (entry : EntryPhase ι ψ)
  | arriving (item : ι) (keeps : Bool) (admission : Admission)
  | looking (answer : VisitAnswer)
  | finished (answer : VisitAnswer) (inside time : Nat)

namespace HallPhase

variable {ι ψ σ : Type} [Inhabited σ]

def begin (h : Hall σ) : HallVisit ι → Progress (HallPhase ι ψ) (Hall σ)
  | .enter item => { phase := entering item true (.start item), shared := h }
  | .pass item => { phase := entering item false (.start item), shared := h }
  | .exit number => { phase := looking .left, shared := h.exit number }
  | .drop number =>
    { phase := looking (.dropped (h.hasPermit number)), shared := h.drop number }

def step (p : WaitPredicate ι ψ σ) (number : ι → Nat) (now task : Nat) (phase : HallPhase ι ψ)
    (h : Hall σ) : Option (Progress (HallPhase ι ψ) (Hall σ)) :=
  match phase with
  | coming due visit => if due.all (· ≤ now) then some (begin h visit) else none
  | entering item keeps entry =>
    match entry with
    | .settled none => some { phase := looking (.entered none), shared := h }
    | .settled (some admission) =>
      some { phase := arriving item keeps admission, shared := h }
    | _ =>
      (entry.step p now task h.valve h.asked).map fun next =>
        next.within (entering item keeps ·) fun (valve, asked) => { h with valve, asked }
  | arriving item keeps admission =>
    some { phase := looking (.entered (some admission))
           shared := if keeps then h.keep (number item) admission
                     else h.welcome (number item) admission }
  | looking answer => some { phase := finished answer h.valve.inside now, shared := h }
  | finished .. => none

def alarms (p : WaitPredicate ι ψ σ) : HallPhase ι ψ → List Nat
  | coming due _ => due.toList
  | entering _ _ entry => entry.alarms p
  | _ => []

def machine (p : WaitPredicate ι ψ σ) (number : ι → Nat) : Machine (HallPhase ι ψ) (Hall σ) where
  step now task phase h := (step p number now task phase h).map ({ · with })
  alarms := alarms p

def result? : HallPhase ι ψ → Option (VisitAnswer × Nat × Nat)
  | finished answer inside time => some (answer, inside, time)
  | _ => none

end HallPhase

abbrev Visit := HallVisit Visitor

abbrev ValveHall := Hall Consultations

abbrev VisitPhase := HallPhase Visitor VisitorWait

def ValveHall.receive (h : ValveHall) (now : Nat) (visits : List (Option Nat × Visit)) :
    Configuration VisitPhase ValveHall :=
  Simulation.complete (HallPhase.machine Visitor.predicate (·.number)) (fun _ => false)
    { now, tasks := visits.map fun (due, visit) => .coming due visit, shared := h }

end PoliteCrawl
