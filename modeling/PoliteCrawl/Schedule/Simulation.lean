import PoliteCrawl.Schedule.Machine
import PoliteCrawl.Time.Clock

/-!
One order in which tasks can run, on a clock that moves only when nothing else does. Tasks that are
ready run in the order they became so, each until it has to wait. Then come tasks that let others go
first, and then the clock goes on to the next alarm, in whole milliseconds.
-/

namespace PoliteCrawl

structure Simulation (φ σ : Type) where
  config : Configuration φ σ
  current : Option Nat := none
  ready : List Nat := []
  /-- Tasks that are ready and let others go first. -/
  patient : List Nat := []
  /-- When alarms ring, in milliseconds, and for which task, in the order they were set. -/
  alarms : List (Nat × Nat) := []

namespace Simulation

variable {φ σ : Type}

/-- Adds tasks to those that are ready, each once. -/
def wake (isPatient : Nat → Bool) (s : Simulation φ σ) (tasks : List Nat) : Simulation φ σ :=
  tasks.foldl (fun s task =>
    if isPatient task then
      if s.patient.contains task then s else { s with patient := s.patient ++ [task] }
    else if s.ready.contains task then s
    else { s with ready := s.ready ++ [task] }) s

def setAlarms (s : Simulation φ σ) (task : Nat) (instants : List Nat) : Simulation φ σ :=
  let wanted := (instants.map fun t => (Time.ringing t, task)).eraseDups
  let kept := s.alarms.filter fun a => a.2 ≠ task || wanted.contains a
  { s with alarms := kept ++ wanted.filter fun a => !kept.contains a }

def nextAlarm? (s : Simulation φ σ) : Option Nat := (s.alarms.map (·.1)).min?

def next? (m : Machine φ σ) (isPatient : Nat → Bool) (s : Simulation φ σ) :
    Option (Simulation φ σ) :=
  match s.current with
  | some task =>
    match m.stepAt s.config task with
    | some p =>
      let count := s.config.tasks.length
      let s := { s with config := s.config.after task p }
      some (s.wake isPatient (p.woken ++ (List.range p.spawned.length).map (count + ·)))
    | none =>
      let instants := (s.config.tasks[task]?.map m.alarms).getD []
      some ({ s with current := none }.setAlarms task instants)
  | none =>
    match s.ready, s.patient, s.nextAlarm? with
    | task :: ready, _, _ => some { s with current := some task, ready }
    | [], task :: patient, _ => some { s with current := some task, patient }
    | [], [], some millis =>
      let now := max s.config.now (Time.ofMillis millis)
      let (rung, alarms) := s.alarms.partition (·.1 = millis)
      let s := { s with config := { s.config with now }, alarms }
      -- whoever an alarm wakes does not let others go first
      some (s.wake (fun _ => false) (rung.map (·.2)))
    | [], [], none => none

def run (m : Machine φ σ) (isPatient : Nat → Bool) : (turns : Nat) → Simulation φ σ →
    Simulation φ σ
  | 0, s => s
  | turns + 1, s =>
    match s.next? m isPatient with
    | some s => run m isPatient turns s
    | none => s

/-- More turns than any simulation can take in practice. -/
def turns : Nat := 2 ^ 62

def complete (m : Machine φ σ) (isPatient : Nat → Bool) (config : Configuration φ σ) :
    Configuration φ σ :=
  let (patient, ready) := (List.range config.tasks.length).partition isPatient
  (run m isPatient turns { config, ready, patient }).config

end Simulation

end PoliteCrawl
