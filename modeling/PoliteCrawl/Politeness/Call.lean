import PoliteCrawl.Politeness.Admission
import PoliteCrawl.Politeness.Lookup
import PoliteCrawl.Schedule.Simulation

namespace PoliteCrawl

inductive HostCall where
  /-- Looks at the record of a host, while the gate's lock is held. -/
  | view (host : String)
  | status (host : String)
  | robots (host : String)
  /-- Waits for a grant. With a limit, the wait is given up from outside when that is over. -/
  | wait (host : String) (timeout limit : Option Nat)
  | enter (item : WorkItem) (timeout : Nat)
  | contains (host : String)
  | keep (host : String)
  /-- Looks at the record that is kept under a name. -/
  | viewKept (host : String)
  /-- Holds the lock of a host's gate for a while. -/
  | holdGate (host : String) (duration : Nat)
  | rest (duration : Nat)

structure HostView where
  host : String
  status : RobotsStatus
  robots : Option Robots
  gate : FetchGate

def HostRecord.view (r : HostRecord) : HostView where
  host := r.host
  status := r.status
  robots := r.outcome.join
  gate := r.gate

inductive HostAnswer where
  | done
  | view (view : Option HostView)
  | status (status : RobotsStatus)
  | robots (file : Option Robots)
  | verdict (value : Bool)
  | givenUp

/-- A table of hosts and the records that callers keep. -/
structure HostDesk where
  table : HostTable
  kept : List (String × Nat) := []

namespace HostDesk

def find (d : HostDesk) (host : String) : Nat × HostDesk :=
  let (record, table) := d.table.find host
  (record, { d with table })

/-- Keeps a record under a name, in place of an older one. -/
def keep (d : HostDesk) (name : String) (record : Nat) : HostDesk :=
  { d with kept := d.kept.filter (·.1 ≠ name) ++ [(name, record)] }

end HostDesk

inductive GateUse where
  | view
  | hold (duration : Nat)
  deriving DecidableEq, Repr

inductive CallPhase where
  | coming (due : Option Nat) (call : HostCall)
  | atGate (record : Nat) (use : GateUse)
  | inLine (record : Nat) (use : GateUse) (report : Nat)
  | atHand (record : Nat) (use : GateUse)
  | gripping (record : Nat) (waking : Nat)
  | looking (lookup : LookupPhase)
  | waiting (wait : WaitPhase) (cutoff : Option Nat)
  | entering (wait : HostWait)
  | resting (waking : Nat)
  | answering (answer : HostAnswer)
  | finished (answer : HostAnswer) (time : Nat)

namespace CallPhase

def begin (now : Nat) (d : HostDesk) : HostCall → CallPhase × HostDesk
  | .view host =>
    let (record, d) := d.find host
    (atGate record .view, d)
  | .status host =>
    let (record, d) := d.find host
    (answering (.status ((d.table.records[record]?.map (·.status)).getD .unchecked)), d)
  | .robots host => (looking (.start host), d)
  | .wait host timeout limit => (waiting (.start host timeout) (limit.map (now + ·)), d)
  | .enter item timeout => (entering (hostPredicate.start item timeout), d)
  | .contains host => (answering (.verdict (d.table.contains host)), d)
  | .keep host =>
    let (record, d) := d.find host
    (answering .done, d.keep host record)
  | .viewKept name =>
    match d.kept.lookup name with
    | some record => (atGate record .view, d)
    | none => (answering (.view none), d)
  | .holdGate host duration =>
    let (record, d) := d.find host
    (atGate record (.hold duration), d)
  | .rest duration => (resting (now + duration), d)

def step (now task : Nat) (phase : CallPhase) (d : HostDesk) :
    Option (Progress CallPhase HostDesk) :=
  match phase with
  | coming due call =>
    if due.all (· ≤ now) then
      let (phase, d) := begin now d call
      some { phase, shared := d }
    else none
  | atGate record use =>
    let table := d.table.requestGate record task
    some { phase := if table.holdsGate record task then atHand record use
                    else inLine record use (now + WaitPhase.reportInterval)
           shared := { d with table } }
  | inLine record use report =>
    if d.table.holdsGate record task then some { phase := atHand record use, shared := d }
    else if report ≤ now then
      some { phase := atGate record use
             shared := { d with table := d.table.leaveGate record task } }
    else none
  | atHand record use =>
    match use with
    | .view =>
      let view := d.table.records[record]?.map (·.view)
      let (table, woken) := d.table.releaseGate record
      some { phase := answering (.view view), shared := { d with table }, woken }
    | .hold duration => some { phase := gripping record (now + duration), shared := d }
  | gripping record waking =>
    if waking ≤ now then
      let (table, woken) := d.table.releaseGate record
      some { phase := answering .done, shared := { d with table }, woken }
    else none
  | looking (.finished outcome) => some { phase := answering (.robots outcome), shared := d }
  | looking lookup =>
    (lookup.step now task d.table).map (·.within looking ({ d with table := · }))
  | waiting (.finished granted) _ => some { phase := answering (.verdict granted), shared := d }
  | waiting wait cutoff =>
    match wait.step now task d.table with
    | some next => some (next.within (waiting · cutoff) ({ d with table := · }))
    | none =>
      if cutoff.any (· ≤ now) then
        some { phase := answering .givenUp
               shared := { d with table := wait.cancel task d.table } }
      else none
  | entering wait =>
    match hostPredicate.verdict? wait with
    | some verdict => some { phase := answering (.verdict verdict), shared := d }
    | none =>
      (hostPredicate.step now task wait d.table).map
        (·.within entering ({ d with table := · }))
  | resting waking =>
    if waking ≤ now then some { phase := answering .done, shared := d } else none
  | answering answer => some { phase := finished answer now, shared := d }
  | finished .. => none

def alarms : CallPhase → List Nat
  | coming due _ => due.toList
  | inLine _ _ report => [report]
  | gripping _ waking | resting waking => [waking]
  | looking lookup => lookup.alarms
  | waiting wait cutoff => wait.alarms ++ cutoff.toList
  | entering wait => hostPredicate.alarms wait
  | _ => []

def machine : Machine CallPhase HostDesk where
  step now task phase d := (step now task phase d).map ({ · with })
  alarms := alarms

def result? : CallPhase → Option (HostAnswer × Nat)
  | finished answer time => some (answer, time)
  | _ => none

end CallPhase

/-- The configuration in which several calls are about to be made. Each has the instant at which
it is. -/
def HostDesk.opening (d : HostDesk) (now : Nat) (calls : List (Option Nat × HostCall)) :
    Configuration CallPhase HostDesk :=
  { now, tasks := calls.map fun (due, call) => .coming due call, shared := d }

def HostDesk.serve (d : HostDesk) (now : Nat) (calls : List (Option Nat × HostCall)) :
    Configuration CallPhase HostDesk :=
  Simulation.complete CallPhase.machine (fun _ => false) (d.opening now calls)

end PoliteCrawl
