import PoliteCrawl.Politeness.Hosts
import PoliteCrawl.Schedule.Machine

/-!
Looking up the robots file of a host. Whoever gets the lock first asks for the file while all others
wait in line; they find the outcome when their turn comes. A delay that the file asks for raises the
interval of the host's gate before the outcome is there for anyone to see.
-/

namespace PoliteCrawl

inductive LookupPhase where
  | start (host : String)
  | found (record : Nat)
  | atLock (record : Nat)
  /-- In line for the lock, up to a report after which it is asked for anew. -/
  | inLine (record : Nat) (report : Nat)
  | holding (record : Nat)
  | asking (record : Nat)
  /-- Waiting for an answer, which comes at an instant or never. -/
  | awaiting (record : Nat) (outcome : Option Robots) (due : Option Nat)
  /-- About to ask for the lock of the gate, to raise its interval. -/
  | atGate (record : Nat) (outcome : Option Robots) (delay : Nat)
  | inGateLine (record : Nat) (outcome : Option Robots) (delay : Nat) (report : Nat)
  | raising (record : Nat) (outcome : Option Robots) (delay : Nat)
  | storing (record : Nat) (outcome : Option Robots)
  | leaving (record : Nat) (outcome : Option Robots)
  | finished (outcome : Option Robots)
  deriving DecidableEq, Repr

namespace LookupPhase

def reportInterval : Nat := Time.ofSeconds 10

def gateReportInterval : Nat := Time.ofSeconds 360

/-- An error counts as no restrictions. -/
def outcomeOf : Except CrawlError (Option Robots) → Option Robots
  | .ok robots => robots
  | .error _ => none

/-- The interval that a robots file asks for, as far as it counts. -/
def wishedInterval? (t : HostTable) (outcome : Option Robots) : Option Nat :=
  if t.maxCrawlDelay = 0 then none
  else (outcome.bind (·.crawlDelay? t.agent)).map (min · t.maxCrawlDelay)

def step (now task : Nat) (phase : LookupPhase) (t : HostTable) :
    Option (Progress LookupPhase HostTable) :=
  match phase with
  | start host =>
    let (record, t) := t.find host
    some { phase := found record, shared := t }
  | found record =>
    match t.outcome record with
    | some outcome => some { phase := finished outcome, shared := t }
    | none => some { phase := atLock record, shared := t }
  | atLock record =>
    let t := t.requestRobots record task
    some { phase := if t.holdsRobots record task then holding record
                    else inLine record (now + reportInterval)
           shared := t }
  | inLine record report =>
    if t.holdsRobots record task then some { phase := holding record, shared := t }
    else if report ≤ now then some { phase := atLock record, shared := t.leaveRobots record task }
    else none
  | holding record =>
    -- another task may have stored it while this one was in line
    match t.outcome record with
    | some outcome => some { phase := leaving record outcome, shared := t }
    | none => some { phase := asking record, shared := t }
  | asking record =>
    match t.records[record]? with
    | none => none
    | some r =>
      let reply := t.service t.asked r.host
      some { phase := awaiting record (outcomeOf reply.answer) (reply.delay.map (now + ·))
             shared := { t with asked := t.asked ++ [(now, r.host)] } }
  | awaiting record outcome due =>
    if due.any (· ≤ now) then
      some { phase := match wishedInterval? t outcome with
              | some delay => atGate record outcome delay
              | none => storing record outcome
             shared := t }
    else none
  | atGate record outcome delay =>
    let t := t.requestGate record task
    some { phase := if t.holdsGate record task then raising record outcome delay
                    else inGateLine record outcome delay (now + gateReportInterval)
           shared := t }
  | inGateLine record outcome delay report =>
    if t.holdsGate record task then some { phase := raising record outcome delay, shared := t }
    else if report ≤ now then
      some { phase := atGate record outcome delay, shared := t.leaveGate record task }
    else none
  | raising record outcome delay =>
    let (t, woken) :=
      (t.update record fun r => { r with gate := r.gate.raise delay }).releaseGate record
    some { phase := storing record outcome, shared := t, woken }
  | storing record outcome =>
    some { phase := leaving record outcome, shared := t.store record outcome }
  | leaving record outcome =>
    let (t, woken) := t.releaseRobots record
    some { phase := finished outcome, shared := t, woken }
  | finished _ => none

def alarms : LookupPhase → List Nat
  | inLine _ report | inGateLine _ _ _ report => [report]
  | awaiting _ _ due => due.toList
  | _ => []

end LookupPhase

end PoliteCrawl
