import PoliteCrawl.Politeness.Hosts
import PoliteCrawl.Schedule.Machine

/-!
Waiting until a host may be fetched from. Whoever holds the gate's lock reads the clock and the gate
and, if the gate is open, stamps the grant before the lock goes back. Else a sleep follows that ends
when the gate should be open, a random while later, or when the deadline has come.
-/

namespace PoliteCrawl

inductive WaitPhase where
  | start (host : String) (timeout : Option Nat)
  | atGate (record : Nat) (deadline : Option Nat)
  /-- In line for the lock, up to a report after which it is asked for anew. -/
  | inLine (record : Nat) (deadline : Option Nat) (report : Nat)
  | holding (record : Nat) (deadline : Option Nat)
  /-- Holding the lock; the gate was found open at an instant. -/
  | granting (record : Nat) (instant : Nat)
  /-- The gate was found shut, and would be open after `wait`. -/
  | shut (record : Nat) (deadline : Option Nat) (wait interval : Nat)
  | asleep (record : Nat) (deadline : Option Nat) (waking : Nat)
  | finished (granted : Bool)
  deriving DecidableEq, Repr

namespace WaitPhase

def reportInterval : Nat := Time.ofSeconds 360

def pauseUntil (now pause : Nat) : Option Nat → Nat
  | none => now + pause
  | some deadline => min (now + pause) deadline

def step (now task : Nat) (phase : WaitPhase) (t : HostTable) :
    Option (Progress WaitPhase HostTable) :=
  match phase with
  | start host timeout =>
    let (record, t) := t.find host
    some { phase := atGate record (timeout.map (now + ·)), shared := t }
  | atGate record deadline =>
    let t := t.requestGate record task
    some { phase := if t.holdsGate record task then holding record deadline
                    else inLine record deadline (now + reportInterval)
           shared := t }
  | inLine record deadline report =>
    if t.holdsGate record task then some { phase := holding record deadline, shared := t }
    else if report ≤ now then
      some { phase := atGate record deadline, shared := t.leaveGate record task }
    else none
  | holding record deadline =>
    match t.records[record]? with
    | none => none
    | some r =>
      -- the lock is kept from here to the grant, so that the gate is still open then
      match r.gate.untilOpen now with
      | none => some { phase := granting record now, shared := t }
      | some wait =>
        let (t, woken) := t.releaseGate record
        some { phase := shut record deadline wait r.gate.minInterval, shared := t, woken }
  | granting record instant =>
    let (t, woken) :=
      (t.update record fun r => { r with gate := r.gate.grant instant }).releaseGate record
    some { phase := finished true, shared := t, woken }
  | shut record deadline wait interval =>
    let (pause, jitter) := t.jitter.around wait (interval / 8)
    let t := { t with jitter }
    -- a deadline that has passed only counts once the gate was found shut
    if deadline.any (· ≤ now) then some { phase := finished false, shared := t }
    else some { phase := asleep record deadline (pauseUntil now pause deadline), shared := t }
  | asleep record deadline waking =>
    if waking ≤ now then some { phase := atGate record deadline, shared := t } else none
  | finished _ => none

def alarms : WaitPhase → List Nat
  | inLine _ _ report => [report]
  | asleep _ _ waking => [waking]
  | _ => []

def cancel (task : Nat) (phase : WaitPhase) (t : HostTable) : HostTable :=
  match phase with
  | inLine record _ _ => t.leaveGate record task
  | _ => t

end WaitPhase

end PoliteCrawl
