import PoliteCrawl.Output.Envelope
import PoliteCrawl.Output.Requeue
import PoliteCrawl.Politeness.Admission
import PoliteCrawl.Politeness.Lookup
import PoliteCrawl.Valve.Entry
import PoliteCrawl.WorkItem.Owner

namespace PoliteCrawl

/-- What happened to the lines that were read. -/
structure Tally where
  /-- Lines that are items. -/
  read : Nat := 0
  /-- Items that cannot be fetched. -/
  skipped : Nat := 0
  outOfPartition : Nat := 0
  /-- Items that got a task of their own. -/
  dispatched : Nat := 0
  /-- Items that the valve turned away. -/
  rejected : Nat := 0
  robotsDenied : Nat := 0
  /-- Fetches that came to an end, whatever it was. -/
  completed : Nat := 0
  /-- Fetches that came to an end with an error, or broke off. -/
  failed : Nat := 0
  deriving DecidableEq, Repr

structure CrawlSummary extends Tally where
  /-- Items that were written to be tried again. -/
  requeued : Nat := 0
  deriving DecidableEq, Repr

structure FetchCall where
  time : Nat
  target : Url
  deriving DecidableEq, Repr

/-- What a fetch does at its end: it answers, or it writes a record and goes on by what came of
that. -/
inductive FetchResult where
  | answer (outcome : Except CrawlError Unit)
  | offer (page : FetchRecord) (next : Except CrawlError Unit → FetchResult)
  /-- The task of the item breaks off. -/
  | broken

namespace FetchResult

/-- Writes a record and answers what came of that. -/
def record (page : FetchRecord) : FetchResult := offer page answer

def failed (error : CrawlError) : FetchResult := answer (.error error)

/-- The answer of a fetch that does not break off, and the envelope with what it wrote. -/
def write : FetchResult → Envelope → Except CrawlError Unit × Envelope
  | answer outcome, e => (outcome, e)
  | offer page next, e => (next (e.write page).1).write (e.write page).2
  | broken, e => (.ok (), e)

def breaksOff : FetchResult → Envelope → Bool
  | answer _, _ => false
  | offer page next, e => (next (e.write page).1).breaksOff (e.write page).2
  | broken, _ => true

@[simp] theorem write_record (page : FetchRecord) (e : Envelope) :
    (record page).write e = e.write page := rfl

@[simp] theorem breaksOff_record (page : FetchRecord) (e : Envelope) :
    (record page).breaksOff e = false := rfl

end FetchResult

/-- What a fetch comes to, and after how long, if ever. -/
structure FetchReply where
  result : FetchResult
  delay : Option Nat := some 0

/-- Where pages come from. The answer may depend on all earlier calls. -/
abbrev FetchService := List FetchCall → FetchCall → FetchReply

structure FetchLog where
  calls : List FetchCall := []
  ongoing : Nat := 0
  peak : Nat := 0

namespace FetchLog

def start (l : FetchLog) (call : FetchCall) : FetchLog where
  calls := l.calls ++ [call]
  ongoing := l.ongoing + 1
  peak := max l.peak (l.ongoing + 1)

def finish (l : FetchLog) : FetchLog := { l with ongoing := l.ongoing - 1 }

end FetchLog

/-- Fetch slots, for which only the reader waits. -/
structure Slots where
  free : Nat
  waiting : Bool := false
  /-- The reader has a slot that no task has yet. -/
  assigned : Bool := false
  deriving DecidableEq, Repr

namespace Slots

def request (s : Slots) : Slots :=
  if s.free = 0 then { s with waiting := true }
  else { s with free := s.free - 1, assigned := true }

/-- Gives a slot back: to the reader, if it waits. -/
def release (s : Slots) : Slots :=
  if s.waiting then { s with waiting := false, assigned := true } else { s with free := s.free + 1 }

def hand (s : Slots) : Slots := { s with assigned := false }

end Slots

/-- What a valve under pressure asks: whether an item's host may be fetched from, or something of
its own. -/
inductive PressureRule (ψ ε : Type) where
  | hosts
  | own (predicate : WaitPredicate WorkItem ψ ε)

abbrev PressureWait (ψ : Type) := HostWait ⊕ ψ

namespace PressureRule

variable {ψ ε : Type}

def start (rule : PressureRule ψ ε) (item : WorkItem) (timeout : Nat) : PressureWait ψ :=
  match rule with
  | hosts => .inl (hostPredicate.start item timeout)
  | own p => .inr (p.start item timeout)

def step (rule : PressureRule ψ ε) (now task : Nat) (wait : PressureWait ψ) :
    HostTable × ε → Option (Progress (PressureWait ψ) (HostTable × ε))
  | (table, rest) =>
    match wait, rule with
    | .inl wait, _ => (hostPredicate.step now task wait table).map (·.within .inl (·, rest))
    | .inr wait, .own p => (p.step now task wait rest).map (·.within .inr (table, ·))
    | .inr _, .hosts => none

def alarms (rule : PressureRule ψ ε) : PressureWait ψ → List Nat
  | .inl wait => hostPredicate.alarms wait
  | .inr wait => match rule with
    | hosts => []
    | own p => p.alarms wait

def verdict? (rule : PressureRule ψ ε) : PressureWait ψ → Option Bool
  | .inl wait => hostPredicate.verdict? wait
  | .inr wait => match rule with
    | hosts => none
    | own p => p.verdict? wait

def cancel (rule : PressureRule ψ ε) (task : Nat) (wait : PressureWait ψ) :
    HostTable × ε → HostTable × ε
  | (table, rest) =>
    match wait, rule with
    | .inl wait, _ => (hostPredicate.cancel task wait table, rest)
    | .inr wait, .own p => (table, p.cancel task wait rest)
    | .inr _, .hosts => (table, rest)

def predicate (rule : PressureRule ψ ε) : WaitPredicate WorkItem (PressureWait ψ) (HostTable × ε) where
  start := rule.start
  step := rule.step
  alarms := rule.alarms
  verdict? := rule.verdict?
  cancel := rule.cancel

end PressureRule

/-- What stays the same during a crawl. -/
structure CrawlPlan (ψ ε : Type) where
  rule : PressureRule ψ ε
  service : FetchService
  partition : Option HashRange
  format : LineFormat
  agent : String

structure CrawlState (ε : Type) where
  hosts : HostTable
  valve : Valve
  /-- The state of a predicate of the valve's own. -/
  own : ε
  fetches : FetchLog
  slots : Slots
  envelope : Envelope
  requeue : RequeueStream
  tally : Tally := {}
  /-- Items whose task has not finished. -/
  unfinished : Nat := 0

namespace CrawlState

variable {ε : Type}

def count (s : CrawlState ε) (f : Tally → Tally) : CrawlState ε := { s with tally := f s.tally }

/-- Writes an item to be tried again. A failure to do so is not the crawl's. -/
def giveBack (s : CrawlState ε) (item : WorkItem) : CrawlState ε :=
  { s with requeue := (s.requeue.add item).2 }

def summary (s : CrawlState ε) : CrawlSummary := { s.tally with requeued := s.requeue.written }

end CrawlState

end PoliteCrawl
