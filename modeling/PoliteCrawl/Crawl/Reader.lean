import PoliteCrawl.Crawl.Basic

namespace PoliteCrawl

inductive RunStage where
  | idle
  | reading
  | draining
  | closed
  deriving DecidableEq, Repr

inductive ReaderPhase where
  | reading (lines : List String)
  | sorting (item : WorkItem) (lines : List String)
  /-- About to give back an item of another node. -/
  | givingBack (item : WorkItem) (lines : List String)
  /-- About to ask for a slot. -/
  | asking (item : WorkItem) (lines : List String)
  | inLine (item : WorkItem) (lines : List String)
  | dispatching (item : WorkItem) (lines : List String)
  | draining
  | flushing
  | closing
  | returned (result : Except CrawlError CrawlSummary)

namespace ReaderPhase

variable {ψ ε : Type}

def stage : ReaderPhase → RunStage
  | draining => .draining
  | flushing | closing | returned _ => .closed
  | _ => .reading

/-- A step, with the items that get a task by it. A line that is no item ends the input. -/
def step (plan : CrawlPlan ψ ε) (phase : ReaderPhase) (s : CrawlState ε) :
    Option (ReaderPhase × CrawlState ε × List WorkItem) :=
  match phase with
  | reading [] => some (draining, s, [])
  | reading (line :: lines) =>
    match WorkItem.ofLine? plan.format line with
    | none => some (draining, s, [])
    | some item =>
      some (sorting item lines, s.count fun t => { t with read := t.read + 1 }, [])
  | sorting item lines =>
    if item.issue?.isSome then
      some (reading lines, s.count fun t => { t with skipped := t.skipped + 1 }, [])
    else if item.belongsTo plan.partition then some (asking item lines, s, [])
    else
      some (givingBack item lines,
        s.count fun t => { t with outOfPartition := t.outOfPartition + 1 }, [])
  | givingBack item lines => some (reading lines, s.giveBack item, [])
  | asking item lines => some (inLine item lines, { s with slots := s.slots.request }, [])
  | inLine item lines =>
    if s.slots.assigned then
      some (dispatching item lines,
        s.count fun t => { t with dispatched := t.dispatched + 1 }, [])
    else none
  | dispatching item lines =>
    some (reading lines, { s with slots := s.slots.hand, unfinished := s.unfinished + 1 }, [item])
  | draining => if s.unfinished = 0 then some (flushing, s, []) else none
  | flushing =>
    let (result, requeue) := s.requeue.flush
    -- an error ends the run here, with the envelope still open
    some (match result with | .ok () => closing | .error e => returned (.error e),
      { s with requeue }, [])
  | closing =>
    let (result, envelope) := s.envelope.close
    let s := { s with envelope }
    some (returned (result.map fun () => s.summary), s, [])
  | returned _ => none

end ReaderPhase

end PoliteCrawl
