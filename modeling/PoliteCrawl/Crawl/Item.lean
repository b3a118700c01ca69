import PoliteCrawl.Crawl.Basic
import PoliteCrawl.Robots.Access

namespace PoliteCrawl

/-- An item that the valve let in, with the address and the host that it has. -/
structure Candidate where
  item : WorkItem
  target : Url
  host : String
  admission : Admission
  deriving DecidableEq, Repr

inductive ItemPhase (ψ : Type) where
  | entering (item : WorkItem) (entry : EntryPhase WorkItem (PressureWait ψ))
  | rejecting (item : WorkItem)
  | targeting (item : WorkItem) (admission : Admission)
  | looking (candidate : Candidate) (lookup : LookupPhase)
  | judging (candidate : Candidate) (robots : Option Robots)
  /-- Waiting for the host, without a deadline. -/
  | pausing (candidate : Candidate) (wait : WaitPhase)
  | calling (candidate : Candidate)
  | awaiting (item : WorkItem) (result : FetchResult) (due : Option Nat)
  | writing (item : WorkItem) (result : FetchResult)
  | completing (item : WorkItem) (outcome : Except CrawlError Unit)
  | failing (item : WorkItem) (error : CrawlError)
  | requeueing (item : WorkItem) (entered : Bool)
  | leaving
  /-- About to give back the slot and end. -/
  | freeing
  | finished

def readerTask : Nat := 0

namespace ItemPhase

variable {ψ ε : Type}

/-- Whether robots rules allow the fetch. No file means no restrictions. -/
def allowed (agent : String) (target : Url) : Option Robots → Bool
  | some robots => robots.allows agent target.text
  | none => true

def step (plan : CrawlPlan ψ ε) (now task : Nat) (phase : ItemPhase ψ) (s : CrawlState ε) :
    Option (Progress (ItemPhase ψ) (CrawlState ε)) :=
  match phase with
  | entering item (.settled none) => some { phase := rejecting item, shared := s }
  | entering item (.settled (some admission)) =>
    some { phase := targeting item admission, shared := s }
  | entering item entry =>
    (entry.step plan.rule.predicate now task s.valve (s.hosts, s.own)).map
      (·.within (entering item) fun (valve, hosts, own) => { s with valve, hosts, own })
  | rejecting item =>
    some { phase := requeueing item false
           shared := s.count fun t => { t with rejected := t.rejected + 1 } }
  | targeting item admission =>
    match item.url?, item.hostKey? with
    | some target, some host =>
      some { phase := looking { item, target, host, admission } (.start host), shared := s }
    -- not reached: the reader has sorted such items out
    | _, _ =>
      some { phase := leaving, shared := s.count fun t => { t with failed := t.failed + 1 } }
  | looking candidate (.finished robots) => some { phase := judging candidate robots, shared := s }
  | looking candidate lookup =>
    (lookup.step now task s.hosts).map (·.within (looking candidate) ({ s with hosts := · }))
  | judging candidate robots =>
    if allowed plan.agent candidate.target robots then
      -- under pressure the host was granted in the valve, and no second grant is asked for
      some { phase := match candidate.admission with
              | .below => pausing candidate (.start candidate.host none)
              | .passed => calling candidate
             shared := s }
    else
      some { phase := leaving
             shared := s.count fun t => { t with robotsDenied := t.robotsDenied + 1 } }
  | pausing candidate (.finished _) => some { phase := calling candidate, shared := s }
  | pausing candidate wait =>
    (wait.step now task s.hosts).map (·.within (pausing candidate) ({ s with hosts := · }))
  | calling candidate =>
    let call : FetchCall := { time := now, target := candidate.target }
    let reply := plan.service s.fetches.calls call
    some { phase := awaiting candidate.item reply.result (reply.delay.map (now + ·))
           shared := { s with fetches := s.fetches.start call } }
  | awaiting item result due =>
    if due.any (· ≤ now) then
      some { phase := writing item result, shared := { s with fetches := s.fetches.finish } }
    else none
  | writing item result =>
    let (outcome, envelope) := result.write s.envelope
    -- what was written stays, and the item is not counted as completed
    if result.breaksOff s.envelope then
      some { phase := leaving
             shared := { s with envelope }.count fun t => { t with failed := t.failed + 1 } }
    else some { phase := completing item outcome, shared := { s with envelope } }
  | completing item outcome =>
    some { phase := match outcome with
            | .ok () => leaving
            | .error error => failing item error
           shared := s.count fun t => { t with completed := t.completed + 1 } }
  | failing item error =>
    some { phase := if error.isRetryable then requeueing item true else leaving
           shared := s.count fun t => { t with failed := t.failed + 1 } }
  | requeueing item entered =>
    some { phase := if entered then leaving else freeing, shared := s.giveBack item }
  | leaving => some { phase := freeing, shared := { s with valve := s.valve.release } }
  | freeing =>
    some { phase := finished
           shared := { s with slots := s.slots.release, unfinished := s.unfinished - 1 }
           woken := [readerTask] }
  | finished => none

def alarms (plan : CrawlPlan ψ ε) : ItemPhase ψ → List Nat
  | entering _ entry => entry.alarms plan.rule.predicate
  | looking _ lookup => lookup.alarms
  | pausing _ wait => wait.alarms
  | awaiting _ _ due => due.toList
  | _ => []

end ItemPhase

end PoliteCrawl
