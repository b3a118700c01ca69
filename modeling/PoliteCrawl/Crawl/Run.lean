import PoliteCrawl.Crawl.Input
import PoliteCrawl.Crawl.Item
import PoliteCrawl.Crawl.Reader
import PoliteCrawl.Schedule.Simulation

namespace PoliteCrawl

inductive CrawlTask (ψ : Type) where
  | reader (phase : ReaderPhase)
  | item (phase : ItemPhase ψ)

namespace CrawlTask

variable {ψ ε : Type}

def ofItem (item : WorkItem) : CrawlTask ψ := .item (.entering item (.start item))

def step (plan : CrawlPlan ψ ε) (now task : Nat) (t : CrawlTask ψ) (s : CrawlState ε) :
    Option (Turn (CrawlTask ψ) (CrawlState ε)) :=
  match t with
  | reader phase =>
    (phase.step plan s).map fun (phase, shared, items) =>
      { phase := reader phase, shared, spawned := items.map ofItem }
  | item phase => (phase.step plan now task s).map ({ ·.within item id with })

def alarms (plan : CrawlPlan ψ ε) : CrawlTask ψ → List Nat
  | reader _ => []
  | item phase => phase.alarms plan

def machine (plan : CrawlPlan ψ ε) : Machine (CrawlTask ψ) (CrawlState ε) :=
  ⟨step plan, alarms plan⟩

/-- What a crawl returned, if this is its reader and has finished. -/
def result? : CrawlTask ψ → Option (Except CrawlError CrawlSummary)
  | reader (.returned result) => some result
  | _ => none

def stage? : CrawlTask ψ → Option RunStage
  | reader phase => some phase.stage
  | item _ => none

end CrawlTask

structure Crawler (ψ ε : Type) where
  plan : CrawlPlan ψ ε
  hosts : HostTable
  valve : Valve
  own : ε
  slots : Slots
  fetches : FetchLog := {}
  stage : RunStage := .idle
  now : Nat := 0

structure CrawlReport where
  /-- What the run returned; nothing if it never ends. -/
  result : Option (Except CrawlError CrawlSummary)
  envelope : Envelope
  requeue : RequeueStream

namespace Crawler

variable {ψ ε : Type}

/-- A crawler whose valve asks for the host under pressure. -/
def ofSettings (s : Settings) (robots : RobotsService) (service : FetchService)
    (hostJitter valveJitter : Jitter) : Except CrawlError (Crawler Unit Unit) := do
  let partition ← match s.partition with
    | none => pure none
    | some p => (p.range.mapError fun e => CrawlError.settings (.partition e)).map some
  return {
    plan := {
      rule := .hosts
      service
      partition
      format := if s.streams.rawInput then .raw else .structured
      agent := s.agent.name }
    hosts := .ofSettings s.politeness s.agent.name robots hostJitter
    valve := {
      threshold := s.fetch.pressureThreshold
      baseWait := Time.ofMillis s.fetch.valveWaitMs
      jitter := valveJitter }
    own := ()
    slots := { free := max s.fetch.maxConcurrent 1 } }

def withValve {ψ' ε' : Type} (c : Crawler ψ ε) (valve : Valve) (rule : PressureRule ψ' ε')
    (own : ε') : Crawler ψ' ε' :=
  { c with plan := { c.plan with rule }, valve, own }

def start (c : Crawler ψ ε) (lines : List String) (envelope : Envelope) (requeue : RequeueStream) :
    Configuration (CrawlTask ψ) (CrawlState ε) where
  now := c.now
  tasks := [.reader (.reading lines)]
  shared := {
    hosts := c.hosts
    valve := c.valve
    own := c.own
    fetches := c.fetches
    slots := c.slots
    envelope
    requeue }

def finish (c : Crawler ψ ε) (last : Configuration (CrawlTask ψ) (CrawlState ε)) :
    CrawlReport × Crawler ψ ε :=
  let s := last.shared
  ({ result := last.tasks[readerTask]?.bind (·.result?), envelope := s.envelope,
     requeue := s.requeue },
   { c with
     hosts := s.hosts
     valve := s.valve
     own := s.own
     slots := s.slots
     fetches := s.fetches
     stage := (last.tasks[readerTask]?.bind (·.stage?)).getD c.stage
     now := last.now })

/-- Runs over an input in the order of the simulation, in which the reader lets items go first. -/
def run (c : Crawler ψ ε) (input : List UInt8) (envelope : Envelope) (requeue : RequeueStream) :
    CrawlReport × Crawler ψ ε :=
  c.finish <| Simulation.complete (CrawlTask.machine c.plan) (· = readerTask)
    (c.start (Input.lines input) envelope requeue)

end Crawler

end PoliteCrawl
