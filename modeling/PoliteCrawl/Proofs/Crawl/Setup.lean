import PoliteCrawl.Crawl.Run
import PoliteCrawl.Proofs.Except

namespace PoliteCrawl

namespace Crawler

/-- What a crawler has from the settings that it was made from. -/
structure Made (s : Settings) (robots : RobotsService) (service : FetchService)
    (hostJitter valveJitter : Jitter) (c : Crawler Unit Unit) : Prop where
  hosts : c.hosts = .ofSettings s.politeness s.agent.name robots hostJitter
  rule : c.plan.rule = .hosts
  service : c.plan.service = service
  format : c.plan.format = if s.streams.rawInput then .raw else .structured
  agent : c.plan.agent = s.agent.name
  partition : c.plan.partition = s.partition.bind (·.range.toOption)
  threshold : c.valve.threshold = s.fetch.pressureThreshold
  empty : c.valve.inside = 0
  slots : c.slots = { free := max s.fetch.maxConcurrent 1 }
  fetches : c.fetches = {}

variable {s : Settings} {robots : RobotsService} {service : FetchService}
  {hostJitter valveJitter : Jitter} {c : Crawler Unit Unit}

theorem ofSettings_eq_ok (hc : ofSettings s robots service hostJitter valveJitter = .ok c) :
    Made s robots service hostJitter valveJitter c := by
  unfold ofSettings at hc
  dsimp only at hc
  split at hc
  · rename_i hnone
    cases hc
    exact ⟨rfl, rfl, rfl, rfl, rfl, by rw [hnone]; rfl, rfl, rfl, rfl, rfl⟩
  · rename_i p hsome
    obtain ⟨partition, hrange, heq⟩ := bind_eq_ok.mp hc
    cases heq
    refine ⟨rfl, rfl, rfl, rfl, rfl, ?_, rfl, rfl, rfl, rfl⟩
    rw [hsome, Option.bind_some]
    cases hread : p.range with
    | error fault =>
      rw [hread] at hrange
      cases hrange
    | ok range =>
      rw [hread] at hrange
      cases hrange
      rfl

/-- Settings that make sense have at least one slot. -/
theorem one_le_maxConcurrent (h : s.validate = .ok ()) : 1 ≤ s.fetch.maxConcurrent := by
  rcases Nat.lt_or_ge s.fetch.maxConcurrent 1 with hlt | hge
  · have hviolation : s.fetch.violation? = some (.concurrency s.fetch.maxConcurrent) := by
      rw [FetchSettings.violation?, if_pos (.inl hlt)]
    rw [Settings.validate, hviolation] at h
    cases h
  · exact hge

inductive Ready (s : Settings) : {ψ ε : Type} → Crawler ψ ε → Prop where
  | made {robots : RobotsService} {service : FetchService} {hostJitter valveJitter : Jitter}
    {c : Crawler Unit Unit} (hc : ofSettings s robots service hostJitter valveJitter = .ok c) :
    Ready s c
  | refitted {ψ ε ψ' ε' : Type} {c : Crawler ψ ε} (h : Ready s c) (valve : Valve)
    (rule : PressureRule ψ' ε') (own : ε') : Ready s (c.withValve valve rule own)
  | ran {ψ ε : Type} {c : Crawler ψ ε} {input : List UInt8} {envelope : Envelope}
    {requeue : RequeueStream} {last : Configuration (CrawlTask ψ) (CrawlState ε)}
    {result : Except CrawlError CrawlSummary} (h : Ready s c)
    (hsteps : (CrawlTask.machine c.plan).Steps (c.start (Input.lines input) envelope requeue) last)
    (hreturned : last.tasks[readerTask]?.bind (·.result?) = some result) :
    Ready s (c.finish last).2

end Crawler

end PoliteCrawl
