import PoliteCrawl.Crawl.Item
import PoliteCrawl.Proofs.Valve.Entry
import PoliteCrawl.Proofs.WorkItem.Target

namespace PoliteCrawl

variable {ψ ε : Type}

namespace ItemPhase

inductive Leads (plan : CrawlPlan ψ ε) (now task : Nat) :
    ItemPhase ψ → CrawlState ε → ItemPhase ψ → CrawlState ε → Prop where
  | turnedAway (item : WorkItem) (s : CrawlState ε) :
    Leads plan now task (entering item (.settled none)) s (rejecting item) s
  | letIn (item : WorkItem) (admission : Admission) (s : CrawlState ε) :
    Leads plan now task (entering item (.settled (some admission))) s (targeting item admission) s
  | enters {item : WorkItem} {entry : EntryPhase WorkItem (PressureWait ψ)} {s : CrawlState ε}
    {next : Progress (EntryPhase WorkItem (PressureWait ψ)) (Valve × HostTable × ε)}
    (h : entry.step plan.rule.predicate now task s.valve (s.hosts, s.own) = some next) :
    Leads plan now task (entering item entry) s (entering item next.phase)
      { s with valve := next.shared.1, hosts := next.shared.2.1, own := next.shared.2.2 }
  | rejects (item : WorkItem) (s : CrawlState ε) :
    Leads plan now task (rejecting item) s (requeueing item false)
      (s.count fun t => { t with rejected := t.rejected + 1 })
  | targets {item : WorkItem} {admission : Admission} {s : CrawlState ε} {target : Url}
    {host : String} (hurl : item.url? = some target) (hhost : item.hostKey? = some host) :
    Leads plan now task (targeting item admission) s
      (looking { item, target, host, admission } (.start host)) s
  | strays {item : WorkItem} {admission : Admission} {s : CrawlState ε}
    (h : item.url? = none ∨ item.hostKey? = none) :
    Leads plan now task (targeting item admission) s leaving
      (s.count fun t => { t with failed := t.failed + 1 })
  | learns (candidate : Candidate) (robots : Option Robots) (s : CrawlState ε) :
    Leads plan now task (looking candidate (.finished robots)) s (judging candidate robots) s
  | looks {candidate : Candidate} {lookup : LookupPhase} {s : CrawlState ε}
    {next : Progress LookupPhase HostTable} (h : lookup.step now task s.hosts = some next) :
    Leads plan now task (looking candidate lookup) s (looking candidate next.phase)
      { s with hosts := next.shared }
  | denies {candidate : Candidate} {robots : Option Robots} {s : CrawlState ε}
    (h : allowed plan.agent candidate.target robots = false) :
    Leads plan now task (judging candidate robots) s leaving
      (s.count fun t => { t with robotsDenied := t.robotsDenied + 1 })
  | pausesFor {candidate : Candidate} {robots : Option Robots} {s : CrawlState ε}
    (h : allowed plan.agent candidate.target robots = true)
    (hbelow : candidate.admission = .below) :
    Leads plan now task (judging candidate robots) s
      (pausing candidate (.start candidate.host none)) s
  | goesOn {candidate : Candidate} {robots : Option Robots} {s : CrawlState ε}
    (h : allowed plan.agent candidate.target robots = true)
    (hpassed : candidate.admission = .passed) :
    Leads plan now task (judging candidate robots) s (calling candidate) s
  | paused (candidate : Candidate) (granted : Bool) (s : CrawlState ε) :
    Leads plan now task (pausing candidate (.finished granted)) s (calling candidate) s
  | pauses {candidate : Candidate} {wait : WaitPhase} {s : CrawlState ε}
    {next : Progress WaitPhase HostTable} (h : wait.step now task s.hosts = some next) :
    Leads plan now task (pausing candidate wait) s (pausing candidate next.phase)
      { s with hosts := next.shared }
  | calls (candidate : Candidate) (s : CrawlState ε) :
    Leads plan now task (calling candidate) s
      (awaiting candidate.item
        (plan.service s.fetches.calls { time := now, target := candidate.target }).result
        ((plan.service s.fetches.calls { time := now, target := candidate.target }).delay.map
          (now + ·)))
      { s with fetches := s.fetches.start { time := now, target := candidate.target } }
  | answered {item : WorkItem} {result : FetchResult} {due : Option Nat} {s : CrawlState ε}
    (h : due.any (· ≤ now) = true) :
    Leads plan now task (awaiting item result due) s (writing item result)
      { s with fetches := s.fetches.finish }
  | breaksOff {item : WorkItem} {result : FetchResult} {s : CrawlState ε}
    (h : result.breaksOff s.envelope = true) :
    Leads plan now task (writing item result) s leaving
      ({ s with envelope := (result.write s.envelope).2 }.count fun t =>
        { t with failed := t.failed + 1 })
  | writes {item : WorkItem} {result : FetchResult} {s : CrawlState ε}
    (h : result.breaksOff s.envelope = false) :
    Leads plan now task (writing item result) s (completing item (result.write s.envelope).1)
      { s with envelope := (result.write s.envelope).2 }
  | succeeds (item : WorkItem) (s : CrawlState ε) :
    Leads plan now task (completing item (.ok ())) s leaving
      (s.count fun t => { t with completed := t.completed + 1 })
  | fails (item : WorkItem) (error : CrawlError) (s : CrawlState ε) :
    Leads plan now task (completing item (.error error)) s (failing item error)
      (s.count fun t => { t with completed := t.completed + 1 })
  | retries {item : WorkItem} {error : CrawlError} {s : CrawlState ε}
    (h : error.isRetryable = true) :
    Leads plan now task (failing item error) s (requeueing item true)
      (s.count fun t => { t with failed := t.failed + 1 })
  | givesUp {item : WorkItem} {error : CrawlError} {s : CrawlState ε}
    (h : error.isRetryable = false) :
    Leads plan now task (failing item error) s leaving
      (s.count fun t => { t with failed := t.failed + 1 })
  | requeues (item : WorkItem) (entered : Bool) (s : CrawlState ε) :
    Leads plan now task (requeueing item entered) s (if entered then leaving else freeing)
      (s.giveBack item)
  | leaves (s : CrawlState ε) :
    Leads plan now task leaving s freeing { s with valve := s.valve.release }
  | frees (s : CrawlState ε) :
    Leads plan now task freeing s finished
      { s with slots := s.slots.release, unfinished := s.unfinished - 1 }

variable {plan : CrawlPlan ψ ε} {now task : Nat} {phase : ItemPhase ψ} {s : CrawlState ε}
  {p : Progress (ItemPhase ψ) (CrawlState ε)}

theorem leads_of_entering {item : WorkItem} {entry : EntryPhase WorkItem (PressureWait ψ)}
    (h : (entering item entry).step plan now task s = some p) :
    Leads plan now task (entering item entry) s p.phase p.shared := by
  by_cases hsettled : ∃ admission, entry = .settled admission
  · obtain ⟨admission, rfl⟩ := hsettled
    cases admission with
    | none =>
      cases h
      exact .turnedAway item s
    | some admission =>
      cases h
      exact .letIn item admission s
  · have hstep : (entry.step plan.rule.predicate now task s.valve (s.hosts, s.own)).map
        (·.within (entering item) fun t =>
          { s with valve := t.1, hosts := t.2.1, own := t.2.2 }) = some p := by
      cases entry with
      | settled admission => exact absurd ⟨admission, rfl⟩ hsettled
      | _ => exact h
    obtain ⟨next, hnext, rfl⟩ := Option.map_eq_some_iff.mp hstep
    exact .enters hnext

theorem leads_of_targeting {item : WorkItem} {admission : Admission}
    (h : (targeting item admission).step plan now task s = some p) :
    Leads plan now task (targeting item admission) s p.phase p.shared := by
  simp only [step] at h
  split at h
  · rename_i target host hurl hhost
    cases h
    exact .targets hurl hhost
  · rename_i hnone
    cases h
    refine .strays ?_
    cases hurl : item.url? with
    | none => exact .inl rfl
    | some target =>
      cases hhost : item.hostKey? with
      | none => exact .inr rfl
      | some host => exact absurd hhost (hnone target host hurl)

theorem leads_of_looking {candidate : Candidate} {lookup : LookupPhase}
    (h : (looking candidate lookup).step plan now task s = some p) :
    Leads plan now task (looking candidate lookup) s p.phase p.shared := by
  by_cases hfinished : ∃ robots, lookup = .finished robots
  · obtain ⟨robots, rfl⟩ := hfinished
    cases h
    exact .learns candidate robots s
  · have hstep : (lookup.step now task s.hosts).map
        (·.within (looking candidate) ({ s with hosts := · })) = some p := by
      cases lookup with
      | finished robots => exact absurd ⟨robots, rfl⟩ hfinished
      | _ => exact h
    obtain ⟨next, hnext, rfl⟩ := Option.map_eq_some_iff.mp hstep
    exact .looks hnext

theorem leads_of_pausing {candidate : Candidate} {wait : WaitPhase}
    (h : (pausing candidate wait).step plan now task s = some p) :
    Leads plan now task (pausing candidate wait) s p.phase p.shared := by
  by_cases hfinished : ∃ granted, wait = .finished granted
  · obtain ⟨granted, rfl⟩ := hfinished
    cases h
    exact .paused candidate granted s
  · have hstep : (wait.step now task s.hosts).map
        (·.within (pausing candidate) ({ s with hosts := · })) = some p := by
      cases wait with
      | finished granted => exact absurd ⟨granted, rfl⟩ hfinished
      | _ => exact h
    obtain ⟨next, hnext, rfl⟩ := Option.map_eq_some_iff.mp hstep
    exact .pauses hnext

/-- The cases are all there are. -/
theorem leads_of_step (h : phase.step plan now task s = some p) :
    Leads plan now task phase s p.phase p.shared := by
  cases phase with
  | entering item entry => exact leads_of_entering h
  | targeting item admission => exact leads_of_targeting h
  | looking candidate lookup => exact leads_of_looking h
  | pausing candidate wait => exact leads_of_pausing h
  | rejecting item =>
    cases h
    exact .rejects item s
  | judging candidate robots =>
    simp only [step] at h
    split at h
    · rename_i hallowed
      cases h
      cases hadmission : candidate.admission with
      | below => simpa only [hadmission] using .pausesFor hallowed hadmission
      | passed => simpa only [hadmission] using .goesOn hallowed hadmission
    · rename_i hallowed
      cases h
      exact .denies (Bool.not_eq_true _ ▸ hallowed)
  | calling candidate =>
    cases h
    exact .calls candidate s
  | awaiting item result due =>
    simp only [step] at h
    split at h
    · rename_i hdue
      cases h
      exact .answered hdue
    · cases h
  | writing item result =>
    simp only [step] at h
    split at h
    · rename_i hbreaks
      cases h
      exact .breaksOff hbreaks
    · rename_i hends
      cases h
      exact .writes (Bool.eq_false_iff.mpr hends)
  | completing item outcome =>
    cases outcome with
    | ok value =>
      cases h
      exact .succeeds item s
    | error error =>
      cases h
      exact .fails item error s
  | failing item error =>
    cases h
    cases hretry : error.isRetryable with
    | true => simpa only [hretry] using .retries hretry
    | false => simpa only [hretry] using .givesUp hretry
  | requeueing item entered =>
    cases h
    exact .requeues item entered s
  | leaving =>
    cases h
    exact .leaves s
  | freeing =>
    cases h
    exact .frees s
  | finished => cases h

end ItemPhase

def Candidate.Of (item : WorkItem) (candidate : Candidate) : Prop :=
  candidate.item = item ∧ item.url? = some candidate.target ∧ item.hostKey? = some candidate.host

theorem Candidate.Of.hostKey? {item : WorkItem} {candidate : Candidate} (h : candidate.Of item) :
    candidate.target.hostKey? = some candidate.host := by
  obtain ⟨-, hurl, hhost⟩ := h
  rw [WorkItem.hostKey?, hurl, Option.bind_some] at hhost
  exact hhost

namespace ItemPhase

def Of (item : WorkItem) : ItemPhase ψ → Prop
  | entering item' entry => item' = item ∧ entry.Of item
  | rejecting item' | targeting item' _ | awaiting item' _ _ | writing item' _ |
    completing item' _ | failing item' _ | requeueing item' _ => item' = item
  | looking candidate _ | judging candidate _ | pausing candidate _ | calling candidate =>
    candidate.Of item
  | leaving | freeing | finished => True

theorem Leads.of {plan : CrawlPlan ψ ε} {now task : Nat} {phase phase' : ItemPhase ψ}
    {s s' : CrawlState ε} {item : WorkItem} (h : Leads plan now task phase s phase' s')
    (hof : phase.Of item) : phase'.Of item := by
  cases h with
  | turnedAway | letIn => exact hof.1
  | enters hstep => exact ⟨hof.1, (EntryPhase.leads_of_step hstep).of hof.2⟩
  | targets hurl hhost =>
    cases hof
    exact ⟨rfl, hurl, hhost⟩
  | calls => exact hof.1
  | strays | denies | breaksOff | succeeds | givesUp | leaves | frees => trivial
  | requeues item entered => cases entered <;> trivial
  | _ => exact hof

end ItemPhase

end PoliteCrawl
