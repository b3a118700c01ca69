import PoliteCrawl.Proofs.Crawl.Gates
import PoliteCrawl.Proofs.Politeness.Inquiries

namespace PoliteCrawl

variable {ψ ε : Type} {plan : CrawlPlan ψ ε} {now task : Nat}

/-- An entry leaves look-ups alone. -/
theorem EntryPhase.step_heeds {entry : EntryPhase WorkItem (PressureWait ψ)} {v : Valve}
    {t : HostTable} {own : ε}
    {next : Progress (EntryPhase WorkItem (PressureWait ψ)) (Valve × HostTable × ε)}
    (h : entry.step plan.rule.predicate now task v (t, own) = some next) :
    t.Heeds task none (fun _ => none) next.shared.2.1 := by
  cases entry with
  | start item =>
    simp only [step] at h
    split at h <;> cases h <;> exact t.heeds_refl task
  | pressed item =>
    rw [step_pressed] at h
    cases h
    exact t.heeds_refl task
  | asking wait cutoff =>
    rcases step_asking h with ⟨verdict, -, hshared, -⟩ |
      ⟨-, ⟨progress, hprogress, -, hshared⟩ | ⟨-, -, hshared⟩⟩
    · rw [hshared]
      exact t.heeds_refl task
    · rw [hshared]
      rcases step_rule hprogress with ⟨phase, next, rfl, hnext, -, htable⟩ | ⟨_, _, rfl, -, htable⟩
      · rw [htable]
        exact (WaitPhase.leads_of_step hnext).heeds
      · rw [htable]
        exact t.heeds_refl task
    · rw [hshared]
      cases wait with
      | inl wait =>
        cases wait with
        | hostless => exact t.heeds_refl task
        | waiting phase => exact WaitPhase.heeds_cancel task phase t
      | inr wait => cases plan.rule <;> exact t.heeds_refl task
  | passing =>
    cases h
    exact t.heeds_refl task
  | settled admission => cases h

namespace ItemPhase

variable {phase phase' : ItemPhase ψ} {s s' : CrawlState ε}

def lookup? : ItemPhase ψ → Option LookupPhase
  | looking _ lookup => some lookup
  | _ => none

/-- What a step of the task of an item does about look-ups. -/
theorem Leads.lookup (h : Leads plan now task phase s phase' s') :
    LookupMove now task s.hosts s'.hosts phase.lookup? phase'.lookup? := by
  cases h with
  | enters hstep => exact .idles (EntryPhase.step_heeds hstep)
  | @targets item admission s target host =>
    exact .begins host (s.hosts.heeds_refl task)
  | learns candidate robots => exact .ends robots (s.hosts.heeds_refl task)
  | looks hstep => exact .looks hstep rfl
  | pauses hstep => exact .idles ((WaitPhase.leads_of_step hstep).heeds)
  | requeues item entered => cases entered <;> exact .idles (s.hosts.heeds_refl task)
  | _ => exact .idles (s.hosts.heeds_refl task)

end ItemPhase

namespace CrawlTask

def lookup? : CrawlTask ψ → Option LookupPhase
  | reader _ => none
  | item phase => phase.lookup?

def robotsDiscipline (plan : CrawlPlan ψ ε) :
    RobotsDiscipline (machine plan) CrawlState.hosts where
  lookup? := lookup?
  step := by
    intro now task phase s turn hstep
    cases phase with
    | reader phase =>
      obtain ⟨⟨phase', s', started⟩, hreader, rfl⟩ := Option.map_eq_some_iff.mp hstep
      apply LookupMove.idles
      rw [(ReaderPhase.leads_of_step hreader).leaves.1]
      exact s.hosts.heeds_refl task
    | item phase =>
      obtain ⟨p, hp, rfl⟩ := Option.map_eq_some_iff.mp hstep
      exact (ItemPhase.leads_of_step hp).lookup
  spawned := by
    intro now task phase s turn hstep phase' hmem
    cases phase with
    | reader phase =>
      obtain ⟨⟨phase', s', started⟩, -, rfl⟩ := Option.map_eq_some_iff.mp hstep
      obtain ⟨item, -, rfl⟩ := List.mem_map.mp hmem
      rfl
    | item phase =>
      obtain ⟨p, -, rfl⟩ := Option.map_eq_some_iff.mp hstep
      cases hmem

end CrawlTask

end PoliteCrawl
