import PoliteCrawl.Crawl.Reader

namespace PoliteCrawl

variable {ψ ε : Type}

def CrawlPlan.takes (plan : CrawlPlan ψ ε) (item : WorkItem) : Bool :=
  item.issue?.isNone && item.belongsTo plan.partition

namespace ReaderPhase

inductive Leads (plan : CrawlPlan ψ ε) :
    ReaderPhase → CrawlState ε → ReaderPhase → CrawlState ε → List WorkItem → Prop where
  | ends (s : CrawlState ε) : Leads plan (reading []) s draining s []
  | stops {line : String} {lines : List String} {s : CrawlState ε}
    (h : WorkItem.ofLine? plan.format line = none) :
    Leads plan (reading (line :: lines)) s draining s []
  | reads {line : String} {lines : List String} {item : WorkItem} {s : CrawlState ε}
    (h : WorkItem.ofLine? plan.format line = some item) :
    Leads plan (reading (line :: lines)) s (sorting item lines)
      (s.count fun t => { t with read := t.read + 1 }) []
  | skips {item : WorkItem} {lines : List String} {s : CrawlState ε}
    (h : plan.takes item = false) (hissue : item.issue?.isSome = true) :
    Leads plan (sorting item lines) s (reading lines)
      (s.count fun t => { t with skipped := t.skipped + 1 }) []
  | passesOn {item : WorkItem} {lines : List String} {s : CrawlState ε}
    (h : plan.takes item = false) (hissue : item.issue?.isSome = false) :
    Leads plan (sorting item lines) s (givingBack item lines)
      (s.count fun t => { t with outOfPartition := t.outOfPartition + 1 }) []
  | keeps {item : WorkItem} {lines : List String} {s : CrawlState ε}
    (h : plan.takes item = true) :
    Leads plan (sorting item lines) s (asking item lines) s []
  | givesBack (item : WorkItem) (lines : List String) (s : CrawlState ε) :
    Leads plan (givingBack item lines) s (reading lines) (s.giveBack item) []
  | asks (item : WorkItem) (lines : List String) (s : CrawlState ε) :
    Leads plan (asking item lines) s (inLine item lines) { s with slots := s.slots.request } []
  | dispatches {item : WorkItem} {lines : List String} {s : CrawlState ε}
    (h : s.slots.assigned = true) :
    Leads plan (inLine item lines) s (dispatching item lines)
      (s.count fun t => { t with dispatched := t.dispatched + 1 }) []
  | starts (item : WorkItem) (lines : List String) (s : CrawlState ε) :
    Leads plan (dispatching item lines) s (reading lines)
      { s with slots := s.slots.hand, unfinished := s.unfinished + 1 } [item]
  | drains {s : CrawlState ε} (h : s.unfinished = 0) : Leads plan draining s flushing s []
  | flushes {s : CrawlState ε} (h : s.requeue.flush.1 = .ok ()) :
    Leads plan flushing s closing { s with requeue := s.requeue.flush.2 } []
  | breaksOff {error : CrawlError} {s : CrawlState ε} (h : s.requeue.flush.1 = .error error) :
    Leads plan flushing s (returned (.error error)) { s with requeue := s.requeue.flush.2 } []
  | closes (s : CrawlState ε) :
    Leads plan closing s (returned (s.envelope.close.1.map fun () => s.summary))
      { s with envelope := s.envelope.close.2 } []

variable {plan : CrawlPlan ψ ε} {phase phase' : ReaderPhase} {s s' : CrawlState ε}
  {started : List WorkItem}

theorem leads_of_reading {lines : List String}
    (h : (reading lines).step plan s = some (phase', s', started)) :
    Leads plan (reading lines) s phase' s' started := by
  cases lines with
  | nil =>
    cases h
    exact .ends s
  | cons line lines =>
    simp only [step] at h
    split at h
    · rename_i hline
      cases h
      exact .stops hline
    · rename_i item hline
      cases h
      exact .reads hline

theorem leads_of_sorting {item : WorkItem} {lines : List String}
    (h : (sorting item lines).step plan s = some (phase', s', started)) :
    Leads plan (sorting item lines) s phase' s' started := by
  simp only [step] at h
  split at h
  · rename_i hissue
    cases h
    refine .skips ?_ hissue
    rw [CrawlPlan.takes, Option.isNone_eq_false_iff.mpr hissue, Bool.false_and]
  · rename_i hissue
    have htakes : plan.takes item = item.belongsTo plan.partition := by
      rw [CrawlPlan.takes, Option.not_isSome_iff_eq_none.mp hissue, Option.isNone_none,
        Bool.true_and]
    split at h
    · rename_i hbelongs
      cases h
      exact .keeps (htakes.trans hbelongs)
    · rename_i hbelongs
      cases h
      exact .passesOn (htakes.trans (Bool.eq_false_iff.mpr hbelongs))
        (Bool.eq_false_iff.mpr hissue)

theorem leads_of_flushing (h : flushing.step plan s = some (phase', s', started)) :
    Leads plan flushing s phase' s' started := by
  simp only [step, Option.some.injEq, Prod.mk.injEq] at h
  obtain ⟨hphase, rfl, rfl⟩ := h
  split at hphase
  · rename_i hflush
    cases hphase
    exact .flushes hflush
  · rename_i hflush
    cases hphase
    exact .breaksOff hflush

/-- The cases are all there are. -/
theorem leads_of_step (h : phase.step plan s = some (phase', s', started)) :
    Leads plan phase s phase' s' started := by
  cases phase with
  | reading lines => exact leads_of_reading h
  | sorting item lines => exact leads_of_sorting h
  | flushing => exact leads_of_flushing h
  | givingBack item lines =>
    cases h
    exact .givesBack item lines s
  | asking item lines =>
    cases h
    exact .asks item lines s
  | inLine item lines =>
    simp only [step] at h
    split at h
    · rename_i hassigned
      cases h
      exact .dispatches hassigned
    · cases h
  | dispatching item lines =>
    cases h
    exact .starts item lines s
  | draining =>
    simp only [step] at h
    split at h
    · rename_i hzero
      cases h
      exact .drains hzero
    · cases h
  | closing =>
    cases h
    exact .closes s
  | returned result => cases h

/-- A step counts one task more for each item that it starts one for. -/
theorem Leads.unfinished (h : Leads plan phase s phase' s' started) :
    s'.unfinished = s.unfinished + started.length := by
  cases h <;> rfl

/-- The reader closes the streams only when no item has a task that has not finished. -/
theorem Leads.closed (h : Leads plan phase s phase' s' started) (hclosed : phase'.stage = .closed) :
    started = [] ∧ (phase.stage = .closed ∨ s.unfinished = 0) := by
  cases h with
  | drains hzero => exact ⟨rfl, .inr hzero⟩
  | flushes | breaksOff | closes => exact ⟨rfl, .inl rfl⟩
  | _ => cases hclosed

theorem Leads.returned {summary : CrawlSummary}
    (h : Leads plan phase s (.returned (.ok summary)) s' started) : summary = s'.summary := by
  generalize hphase : ReaderPhase.returned (.ok summary) = phase' at h
  cases h with
  | closes =>
    cases hclose : s.envelope.close.1 with
    | ok value =>
      rw [hclose] at hphase
      cases hphase
      rfl
    | error error =>
      rw [hclose] at hphase
      cases hphase
  | _ => cases hphase

/-- The reader has nothing to do with hosts and fetches. -/
theorem Leads.leaves (h : Leads plan phase s phase' s' started) :
    s'.hosts = s.hosts ∧ s'.fetches = s.fetches := by
  cases h <;> exact ⟨rfl, rfl⟩

end ReaderPhase

end PoliteCrawl
