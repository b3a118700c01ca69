import PoliteCrawl.Proofs.Crawl.Muster

namespace PoliteCrawl

variable {ψ ε : Type}

namespace CrawlTask

/-- The place of the item that a step is about: for the reader, the item it read last. The other
tasks are those of the items taken, in their order. -/
def place? (plan : CrawlPlan ψ ε) (items : List WorkItem)
    (a : Act (CrawlTask ψ) (CrawlState ε)) : Option Nat :=
  match a.task with
  | 0 => some (a.before.shared.tally.read - 1)
  | n + 1 => (plan.taken items)[n]?.map (·.2)

def verdict? (plan : CrawlPlan ψ ε) (items : List WorkItem)
    (a : Act (CrawlTask ψ) (CrawlState ε)) : Option (Nat × Fate) :=
  (place? plan items a).bind fun place =>
    (a.before.shared.tally.raised? a.turn.shared.tally).map fun fate => (place, fate)

def verdicts (plan : CrawlPlan ψ ε) (items : List WorkItem)
    (events : List (Event (CrawlTask ψ) (CrawlState ε))) : List (Nat × Fate) :=
  (acts events).filterMap (verdict? plan items)

variable {plan : CrawlPlan ψ ε} {items : List WorkItem}
  {events : List (Event (CrawlTask ψ) (CrawlState ε))}

theorem verdicts_act {a : Act (CrawlTask ψ) (CrawlState ε)} {place : Nat}
    (h : place? plan items a = some place) :
    verdicts plan items (events ++ [.act a]) = verdicts plan items events ++
      (a.before.shared.tally.raised? a.turn.shared.tally).toList.map fun fate => (place, fate) := by
  rw [verdicts, acts_append, acts_act, List.filterMap_append, ← Option.toList_map]
  congr 1
  rw [List.filterMap_cons, List.filterMap_nil, verdict?, h, Option.bind_some]
  cases a.before.shared.tally.raised? a.turn.shared.tally <;> rfl

@[simp] theorem verdicts_pass {c : Configuration (CrawlTask ψ) (CrawlState ε)} {later : Nat} :
    verdicts plan items (events ++ [.pass c later]) = verdicts plan items events := by
  rw [verdicts, acts_append, acts_pass, List.append_nil, verdicts]

end CrawlTask

/-- The step of the task of an errand is about the errand's item. -/
theorem Muster.place?_errand {plan : CrawlPlan ψ ε} {items done : List WorkItem}
    {reader : ReaderPhase} {front back : List (Errand ψ)} {e : Errand ψ}
    {c : Configuration (CrawlTask ψ) (CrawlState ε)} {turn : Turn (CrawlTask ψ) (CrawlState ε)}
    (h : Muster plan items done reader (front ++ e :: back) c.tasks) :
    CrawlTask.place? plan items ⟨c, front.length + 1, turn⟩ = some e.place := by
  show (plan.taken items)[front.length]?.map (·.2) = some e.place
  rw [h.taken_getElem?]
  rfl

namespace Errand

def settledPlaces (crew : List (Errand ψ)) : List Nat :=
  (crew.filter (·.phase.settled)).map (·.place)

variable (front back : List (Errand ψ)) (e : Errand ψ) (phase' : ItemPhase ψ)

/-- How a count of phases changes with one of them. -/
theorem countP_phase (p : ItemPhase ψ → Bool) :
    (front ++ { e with phase := phase' } :: back).countP (p ·.phase) + (p e.phase).toNat =
      (front ++ e :: back).countP (p ·.phase) + (p phase').toNat := by
  simp only [List.countP_append, List.countP_cons]
  cases p e.phase <;> cases p phase' <;> simp <;> omega

variable {e} in
theorem countP_unfinished (hgoes : e.phase.isFinished = false) :
    (front ++ { e with phase := phase' } :: back).countP (!·.phase.isFinished) +
      phase'.isFinished.toNat = (front ++ e :: back).countP (!·.phase.isFinished) := by
  have hcount := countP_phase front back e phase' fun phase => !phase.isFinished
  rw [hgoes] at hcount
  cases hfinished : phase'.isFinished with
  | true => simpa [hfinished] using hcount
  | false => simpa [hfinished] using hcount

variable {front back e phase'}

theorem settledPlaces_eq (h : phase'.settled = e.phase.settled) :
    settledPlaces (front ++ { e with phase := phase' } :: back) =
      settledPlaces (front ++ e :: back) := by
  cases hsettled : e.phase.settled <;> simp [settledPlaces, h, hsettled]

theorem settledPlaces_perm (hbefore : e.phase.settled = false) (hafter : phase'.settled = true) :
    (settledPlaces (front ++ e :: back) ++ [e.place]).Perm
      (settledPlaces (front ++ { e with phase := phase' } :: back)) := by
  simp only [settledPlaces, List.filter_append, List.filter_cons, hbefore, hafter, List.map_append,
    Bool.false_eq_true, if_false, if_true, List.map_cons, List.append_assoc]
  exact (List.perm_append_comm).append_left _

end Errand

/-- What the counts of a crawl have to do with those who count: the reader is done with some items,
and the tasks of others have settled their fate or not. -/
structure Books (plan : CrawlPlan ψ ε) (done : List WorkItem) (reader : ReaderPhase)
    (crew : List (Errand ψ)) (s : CrawlState ε) (verdicts : List (Nat × Fate)) : Prop where
  read : s.tally.read = done.length + reader.inHand.toList.length
  sortedOut : s.tally.sortedOut = done.countP fun item => !plan.takes item
  dispatched : s.tally.dispatched = crew.length + reader.isDispatching.toNat
  settled : s.tally.settled = crew.countP (·.phase.settled)
  failed : s.tally.failed + crew.countP (·.phase.isFailing) ≤ s.tally.completed
  under : ∀ fate, s.tally.under fate = verdicts.countP (·.2 = fate)
  places : (verdicts.map (·.1)).Perm
    ((done.zipIdx.filter fun x => !plan.takes x.1).map (·.2) ++
      Errand.settledPlaces crew)
  unfinished : s.unfinished = crew.countP (!·.phase.isFinished)
  closed : reader.stage = .closed → s.unfinished = 0

namespace Books

variable {plan : CrawlPlan ψ ε} {done : List WorkItem} {reader reader' : ReaderPhase}
  {s s' : CrawlState ε} {verdicts : List (Nat × Fate)} {crew front back : List (Errand ψ)}
  {e : Errand ψ} {phase' : ItemPhase ψ} {item : WorkItem} {fate : Fate}

theorem errand_unfinished (h : Books plan done reader (front ++ e :: back) s verdicts)
    (hgoes : e.phase.isFinished = false)
    (hunfinished : s'.unfinished = s.unfinished - phase'.isFinished.toNat) :
    s'.unfinished = (front ++ { e with phase := phase' } :: back).countP (!·.phase.isFinished) ∧
      (reader.stage = .closed → s'.unfinished = 0) := by
  refine ⟨?_, ?_⟩
  · have hleft := Errand.countP_unfinished front back phase' hgoes
    rw [hunfinished, h.unfinished]
    omega
  · intro hstage
    rw [hunfinished, h.closed hstage, Nat.zero_sub]

/-- Once the streams are closed no task of an errand is left. -/
theorem not_closed (h : Books plan done reader (front ++ e :: back) s verdicts)
    (hgoes : e.phase.isFinished = false) : reader.stage ≠ .closed := by
  intro hstage
  have hnone := h.unfinished.symm.trans (h.closed hstage)
  simp [hgoes] at hnone

/-- A step of the task of an errand by which no fate is settled. -/
theorem errand_stays (h : Books plan done reader (front ++ e :: back) s verdicts)
    (hread : s'.tally.read = s.tally.read) (hdispatched : s'.tally.dispatched = s.tally.dispatched)
    (hunder : s'.tally.under = s.tally.under) (hsettled : phase'.settled = e.phase.settled)
    (hfailed : s'.tally.failed + phase'.isFailing.toNat = s.tally.failed + e.phase.isFailing.toNat)
    (hgoes : e.phase.isFinished = false)
    (hunfinished : s'.unfinished = s.unfinished - phase'.isFinished.toNat) :
    Books plan done reader (front ++ { e with phase := phase' } :: back) s' verdicts := by
  have hsettledCount := Errand.countP_phase front back e phase' (·.settled)
  have hfailingCount := Errand.countP_phase front back e phase' (·.isFailing)
  have hcompleted : s'.tally.completed = s.tally.completed := congrFun hunder .completed
  obtain ⟨hleft, hclosed⟩ := h.errand_unfinished hgoes hunfinished
  rw [hsettled] at hsettledCount
  refine ⟨?_, ?_, ?_, ?_, ?_, ?_, ?_, hleft, hclosed⟩
  · rw [hread, h.read]
  · rw [Tally.sortedOut_eq hunder, h.sortedOut]
  · rw [hdispatched, h.dispatched]
    simp
  · rw [Tally.settled_eq hunder, h.settled]
    omega
  · have := h.failed
    omega
  · rw [hunder]
    exact h.under
  · rw [Errand.settledPlaces_eq hsettled]
    exact h.places

/-- A step of the task of an errand that settles the fate of its item. -/
theorem errand_settles (h : Books plan done reader (front ++ e :: back) s verdicts)
    (hfate : fate.isReaders = false) (htally : s'.tally = s.tally.add fate)
    (hbefore : e.phase.settled = false) (hafter : phase'.settled = true)
    (hfailing : e.phase.isFailing = false)
    (hfailing' : phase'.isFailing = true → fate = .completed) (hgoes : e.phase.isFinished = false)
    (hunfinished : s'.unfinished = s.unfinished - phase'.isFinished.toNat) :
    Books plan done reader (front ++ { e with phase := phase' } :: back) s'
      (verdicts ++ [(e.place, fate)]) := by
  have hsettledCount := Errand.countP_phase front back e phase' (·.settled)
  have hfailingCount := Errand.countP_phase front back e phase' (·.isFailing)
  obtain ⟨hleft, hclosed⟩ := h.errand_unfinished hgoes hunfinished
  rw [hbefore, hafter] at hsettledCount
  rw [hfailing] at hfailingCount
  refine ⟨?_, ?_, ?_, ?_, ?_, ?_, ?_, hleft, hclosed⟩
  · rw [htally, Tally.read_add, h.read]
  · rw [htally, Tally.sortedOut_add, hfate, h.sortedOut]
    rfl
  · rw [htally, Tally.dispatched_add, h.dispatched]
    simp
  · rw [htally, Tally.settled_add, hfate, h.settled]
    exact hsettledCount.symm
  -- a fetch that failed counts as completed first, and then stands where it will count as failed
  · have hfailed := h.failed
    rw [htally, Tally.failed_add, Tally.completed_add]
    cases hfails : phase'.isFailing with
    | true =>
      rw [hfails, Bool.toNat_true, Bool.toNat_false] at hfailingCount
      rw [if_pos (hfailing' hfails)]
      omega
    | false =>
      rw [hfails] at hfailingCount
      omega
  · intro other
    rw [htally, Tally.under_add, h.under, List.countP_append, List.countP_singleton]
    simp
  · rw [List.map_append, List.map_singleton]
    refine (h.places.append_right _).trans ?_
    rw [List.append_assoc]
    exact (Errand.settledPlaces_perm hbefore hafter).append_left _

/-- A step of the task of an errand, with what it counts. -/
theorem errand_act (h : Books plan done reader (front ++ e :: back) s verdicts)
    (hmove : e.phase.Move phase' s.tally s'.tally) (hgoes : e.phase.isFinished = false)
    (hunfinished : s'.unfinished = s.unfinished - phase'.isFinished.toNat) :
    Books plan done reader (front ++ { e with phase := phase' } :: back) s'
      (verdicts ++ (s.tally.raised? s'.tally).toList.map fun fate => (e.place, fate)) := by
  cases hmove with
  | quiet htally hsettled hfailing =>
    rw [Tally.raised?_eq_none (by rw [htally]), Option.toList_none, List.map_nil, List.append_nil]
    exact h.errand_stays (by rw [htally]) (by rw [htally]) (by rw [htally]) hsettled
      (by rw [htally, hfailing]) hgoes hunfinished
  | settles fate hfate htally hbefore hafter hfailing hfailing' =>
    rw [htally, Tally.raised?_add, Option.toList_some, List.map_singleton]
    exact h.errand_settles hfate htally hbefore hafter hfailing hfailing' hgoes hunfinished
  | fails htally hsettled hbefore hafter =>
    have hunder : s'.tally.under = s.tally.under := by
      funext fate
      rw [htally]
      cases fate <;> rfl
    rw [Tally.raised?_eq_none hunder, Option.toList_none, List.map_nil, List.append_nil]
    exact h.errand_stays (by rw [htally]) (by rw [htally]) hunder hsettled
      (by rw [htally, hbefore, hafter]; rfl) hgoes hunfinished

/-- A step of the reader by which it is not done with another item. -/
theorem reader_stays (h : Books plan done reader crew s verdicts)
    (hread : s'.tally.read + reader.inHand.toList.length =
      s.tally.read + reader'.inHand.toList.length)
    (hdispatched : s'.tally.dispatched + reader.isDispatching.toNat =
      s.tally.dispatched + reader'.isDispatching.toNat)
    (hunder : s'.tally.under = s.tally.under) (hfailed : s'.tally.failed = s.tally.failed)
    (hunfinished : s'.unfinished = s.unfinished)
    (hclosed : reader'.stage = .closed → s'.unfinished = 0) :
    Books plan done reader' crew s' verdicts where
  read := by
    have := h.read
    omega
  sortedOut := by rw [Tally.sortedOut_eq hunder, h.sortedOut]
  dispatched := by
    have := h.dispatched
    omega
  settled := by rw [Tally.settled_eq hunder, h.settled]
  failed := by
    rw [hfailed, show s'.tally.completed = s.tally.completed from congrFun hunder .completed]
    exact h.failed
  under := by
    rw [hunder]
    exact h.under
  places := h.places
  unfinished := by rw [hunfinished, h.unfinished]
  closed := hclosed

/-- A step by which the reader sorts out an item. -/
theorem reader_sorts (h : Books plan done reader crew s verdicts) (hfate : fate.isReaders = true)
    (htally : s'.tally = s.tally.add fate) (hhand : reader.inHand = some item)
    (hhand' : reader'.inHand = none) (hdispatch : reader'.isDispatching = reader.isDispatching)
    (htakes : plan.takes item = false) (hunfinished : s'.unfinished = s.unfinished)
    (hclosed : reader'.stage = .closed → s'.unfinished = 0) :
    s.tally.read - 1 = done.length ∧
      Books plan (done ++ [item]) reader' crew s' (verdicts ++ [(done.length, fate)]) := by
  have hread := h.read
  rw [hhand, Option.toList_some, List.length_singleton] at hread
  refine ⟨by omega, ?_, ?_, ?_, ?_, ?_, ?_, ?_, by rw [hunfinished, h.unfinished], hclosed⟩
  · rw [htally, Tally.read_add, hread, hhand', List.length_append]
    rfl
  · rw [htally, Tally.sortedOut_add, hfate, h.sortedOut, List.countP_append, List.countP_singleton,
      htakes]
    rfl
  · rw [htally, Tally.dispatched_add, h.dispatched, hdispatch]
  · rw [htally, Tally.settled_add, hfate, h.settled]
    rfl
  · rw [htally, Tally.failed_add, Tally.completed_add]
    exact Nat.le_add_right_of_le h.failed
  · intro other
    rw [htally, Tally.under_add, h.under, List.countP_append, List.countP_singleton]
    simp
  · have hdone : ((done ++ [item]).zipIdx.filter fun x => !plan.takes x.1) =
        (done.zipIdx.filter fun x => !plan.takes x.1) ++ [(item, done.length)] := by
      simp [List.zipIdx_append, htakes]
    rw [hdone, List.map_append, List.map_append, List.map_singleton, List.append_assoc]
    refine (h.places.append_right _).trans ?_
    rw [List.append_assoc]
    exact List.perm_append_comm.append_left _

/-- A step by which the reader starts the task of an item. -/
theorem reader_starts (h : Books plan done reader crew s verdicts) (htally : s'.tally = s.tally)
    (hhand : reader.inHand = some item) (hhand' : reader'.inHand = none)
    (hdispatch : reader.isDispatching = true) (hdispatch' : reader'.isDispatching = false)
    (htakes : plan.takes item = true) (hunfinished : s'.unfinished = s.unfinished + 1)
    (hclosed : reader'.stage = .closed → s'.unfinished = 0) :
    Books plan (done ++ [item]) reader' (crew ++ [.fresh item done.length]) s' verdicts where
  read := by
    rw [htally, h.read, hhand, hhand', List.length_append]
    rfl
  sortedOut := by
    rw [htally, h.sortedOut]
    simp [htakes]
  dispatched := by
    rw [htally, h.dispatched, hdispatch, hdispatch', List.length_append]
    rfl
  settled := by
    rw [htally, h.settled]
    simp [Errand.fresh, ItemPhase.settled]
  failed := by
    rw [htally]
    simpa [Errand.fresh, ItemPhase.isFailing] using h.failed
  under := by
    rw [htally]
    exact h.under
  places := by
    simpa [Errand.settledPlaces, Errand.fresh, ItemPhase.settled, List.zipIdx_append, htakes]
      using h.places
  unfinished := by
    rw [hunfinished, h.unfinished]
    simp [Errand.fresh, ItemPhase.isFinished]
  closed := hclosed

/-- A step of the reader, with what it counts. -/
theorem reader_act {started : List WorkItem} (h : Books plan done reader crew s verdicts)
    (hmove : reader.Move plan reader' s.tally s'.tally started)
    (hunfinished : s'.unfinished = s.unfinished + started.length)
    (hclosed : reader'.stage = .closed →
      started = [] ∧ (reader.stage = .closed ∨ s.unfinished = 0)) :
    ∃ gone, reader.ahead plan.format = gone ++ reader'.ahead plan.format ∧
      gone.filter plan.takes = started ∧ gone.length ≤ 1 ∧
      Books plan (done ++ gone) reader' (crew ++ started.map (.fresh · done.length)) s'
        (verdicts ++ (s.tally.raised? s'.tally).toList.map fun fate =>
          (s.tally.read - 1, fate)) := by
  have hclosed' : reader'.stage = .closed → s'.unfinished = 0 := by
    intro hstage
    obtain ⟨rfl, hbefore⟩ := hclosed hstage
    rw [hunfinished, List.length_nil, Nat.add_zero]
    exact hbefore.elim h.closed id
  -- only what is sorted out adds a verdict; no other move changes a count that goes by a fate
  cases hmove with
  | quiet htally hahead hhand hdispatch =>
    refine ⟨[], hahead.symm, rfl, Nat.zero_le _, ?_⟩
    rw [Tally.raised?_eq_none (by rw [htally])]
    simp only [Option.toList_none, List.map_nil, List.append_nil]
    exact h.reader_stays (by rw [htally, hhand]) (by rw [htally, hdispatch]) (by rw [htally])
      (by rw [htally]) hunfinished hclosed'
  | reads item htally hahead hhand hhand' hdispatch hdispatch' =>
    have hunder : s'.tally.under = s.tally.under := by
      funext fate
      rw [htally]
      cases fate <;> rfl
    refine ⟨[], hahead.symm, rfl, Nat.zero_le _, ?_⟩
    rw [Tally.raised?_eq_none hunder]
    simp only [Option.toList_none, List.map_nil, List.append_nil]
    exact h.reader_stays (by rw [htally, hhand, hhand']; rfl)
      (by rw [htally, hdispatch, hdispatch']) hunder (by rw [htally]) hunfinished hclosed'
  | sorts item fate hfate htally hahead hhand hhand' hdispatch hdispatch' htakes =>
    obtain ⟨hplace, hbooks⟩ := h.reader_sorts hfate htally hhand hhand'
      (hdispatch'.trans hdispatch.symm) htakes hunfinished hclosed'
    refine ⟨[item], hahead, by simp [htakes], Nat.le_refl _, ?_⟩
    rw [htally, Tally.raised?_add, Option.toList_some, List.map_singleton, List.map_nil,
      List.append_nil, hplace]
    exact hbooks
  | dispatches htally hahead hhand hdispatch hdispatch' =>
    have hunder : s'.tally.under = s.tally.under := by
      funext fate
      rw [htally]
      cases fate <;> rfl
    refine ⟨[], hahead.symm, rfl, Nat.zero_le _, ?_⟩
    rw [Tally.raised?_eq_none hunder]
    simp only [Option.toList_none, List.map_nil, List.append_nil]
    exact h.reader_stays (by rw [htally, hhand]) (by rw [htally, hdispatch, hdispatch']; rfl) hunder
      (by rw [htally]) hunfinished hclosed'
  | starts item htally hahead hhand hhand' hdispatch hdispatch' htakes =>
    refine ⟨[item], hahead, by simp [htakes], Nat.le_refl _, ?_⟩
    rw [Tally.raised?_eq_none (by rw [htally]), Option.toList_none, List.map_nil, List.append_nil,
      List.map_singleton]
    exact h.reader_starts htally hhand hhand' hdispatch hdispatch' htakes hunfinished hclosed'

/-- Once the streams are closed every task has finished. -/
theorem finished (h : Books plan done reader crew s verdicts) (hstage : reader.stage = .closed) :
    ∀ e ∈ crew, e.phase.isFinished = true := by
  have hnone := h.unfinished.symm.trans (h.closed hstage)
  intro e he
  simpa using List.countP_eq_zero.mp hnone e he

/-- When the reader has returned, each item that was read has met its fate. -/
theorem places_of_returned {result : Except CrawlError CrawlSummary} {items : List WorkItem}
    {tasks : List (CrawlTask ψ)} (h : Books plan done (.returned result) crew s verdicts)
    (hmuster : Muster plan items done (.returned result) crew tasks) :
    (verdicts.map (·.1)).Perm (List.range s.tally.read) := by
  have hsettled : ∀ e ∈ crew, e.phase.settled = true :=
    fun e he => ItemPhase.settled_of_isFinished (h.finished rfl e he)
  have hplaces : Errand.settledPlaces crew = (plan.taken done).map (·.2) := by
    rw [← hmuster.origins, List.map_map, Errand.settledPlaces, List.filter_eq_self.mpr hsettled]
    rfl
  have hread : s.tally.read = done.length := h.read
  rw [hread]
  refine h.places.trans ?_
  rw [hplaces]
  exact plan.places_perm done

end Books

end PoliteCrawl
