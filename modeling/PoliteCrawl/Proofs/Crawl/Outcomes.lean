import PoliteCrawl.Proofs.Crawl.GivenBack

namespace PoliteCrawl

variable {ψ ε : Type}

namespace Ending

def isFetched : Ending → Bool
  | fetched _ => true
  | _ => false

def isFailure : Ending → Bool
  | fetched (.error _) => true
  | _ => false

def isDenied : Ending → Bool
  | robotsDenied => true
  | _ => false

def placesOf (p : Ending → Bool) (endings : List (Nat × Ending)) : List Nat :=
  (endings.filter (p ·.2)).map (·.1)

theorem placesOf_append (p : Ending → Bool) (xs ys : List (Nat × Ending)) :
    placesOf p (xs ++ ys) = placesOf p xs ++ placesOf p ys := by
  rw [placesOf, List.filter_append, List.map_append, placesOf, placesOf]

theorem placesOf_note (p : Ending → Bool) (place : Nat) (ending? : Option Ending) :
    placesOf p (ending?.toList.map (place, ·)) = if ending?.any p then [place] else [] := by
  cases ending? with
  | none => rfl
  | some ending => cases hp : p ending <;> simp [placesOf, hp]

def fetchedPlaces (endings : List (Nat × Ending)) : List Nat :=
  (endings.filter (·.2.isFetched)).map (·.1)

def denied (items : List WorkItem) (endings : List (Nat × Ending)) : List WorkItem :=
  (endings.filter (·.2.isDenied)).filterMap fun x => items[x.1]?

theorem countP_note (p : Ending → Bool) (endings : List (Nat × Ending)) (place : Nat)
    (ending? : Option Ending) : (endings ++ ending?.toList.map (place, ·)).countP (p ·.2) =
      endings.countP (p ·.2) + (ending?.any p).toNat := by
  cases ending? with
  | none => simp
  | some ending => cases hp : p ending <;> simp [hp]

end Ending

def Tally.ofEndings (endings : List Ending) : Tally where
  read := endings.length
  skipped := endings.countP (·.fate = .skipped)
  outOfPartition := endings.countP (·.fate = .outOfPartition)
  dispatched := endings.countP (!·.fate.isReaders)
  rejected := endings.countP (·.fate = .rejected)
  robotsDenied := endings.countP (·.fate = .robotsDenied)
  completed := endings.countP (·.fate = .completed)
  failed := endings.countP (·.isFailure)

theorem Tally.ofEndings_perm {endings endings' : List Ending} (h : endings.Perm endings') :
    ofEndings endings = ofEndings endings' := by
  simp only [ofEndings, h.length_eq, h.countP_eq]

theorem Ending.countP_dispatched (endings : List Ending) :
    endings.countP (!·.fate.isReaders) = endings.countP (·.fate = .rejected) +
      endings.countP (·.fate = .robotsDenied) + endings.countP (·.fate = .completed) := by
  induction endings with
  | nil => rfl
  | cons ending endings ih =>
    simp only [List.countP_cons, ih]
    cases ending <;> simp [fate, Fate.isReaders] <;> omega

/-- The reader ends no item with a fetch. -/
theorem ReaderPhase.not_fetched_of_ending? {plan : CrawlPlan ψ ε} {phase : ReaderPhase}
    {ending : Ending} (h : phase.ending? plan = some ending) :
    ending.isFetched = false ∧ ending.isFailure = false := by
  cases phase with
  | sorting item lines =>
    rw [ending?] at h
    split at h
    · cases h
      exact ⟨rfl, rfl⟩
    · split at h <;> cases h
      exact ⟨rfl, rfl⟩
  | _ => cases h

theorem ReaderPhase.Leads.failed {plan : CrawlPlan ψ ε} {phase phase' : ReaderPhase}
    {s s' : CrawlState ε} {started : List WorkItem} (h : Leads plan phase s phase' s' started) :
    s'.tally.failed = s.tally.failed := by
  cases h <;> rfl

namespace ItemPhase

/-- Whether the fetch of the item has been called for, and the item has not ended. -/
def isPursued : ItemPhase ψ → Bool
  | awaiting .. | writing .. | completing .. => true
  | _ => false

variable {plan : CrawlPlan ψ ε} {now task : Nat} {phase phase' : ItemPhase ψ} {s s' : CrawlState ε}
  {item : WorkItem}

/-- A fetch that is called for is pursued until its item ends. -/
theorem Leads.pursued (h : Leads plan now task phase s phase' s') (hunbroken : phase.Unbroken)
    (place : Nat) :
    ((CrawlTask.calling? (.item phase)).toList.map fun _ => place) ++
        (if phase.isPursued then [place] else []) =
      (if (phase.ending? plan).any Ending.isFetched then [place] else []) ++
        (if phase'.isPursued then [place] else []) := by
  cases h with
  | breaksOff hbreaks => exact absurd hbreaks (FetchResult.Unbroken.not_breaksOff hunbroken _)
  | denies hallowed | pausesFor hallowed | goesOn hallowed =>
    rw [ending?, hallowed]
    rfl
  | requeues item entered => cases entered <;> rfl
  | _ => rfl

/-- A fetch that ends with an error counts as failed, if not at once. -/
theorem Leads.failed (h : Leads plan now task phase s phase' s') (hissue : item.issue? = none)
    (hof : phase.Of item) (hunbroken : phase.Unbroken) :
    s'.tally.failed + phase'.isFailing.toNat =
      s.tally.failed + phase.isFailing.toNat + ((phase.ending? plan).any Ending.isFailure).toNat := by
  cases h with
  | strays hnone =>
    cases hof
    exact absurd hnone (WorkItem.not_astray hissue)
  | breaksOff hbreaks => exact absurd hbreaks (FetchResult.Unbroken.not_breaksOff hunbroken _)
  | denies hallowed | pausesFor hallowed | goesOn hallowed =>
    rw [ending?, hallowed]
    rfl
  | requeues item entered => cases entered <;> rfl
  | _ => rfl

end ItemPhase

namespace Errand

variable {f : ItemPhase ψ → Bool} {p : Ending → Bool} {noted more : List Nat}
  {crew front back : List (Errand ψ)} {e : Errand ψ} {phase' : ItemPhase ψ}
  {endings : List (Nat × Ending)} {ending? : Option Ending}

/-- If some places go in and out of a list as their errands come to and leave some phases, none gets
lost as the task of an errand goes on. -/
theorem perm_errand {out out' : List Nat}
    (h : noted.Perm (out ++ (front ++ e :: back).flatMap fun e =>
      if f e.phase then [e.place] else []))
    (hstep : more ++ (if f e.phase then [e.place] else []) =
      out' ++ (if f phase' then [e.place] else [])) :
    (noted ++ more).Perm (out ++ out' ++
      (front ++ { e with phase := phase' } :: back).flatMap fun e =>
        if f e.phase then [e.place] else []) := by
  apply List.perm_iff_count.mpr
  intro place
  have hbefore := h.count_eq place
  have hcount := congrArg (List.count place) hstep
  simp only [List.count_append, List.flatMap_append, List.flatMap_cons] at hbefore hcount ⊢
  omega

/-- The reader starts errands that have yet to come to such a phase. -/
theorem perm_reader {out : List Nat}
    (h : noted.Perm (out ++ crew.flatMap fun e => if f e.phase then [e.place] else []))
    (hfresh : ∀ item : WorkItem, f (.entering item (.start item)) = false) (place : Nat)
    (started : List WorkItem) :
    noted.Perm (out ++ (crew ++ started.map (Errand.fresh · place)).flatMap fun e : Errand ψ =>
      if f e.phase then [e.place] else []) := by
  have hnone : (started.map (Errand.fresh (ψ := ψ) · place)).flatMap
      (fun e => if f e.phase then [e.place] else []) = [] := by
    apply List.flatMap_eq_nil_iff.mpr
    intro e he
    obtain ⟨item, -, rfl⟩ := List.mem_map.mp he
    exact if_neg (by simp [fresh, hfresh])
  rw [List.flatMap_append, hnone, List.append_nil]
  exact h

/-- If places are noted in some phases, and their items end in such ways after that, no place gets
lost as the task of an errand goes on. -/
theorem noted_errand (h : noted.Perm (Ending.placesOf p endings ++
      (front ++ e :: back).flatMap fun e => if f e.phase then [e.place] else []))
    (hstep : more ++ (if f e.phase then [e.place] else []) =
      (if ending?.any p then [e.place] else []) ++ (if f phase' then [e.place] else [])) :
    (noted ++ more).Perm (Ending.placesOf p (endings ++ ending?.toList.map (e.place, ·)) ++
      (front ++ { e with phase := phase' } :: back).flatMap fun e =>
        if f e.phase then [e.place] else []) := by
  rw [Ending.placesOf_append, Ending.placesOf_note]
  exact perm_errand h hstep

theorem length_places (f : ItemPhase ψ → Bool) (crew : List (Errand ψ)) :
    (crew.flatMap fun e => if f e.phase then [e.place] else []).length =
      crew.countP (f ·.phase) := by
  induction crew with
  | nil => rfl
  | cons e crew ih =>
    rw [List.flatMap_cons, List.length_append, ih, List.countP_cons, Nat.add_comm]
    split <;> rfl

/-- The reader notes no place and starts errands that have yet to come to such a phase. -/
theorem noted_reader (h : noted.Perm (Ending.placesOf p endings ++
      crew.flatMap fun e => if f e.phase then [e.place] else []))
    (hending : ending?.any p = false)
    (hfresh : ∀ item : WorkItem, f (.entering item (.start item)) = false) (read place : Nat)
    (started : List WorkItem) :
    noted.Perm (Ending.placesOf p (endings ++ ending?.toList.map (read, ·)) ++
      (crew ++ started.map (Errand.fresh · place)).flatMap fun e : Errand ψ =>
        if f e.phase then [e.place] else []) := by
  rw [Ending.placesOf_append, Ending.placesOf_note, hending]
  exact perm_reader (by simpa using h) hfresh place started

end Errand

/-- What has become of the fetches that were called for at some places: their items have ended, or
are pursued, and those that ended with an error count as failed or are about to. -/
structure Pursuit (crew : List (Errand ψ)) (endings : List (Nat × Ending)) (called : List Nat)
    (s : CrawlState ε) : Prop where
  places : called.Perm (Ending.fetchedPlaces endings ++
    crew.flatMap fun e => if e.phase.isPursued then [e.place] else [])
  failed : s.tally.failed + crew.countP (·.phase.isFailing) = endings.countP (·.2.isFailure)

namespace Pursuit

variable {plan : CrawlPlan ψ ε} {now task : Nat} {reader reader' : ReaderPhase}
  {crew front back : List (Errand ψ)} {e : Errand ψ} {phase' : ItemPhase ψ}
  {endings : List (Nat × Ending)} {called : List Nat} {s s' : CrawlState ε}
  {started : List WorkItem}

theorem reader_act (h : Pursuit crew endings called s)
    (hleads : reader.Leads plan s reader' s' started) (read place : Nat) :
    Pursuit (crew ++ started.map (.fresh · place))
      (endings ++ (reader.ending? plan).toList.map (read, ·)) called s' := by
  have hany : (reader.ending? plan).any Ending.isFetched = false ∧
      (reader.ending? plan).any Ending.isFailure = false := by
    cases hending : reader.ending? plan with
    | none => exact ⟨rfl, rfl⟩
    | some ending => exact ReaderPhase.not_fetched_of_ending? hending
  have hfailing : (started.map (Errand.fresh (ψ := ψ) · place)).countP (·.phase.isFailing) = 0 := by
    rw [List.countP_map]
    exact List.countP_eq_zero.mpr fun _ _ => Bool.false_ne_true
  refine ⟨?_, ?_⟩
  · exact Errand.noted_reader h.places hany.1 (fun _ => rfl) read place started
  · rw [hleads.failed, List.countP_append, hfailing, Ending.countP_note Ending.isFailure, hany.2]
    exact h.failed

theorem errand_act (h : Pursuit (front ++ e :: back) endings called s)
    (hleads : e.phase.Leads plan now task s phase' s') (hissue : e.item.issue? = none)
    (hof : e.phase.Of e.item) (hunbroken : e.phase.Unbroken) :
    Pursuit (front ++ { e with phase := phase' } :: back)
      (endings ++ (e.phase.ending? plan).toList.map (e.place, ·))
      (called ++ (CrawlTask.calling? (.item e.phase)).toList.map fun _ => e.place) s' := by
  refine ⟨?_, ?_⟩
  · exact Errand.noted_errand h.places (hleads.pursued hunbroken e.place)
  · have hfailing := Errand.countP_phase front back e phase' (·.isFailing)
    have hfailed := hleads.failed hissue hof hunbroken
    have hbefore := h.failed
    rw [Ending.countP_note Ending.isFailure]
    omega

end Pursuit

namespace Crawler

variable {c : Crawler ψ ε} {input : List UInt8} {envelope : Envelope} {requeue : RequeueStream}
  {events : List (Event (CrawlTask ψ) (CrawlState ε))}
  {last : Configuration (CrawlTask ψ) (CrawlState ε)} {summary : CrawlSummary}

theorem kept_pursuit (hservice : ∀ calls call, (c.plan.service calls call).result.Unbroken) :
    c.Kept input envelope requeue fun _ _ crew events s =>
      Pursuit crew (CrawlTask.endings c.plan (Input.items c.plan.format input) events)
        ((CrawlTask.fetched c.plan (Input.items c.plan.format input) events).map (·.1)) s where
  start := ⟨.refl _, rfl⟩
  reader _ hmuster hpursuit hleads _ := by
    rw [CrawlTask.endings, CrawlTask.fetched, CrawlTask.noted_reader hmuster,
      CrawlTask.noted_reader hmuster]
    change Pursuit _ _ ((_ ++ []).map _) _
    rw [List.append_nil]
    exact hpursuit.reader_act hleads _ _
  errand := by
    intro done reader front e back events d turn phase' h hmuster hpursuit hleads
    have he : e ∈ front ++ e :: back := List.mem_append_cons_self
    have hissue := WorkItem.issue?_of_takes (hmuster.origin_mem he).2
    obtain ⟨hunbroken, -, -⟩ := (kept_books hservice).of_muster h hmuster
    rw [CrawlTask.endings, CrawlTask.fetched, CrawlTask.noted_errand hmuster,
      CrawlTask.noted_errand hmuster, List.map_append, List.map_map]
    exact hpursuit.errand_act hleads hissue (hmuster.own e he) (hunbroken e he)
  pass hpursuit := by
    rw [CrawlTask.endings, CrawlTask.fetched, CrawlTask.noted_pass, CrawlTask.noted_pass]
    exact hpursuit

/-- When a run has returned, each item that was fetched has ended with its fetch. -/
theorem fetched_of_returned
    (hservice : ∀ calls call, (c.plan.service calls call).result.Unbroken)
    (h : (CrawlTask.machine c.plan).History (c.start (Input.lines input) envelope requeue) events
      last)
    {result : Except CrawlError CrawlSummary}
    (hreturned : last.tasks[readerTask]?.bind (·.result?) = some result) :
    ((CrawlTask.fetched c.plan (Input.items c.plan.format input) events).map (·.1)).Perm
      (Ending.fetchedPlaces
        (CrawlTask.endings c.plan (Input.items c.plan.format input) events)) := by
  obtain ⟨done, reader, crew, hmuster, hpursuit⟩ := (kept_pursuit hservice).of_history h
  have hreader := hmuster.reader_of_result hreturned
  have hbooks := books_of_muster hservice h hmuster
  subst hreader
  have hpursued : crew.flatMap (fun e => if e.phase.isPursued then [e.place] else []) = [] := by
    apply List.flatMap_eq_nil_iff.mpr
    intro e he
    rw [ItemPhase.eq_finished (hbooks.finished rfl e he)]
    rfl
  have hplaces := hpursuit.places
  rw [hpursued, List.append_nil] at hplaces
  exact hplaces

/-- When a run has returned, every item has come to one end. -/
theorem endings_of_returned
    (hservice : ∀ calls call, (c.plan.service calls call).result.Unbroken)
    (h : (CrawlTask.machine c.plan).History (c.start (Input.lines input) envelope requeue) events
      last)
    {result : Except CrawlError CrawlSummary}
    (hreturned : last.tasks[readerTask]?.bind (·.result?) = some result) :
    ((CrawlTask.endings c.plan (Input.items c.plan.format input) events).map (·.1)).Perm
      (List.range (Input.items c.plan.format input).length) := by
  obtain ⟨done, reader, crew, hmuster⟩ := muster_of_history h
  have hreader := hmuster.reader_of_result hreturned
  have hbooks := books_of_muster hservice h hmuster
  subst hreader
  -- The reader has no item ahead of it.
  have hdone : Input.items c.plan.format input = done := by
    rw [hmuster.order]
    exact List.append_nil done
  have hread : last.shared.tally.read = (Input.items c.plan.format input).length := by
    rw [hdone]
    exact hbooks.read
  have hplaces := hbooks.places_of_returned hmuster
  rw [CrawlTask.verdicts_eq_endings h, List.map_map, hread] at hplaces
  exact hplaces

/-- The counts of a run that has returned are those of the ends of its items. -/
theorem tally_of_returned
    (hservice : ∀ calls call, (c.plan.service calls call).result.Unbroken)
    (h : (CrawlTask.machine c.plan).History (c.start (Input.lines input) envelope requeue) events
      last)
    {result : Except CrawlError CrawlSummary}
    (hreturned : last.tasks[readerTask]?.bind (·.result?) = some result) :
    last.shared.tally = .ofEndings
      ((CrawlTask.endings c.plan (Input.items c.plan.format input) events).map (·.2)) := by
  obtain ⟨done, reader, crew, hmuster, hpursuit⟩ := (kept_pursuit hservice).of_history h
  have hreader := hmuster.reader_of_result hreturned
  have hbooks := books_of_muster hservice h hmuster
  subst hreader
  -- the verdicts are the fates of the ends, so each count is that of the ends with a fate
  have hunder : ∀ fate, last.shared.tally.under fate =
      ((CrawlTask.endings c.plan (Input.items c.plan.format input) events).map (·.2)).countP
        (·.fate = fate) := by
    intro fate
    rw [hbooks.under, CrawlTask.verdicts_eq_endings h, List.countP_map, List.countP_map]
    rfl
  have hread : last.shared.tally.read =
      (CrawlTask.endings c.plan (Input.items c.plan.format input) events).length := by
    have hplaces := (hbooks.places_of_returned hmuster).length_eq
    rw [CrawlTask.verdicts_eq_endings h, List.length_map, List.length_map,
      List.length_range] at hplaces
    exact hplaces.symm
  have hfailed : last.shared.tally.failed =
      ((CrawlTask.endings c.plan (Input.items c.plan.format input) events).map (·.2)).countP
        (·.isFailure) := by
    -- a task that has finished is not on its way from completed to failed
    have hnone : crew.countP (·.phase.isFailing) = 0 := by
      refine List.countP_eq_zero.mpr fun e he hfailing => ?_
      rw [ItemPhase.eq_finished (hbooks.finished rfl e he)] at hfailing
      cases hfailing
    have hbefore := hpursuit.failed
    rw [hnone, Nat.add_zero] at hbefore
    rw [hbefore, List.countP_map]
    rfl
  have hdispatched : last.shared.tally.dispatched = last.shared.tally.settled := by
    have hsettled : ∀ e ∈ crew, e.phase.settled = true :=
      fun e he => ItemPhase.settled_of_isFinished (hbooks.finished rfl e he)
    rw [hbooks.dispatched, hbooks.settled, List.countP_eq_length.mpr hsettled]
    rfl
  have hsettled : last.shared.tally.settled = last.shared.tally.under .rejected +
    last.shared.tally.under .robotsDenied + last.shared.tally.under .completed := rfl
  rw [hsettled, hunder, hunder, hunder, ← Ending.countP_dispatched] at hdispatched
  have hskipped := hunder .skipped
  have houtside := hunder .outOfPartition
  have hrejected := hunder .rejected
  have hdenied := hunder .robotsDenied
  have hcompleted := hunder .completed
  cases htally : last.shared.tally with
  | mk read skipped outOfPartition dispatched rejected robotsDenied completed failed =>
    rw [htally] at hread hskipped houtside hdispatched hrejected hdenied hcompleted hfailed
    simp only [Tally.under] at hskipped houtside hrejected hdenied hcompleted
    simp only at hread hdispatched hfailed
    rw [Tally.ofEndings, List.length_map, ← hread, ← hskipped, ← houtside, ← hdispatched,
      ← hrejected, ← hdenied, ← hcompleted, ← hfailed]

end Crawler

end PoliteCrawl
