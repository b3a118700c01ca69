import PoliteCrawl.Proofs.Crawl.Summary

namespace PoliteCrawl

variable {ψ ε : Type}

/-- How an item ends: sorted out by the reader, turned away by the valve or by robots rules, or with
what its fetch came to. -/
inductive Ending where
  | skipped
  | outOfPartition
  | rejected
  | robotsDenied
  | fetched (outcome : Except CrawlError Unit)

namespace Ending

def fate : Ending → Fate
  | skipped => .skipped
  | outOfPartition => .outOfPartition
  | rejected => .rejected
  | robotsDenied => .robotsDenied
  | fetched _ => .completed

def goesBack : Ending → Bool
  | outOfPartition | rejected => true
  | fetched (.error error) => error.isRetryable
  | skipped | robotsDenied | fetched (.ok ()) => false

end Ending

def ReaderPhase.ending? (plan : CrawlPlan ψ ε) : ReaderPhase → Option Ending
  | sorting item _ =>
    if item.issue?.isSome then some .skipped
    else if item.belongsTo plan.partition then none else some .outOfPartition
  | _ => none

def ItemPhase.ending? (plan : CrawlPlan ψ ε) : ItemPhase ψ → Option Ending
  | rejecting _ => some .rejected
  | judging candidate robots =>
    if allowed plan.agent candidate.target robots then none else some .robotsDenied
  | completing _ outcome => some (.fetched outcome)
  | _ => none

namespace CrawlTask

def ending? (plan : CrawlPlan ψ ε) : CrawlTask ψ → Option Ending
  | reader phase => phase.ending? plan
  | item phase => phase.ending? plan

/-- What the steps of a run show of items, by the phases and states that they set out from, with the
places of the items. -/
def noted {α : Type} (f : CrawlTask ψ → CrawlState ε → List α) (plan : CrawlPlan ψ ε)
    (items : List WorkItem) (events : List (Event (CrawlTask ψ) (CrawlState ε))) :
    List (Nat × α) :=
  (acts events).flatMap fun a => (place? plan items a).toList.flatMap fun place =>
    (a.phase?.toList.flatMap (f · a.before.shared)).map (place, ·)

def endings (plan : CrawlPlan ψ ε) (items : List WorkItem)
    (events : List (Event (CrawlTask ψ) (CrawlState ε))) : List (Nat × Ending) :=
  noted (fun task _ => (ending? plan task).toList) plan items events

section noted

variable {α : Type} {f : CrawlTask ψ → CrawlState ε → List α} {plan : CrawlPlan ψ ε}
  {items : List WorkItem} {events : List (Event (CrawlTask ψ) (CrawlState ε))}

theorem noted_act {a : Act (CrawlTask ψ) (CrawlState ε)} {place : Nat} {phase : CrawlTask ψ}
    (hplace : place? plan items a = some place) (hphase : a.phase? = some phase) :
    noted f plan items (events ++ [.act a]) =
      noted f plan items events ++ (f phase a.before.shared).map (place, ·) := by
  rw [noted, acts_append, acts_act, List.flatMap_append, List.flatMap_singleton, hplace, hphase,
    Option.toList_some, Option.toList_some, List.flatMap_singleton, List.flatMap_singleton, noted]

@[simp] theorem noted_pass {c : Configuration (CrawlTask ψ) (CrawlState ε)} {later : Nat} :
    noted f plan items (events ++ [.pass c later]) = noted f plan items events := by
  rw [noted, acts_append, acts_pass, List.append_nil, noted]

variable {done : List WorkItem} {reader : ReaderPhase} {crew front back : List (Errand ψ)}
  {e : Errand ψ} {c : Configuration (CrawlTask ψ) (CrawlState ε)}
  {turn : Turn (CrawlTask ψ) (CrawlState ε)}

theorem noted_reader (h : Muster plan items done reader crew c.tasks) :
    noted f plan items (events ++ [.act ⟨c, readerTask, turn⟩]) = noted f plan items events ++
      (f (.reader reader) c.shared).map (c.shared.tally.read - 1, ·) :=
  noted_act rfl h.phase?_reader

theorem noted_errand (h : Muster plan items done reader (front ++ e :: back) c.tasks) :
    noted f plan items (events ++ [.act ⟨c, front.length + 1, turn⟩]) =
      noted f plan items events ++ (f (.item e.phase) c.shared).map (e.place, ·) :=
  noted_act h.place?_errand h.phase?_errand

end noted

end CrawlTask

namespace ReaderPhase

variable {plan : CrawlPlan ψ ε} {phase phase' : ReaderPhase} {s s' : CrawlState ε}
  {started : List WorkItem} {item : WorkItem}

theorem ending?_of_takes (lines : List String) (h : plan.takes item = true) :
    (sorting item lines).ending? plan = none := by
  obtain ⟨hissue, hbelongs⟩ := Bool.and_eq_true_iff.mp h
  rw [Option.isNone_iff_eq_none] at hissue
  rw [ending?, hissue, hbelongs]
  rfl

theorem ending?_of_outside (lines : List String) (h : plan.takes item = false)
    (hissue : item.issue?.isSome = false) :
    (sorting item lines).ending? plan = some .outOfPartition := by
  have hbelongs : item.belongsTo plan.partition = false := by
    simpa [CrawlPlan.takes, Option.isSome_eq_false_iff.mp hissue] using h
  rw [ending?, hissue, hbelongs]
  rfl

theorem Leads.raised? (h : Leads plan phase s phase' s' started) :
    s.tally.raised? s'.tally = (phase.ending? plan).map Ending.fate := by
  cases h with
  | skips _ hissue =>
    rw [ending?, if_pos hissue]
    exact s.tally.raised?_add .skipped
  | passesOn htakes hissue =>
    rw [ending?_of_outside _ htakes hissue]
    exact s.tally.raised?_add .outOfPartition
  | keeps htakes =>
    rw [ending?_of_takes _ htakes]
    exact Tally.raised?_eq_none rfl
  | reads | dispatches =>
    apply Tally.raised?_eq_none
    funext fate
    cases fate <;> rfl
  | _ => exact Tally.raised?_eq_none rfl

end ReaderPhase

theorem ItemPhase.Leads.raised? {plan : CrawlPlan ψ ε} {now task : Nat} {phase phase' : ItemPhase ψ}
    {s s' : CrawlState ε} (h : Leads plan now task phase s phase' s') :
    s.tally.raised? s'.tally = (phase.ending? plan).map Ending.fate := by
  cases h with
  | rejects => exact s.tally.raised?_add .rejected
  | denies hallowed =>
    rw [ending?, hallowed]
    exact s.tally.raised?_add .robotsDenied
  | pausesFor hallowed | goesOn hallowed =>
    rw [ending?, hallowed]
    exact Tally.raised?_eq_none rfl
  | succeeds | fails => exact s.tally.raised?_add .completed
  | strays | breaksOff | retries | givesUp =>
    apply Tally.raised?_eq_none
    funext fate
    cases fate <;> rfl
  | _ => exact Tally.raised?_eq_none rfl

namespace CrawlTask

variable {plan : CrawlPlan ψ ε} {items : List WorkItem}
  {events : List (Event (CrawlTask ψ) (CrawlState ε))}
  {start last : Configuration (CrawlTask ψ) (CrawlState ε)}

theorem raised?_of_step {now task : Nat} {phase : CrawlTask ψ} {s : CrawlState ε}
    {turn : Turn (CrawlTask ψ) (CrawlState ε)}
    (h : (machine plan).step now task phase s = some turn) :
    s.tally.raised? turn.shared.tally = (phase.ending? plan).map Ending.fate := by
  cases phase with
  | reader phase =>
    obtain ⟨⟨phase', s', started⟩, hreader, rfl⟩ := Option.map_eq_some_iff.mp h
    exact (ReaderPhase.leads_of_step hreader).raised?
  | item phase =>
    obtain ⟨p, hp, rfl⟩ := Option.map_eq_some_iff.mp h
    exact (ItemPhase.leads_of_step hp).raised?

/-- An item is counted when it ends, under the fate that goes with its end. -/
theorem verdicts_eq_endings (h : (machine plan).History start events last) :
    verdicts plan items events =
      (endings plan items events).map fun x => (x.1, x.2.fate) := by
  induction h with
  | refl => rfl
  | @act c events task turn h hstep ih =>
    obtain ⟨phase, hphase, hturn⟩ := (machine plan).stepAt_eq_some hstep
    have hraised := raised?_of_step hturn
    cases hplace : place? plan items ⟨c, task, turn⟩ with
    | none => simpa [verdicts, endings, noted, verdict?, hplace] using ih
    | some place =>
      rw [verdicts_act hplace, endings, noted_act hplace hphase, List.map_append, ← endings, ih]
      congr 1
      rw [hraised]
      cases phase.ending? plan <;> rfl
  | pass _ _ ih =>
    rw [verdicts_pass, endings, noted_pass, ← endings]
    exact ih

end CrawlTask

end PoliteCrawl
