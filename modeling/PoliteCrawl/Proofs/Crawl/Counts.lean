import PoliteCrawl.Proofs.Crawl.ItemStep
import PoliteCrawl.Proofs.Crawl.Items
import PoliteCrawl.Proofs.Crawl.ReaderStep

namespace PoliteCrawl

variable {ψ ε : Type}

/-- The task of an item does not break off in the fetch, whatever the envelope is. -/
def FetchResult.Unbroken (r : FetchResult) : Prop := ∀ e, r.breaksOff e = false

@[simp] theorem FetchResult.unbroken_record (page : FetchRecord) : (record page).Unbroken :=
  fun _ => rfl

@[simp] theorem FetchResult.unbroken_failed (error : CrawlError) : (failed error).Unbroken :=
  fun _ => rfl

theorem FetchResult.Unbroken.not_breaksOff {r : FetchResult} (h : r.Unbroken) (e : Envelope) :
    ¬ r.breaksOff e = true := Bool.eq_false_iff.mp (h e)

inductive Fate where
  | skipped
  | outOfPartition
  | rejected
  | robotsDenied
  | completed
  deriving DecidableEq, Repr

def Fate.isReaders : Fate → Bool
  | skipped | outOfPartition => true
  | _ => false

namespace Tally

def under (t : Tally) : Fate → Nat
  | .skipped => t.skipped
  | .outOfPartition => t.outOfPartition
  | .rejected => t.rejected
  | .robotsDenied => t.robotsDenied
  | .completed => t.completed

def add (t : Tally) : Fate → Tally
  | .skipped => { t with skipped := t.skipped + 1 }
  | .outOfPartition => { t with outOfPartition := t.outOfPartition + 1 }
  | .rejected => { t with rejected := t.rejected + 1 }
  | .robotsDenied => { t with robotsDenied := t.robotsDenied + 1 }
  | .completed => { t with completed := t.completed + 1 }

@[simp] theorem under_add (t : Tally) (fate fate' : Fate) :
    (t.add fate).under fate' = t.under fate' + if fate = fate' then 1 else 0 := by
  cases fate <;> cases fate' <;> rfl

@[simp] theorem read_add (t : Tally) (fate : Fate) : (t.add fate).read = t.read := by
  cases fate <;> rfl

@[simp] theorem dispatched_add (t : Tally) (fate : Fate) :
    (t.add fate).dispatched = t.dispatched := by
  cases fate <;> rfl

@[simp] theorem failed_add (t : Tally) (fate : Fate) : (t.add fate).failed = t.failed := by
  cases fate <;> rfl

@[simp] theorem completed_add (t : Tally) (fate : Fate) :
    (t.add fate).completed = t.completed + if fate = .completed then 1 else 0 :=
  under_add t fate .completed

/-- Items that the reader kept to itself. -/
def sortedOut (t : Tally) : Nat := t.skipped + t.outOfPartition

def settled (t : Tally) : Nat := t.rejected + t.robotsDenied + t.completed

theorem sortedOut_add (t : Tally) (fate : Fate) :
    (t.add fate).sortedOut = t.sortedOut + fate.isReaders.toNat := by
  cases fate <;> simp only [sortedOut, add, Fate.isReaders, Bool.toNat_true, Bool.toNat_false] <;>
    omega

theorem settled_add (t : Tally) (fate : Fate) :
    (t.add fate).settled = t.settled + (!fate.isReaders).toNat := by
  cases fate <;> simp only [settled, add, Fate.isReaders, Bool.not_true, Bool.not_false,
    Bool.toNat_true, Bool.toNat_false] <;> omega

def raised? (t t' : Tally) : Option Fate :=
  [Fate.skipped, .outOfPartition, .rejected, .robotsDenied, .completed].find? fun fate =>
    t.under fate < t'.under fate

theorem raised?_add (t : Tally) (fate : Fate) : t.raised? (t.add fate) = some fate := by
  cases fate <;> simp [raised?]

variable {t t' : Tally}

theorem sortedOut_eq (h : t'.under = t.under) : t'.sortedOut = t.sortedOut := by
  show t'.under .skipped + t'.under .outOfPartition = _
  rw [h]
  rfl

theorem settled_eq (h : t'.under = t.under) : t'.settled = t.settled := by
  show t'.under .rejected + t'.under .robotsDenied + t'.under .completed = _
  rw [h]
  rfl

theorem raised?_eq_none (h : t'.under = t.under) : t.raised? t' = none := by
  simp [raised?, h]

end Tally

namespace ReaderPhase

def inHand : ReaderPhase → Option WorkItem
  | sorting item _ | asking item _ | inLine item _ | dispatching item _ => some item
  | _ => none

def ahead (format : LineFormat) : ReaderPhase → List WorkItem
  | reading lines | givingBack _ lines => Input.itemsOn format lines
  | sorting item lines | asking item lines | inLine item lines | dispatching item lines =>
    item :: Input.itemsOn format lines
  | _ => []

/-- Whether an item counts as dispatched that has no task yet. -/
def isDispatching : ReaderPhase → Bool
  | dispatching .. => true
  | _ => false

/-- The reader asks for slots only for items that get a task. -/
def Fair (plan : CrawlPlan ψ ε) : ReaderPhase → Prop
  | asking item _ | inLine item _ | dispatching item _ => plan.takes item = true
  | _ => True

inductive Move (plan : CrawlPlan ψ ε) (before after : ReaderPhase) (t t' : Tally) :
    List WorkItem → Prop where
  | quiet (htally : t' = t) (hahead : after.ahead plan.format = before.ahead plan.format)
    (hhand : after.inHand = before.inHand)
    (hdispatch : after.isDispatching = before.isDispatching) :
    Move plan before after t t' []
  | reads (item : WorkItem) (htally : t' = { t with read := t.read + 1 })
    (hahead : after.ahead plan.format = before.ahead plan.format) (hhand : before.inHand = none)
    (hhand' : after.inHand = some item) (hdispatch : before.isDispatching = false)
    (hdispatch' : after.isDispatching = false) : Move plan before after t t' []
  | sorts (item : WorkItem) (fate : Fate) (hfate : fate.isReaders = true)
    (htally : t' = t.add fate) (hahead : before.ahead plan.format = item :: after.ahead plan.format)
    (hhand : before.inHand = some item) (hhand' : after.inHand = none)
    (hdispatch : before.isDispatching = false) (hdispatch' : after.isDispatching = false)
    (htakes : plan.takes item = false) : Move plan before after t t' []
  | dispatches (htally : t' = { t with dispatched := t.dispatched + 1 })
    (hahead : after.ahead plan.format = before.ahead plan.format)
    (hhand : after.inHand = before.inHand) (hdispatch : before.isDispatching = false)
    (hdispatch' : after.isDispatching = true) : Move plan before after t t' []
  | starts (item : WorkItem) (htally : t' = t)
    (hahead : before.ahead plan.format = item :: after.ahead plan.format)
    (hhand : before.inHand = some item) (hhand' : after.inHand = none)
    (hdispatch : before.isDispatching = true) (hdispatch' : after.isDispatching = false)
    (htakes : plan.takes item = true) : Move plan before after t t' [item]

variable {plan : CrawlPlan ψ ε} {phase phase' : ReaderPhase} {s s' : CrawlState ε}
  {started : List WorkItem}

theorem Leads.move (h : Leads plan phase s phase' s' started) (hfair : phase.Fair plan) :
    phase'.Fair plan ∧ Move plan phase phase' s.tally s'.tally started := by
  cases h with
  | stops hline =>
    exact ⟨trivial, .quiet rfl (by simp [ahead, Input.itemsOn, hline]) rfl rfl⟩
  | reads hline =>
    exact ⟨trivial, .reads _ rfl (by simp [ahead, Input.itemsOn, hline]) rfl rfl rfl rfl⟩
  | skips htakes => exact ⟨trivial, .sorts _ .skipped rfl rfl rfl rfl rfl rfl rfl htakes⟩
  | passesOn htakes =>
    exact ⟨trivial, .sorts _ .outOfPartition rfl rfl rfl rfl rfl rfl rfl htakes⟩
  | keeps htakes => exact ⟨htakes, .quiet rfl rfl rfl rfl⟩
  | asks => exact ⟨hfair, .quiet rfl rfl rfl rfl⟩
  | dispatches => exact ⟨hfair, .dispatches rfl rfl rfl rfl rfl⟩
  | starts item => exact ⟨trivial, .starts item rfl rfl rfl rfl rfl rfl hfair⟩
  | _ => exact ⟨trivial, .quiet rfl rfl rfl rfl⟩

end ReaderPhase

namespace ItemPhase

def settled : ItemPhase ψ → Bool
  | failing .. | requeueing .. | leaving | freeing | finished => true
  | _ => false

def isFailing : ItemPhase ψ → Bool
  | failing .. => true
  | _ => false

def isFinished : ItemPhase ψ → Bool
  | finished => true
  | _ => false

theorem eq_finished {phase : ItemPhase ψ} (h : phase.isFinished = true) : phase = finished := by
  cases phase with
  | finished => rfl
  | _ => cases h

theorem settled_of_isFinished {phase : ItemPhase ψ} (h : phase.isFinished = true) :
    phase.settled = true := by
  rw [eq_finished h]
  rfl

def Unbroken : ItemPhase ψ → Prop
  | awaiting _ result _ | writing _ result => result.Unbroken
  | _ => True

inductive Move (before after : ItemPhase ψ) (t t' : Tally) : Prop where
  | quiet (htally : t' = t) (hsettled : after.settled = before.settled)
    (hfailing : after.isFailing = before.isFailing)
  | settles (fate : Fate) (hfate : fate.isReaders = false) (htally : t' = t.add fate)
    (hbefore : before.settled = false) (hafter : after.settled = true)
    (hfailing : before.isFailing = false) (hfailing' : after.isFailing = true → fate = .completed)
  | fails (htally : t' = { t with failed := t.failed + 1 })
    (hsettled : after.settled = before.settled)
    (hbefore : before.isFailing = true) (hafter : after.isFailing = false)

variable {plan : CrawlPlan ψ ε} {now task : Nat} {phase phase' : ItemPhase ψ} {s s' : CrawlState ε}

theorem Leads.unbroken (h : Leads plan now task phase s phase' s')
    (hservice : ∀ calls call, (plan.service calls call).result.Unbroken)
    (hphase : phase.Unbroken) : phase'.Unbroken := by
  cases h with
  | calls candidate => exact hservice _ _
  | answered => exact hphase
  | requeues item entered => cases entered <;> trivial
  | _ => trivial

theorem Leads.unfinished (h : Leads plan now task phase s phase' s') :
    phase.isFinished = false ∧ s'.unfinished = s.unfinished - phase'.isFinished.toNat := by
  cases h with
  | requeues item entered => cases entered <;> exact ⟨rfl, rfl⟩
  | _ => exact ⟨rfl, rfl⟩

/-- An item that can be fetched never lacks an address or a host, so that only fetches fail. -/
theorem Leads.move {item : WorkItem} (h : Leads plan now task phase s phase' s')
    (hissue : item.issue? = none) (hof : phase.Of item) (hunbroken : phase.Unbroken) :
    Move phase phase' s.tally s'.tally := by
  cases h with
  | rejects => exact .settles .rejected rfl rfl rfl rfl rfl (by simp [isFailing])
  | denies => exact .settles .robotsDenied rfl rfl rfl rfl rfl (by simp [isFailing])
  | succeeds | fails => exact .settles .completed rfl rfl rfl rfl rfl fun _ => rfl
  | strays hnone =>
    -- This is the branch that no item reaches.
    cases hof
    exact absurd hnone (WorkItem.not_astray hissue)
  | breaksOff hbreaks => exact absurd hbreaks (FetchResult.Unbroken.not_breaksOff hunbroken _)
  | retries | givesUp => exact .fails rfl rfl rfl rfl
  | requeues item entered => cases entered <;> exact .quiet rfl rfl rfl
  | _ => exact .quiet rfl rfl rfl

end ItemPhase

end PoliteCrawl
