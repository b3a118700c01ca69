import PoliteCrawl.Proofs.Schedule.History
import PoliteCrawl.Proofs.Valve.Entry
import PoliteCrawl.Valve.Visit

namespace PoliteCrawl

variable {ι ψ σ : Type} [Inhabited σ]

namespace Hall

variable {h h' : Hall σ} {number : Nat}

def admissions (h : Hall σ) : List Admission := h.permits.map (·.2) ++ h.guests.map (·.2)

def hasGuest (h : Hall σ) (number : Nat) : Bool := h.guests.any (·.1 = number)

/-- To forget an entry is to forget its admission. -/
theorem perm_without {entries : List (Nat × Admission)}
    (hany : entries.any (·.1 = number) = true) :
    ∃ a, (entries.map (·.2)).Perm (a :: (without entries number).map (·.2)) := by
  obtain ⟨entry, hmem, hnumber⟩ := List.any_eq_true.mp hany
  have hsplit := List.exists_of_eraseP (p := fun e => decide (e.1 = number)) hmem hnumber
  obtain ⟨entry', front, back, -, -, hentries, herase⟩ := hsplit
  refine ⟨entry'.2, ?_⟩
  rw [without, herase, hentries, List.map_append, List.map_append, List.map_cons]
  exact List.perm_middle

theorem drop_of_not_hasPermit (hnone : h.hasPermit number = false) : h.drop number = h := by
  rw [drop, hnone, if_neg Bool.false_ne_true]

theorem drop_of_hasPermit (hsome : h.hasPermit number = true) :
    h.drop number =
      { h with valve := h.valve.release, permits := without h.permits number } := by
  rw [drop, if_pos hsome]

theorem inside_drop (h : Hall σ) (number : Nat) :
    (h.drop number).valve.inside =
      if h.hasPermit number then h.valve.inside - 1 else h.valve.inside := by
  unfold drop
  split <;> rfl

theorem threshold_drop (h : Hall σ) (number : Nat) :
    (h.drop number).valve.threshold = h.valve.threshold := by
  unfold drop
  split <;> rfl

theorem baseWait_drop (h : Hall σ) (number : Nat) :
    (h.drop number).valve.baseWait = h.valve.baseWait := by
  unfold drop
  split <;> rfl

theorem perm_drop (hsome : h.hasPermit number = true) :
    ∃ a, h.admissions.Perm (a :: (h.drop number).admissions) := by
  obtain ⟨a, hperm⟩ := perm_without hsome
  refine ⟨a, ?_⟩
  rw [drop_of_hasPermit hsome, admissions, admissions, ← List.cons_append]
  exact hperm.append_right _

theorem perm_exit (hguest : h.hasGuest number = true) :
    ∃ a, h.admissions.Perm (a :: (h.exit number).admissions) := by
  obtain ⟨a, hperm⟩ := perm_without hguest
  exact ⟨a, (hperm.append_left _).trans List.perm_middle⟩

theorem perm_keep (h : Hall σ) (number : Nat) (admission : Admission) :
    (h.keep number admission).admissions.Perm (admission :: (h.drop number).admissions) := by
  rw [keep, admissions, admissions, List.map_append, List.append_assoc]
  exact List.perm_middle

theorem perm_welcome (h : Hall σ) (number : Nat) (admission : Admission) :
    (h.welcome number admission).admissions.Perm (admission :: h.admissions) := by
  rw [welcome, admissions, admissions, List.map_append, ← List.append_assoc]
  exact List.perm_append_singleton _ _

end Hall

namespace HallPhase

def admission? : HallPhase ι ψ → Option Admission
  | entering _ _ entry => entry.admission?
  | arriving _ _ admission => some admission
  | _ => none

inductive Leads (number : ι → Nat) (h : Hall σ) :
    HallPhase ι ψ → HallPhase ι ψ → Hall σ → Prop where
  | starts (due : Option Nat) (item : ι) :
    Leads number h (coming due (.enter item)) (entering item true (.start item)) h
  | calls (due : Option Nat) (item : ι) :
    Leads number h (coming due (.pass item)) (entering item false (.start item)) h
  | exits (due : Option Nat) (n : Nat) :
    Leads number h (coming due (.exit n)) (looking .left) (h.exit n)
  | drops (due : Option Nat) (n : Nat) :
    Leads number h (coming due (.drop n)) (looking (.dropped (h.hasPermit n))) (h.drop n)
  | enters (item : ι) (keeps : Bool) {entry entry' : EntryPhase ι ψ} {valve : Valve} {asked : σ}
    (hentry : entry.Leads h.valve entry' valve) :
    Leads number h (entering item keeps entry) (entering item keeps entry') { h with valve, asked }
  | fails (item : ι) (keeps : Bool) :
    Leads number h (entering item keeps (.settled none)) (looking (.entered none)) h
  | arrives (item : ι) (keeps : Bool) (admission : Admission) :
    Leads number h (entering item keeps (.settled (some admission)))
      (arriving item keeps admission) h
  | keeps (item : ι) (admission : Admission) :
    Leads number h (arriving item true admission) (looking (.entered (some admission)))
      (h.keep (number item) admission)
  | welcomes (item : ι) (admission : Admission) :
    Leads number h (arriving item false admission) (looking (.entered (some admission)))
      (h.welcome (number item) admission)
  | looks (answer : VisitAnswer) (time : Nat) :
    Leads number h (looking answer) (finished answer h.valve.inside time) h

variable {p : WaitPredicate ι ψ σ} {number : ι → Nat} {now task : Nat}
  {phase phase' : HallPhase ι ψ} {h h' : Hall σ} {next : Progress (HallPhase ι ψ) (Hall σ)}

theorem leads_of_step (hstep : phase.step p number now task h = some next) :
    phase.Leads number h next.phase next.shared := by
  cases phase with
  | coming due visit =>
    simp only [step] at hstep
    split at hstep <;> cases hstep
    cases visit with
    | enter item => exact .starts due item
    | pass item => exact .calls due item
    | exit n => exact .exits due n
    | drop n => exact .drops due n
  | entering item keeps entry =>
    simp only [step] at hstep
    split at hstep
    · cases hstep
      exact .fails item keeps
    · cases hstep
      exact .arrives item keeps _
    · obtain ⟨next, hentry, rfl⟩ := Option.map_eq_some_iff.mp hstep
      exact .enters item keeps (EntryPhase.leads_of_step hentry)
  | arriving item keeps admission =>
    cases hstep
    cases keeps with
    | true => exact .keeps item admission
    | false => exact .welcomes item admission
  | looking answer =>
    cases hstep
    exact .looks answer now
  | finished answer inside time => cases hstep

def releases (number : ι → Nat) (h : Hall σ) : HallPhase ι ψ → Bool
  | coming _ (.exit _) => true
  | coming _ (.drop n) => h.hasPermit n
  | arriving item true _ => h.hasPermit (number item)
  | _ => false

/-- A step lowers the count by one at most, and only by a release. -/
theorem Leads.inside (hleads : phase.Leads number h phase' h') :
    if phase.releases number h then h'.valve.inside = h.valve.inside - 1
    else h.valve.inside ≤ h'.valve.inside ∧ h'.valve.inside ≤ h.valve.inside + 1 := by
  cases hleads with
  | exits => exact rfl
  | drops due n | keeps item admission =>
    change if h.hasPermit _ then (h.drop _).valve.inside = _
      else _ ≤ (h.drop _).valve.inside ∧ (h.drop _).valve.inside ≤ _
    rw [Hall.inside_drop]
    split
    · rfl
    · exact ⟨Nat.le_refl _, Nat.le_succ _⟩
  | enters item keeps hentry =>
    obtain ⟨-, hinside⟩ := hentry.inside
    change _ ≤ _ ∧ _ ≤ _
    rw [hinside]
    exact ⟨Nat.le_add_right _ _, Nat.add_le_add_left (Bool.toNat_le _) _⟩
  | _ => exact ⟨Nat.le_refl _, Nat.le_succ _⟩

theorem Leads.threshold (hleads : phase.Leads number h phase' h') :
    h'.valve.threshold = h.valve.threshold := by
  cases hleads with
  | drops due n | keeps item admission => exact Hall.threshold_drop h _
  | enters item keeps hentry => exact hentry.threshold
  | _ => rfl

theorem Leads.baseWait (hleads : phase.Leads number h phase' h') :
    h'.valve.baseWait = h.valve.baseWait := by
  cases hleads with
  | drops due n | keeps item admission => exact Hall.baseWait_drop h _
  | enters item keeps hentry => exact hentry.baseWait
  | _ => rfl

end HallPhase

namespace Valve

variable {v v' : Valve} {held held' : List Admission}

/-- A valve counts admissions, of which no more are below the threshold than that allows. -/
structure Exact (v : Valve) (held : List Admission) : Prop where
  inside : v.inside = held.length
  below : held.count .below ≤ v.threshold

inductive Change (v : Valve) (held : List Admission) (v' : Valve) (held' : List Admission) :
    Prop where
  | same (hinside : v'.inside = v.inside) (hperm : held'.Perm held)
  | gains (a : Admission) (hroom : a = .below → v.inside < v.threshold)
    (hinside : v'.inside = v.inside + 1) (hperm : held'.Perm (a :: held))
  | loses (a : Admission) (hinside : v'.inside = v.inside - 1) (hperm : held.Perm (a :: held'))

theorem Exact.perm (h : v.Exact held) (hperm : held'.Perm held) : v.Exact held' :=
  ⟨h.inside.trans hperm.length_eq.symm, hperm.count_eq _ ▸ h.below⟩

theorem Change.append (h : v.Change held v' held') (rest : List Admission) :
    v.Change (held ++ rest) v' (held' ++ rest) := by
  cases h with
  | same hinside hperm => exact .same hinside (hperm.append_right rest)
  | gains a hroom hinside hperm => exact .gains a hroom hinside (hperm.append_right rest)
  | loses a hinside hperm => exact .loses a hinside (hperm.append_right rest)

/-- Below the threshold an item is let in only while all that are inside are too few. -/
theorem Exact.change (h : v.Exact held) (hchange : v.Change held v' held')
    (hthreshold : v'.threshold = v.threshold) : v'.Exact held' := by
  have hinside := h.inside
  have hbelow := h.below
  cases hchange with
  | same hsame hperm => exact ⟨hsame.trans (h.perm hperm).inside, hthreshold ▸ (h.perm hperm).below⟩
  | gains a hroom hmore hperm =>
    have hlength := hperm.length_eq
    have hcount := hperm.count_eq .below
    have hle : held.count .below ≤ held.length := List.count_le_length
    rw [List.length_cons] at hlength
    rw [List.count_cons] at hcount
    refine ⟨by omega, ?_⟩
    split at hcount
    · rename_i ha
      have hlt := hroom (by simpa using ha)
      omega
    · omega
  | loses a hless hperm =>
    have hlength := hperm.length_eq
    have hcount := hperm.count_eq .below
    rw [List.length_cons] at hlength
    rw [List.count_cons] at hcount
    exact ⟨by omega, by omega⟩

end Valve

namespace HallPhase

variable {p : WaitPredicate ι ψ σ} {number : ι → Nat} {phase phase' : HallPhase ι ψ} {h h' : Hall σ}

/-- Whether a task is about to let out a guest who is not there. -/
def strays (h : Hall σ) : HallPhase ι ψ → Bool
  | coming _ (.exit n) => !h.hasGuest n
  | _ => false

/-- What a step makes of the admissions of a task and those that are kept. -/
theorem Leads.change (hleads : phase.Leads number h phase' h') (hguest : phase.strays h = false) :
    h.valve.Change (phase.admission?.toList ++ h.admissions) h'.valve
      (phase'.admission?.toList ++ h'.admissions) := by
  cases hleads with
  | starts | calls | fails | arrives | looks => exact .same rfl .rfl
  | exits due n =>
    obtain ⟨a, hperm⟩ := Hall.perm_exit (by simpa [strays] using hguest)
    exact .loses a rfl hperm
  | drops due n =>
    have hinside := h.inside_drop n
    cases hpermit : h.hasPermit n with
    | true =>
      rw [hpermit, if_pos rfl] at hinside
      obtain ⟨a, hperm⟩ := Hall.perm_drop hpermit
      exact .loses a hinside hperm
    | false =>
      rw [Hall.drop_of_not_hasPermit hpermit]
      exact .same rfl .rfl
  | enters item keeps hentry =>
    cases hentry with
    | enters item' hroom => exact .gains .below (fun _ => hroom) rfl .rfl
    | counts => exact .gains .passed nofun rfl .rfl
    | presses | asks | waits | passes | fails => exact .same rfl .rfl
  | keeps item admission =>
    have hinside := h.inside_drop (number item)
    have hkept := h.perm_keep (number item) admission
    cases hpermit : h.hasPermit (number item) with
    | true =>
      rw [hpermit, if_pos rfl] at hinside
      obtain ⟨a, hperm⟩ := Hall.perm_drop hpermit
      exact .loses a hinside
        ((hperm.cons admission).trans ((List.Perm.swap ..).trans (hkept.symm.cons a)))
    | false =>
      rw [hpermit, if_neg Bool.false_ne_true] at hinside
      rw [Hall.drop_of_not_hasPermit hpermit] at hkept
      exact .same hinside hkept
  | welcomes item admission => exact .same rfl (h.perm_welcome (number item) admission)

def isRejected : HallPhase ι ψ → Bool
  | looking (.entered none) | finished (.entered none) .. => true
  | _ => false

def HasMoved : HallPhase ι ψ → Prop
  | entering _ _ (.settled (some _)) | arriving .. => True
  | looking answer | finished answer .. => answer ≠ .entered none
  | _ => False

theorem not_isRejected_of_hasMoved (h : phase.HasMoved) : phase.isRejected = false := by
  unfold HasMoved at h
  unfold isRejected
  split <;> simp_all

theorem Leads.hasMoved (hleads : phase.Leads number h phase' h') (hmoved : phase.HasMoved) :
    phase'.HasMoved := by
  cases hleads with
  | starts | calls | fails => exact hmoved.elim
  | exits | drops | keeps | welcomes => exact nofun
  | arrives => trivial
  | looks => exact hmoved
  | enters item keeps hentry => cases hentry <;> exact hmoved.elim

/-- A task that has let nothing in or out has left all as it was. -/
theorem Leads.untouched (hleads : phase.Leads number h phase' h') (hmoved : ¬ phase'.HasMoved) :
    h'.valve.inside = h.valve.inside ∧ h'.permits = h.permits ∧ h'.guests = h.guests := by
  cases hleads with
  | starts | calls | fails | arrives | looks => exact ⟨rfl, rfl, rfl⟩
  | exits | drops | keeps | welcomes => exact (hmoved nofun).elim
  | enters item keeps hentry =>
    cases hentry with
    | enters | counts => exact (hmoved trivial).elim
    | presses | asks | waits | passes | fails => exact ⟨rfl, rfl, rfl⟩

theorem leads_of_stepAt {c : Configuration (HallPhase ι ψ) (Hall σ)} {task : Nat}
    {turn : Turn (HallPhase ι ψ) (Hall σ)} (hphase : c.tasks[task]? = some phase)
    (hstep : (machine p number).stepAt c task = some turn) :
    phase.Leads number c.shared turn.phase turn.shared ∧ turn.spawned = [] := by
  obtain ⟨phase', hphase', hturn⟩ := (machine p number).stepAt_eq_some hstep
  cases hphase.symm.trans hphase'
  obtain ⟨next, hnext, rfl⟩ := Option.map_eq_some_iff.mp hturn
  exact ⟨leads_of_step hnext, rfl⟩

end HallPhase

namespace Hall

open HallPhase

variable {p : WaitPredicate ι ψ σ} {number : ι → Nat}
  {start last c : Configuration (HallPhase ι ψ) (Hall σ)}
  {events : List (Event (HallPhase ι ψ) (Hall σ))}

/-- The admissions that have not been released, be they kept or still in the hands of a task. -/
def outstanding (c : Configuration (HallPhase ι ψ) (Hall σ)) : List Admission :=
  c.tasks.flatMap (·.admission?.toList) ++ c.shared.admissions

/-- Nobody has come to the valve yet. -/
structure Opening (c : Configuration (HallPhase ι ψ) (Hall σ)) : Prop where
  inside : c.shared.valve.inside = 0
  admissions : c.shared.admissions = []
  coming : ∀ phase ∈ c.tasks, ∃ due visit, phase = .coming due visit

/-- Every guest that was let out had come in and had not been let out before. -/
def Matched (events : List (Event (HallPhase ι ψ) (Hall σ))) : Prop :=
  ∀ a ∈ acts events, a.phase?.any (·.strays a.before.shared) = false

instance (events : List (Event (HallPhase ι ψ) (Hall σ))) : Decidable (Matched events) :=
  inferInstanceAs (Decidable (∀ a ∈ acts events, _ = false))

theorem Opening.exact (h : Opening start) : start.shared.valve.Exact (outstanding start) := by
  have hnone : start.tasks.flatMap (·.admission?.toList) = [] := by
    rw [List.flatMap_eq_nil_iff]
    intro phase hmem
    obtain ⟨due, visit, rfl⟩ := h.coming phase hmem
    rfl
  rw [outstanding, hnone, h.admissions]
  exact ⟨h.inside, Nat.zero_le _⟩

theorem perm_split (front back : List (HallPhase ι ψ)) (phase : HallPhase ι ψ)
    (kept : List Admission) :
    ((front ++ phase :: back).flatMap (·.admission?.toList) ++ kept).Perm
      (phase.admission?.toList ++ kept ++
        (front.flatMap (·.admission?.toList) ++ back.flatMap (·.admission?.toList))) := by
  rw [List.perm_iff_count]
  intro a
  rw [List.flatMap_append, List.flatMap_cons]
  simp only [List.count_append]
  omega

/-- The admissions of the other tasks stay as they are. -/
theorem perm_outstanding {task : Nat} {phase : HallPhase ι ψ} {turn : Turn (HallPhase ι ψ) (Hall σ)}
    (hphase : c.tasks[task]? = some phase) (hspawned : turn.spawned = []) :
    ∃ rest, (outstanding c).Perm (phase.admission?.toList ++ c.shared.admissions ++ rest) ∧
      (outstanding (c.after task turn)).Perm
        (turn.phase.admission?.toList ++ turn.shared.admissions ++ rest) := by
  obtain ⟨hlt, rfl⟩ := List.getElem?_eq_some_iff.mp hphase
  have hexists : ∃ front back, c.tasks = front ++ c.tasks[task] :: back ∧ front.length = task ∧
      c.tasks.set task turn.phase = front ++ turn.phase :: back := List.exists_of_set hlt
  obtain ⟨front, back, hsplit, -, hset⟩ := hexists
  refine ⟨front.flatMap (·.admission?.toList) ++ back.flatMap (·.admission?.toList), ?_, ?_⟩
  · have hperm := perm_split front back c.tasks[task] c.shared.admissions
    rwa [← hsplit] at hperm
  · rw [outstanding, Configuration.after, hset, hspawned, List.append_nil]
    exact perm_split front back turn.phase turn.shared.admissions

theorem exact_of_history (hopening : Opening start)
    (h : (machine p number).History start events last) (hmatched : Matched events) :
    last.shared.valve.Exact (outstanding last) := by
  induction h with
  | refl => exact hopening.exact
  | @act c events task turn h hstep ih =>
    obtain ⟨phase, hphase, -⟩ := (machine p number).stepAt_eq_some hstep
    obtain ⟨hleads, hspawned⟩ := leads_of_stepAt hphase hstep
    obtain ⟨rest, hbefore, hafter⟩ := perm_outstanding hphase hspawned
    have hexact := ih fun a ha => hmatched a (by rw [acts_append]; exact List.mem_append_left _ ha)
    have hguest : phase.strays c.shared = false := by
      simpa [Act.phase?, hphase] using hmatched ⟨c, task, turn⟩ (by simp)
    have hchange := (hleads.change hguest).append rest
    exact ((hexact.perm hbefore.symm).change hchange hleads.threshold).perm hafter
  | pass h hle ih =>
    exact ih fun a ha => hmatched a (by simpa using ha)

theorem threshold_of_history (h : (machine p number).History start events last) :
    last.shared.valve.threshold = start.shared.valve.threshold := by
  induction h with
  | refl => rfl
  | act h hstep ih =>
    obtain ⟨phase, hphase, -⟩ := (machine p number).stepAt_eq_some hstep
    exact (leads_of_stepAt hphase hstep).1.threshold.trans ih
  | pass h hle ih => exact ih

/-- What the count of a valve says in a run. -/
structure Counted (number : ι → Nat) (start : Configuration (HallPhase ι ψ) (Hall σ))
    (events : List (Event (HallPhase ι ψ) (Hall σ)))
    (last : Configuration (HallPhase ι ψ) (Hall σ)) : Prop where
  inside : Matched events → last.shared.valve.inside = (outstanding last).length
  below : Matched events → (outstanding last).count .below ≤ start.shared.valve.threshold
  /-- A task that may not enter has changed nothing of it by any step. -/
  rejected : ∀ a ∈ acts events, ∀ phase, last.tasks[a.task]? = some phase →
    phase.isRejected = true →
    a.turn.shared.valve.inside = a.before.shared.valve.inside ∧
      a.turn.shared.permits = a.before.shared.permits ∧
      a.turn.shared.guests = a.before.shared.guests
  released : ∀ a ∈ acts events, ∀ phase, a.phase? = some phase →
    phase.releases number a.before.shared = true →
    (a.before.shared.valve.inside = 0 → a.turn.shared.valve.inside = 0) ∧
      (0 < a.before.shared.valve.inside →
        a.turn.shared.valve.inside + 1 = a.before.shared.valve.inside)
  /-- All other steps leave it as it is or count one item in. -/
  unreleased : ∀ a ∈ acts events, ∀ phase, a.phase? = some phase →
    phase.releases number a.before.shared = false →
    a.before.shared.valve.inside ≤ a.turn.shared.valve.inside ∧
      a.turn.shared.valve.inside ≤ a.before.shared.valve.inside + 1

theorem brings_hasMoved : (machine p number).Brings start HasMoved HasMoved := by
  intro events c task turn phase h hstep hphase hmoved
  exact (leads_of_stepAt hphase hstep).1.hasMoved hmoved

theorem counted_of_history (hopening : Opening start)
    (h : (machine p number).History start events last) : Counted number start events last where
  inside hmatched := (exact_of_history hopening h hmatched).inside
  below hmatched := by
    rw [← threshold_of_history h]
    exact (exact_of_history hopening h hmatched).below
  rejected a ha phase hphase hrejected := by
    obtain ⟨before, hbefore, hstep⟩ := h.before_of_mem ha
    obtain ⟨phase', hphase', -⟩ := (machine p number).stepAt_eq_some hstep
    -- a task that has moved something still shows it at the end; one that was turned away does not
    refine (leads_of_stepAt hphase' hstep).1.untouched fun hmoved => ?_
    obtain ⟨phase'', hlast, hmoved'⟩ := h.stands brings_hasMoved ha hmoved
    cases hphase.symm.trans hlast
    rw [not_isRejected_of_hasMoved hmoved'] at hrejected
    cases hrejected
  released a ha phase hphase hreleases := by
    obtain ⟨before, hbefore, hstep⟩ := h.before_of_mem ha
    have hinside := (leads_of_stepAt hphase hstep).1.inside
    rw [hreleases, if_pos rfl] at hinside
    exact ⟨fun hzero => by omega, fun hpos => by omega⟩
  unreleased a ha phase hphase hreleases := by
    obtain ⟨before, hbefore, hstep⟩ := h.before_of_mem ha
    have hinside := (leads_of_stepAt hphase hstep).1.inside
    rwa [hreleases, if_neg Bool.false_ne_true] at hinside

/-- One item fits in below the threshold. A permit is taken, a guest has to be asked for, another
visitor is turned away, and the guest leaves again. -/
def reception : Configuration VisitPhase ValveHall where
  now := 0
  tasks := [.coming none (.enter { number := 0 }), .coming none (.pass { number := 1 }),
    .coming none (.enter { number := 2, verdict := false }), .coming none (.exit 1)]
  shared := { valve := { threshold := 1, baseWait := 10, jitter := { state := 1 } } }

def receptionRun : List (Event VisitPhase ValveHall) × Configuration VisitPhase ValveHall :=
  (machine Visitor.predicate (·.number)).follow reception []
    ((List.replicate 5 (.inl 0)) ++ (List.replicate 9 (.inl 1)) ++ (List.replicate 9 (.inl 2)) ++
      [.inl 3, .inl 3])

theorem counted_reception :
    Opening reception ∧ Matched receptionRun.1 ∧ receptionRun.2.shared.valve.inside = 1 ∧
      Counted (·.number) reception receptionRun.1 receptionRun.2 :=
  have hopening : Opening reception := by
    refine ⟨rfl, rfl, fun phase hmem => ?_⟩
    simp only [reception, List.mem_cons, List.not_mem_nil, or_false] at hmem
    rcases hmem with rfl | rfl | rfl | rfl <;> exact ⟨_, _, rfl⟩
  ⟨hopening, by decide +kernel, by decide +kernel,
    counted_of_history hopening ((machine _ _).history_follow (.refl _) _)⟩

end Hall

end PoliteCrawl
