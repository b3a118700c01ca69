import PoliteCrawl.Valve.Entry

namespace PoliteCrawl

variable {ι ψ σ : Type}

inductive EntryPhase.Leads (v : Valve) : EntryPhase ι ψ → EntryPhase ι ψ → Valve → Prop where
  | enters (item : ι) (hroom : v.inside < v.threshold) :
    Leads v (start item) (settled (some .below)) v.count
  | presses (item : ι) (hfull : v.threshold ≤ v.inside) : Leads v (start item) (pressed item) v
  | asks (item : ι) (wait : ψ) (cutoff : Nat) :
    Leads v (pressed item) (asking wait cutoff) v.drawTimeout.2
  | waits (wait wait' : ψ) (cutoff : Nat) : Leads v (asking wait cutoff) (asking wait' cutoff) v
  | passes (wait : ψ) (cutoff : Nat) : Leads v (asking wait cutoff) passing v
  | fails (wait : ψ) (cutoff : Nat) : Leads v (asking wait cutoff) (settled none) v
  | counts : Leads v passing (settled (some .passed)) v.count

namespace EntryPhase

variable {p : WaitPredicate ι ψ σ} {now task : Nat} {entry entry' : EntryPhase ι ψ} {v v' : Valve}
  {s : σ} {next : Progress (EntryPhase ι ψ) (Valve × σ)}

theorem leads_of_step (h : entry.step p now task v s = some next) :
    entry.Leads v next.phase next.shared.1 := by
  cases entry with
  | start item =>
    simp only [step, Valve.enterBelow?] at h
    by_cases hroom : v.inside < v.threshold
    · rw [if_pos hroom] at h
      cases h
      exact .enters item hroom
    · rw [if_neg hroom] at h
      cases h
      exact .presses item (Nat.le_of_not_lt hroom)
  | pressed item =>
    cases h
    exact .asks item _ _
  | asking wait cutoff =>
    simp only [step] at h
    split at h
    · cases h
      exact .passes wait cutoff
    · cases h
      exact .fails wait cutoff
    · split at h
      · cases h
        exact .waits wait _ cutoff
      · split at h <;> cases h
        exact .fails wait cutoff
  | passing =>
    cases h
    exact .counts
  | settled admission => cases h

def admission? : EntryPhase ι ψ → Option Admission
  | settled admission => admission
  | _ => none

def isAdmitted : EntryPhase ι ψ → Bool
  | settled (some _) => true
  | _ => false

def IsSmooth : EntryPhase ι ψ → Prop
  | start _ | settled (some .below) => True
  | _ => False

theorem Leads.threshold (h : entry.Leads v entry' v') : v'.threshold = v.threshold := by
  cases h <;> rfl

theorem Leads.baseWait (h : entry.Leads v entry' v') : v'.baseWait = v.baseWait := by
  cases h <;> rfl

/-- An entry counts the item in just when it ends well. -/
theorem Leads.inside (h : entry.Leads v entry' v') :
    entry.isAdmitted = false ∧ v'.inside = v.inside + entry'.isAdmitted.toNat := by
  cases h <;> exact ⟨rfl, rfl⟩

/-- Where there is room, an entry goes on below the threshold. -/
theorem Leads.smooth (h : entry.Leads v entry' v') (hsmooth : entry.IsSmooth)
    (hroom : v.inside < v.threshold) : entry'.IsSmooth := by
  cases h with
  | enters => trivial
  | presses item hfull => exact absurd hroom (Nat.not_lt_of_le hfull)
  | asks | waits | passes | fails | counts => exact hsmooth.elim

def Of (item : ι) : EntryPhase ι ψ → Prop
  | start item' | pressed item' => item' = item
  | _ => True

theorem Leads.of {item : ι} (h : entry.Leads v entry' v') (hof : entry.Of item) :
    entry'.Of item := by
  cases h with
  | presses item' hfull => exact hof
  | enters | asks | waits | passes | fails | counts => trivial

end EntryPhase

end PoliteCrawl
