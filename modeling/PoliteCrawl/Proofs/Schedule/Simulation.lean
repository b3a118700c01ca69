import PoliteCrawl.Proofs.Schedule.History
import PoliteCrawl.Schedule.Simulation

namespace PoliteCrawl.Simulation

variable {φ σ : Type} {m : Machine φ σ} {isPatient : Nat → Bool}

@[simp] theorem config_wake (s : Simulation φ σ) (tasks : List Nat) :
    (s.wake isPatient tasks).config = s.config := by
  unfold wake
  induction tasks generalizing s with
  | nil => rfl
  | cons task tasks ih =>
    rw [List.foldl_cons, ih]
    split
    · split <;> rfl
    · split <;> rfl

@[simp] theorem config_setAlarms (s : Simulation φ σ) (task : Nat) (instants : List Nat) :
    (s.setAlarms task instants).config = s.config := rfl

/-- What happens next is a step of a task, time that passes, or nothing to the configuration. -/
theorem steps_next? {s s' : Simulation φ σ} (h : s.next? m isPatient = some s') :
    m.Steps s.config s'.config := by
  unfold next? at h
  split at h
  · split at h
    · rename_i task _ turn hstep
      cases h
      rw [config_wake]
      exact (Machine.Steps.refl _).tail (.act hstep)
    · cases h
      rw [config_setAlarms]
      exact .refl _
  · split at h
    · cases h
      exact .refl _
    · cases h
      exact .refl _
    · cases h
      rw [config_wake]
      exact (Machine.Steps.refl _).tail (.pass (Nat.le_max_left _ _))
    · cases h

theorem steps_run (turns : Nat) (s : Simulation φ σ) :
    m.Steps s.config (run m isPatient turns s).config := by
  induction turns generalizing s with
  | zero => exact .refl _
  | succ turns ih =>
    unfold run
    split
    · rename_i s' hnext
      exact (steps_next? hnext).trans (ih s')
    · exact .refl _

theorem steps_complete (m : Machine φ σ) (isPatient : Nat → Bool) (config : Configuration φ σ) :
    m.Steps config (complete m isPatient config) := by
  unfold complete
  generalize (List.range config.tasks.length).partition isPatient = parts
  obtain ⟨patient, ready⟩ := parts
  exact steps_run turns { config, ready, patient }

end PoliteCrawl.Simulation
