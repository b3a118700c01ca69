import Mathlib.Data.List.Defs

namespace PoliteCrawl.Calls

variable {α β σ τ : Type}

def run (step : σ → α → β × σ) (s : σ) : List α → List β × σ
  | [] => ([], s)
  | call :: calls =>
    let (answer, s) := step s call
    let (answers, s) := run step s calls
    (answer :: answers, s)

variable {step : σ → α → β × σ} {step' : τ → α → β × τ}

/-- Two things that answer alike, and stay alike with each call, answer alike all along. -/
theorem run_of_alike (Alike : σ → τ → Prop)
    (hstep : ∀ s t call, Alike s t →
      (step s call).1 = (step' t call).1 ∧ Alike (step s call).2 (step' t call).2)
    {s : σ} {t : τ} (h : Alike s t) (calls : List α) :
    (run step s calls).1 = (run step' t calls).1 ∧
      Alike (run step s calls).2 (run step' t calls).2 := by
  induction calls generalizing s t with
  | nil => exact ⟨rfl, h⟩
  | cons call calls ih =>
    obtain ⟨hanswer, hnext⟩ := hstep s t call h
    obtain ⟨hanswers, hlast⟩ := ih hnext
    exact ⟨congr (congrArg List.cons hanswer) hanswers, hlast⟩

/-- What each answer has to do with its call in all states it has in a run. -/
theorem forall₂_run {P : α → β → Prop} {calls : List α}
    (h : ∀ s, ∀ call ∈ calls, P call (step s call).1) (s : σ) :
    List.Forall₂ P calls (run step s calls).1 := by
  induction calls generalizing s with
  | nil => exact .nil
  | cons call calls ih =>
    exact .cons (h s call List.mem_cons_self)
      (ih (fun s c hc => h s c (List.mem_cons_of_mem _ hc)) _)

/-- Calls that leave the state as it is can be left out: the other answers are the same. -/
theorem run_filter {p : α → Bool} (h : ∀ s call, p call = false → (step s call).2 = s) (s : σ)
    (calls : List α) :
    run step s (calls.filter p) =
      (((calls.zip (run step s calls).1).filter (p ·.1)).map (·.2), (run step s calls).2) := by
  induction calls generalizing s with
  | nil => rfl
  | cons call calls ih =>
    cases hp : p call with
    | true => simp only [List.filter_cons, hp, run, ih, List.zip_cons_cons, if_true, List.map_cons]
    | false =>
      have hstate := h s call hp
      rw [List.filter_cons_of_neg (by simp [hp]), ih]
      simp only [run, List.zip_cons_cons, List.filter_cons, hp, Bool.false_eq_true, if_false,
        hstate]

end PoliteCrawl.Calls
