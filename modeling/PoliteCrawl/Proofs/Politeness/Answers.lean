import PoliteCrawl.Proofs.Politeness.Grants
import PoliteCrawl.Proofs.Politeness.Inquiries

namespace PoliteCrawl

namespace Inquiry

def permits (q : Inquiry) (agent : String) (target : Url) : Bool :=
  match q.answer with
  | .error _ | .ok none => true
  | .ok (some robots) => robots.allows agent target.text

end Inquiry

namespace LookupPhase

/-- The answer that the next step takes: for which record it is, and what it counts as. -/
def answer? : LookupPhase → Option (Nat × Option Robots)
  | awaiting record outcome _ => some (record, outcome)
  | _ => none

def answered? : LookupPhase → Option (Nat × Option Robots)
  | atGate record outcome _ | inGateLine record outcome _ _ | raising record outcome _
  | storing record outcome => some (record, outcome)
  | _ => none

variable {phase phase' : LookupPhase} {now task : Nat} {t t' : HostTable}

theorem answered?_of_stores {record : Nat} {outcome : Option Robots}
    (h : phase.stores record = some outcome) : phase.answered? = some (record, outcome) := by
  have hpending := pending?_of_stores h
  cases phase with
  | storing => exact hpending
  | _ => cases h

theorem Leads.answered? {x : Nat × Option Robots} (h : Leads now task t phase phase' t')
    (hx : phase'.answered? = some x) : phase.answered? = some x ∨ phase.answer? = some x := by
  cases h with
  | wishes | accepts => exact .inr hx
  | locksGate | queuesAtGate | servedAtGate | reportsAtGate | raises => exact .inl hx
  | _ => cases hx

end LookupPhase

theorem LookupMove.answered? {now task : Nat} {t t' : HostTable}
    {lookup? lookup?' : Option LookupPhase} {x : Nat × Option Robots}
    (h : LookupMove now task t t' lookup? lookup?') (hx : lookup?'.bind (·.answered?) = some x) :
    lookup?.bind (·.answered?) = some x ∨ lookup?.bind (·.answer?) = some x := by
  cases h with
  | looks hstep => exact (LookupPhase.leads_of_step hstep).answered? hx
  | _ => cases hx

/-- A question for the robots file of a host was asked, and an answer came that counts as such an
outcome. -/
def Told (known : List Inquiry) (answers : List (Nat × Option Robots)) (host : String)
    (outcome : Option Robots) : Prop :=
  ∃ q ∈ known, q.host = HostTable.keyOf host ∧ q.outcome = outcome ∧ (q.record, outcome) ∈ answers

theorem Told.append {known : List Inquiry} {answers : List (Nat × Option Robots)} {host : String}
    {outcome : Option Robots} (h : Told known answers host outcome) (more : List Inquiry)
    (later : List (Nat × Option Robots)) : Told (known ++ more) (answers ++ later) host outcome := by
  obtain ⟨q, hq, hhost, houtcome, hanswer⟩ := h
  exact ⟨q, List.mem_append_left _ hq, hhost, houtcome, List.mem_append_left _ hanswer⟩

variable {φ σ : Type}

namespace RobotsDiscipline

variable {m : Machine φ σ} {table : σ → HostTable} (D : RobotsDiscipline m table)

def answer? (a : Act φ σ) : Option (Nat × Option Robots) :=
  (a.phase?.bind D.lookup?).bind (·.answer?)

def answers (events : List (Event φ σ)) : List (Nat × Option Robots) :=
  (acts events).filterMap D.answer?

theorem answers_act (events : List (Event φ σ)) (a : Act φ σ) :
    D.answers (events ++ [.act a]) = D.answers events ++ (D.answer? a).toList := by
  rw [answers, acts_append, acts_act, List.filterMap_append, answers]
  congr 1

theorem answers_pass (events : List (Event φ σ)) (c : Configuration φ σ) (later : Nat) :
    D.answers (events ++ [.pass c later]) = D.answers events := by
  rw [answers, acts_append, acts_pass, List.append_nil, answers]

/-- What is known of robots files, or about to be, came as an answer. -/
structure Answered (c : Configuration φ σ) (answers : List (Nat × Option Robots)) : Prop where
  stored : ∀ record outcome, (table c.shared).outcome record = some outcome →
    (record, outcome) ∈ answers
  coming : ∀ task, ∀ x ∈ (D.lookupAt? c task).bind (·.answered?), x ∈ answers

variable {D} {start last c : Configuration φ σ} {events : List (Event φ σ)} {known : List Inquiry}
  {answers : List (Nat × Option Robots)} {task : Nat} {turn : Turn φ σ}

theorem Answered.act (h : D.Answered c answers) (hholds : D.Holds c known)
    (hstep : m.stepAt c task = some turn) :
    D.Answered (c.after task turn) (answers ++ (D.answer? ⟨c, task, turn⟩).toList) := by
  have hheeds := hholds.heeds hstep
  refine ⟨?_, ?_⟩
  · intro record outcome houtcome
    apply List.mem_append_left
    rcases hheeds.outcome_or houtcome with hold | hstores
    · exact h.stored record outcome hold
    · -- Only what was answered is stored.
      obtain ⟨lookup, hlookup, hstored⟩ := Option.bind_eq_some_iff.mp hstores
      apply h.coming task
      rw [hlookup]
      exact LookupPhase.answered?_of_stores hstored
  · intro other x hx
    rw [lookupAt?_after hstep] at hx
    split at hx
    · -- What the task of the step has, it had before or takes with the step.
      rcases (moves hstep).answered? hx with hold | hnew
      · exact List.mem_append_left _ (h.coming task x hold)
      · exact List.mem_append_right _ (Option.mem_toList.mpr hnew)
    · exact List.mem_append_left _ (h.coming other x hx)

theorem Answered.history (hstart : D.Answered start answers) (hholds : D.Holds start known)
    (h : m.History start events last) : D.Answered last (answers ++ D.answers events) := by
  induction h with
  | refl =>
    rw [show D.answers ([] : List (Event φ σ)) = [] from rfl, List.append_nil]
    exact hstart
  | act h hstep ih =>
    rw [answers_act, ← List.append_assoc]
    exact ih.act (hholds.history h) hstep
  | pass _ _ ih =>
    rw [answers_pass]
    exact ⟨ih.stored, ih.coming⟩

/-- A look-up for a host returns what an answer for that host came to. -/
theorem Answered.told (h : D.Answered c answers) (hholds : D.Holds c known) {lookup : LookupPhase}
    {next : Progress LookupPhase HostTable} {host : String} {outcome : Option Robots}
    (hlookup : D.lookupAt? c task = some lookup)
    (hsound : lookup.Sound task (HostTable.keyOf host) (table c.shared))
    (hstep : lookup.step c.now task (table c.shared) = some next)
    (hreturned : next.phase = .finished outcome) : Told known answers host outcome := by
  obtain ⟨q, hq, hhost, hwhat, hstored⟩ := hholds.learnt hlookup hsound hstep hreturned
  exact ⟨q, hq, hhost, hwhat, h.stored q.record outcome hstored⟩

end RobotsDiscipline

namespace HostTable

/-- A table that nobody uses at some time, with the questions for robots files that were asked so
far and the answers that came. -/
structure Rests (t : HostTable) (now : Nat) (known : List Inquiry)
    (answers : List (Nat × Option Robots)) : Prop where
  timely : t.Timely now
  keyed : t.Keyed
  asked : t.asked = known.map Inquiry.note
  hosts : ∀ q ∈ known, t.hostAt? q.record = some q.host
  service : ∀ q ∈ known, ∃ earlier, q.answer = (t.service earlier q.host).answer
  once : (known.map (·.record)).Nodup
  kept : ∀ q ∈ known, t.outcome q.record = some q.outcome
  stored : ∀ record outcome, t.outcome record = some outcome →
    ∃ q ∈ known, q.record = record ∧ q.outcome = outcome
  answered : ∀ record outcome, t.outcome record = some outcome → (record, outcome) ∈ answers

variable {t : HostTable} {now : Nat} {known : List Inquiry} {answers : List (Nat × Option Robots)}

theorem Fresh.rests (h : t.Fresh) (hasked : t.asked = []) (now : Nat) : t.Rests now [] [] where
  timely := h.timely now
  keyed := h.keyed
  asked := hasked
  hosts _ hq := (List.not_mem_nil hq).elim
  service _ hq := (List.not_mem_nil hq).elim
  once := List.nodup_nil
  kept _ hq := (List.not_mem_nil hq).elim
  stored record outcome h' := by
    rw [HostTable.outcome, h.records] at h'
    cases h'
  answered record outcome h' := by
    rw [HostTable.outcome, h.records] at h'
    cases h'

theorem Rests.later {later : Nat} (h : t.Rests now known answers) (hle : now ≤ later) :
    t.Rests later known answers :=
  { h with timely := fun record g hg last hlast => Nat.le_trans (h.timely record g hg last hlast) hle }

variable {m : Machine φ σ} {table : σ → HostTable} {D : RobotsDiscipline m table}
  {G : GateDiscipline m table} {c last : Configuration φ σ} {events : List (Event φ σ)}

/-- How look-ups find a table that nobody used so far. -/
theorem Rests.opening (h : (table c.shared).Rests now known answers)
    (hnone : ∀ task, D.lookupAt? c task = none) :
    D.Holds c known ∧ D.Answered c answers := by
  refine ⟨⟨?_, h.hosts, h.service, h.once, fun q hq => .inl (h.kept q hq), ?_, h.stored⟩,
    h.answered, ?_⟩
  · intro task lookup hlookup
    rw [hnone] at hlookup
    cases hlookup
  · intro task record outcome hpending
    rw [RobotsDiscipline.pendingAt?, hnone] at hpending
    cases hpending
  · intro task x hx
    rw [hnone] at hx
    cases hx

/-- A table rests again when no answer of a run is left to be stored. -/
theorem Rests.history (h : (table c.shared).Rests now known answers)
    (hgates : G.Holds c) (hnone : ∀ task, D.lookupAt? c task = none)
    (hhistory : m.History c events last) (hover : ∀ task, D.pendingAt? last task = none) :
    (table last.shared).Rests last.now (known ++ D.inquiries events)
      (answers ++ D.answers events) := by
  obtain ⟨hholds, hanswered⟩ := h.opening hnone
  have hgates' := hgates.history hhistory
  have hholds' := hholds.history hhistory
  refine ⟨hgates'.timely, hgates'.keyed, ?_, hholds'.hosts, hholds'.answers, hholds'.once, ?_,
    hholds'.stored, (hanswered.history hholds hhistory).stored⟩
  · rw [hholds.asked hhistory, h.asked, List.map_append]
  · intro q hq
    rcases hholds'.kept q hq with hkept | hpending
    · exact hkept
    · rw [hover] at hpending
      cases hpending

end HostTable

end PoliteCrawl
