import PoliteCrawl.Proofs.Politeness.Halting

namespace PoliteCrawl

namespace FetchGate

def opensAt (g : FetchGate) (start : Nat) : Nat :=
  g.lastGrant.elim start fun last => max start (last + g.minInterval)

/-- When a wait that starts at an instant finds a gate open at the latest, if no deadline comes
first. It may sleep an eighth of the interval too long, and then up to a whole millisecond. -/
def foundBy (g : FetchGate) (start : Nat) : Nat :=
  Time.ofMillis (Time.ringing (g.opensAt start + g.minInterval / 8))

structure Allows (g : FetchGate) (start : Nat) (deadline : Option Nat) (now : Nat) : Prop where
  since : start ≤ now
  found : now ≤ g.foundBy start
  due : ∀ d ∈ deadline, now ≤ d

structure Answers (g : FetchGate) (start : Nat) (deadline : Option Nat) (granted : Bool)
    (time : Nat) : Prop where
  granted_iff : granted = true ↔ ∀ d ∈ deadline, g.opensAt start ≤ d
  allowed : g.Allows start deadline time
  opened : granted = true → g.opensAt start ≤ time
  refused : granted = false → deadline = some time

variable {g : FetchGate} {start now wait : Nat} {deadline : Option Nat}

theorem le_opensAt (g : FetchGate) (start : Nat) : start ≤ g.opensAt start := by
  unfold opensAt
  cases g.lastGrant with
  | none => exact Nat.le_refl _
  | some last => exact Nat.le_max_left _ _

theorem opensAt_le_foundBy (g : FetchGate) (start : Nat) : g.opensAt start ≤ g.foundBy start := by
  have hringing := Time.le_ringing (g.opensAt start + g.minInterval / 8)
  unfold foundBy
  omega

theorem opensAt_le (hpast : ∀ last ∈ g.lastGrant, last ≤ start) (hle : start ≤ now)
    (h : g.untilOpen now = none) : g.opensAt start ≤ now := by
  rw [untilOpen_eq_none_iff] at h
  unfold opensAt
  cases hlast : g.lastGrant with
  | none => exact hle
  | some last =>
    have hpast := hpast last hlast
    have hopen := h last hlast
    simp only [Option.elim_some]
    omega

theorem add_eq_opensAt (hpast : ∀ last ∈ g.lastGrant, last ≤ start) (hle : start ≤ now)
    (h : g.untilOpen now = some wait) : now + wait = g.opensAt start := by
  obtain ⟨last, hlast, -, hsum⟩ := untilOpen_eq_some_iff.mp h
  have hle' := hpast last hlast
  rw [opensAt, Option.mem_def.mp hlast, Option.elim_some]
  omega

theorem allows_start (hdeadline : ∀ d ∈ deadline, start ≤ d) : g.Allows start deadline start where
  since := Nat.le_refl _
  found := Nat.le_trans (g.le_opensAt start) (g.opensAt_le_foundBy start)
  due := hdeadline

/-- A gate that is found open in time grants the wait. -/
theorem Allows.grants (h : g.Allows start deadline now) (hopen : g.opensAt start ≤ now) :
    g.Answers start deadline true now where
  granted_iff := by
    refine ⟨fun _ d hd => ?_, fun _ => rfl⟩
    exact Nat.le_trans hopen (h.due d hd)
  allowed := h
  opened _ := hopen
  refused := nofun

/-- A gate that is found shut when the deadline has come refuses the wait. -/
theorem Allows.refuses (h : g.Allows start deadline now) (hshut : now < g.opensAt start)
    (hdue : deadline.any (· ≤ now) = true) : g.Answers start deadline false now := by
  obtain ⟨d, hd, hle⟩ := (Option.any_eq_true _ _).mp hdue
  have hge := h.due d hd
  obtain rfl : d = now := Nat.le_antisymm (of_decide_eq_true hle) hge
  refine ⟨⟨nofun, fun hopens => ?_⟩, h, nofun, fun _ => hd⟩
  have hopen := hopens d hd
  omega

end FetchGate

namespace WaitPhase

variable {phase phase' : WaitPhase} {t t' : HostTable} {g : FetchGate}
  {now task record start : Nat} {deadline : Option Nat}

/-- A wait that is under way, with its deadline as long as it may still give up. -/
def Until (deadline : Option Nat) : WaitPhase → Prop
  | atGate _ due | inLine _ due _ | holding _ due | shut _ due _ _ | asleep _ due _ =>
    due = deadline
  | granting _ _ => True
  | .start _ _ | finished _ => False

theorem Until.leads (h : phase.Until deadline) (hleads : Leads now task t phase phase' t') :
    phase'.Until deadline ∨
      ∃ granted, phase' = .finished granted ∧ (granted = false → ∃ d ∈ deadline, d ≤ now) := by
  cases hleads with
  | finds => exact h.elim
  | opens => exact .inl trivial
  | grants => exact .inr ⟨true, rfl, fun hrefused => Bool.noConfusion hrefused⟩
  | @givesUp _ _ _ due hdue =>
    obtain rfl : due = deadline := h
    obtain ⟨d, hd, hle⟩ := (Option.any_eq_true _ _).mp hdue
    exact .inr ⟨false, rfl, fun _ => ⟨d, hd, of_decide_eq_true hle⟩⟩
  | locks | queues | served | reports | shuts | sleeps | wakes => exact .inl h

/-- Where a wait stands that has the gate of a record to itself. It does not sleep beyond the
deadline, nor for longer than an eighth of the interval after the gate opens. -/
def Nears (record : Nat) (g : FetchGate) (start : Nat) (deadline : Option Nat) (now : Nat) :
    WaitPhase → Prop
  | atGate record' due | inLine record' due _ | holding record' due =>
    record' = record ∧ due = deadline
  | granting record' instant => record' = record ∧ instant = now ∧ g.opensAt start ≤ now
  | shut record' due wait interval => record' = record ∧ due = deadline ∧
    now < g.opensAt start ∧ now + wait = g.opensAt start ∧ interval = g.minInterval
  | asleep record' due waking => record' = record ∧ due = deadline ∧
    now ≤ Time.ofMillis (Time.ringing waking) ∧
      waking ≤ g.opensAt start + g.minInterval / 8 ∧ ∀ d ∈ deadline, waking ≤ d
  | .start _ _ | finished _ => False

theorem gate?_granted (hgate : t.gate? record = some g) (instant : Nat) :
    ((t.update record fun r => { r with gate := r.gate.grant instant }).releaseGate
      record).1.gate? record = some (g.grant instant) := by
  obtain ⟨r, hget, rfl⟩ := Option.map_eq_some_iff.mp hgate
  rw [HostTable.gate?_releaseGate, HostTable.gate?, HostTable.records_update_self, hget]
  rfl

theorem Nears.leads (h : phase.Nears record g start deadline now)
    (hallows : g.Allows start deadline now) (hpast : ∀ last ∈ g.lastGrant, last ≤ start)
    (hgate : t.gate? record = some g) (hleads : Leads now task t phase phase' t') :
    (phase'.Nears record g start deadline now ∧ t'.gate? record = some g) ∨
      ∃ granted, phase' = .finished granted ∧ g.Answers start deadline granted now ∧
        (granted = true → t'.gate? record = some (g.grant now)) := by
  have hsame : HostTable.stampOn phase.stamp? record = none → t'.gate? record = some g :=
    fun hstamp => hleads.gate? hstamp hgate
  cases hleads with
  | finds => exact h.elim
  | locks | queues | served | reports => exact .inl ⟨h, hsame rfl⟩
  | @opens _ _ r hget hopen =>
    obtain ⟨rfl, rfl⟩ := h
    obtain rfl : r.gate = g := by
      rw [HostTable.gate?, hget] at hgate
      exact Option.some.inj hgate
    exact .inl ⟨⟨rfl, rfl, FetchGate.opensAt_le hpast hallows.since hopen⟩, hsame rfl⟩
  | @shuts _ wait _ r hget hwait =>
    obtain ⟨rfl, rfl⟩ := h
    obtain rfl : r.gate = g := by
      rw [HostTable.gate?, hget] at hgate
      exact Option.some.inj hgate
    have hpos := FetchGate.pos_of_untilOpen hwait
    have hopens := FetchGate.add_eq_opensAt hpast hallows.since hwait
    exact .inl ⟨⟨rfl, rfl, by omega, hopens, rfl⟩, hsame rfl⟩
  | grants =>
    obtain ⟨rfl, rfl, hopen⟩ := h
    exact .inr ⟨true, rfl, hallows.grants hopen, fun _ => gate?_granted hgate _⟩
  -- Here the deadline counts: the gate is shut, so if it has come, it came first.
  | givesUp hdue =>
    obtain ⟨rfl, rfl, hshut, -, rfl⟩ := h
    exact .inr ⟨false, rfl, hallows.refuses hshut hdue, fun hgranted => Bool.noConfusion hgranted⟩
  | @sleeps _ wait _ due hdue =>
    obtain ⟨rfl, rfl, hshut, hopens, rfl⟩ := h
    have haround := t.jitter.around_le wait (g.minInterval / 8)
    generalize (t.jitter.around wait (g.minInterval / 8)).1 = pause at haround
    have hge : now ≤ pauseUntil now pause due := le_pauseUntil hallows.due
    obtain ⟨hpause, hdue⟩ := pauseUntil_le now pause due
    exact .inl ⟨⟨rfl, rfl, Nat.le_trans hge (Time.le_ringing _), by omega, hdue⟩, hsame rfl⟩
  -- The gate is looked at again whether it opened or the deadline came.
  | wakes => exact .inl ⟨⟨h.1, h.2.1⟩, hsame rfl⟩

/-- A wait has to wait in line for the lock, or asleep. -/
theorem Nears.waits (h : phase.Nears record g start deadline now)
    (hgate : t.gate? record = some g) (hnone : phase.step now task t = none) :
    (∃ report, phase = .inLine record deadline report) ∨
      ∃ waking, phase = .asleep record deadline waking ∧ now < waking := by
  cases phase with
  | start | finished => exact h.elim
  | atGate | granting => cases hnone
  | inLine record' due report =>
    obtain ⟨rfl, rfl⟩ := h
    exact .inl ⟨report, rfl⟩
  | holding record' due =>
    obtain ⟨rfl, rfl⟩ := h
    obtain ⟨r, hget, -⟩ := Option.map_eq_some_iff.mp hgate
    simp only [WaitPhase.step, hget] at hnone
    split at hnone <;> cases hnone
  | shut record' due wait interval =>
    simp only [WaitPhase.step] at hnone
    split at hnone <;> cases hnone
  | asleep record' due waking =>
    obtain ⟨rfl, rfl, -⟩ := h
    refine .inr ⟨waking, rfl, ?_⟩
    simp only [WaitPhase.step] at hnone
    split at hnone
    · cases hnone
    · omega

/-- A sleep ends in time. -/
theorem Nears.allows {later waking : Nat}
    (h : (asleep record deadline waking).Nears record g start deadline now)
    (hallows : g.Allows start deadline now) (hwhole : ∀ d ∈ deadline, Time.IsWhole d)
    (hle : now ≤ later) (hrings : later ≤ Time.ofMillis (Time.ringing waking)) :
    (asleep record deadline waking).Nears record g start deadline later ∧
      g.Allows start deadline later := by
  obtain ⟨-, -, -, hopens, hdue⟩ := h
  refine ⟨⟨rfl, rfl, hrings, hopens, hdue⟩, Nat.le_trans hallows.since hle, ?_, fun d hd => ?_⟩
  · exact Nat.le_trans hrings (Time.ofMillis_ringing_mono hopens)
  · have hmono := Time.ofMillis_ringing_mono (hdue d hd)
    rw [(hwhole d hd).ofMillis_ringing] at hmono
    exact Nat.le_trans hrings hmono

end WaitPhase

end PoliteCrawl
