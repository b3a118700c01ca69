import PoliteCrawl.Proofs.Politeness.Locks
import PoliteCrawl.Proofs.Politeness.Spacing

namespace PoliteCrawl

variable {now task : Nat} {t : HostTable} {d d' : HostDesk} {call : HostCall}
  {phase phase' : CallPhase} {calls : List (Option Nat × HostCall)}

theorem HostTable.hostAt?_of_holdsGate {record : Nat} (h : t.holdsGate record task = true) :
    ∃ key, t.hostAt? record = some key := by
  obtain ⟨r, hget⟩ := exists_record_of_holdsGate h
  exact ⟨r.host, by rw [hostAt?, hget, Option.map_some]⟩

def HostDesk.Kept (d : HostDesk) : Prop := ∀ e ∈ d.kept, ∃ key, d.table.hostAt? e.2 = some key

namespace CallPhase

def seats : CallPhase → Seats
  | inLine record _ _ => .on record (some .queued) none
  | atHand record _ | gripping record _ => .on record (some .held) none
  | looking lookup => lookup.seats
  | waiting wait _ | entering (.waiting wait) => wait.seats
  | _ => .nowhere

def Known (t : HostTable) : CallPhase → Prop
  | atGate record _ | inLine record _ _ => ∃ key, t.hostAt? record = some key
  | _ => True

/-- A call that begins is in no line. -/
theorem moves_begin (now task : Nat) (d : HostDesk) (call : HostCall) :
    d.table.Moves task .nowhere (begin now d call).2.table (begin now d call).1.seats := by
  cases call with
  | view host | status host | keep host | holdGate host =>
    exact HostTable.moves_of_lockAt (d.table.lockAt_find host) .nowhere
  | enter item timeout =>
    rcases HostWait.start_eq item timeout with ⟨host, -, hstart⟩ | hstart
    · rw [begin, hstart]
      exact d.table.moves_refl task .nowhere
    · rw [begin, hstart]
      exact d.table.moves_refl task .nowhere
  | viewKept name =>
    simp only [begin]
    split <;> exact d.table.moves_refl task .nowhere
  | robots | wait | contains | rest => exact d.table.moves_refl task .nowhere

theorem seats_of_verdict? {wait : HostWait} {verdict : Bool}
    (h : hostPredicate.verdict? wait = some verdict) : (entering wait).seats = .nowhere := by
  cases wait with
  | hostless => rfl
  | waiting wait =>
    cases wait with
    | finished granted => rfl
    | _ => cases h

theorem Leads.moves (h : Leads now task d phase phase' d')
    (hsound : phase.Sound now task call d.table) (hknown : phase.Known d.table) :
    d.table.Moves task phase.seats d'.table phase'.seats := by
  cases h with
  | begins due call' => exact moves_begin now task d call'
  | locks hholds =>
    obtain ⟨key, hhost⟩ := hknown
    have hmoves := HostTable.moves_requestGate task hhost none
    rwa [if_pos hholds, Seats.on_none] at hmoves
  | queues hholds =>
    obtain ⟨key, hhost⟩ := hknown
    have hmoves := HostTable.moves_requestGate task hhost none
    rwa [if_neg hholds, Seats.on_none] at hmoves
  | served hholds =>
    obtain ⟨key, hhost⟩ := hknown
    exact HostTable.moves_servedGate hhost hholds none
  | reports hholds =>
    obtain ⟨key, hhost⟩ := hknown
    have hmoves := HostTable.moves_leaveGate hhost hholds none
    rwa [Seats.on_none] at hmoves
  | views | loosens =>
    obtain ⟨key, hhost⟩ := HostTable.hostAt?_of_holdsGate hsound
    have hmoves := HostTable.moves_releaseGate task hhost none
    rwa [Seats.on_none] at hmoves
  | looks hnext =>
    obtain ⟨-, key, -, hlookup⟩ := hsound
    exact (LookupPhase.leads_of_step hnext).moves hlookup
  | waits hleads =>
    obtain ⟨key, -, hwait⟩ := hsound
    exact hleads.moves hwait
  | cutsOff _ hnone =>
    obtain ⟨key, -, hwait⟩ := hsound
    exact WaitPhase.moves_cancel hwait hnone
  | @enters wait _ _ hleads =>
    obtain ⟨key, -, hwait⟩ := hsound wait rfl
    exact hleads.moves hwait
  | entered hverdict =>
    rw [seats_of_verdict? hverdict]
    exact d.table.moves_refl task .nowhere
  | grips | found | decided | rests | tells => exact d.table.moves_refl task _

theorem known_begin (hkeyed : d.table.Keyed) (hkept : d.Kept) (now : Nat) (call : HostCall) :
    (begin now d call).1.Known (begin now d call).2.table ∧ (begin now d call).2.Kept := by
  have hfind : ∀ host, (d.find host).2.Kept := by
    intro host e he
    obtain ⟨key, hkey⟩ := hkept e he
    exact ⟨key, (d.table.advance_find 0 host).hosts _ _ hkey⟩
  cases call with
  | view host | holdGate host =>
    exact ⟨⟨_, d.table.hostAt?_find hkeyed host⟩, hfind host⟩
  | status host => exact ⟨trivial, hfind host⟩
  | keep host =>
    refine ⟨trivial, fun e he => ?_⟩
    rcases List.mem_append.mp he with he | he
    · exact hfind host e (List.mem_filter.mp he).1
    · cases List.mem_singleton.mp he
      exact ⟨_, d.table.hostAt?_find hkeyed host⟩
  | viewKept name =>
    simp only [begin]
    split
    · rename_i record hlookup
      obtain ⟨front, back, hsplit, -⟩ := List.lookup_eq_some_iff.mp hlookup
      exact ⟨hkept (name, record) (by simp [hsplit]), hkept⟩
    · exact ⟨trivial, hkept⟩
  | robots | wait | enter | contains | rest => exact ⟨trivial, hkept⟩

theorem Leads.known (h : Leads now task d phase phase' d')
    (hsound : phase.Sound now task call d.table) (htimely : d.table.Timely now)
    (hkeyed : d.table.Keyed) (hknown : phase.Known d.table) (hkept : d.Kept) :
    phase'.Known d'.table ∧ d'.Kept := by
  have hhosts := (h.sound hsound htimely hkeyed).1.hosts
  -- Only a call that begins keeps a record.
  have hstays : d'.kept = d.kept → d'.Kept := by
    intro heq e he
    obtain ⟨key, hkey⟩ := hkept e (heq ▸ he)
    exact ⟨key, hhosts _ _ hkey⟩
  cases h with
  | begins due call' => exact known_begin hkeyed hkept now call'
  | queues | reports =>
    obtain ⟨key, hkey⟩ := hknown
    exact ⟨⟨key, hhosts _ _ hkey⟩, hstays rfl⟩
  | _ => exact ⟨trivial, hstays rfl⟩

def seatAt (c : Configuration CallPhase HostDesk) (kind : LockKind) (record task : Nat) :
    Option Seat :=
  c.tasks[task]?.bind fun phase => phase.seats kind record

structure Lined (calls : List (Option Nat × HostCall)) (c : Configuration CallPhase HostDesk) :
    Prop where
  holds : (discipline calls).Holds c
  known : ∀ (task : Nat) (phase : CallPhase), c.tasks[task]? = some phase →
    phase.Known c.shared.table
  kept : c.shared.Kept
  seated : ∀ kind record, (c.shared.table.lockAt kind record).Seated (seatAt c kind record)

variable {c start last : Configuration CallPhase HostDesk}
  {events : List (Event CallPhase HostDesk)} {turn : Turn CallPhase HostDesk} {record : Nat}

theorem seatAt_of_getElem? (h : c.tasks[task]? = some phase) (kind : LockKind) (record : Nat) :
    seatAt c kind record task = phase.seats kind record := by
  rw [seatAt, h, Option.bind_some]

theorem Lined.act (h : Lined calls c) (hturn : machine.stepAt c task = some turn) :
    Lined calls (c.after task turn) := by
  obtain ⟨phase, hphase, hstep⟩ := machine.stepAt_eq_some hturn
  obtain ⟨hp, hspawned⟩ := step_machine hstep
  obtain ⟨due, call, -, hsound⟩ := h.holds.tasks task phase hphase
  have hleads := leads_of_step hp
  obtain ⟨hadvance, -⟩ := hleads.sound hsound h.holds.timely h.holds.keyed
  have hknown := h.known task phase hphase
  obtain ⟨hknown', hkept⟩ := hleads.known hsound h.holds.timely h.holds.keyed hknown h.kept
  refine ⟨h.holds.act hturn, ?_, hkept, ?_⟩
  · intro other phase' hphase'
    rcases Configuration.tasks_after hphase' with ⟨rfl, rfl⟩ | ⟨-, hsame⟩ | ⟨-, hmem⟩
    · exact hknown'
    · have hother := h.known other phase' hsame
      cases phase' with
      | atGate | inLine =>
        obtain ⟨key, hkey⟩ := hother
        exact ⟨key, hadvance.hosts _ _ hkey⟩
      | _ => trivial
    · rw [hspawned] at hmem
      cases hmem
  · intro kind record
    apply (h.seated kind record).move
    · rw [seatAt_of_getElem? hphase, seatAt_of_getElem? (Configuration.tasks_after_self hphase)]
      exact hleads.moves hsound hknown kind record
    · intro other hother
      rw [seatAt, seatAt, Configuration.tasks_after_eq hspawned hother]

theorem Lined.history (hstart : Lined calls start) (h : machine.History start events last) :
    Lined calls last := by
  induction h with
  | refl => exact hstart
  | act _ hturn ih => exact ih.act hturn
  | pass _ hle ih => exact ⟨ih.holds.pass hle, ih.known, ih.kept, ih.seated⟩

/-- A call that has been given the lock of a gate goes on or keeps it. -/
theorem step_isSome_of_holdsGate (hsound : phase.Sound now task call d.table)
    (hseat : (phase.seats .gate record).isSome = true)
    (hholds : d.table.holdsGate record task = true)
    (hgrip : ∀ waking, phase ≠ .gripping record waking) :
    (phase.step now task d).isSome = true := by
  cases phase with
  | inLine record' use report =>
    rw [seats] at hseat
    obtain rfl := Seats.eq_of_on hseat
    simp [step, hholds]
  | atHand record' use => cases use <;> rfl
  -- the only phase in which a call keeps the lock and may have to wait
  | gripping record' waking =>
    rw [seats] at hseat
    obtain rfl := Seats.eq_of_on hseat
    exact absurd rfl (hgrip waking)
  | looking lookup =>
    have hstep : (lookup.step now task d.table).isSome = true :=
      LookupPhase.step_isSome_of_holdsGate hseat hholds
    cases lookup with
    | finished outcome => rfl
    | _ => simpa only [step, Option.isSome_map] using hstep
  | waiting wait cutoff =>
    obtain ⟨key, -, hwait⟩ := hsound
    obtain ⟨next, hnext⟩ :=
      Option.isSome_iff_exists.mp (WaitPhase.step_isSome_of_holdsGate hwait hseat hholds)
    cases wait with
    | finished granted => rfl
    | _ =>
      simp only [step, hnext]
      rfl
  | entering wait =>
    cases wait with
    | hostless => cases hseat
    | waiting wait =>
      obtain ⟨key, -, hwait⟩ := hsound wait rfl
      have hstep := WaitPhase.step_isSome_of_holdsGate hwait hseat hholds
      simp only [step]
      split
      · rfl
      · simpa only [hostPredicate, Option.isSome_map] using hstep
  | coming | atGate | resting | answering | finished => cases hseat

/-- Where no call can go on, nobody is at the lock of a gate that nobody keeps. -/
theorem Lined.free (h : Lined calls c) (hidle : machine.Idle c)
    (hgrip : ∀ phase ∈ c.tasks, ∀ waking, phase ≠ .gripping record waking) (task : Nat) :
    seatAt c .gate record task = none := by
  by_contra hseat
  obtain ⟨holder, hholder⟩ :=
    (h.seated .gate record).exists_holder (Option.isSome_iff_ne_none.mpr hseat)
  have hseat' := (h.seated .gate record).of_isHeldBy hholder
  cases hphase : c.tasks[holder]? with
  | none => simp [seatAt, hphase] at hseat'
  | some phase =>
    rw [seatAt_of_getElem? hphase] at hseat'
    rw [← HostTable.holdsGate_eq_lockAt] at hholder
    obtain ⟨due, call, -, hsound⟩ := h.holds.tasks holder phase hphase
    -- Whoever has been given the lock could go on.
    have hgoes := step_isSome_of_holdsGate hsound hseat' hholder
      (hgrip phase (List.mem_of_getElem? hphase))
    rw [Option.map_eq_none_iff.mp (hidle.step_eq_none hphase)] at hgoes
    cases hgoes

theorem lined_opening (hunlocked : d.table.Unlocked now) (hkept : d.Kept)
    (calls : List (Option Nat × HostCall)) : Lined calls (d.opening now calls) := by
  have hcoming : ∀ (task : Nat) (phase : CallPhase),
      (d.opening now calls).tasks[task]? = some phase →
        ∃ due call, phase = coming due call := by
    intro task phase hphase
    rw [HostDesk.opening, List.getElem?_map] at hphase
    obtain ⟨⟨due, call⟩, -, rfl⟩ := Option.map_eq_some_iff.mp hphase
    exact ⟨due, call, rfl⟩
  refine ⟨HostDesk.holds_opening_of_keyed hunlocked.timely hunlocked.keyed calls, ?_, hkept, ?_⟩
  · intro task phase hphase
    obtain ⟨due, call, rfl⟩ := hcoming task phase hphase
    trivial
  · intro kind record
    have hnobody : seatAt (d.opening now calls) kind record = fun _ => none := by
      funext task
      cases hphase : (d.opening now calls).tasks[task]? with
      | none => rw [seatAt, hphase, Option.bind_none]
      | some phase =>
        obtain ⟨due, call, rfl⟩ := hcoming task phase hphase
        exact seatAt_of_getElem? hphase kind record
    rw [hnobody]
    exact Lock.seated_of_line (hunlocked.lines kind record)

end CallPhase

end PoliteCrawl
