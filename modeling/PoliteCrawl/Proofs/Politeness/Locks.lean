import PoliteCrawl.Proofs.Politeness.Robots

namespace PoliteCrawl

inductive Seat where
  | queued
  | held
  deriving DecidableEq

namespace Lock

def line (l : Lock) : List Nat := l.holder.toList ++ l.waiting

/-- The tasks in line are those that have a seat, each once. The lock may have been given to a task
that does not know of it yet. -/
structure Seated (l : Lock) (seat : Nat → Option Seat) : Prop where
  nodup : l.line.Nodup
  mem : ∀ task, task ∈ l.line ↔ (seat task).isSome = true
  held : ∀ task, seat task = some .held → l.isHeldBy task = true
  free : l.holder = none → l.waiting = []

inductive Move (task : Nat) (l : Lock) : Option Seat → Lock → Option Seat → Prop where
  | keeps (seat : Option Seat) : Move task l seat l seat
  | requests : Move task l none (l.request task)
    (some (if (l.request task).isHeldBy task then .held else .queued))
  | served (h : l.isHeldBy task = true) : Move task l (some .queued) l (some .held)
  | leaves (h : ¬ l.isHeldBy task = true) : Move task l (some .queued) (l.leave task) none
  | releases : Move task l (some .held) l.release none

variable {l l' : Lock} {task other : Nat} {seat seat' : Nat → Option Seat}

theorem isHeldBy_iff : l.isHeldBy task = true ↔ l.holder = some task := by simp [isHeldBy]

theorem mem_line_of_isHeldBy (h : l.isHeldBy task = true) : task ∈ l.line := by
  simp [line, isHeldBy_iff.mp h]

theorem line_release : l.release.line = l.waiting := by
  cases h : l.waiting <;> simp [line, release, h]

theorem line_leave (h : ¬ l.isHeldBy task = true) : (l.leave task).line = l.line.erase task := by
  rw [line, line, List.erase_append_right]
  · rfl
  · simpa [isHeldBy] using h

namespace Seated

theorem line_request (h : l.Seated seat) : (l.request task).line = l.line ++ [task] := by
  cases hholder : l.holder with
  | none => simp [line, request, hholder, h.free hholder]
  | some holder => simp [line, request, hholder]

theorem request (h : l.Seated seat) (hseat : seat task = none)
    (hseat' : seat' task = some (if (l.request task).isHeldBy task then .held else .queued))
    (hother : ∀ other, other ≠ task → seat' other = seat other) :
    (l.request task).Seated seat' where
  nodup := by
    rw [h.line_request]
    have hnot : task ∉ l.line := by simp [h.mem, hseat]
    have hperm := List.perm_append_singleton task l.line
    exact hperm.nodup_iff.mpr (List.nodup_cons.mpr ⟨hnot, h.nodup⟩)
  mem other := by
    rw [h.line_request, List.mem_append, List.mem_singleton]
    by_cases htask : other = task
    · simp [htask, hseat']
    · simp [htask, h.mem, hother other htask]
  held other hheld := by
    by_cases htask : other = task
    · subst htask
      rw [hseat'] at hheld
      split at hheld
      · assumption
      · cases hheld
    · rw [hother other htask] at hheld
      exact isHeldBy_request (h.held other hheld)
  free hnone := by
    unfold Lock.request at hnone
    split at hnone
    · cases hnone
    · rename_i hholder
      rw [hholder] at hnone
      cases hnone

theorem leave (h : l.Seated seat) (hheld : ¬ l.isHeldBy task = true) (hseat' : seat' task = none)
    (hother : ∀ other, other ≠ task → seat' other = seat other) : (l.leave task).Seated seat' where
  nodup := by
    rw [line_leave hheld]
    exact h.nodup.erase task
  mem other := by
    rw [line_leave hheld, h.nodup.mem_erase_iff]
    by_cases htask : other = task
    · simp [htask, hseat']
    · simp [htask, h.mem, hother other htask]
  held other hother' := by
    have htask : other ≠ task := by
      rintro rfl
      rw [hseat'] at hother'
      cases hother'
    rw [hother other htask] at hother'
    exact h.held other hother'
  free hnone := by
    show l.waiting.erase task = []
    rw [h.free hnone]
    rfl

theorem release (h : l.Seated seat) (hseat : seat task = some .held) (hseat' : seat' task = none)
    (hother : ∀ other, other ≠ task → seat' other = seat other) : l.release.Seated seat' := by
  have hholder := isHeldBy_iff.mp (h.held task hseat)
  have hline : l.line = task :: l.waiting := by rw [line, hholder, Option.toList_some]; rfl
  have hnodup := h.nodup
  rw [hline, List.nodup_cons] at hnodup
  refine ⟨?_, ?_, ?_, ?_⟩
  · rw [line_release]
    exact hnodup.2
  · intro other
    rw [line_release]
    by_cases htask : other = task
    · simp [htask, hseat', hnodup.1]
    · simpa [hline, htask, hother other htask] using h.mem other
  · -- Nobody else stood where the lock is held.
    intro other hheld
    by_cases htask : other = task
    · rw [htask, hseat'] at hheld
      cases hheld
    · rw [hother other htask] at hheld
      exact absurd (eq_of_isHeldBy (h.held task hseat) (h.held other hheld)) htask
  · intro hnone
    have hwaiting : l.waiting = [] := List.head?_eq_none_iff.mp hnone
    simp [Lock.release, hwaiting]

theorem move (h : l.Seated seat) (hmove : Move task l (seat task) l' (seat' task))
    (hother : ∀ other, other ≠ task → seat' other = seat other) : l'.Seated seat' := by
  generalize hseat : seat task = before at hmove
  generalize hseat' : seat' task = after at hmove
  cases hmove with
  | keeps =>
    have heq : seat' = seat := by
      funext other
      by_cases htask : other = task
      · rw [htask, hseat, hseat']
      · exact hother other htask
    rw [heq]
    exact h
  | requests => exact h.request hseat hseat' hother
  | served hheld =>
    refine ⟨h.nodup, ?_, ?_, h.free⟩
    · intro other
      by_cases htask : other = task
      · simp [htask, hseat', mem_line_of_isHeldBy hheld]
      · rw [hother other htask]
        exact h.mem other
    · intro other hother'
      by_cases htask : other = task
      · rw [htask]
        exact hheld
      · rw [hother other htask] at hother'
        exact h.held other hother'
  | leaves hheld => exact h.leave hheld hseat' hother
  | releases => exact h.release hseat hseat' hother

/-- A lock that a task waits for is held. -/
theorem exists_holder (h : l.Seated seat) (hseat : (seat task).isSome = true) :
    ∃ holder, l.isHeldBy holder = true := by
  have hmem := (h.mem task).mpr hseat
  cases hholder : l.holder with
  | none => simp [line, hholder, h.free hholder] at hmem
  | some holder => exact ⟨holder, isHeldBy_iff.mpr hholder⟩

/-- Whoever holds a lock has a seat there. -/
theorem of_isHeldBy (h : l.Seated seat) (hheld : l.isHeldBy task = true) :
    (seat task).isSome = true :=
  (h.mem task).mp (mem_line_of_isHeldBy hheld)

end Seated

/-- Nobody has a seat at a lock without a line. -/
theorem seated_of_line (h : l.line = []) : l.Seated fun _ => none where
  nodup := h ▸ List.nodup_nil
  mem task := by simp [h]
  held task hheld := by cases hheld
  free _ := (List.append_eq_nil_iff.mp h).2

end Lock

inductive LockKind where
  | gate
  | robots
  deriving DecidableEq

def HostRecord.lock (r : HostRecord) : LockKind → Lock
  | .gate => r.gateLock
  | .robots => r.robotsLock

abbrev Seats := LockKind → Nat → Option Seat

namespace Seats

def nowhere : Seats := fun _ _ => none

def on (record : Nat) (gate robots : Option Seat) : Seats := fun kind other =>
  if other = record then
    match kind with
    | .gate => gate
    | .robots => robots
  else none

variable {record other : Nat} {gate robots : Option Seat}

theorem on_of_ne (h : other ≠ record) (kind : LockKind) : on record gate robots kind other = none :=
  if_neg h

theorem eq_of_on {kind : LockKind} (h : (on record gate robots kind other).isSome = true) :
    other = record := by
  by_contra hne
  rw [on_of_ne hne] at h
  cases h

@[simp] theorem on_gate : on record gate robots .gate record = gate := if_pos rfl

@[simp] theorem on_robots : on record gate robots .robots record = robots := if_pos rfl

theorem on_none (record : Nat) : on record none none = nowhere := by
  funext kind other
  cases kind <;> exact ite_self none

end Seats

namespace HostTable

def lockAt (t : HostTable) (kind : LockKind) (record : Nat) : Lock :=
  (t.records[record]?.map (·.lock kind)).getD {}

def Moves (task : Nat) (t : HostTable) (seats : Seats) (t' : HostTable) (seats' : Seats) : Prop :=
  ∀ kind record, Lock.Move task (t.lockAt kind record) (seats kind record) (t'.lockAt kind record)
    (seats' kind record)

variable {t t' : HostTable} {task record : Nat} {r : HostRecord} {key : String}
  {f : HostRecord → HostRecord} {gate gate' robots robots' : Option Seat}

theorem lockAt_eq (hget : t.records[record]? = some r) (kind : LockKind) :
    t.lockAt kind record = r.lock kind := by
  rw [lockAt, hget]
  rfl

theorem holdsGate_eq_lockAt (t : HostTable) (record task : Nat) :
    t.holdsGate record task = (t.lockAt .gate record).isHeldBy task := by
  rw [holdsGate, lockAt]
  cases t.records[record]? <;> rfl

theorem holdsRobots_eq_lockAt (t : HostTable) (record task : Nat) :
    t.holdsRobots record task = (t.lockAt .robots record).isHeldBy task := by
  rw [holdsRobots, lockAt]
  cases t.records[record]? <;> rfl

/-- A new record has locks that nobody holds. -/
theorem lockAt_find (t : HostTable) (host : String) (kind : LockKind) (record : Nat) :
    (t.find host).2.lockAt kind record = t.lockAt kind record := by
  cases hpeek : t.cache.peek (keyOf host) with
  | some old =>
    rw [find_of_peek hpeek]
    rfl
  | none =>
    rw [find_of_none hpeek]
    by_cases hr : record = t.records.length
    · subst hr
      rw [lockAt, lockAt, records_created_self, List.getElem?_eq_none (Nat.le_refl _)]
      cases kind <;> rfl
    · rw [lockAt, lockAt, t.records_created_of_ne host hr]

theorem moves_of_lockAt (h : ∀ kind record, t'.lockAt kind record = t.lockAt kind record)
    (seats : Seats) : t.Moves task seats t' seats := by
  intro kind record
  rw [h]
  exact .keeps _

theorem moves_of_records (h : t'.records = t.records) (seats : Seats) :
    t.Moves task seats t' seats := by
  apply moves_of_lockAt
  intro kind record
  rw [lockAt, lockAt, h]

theorem moves_refl (task : Nat) (t : HostTable) (seats : Seats) : t.Moves task seats t seats :=
  moves_of_records rfl seats

/-- A step that changes one record, by what it does to each of the locks. -/
theorem moves_update (hget : t.records[record]? = some r)
    (hgate : Lock.Move task r.gateLock gate (f r).gateLock gate')
    (hrobots : Lock.Move task r.robotsLock robots (f r).robotsLock robots') :
    t.Moves task (.on record gate robots) (t.update record f) (.on record gate' robots') := by
  have hget' : (t.update record f).records[record]? = some (f r) := by
    rw [records_update_self, hget]
    rfl
  intro kind other
  by_cases hother : other = record
  · subst hother
    rw [lockAt_eq hget, lockAt_eq hget']
    cases kind with
    | gate =>
      rw [Seats.on_gate, Seats.on_gate]
      exact hgate
    | robots =>
      rw [Seats.on_robots, Seats.on_robots]
      exact hrobots
  · rw [lockAt, lockAt, records_update_of_ne t f (Ne.symm hother), Seats.on_of_ne hother,
      Seats.on_of_ne hother]
    exact .keeps none

/-- A step that changes a record, but none of its locks. -/
theorem moves_update_of_same (hgate : ∀ r, (f r).gateLock = r.gateLock)
    (hrobots : ∀ r, (f r).robotsLock = r.robotsLock) (record : Nat) (seats : Seats) :
    t.Moves task seats (t.update record f) seats := by
  apply moves_of_lockAt
  intro kind other
  by_cases hother : record = other
  · subst hother
    rw [lockAt, lockAt, records_update_self, Option.map_map]
    congr 2
    funext r
    cases kind with
    | gate => exact hgate r
    | robots => exact hrobots r
  · rw [lockAt, lockAt, records_update_of_ne t f hother]

theorem exists_record_of_hostAt? (h : t.hostAt? record = some key) :
    ∃ r, t.records[record]? = some r := by
  obtain ⟨r, hget, -⟩ := Option.map_eq_some_iff.mp h
  exact ⟨r, hget⟩

/-- A step of a task that finds that it has been given a lock. -/
theorem moves_served (hhost : t.hostAt? record = some key)
    (hgate : Lock.Move task (t.lockAt .gate record) gate (t.lockAt .gate record) gate')
    (hrobots : Lock.Move task (t.lockAt .robots record) robots (t.lockAt .robots record) robots') :
    t.Moves task (.on record gate robots) t (.on record gate' robots') := by
  obtain ⟨r, hget⟩ := exists_record_of_hostAt? hhost
  rw [lockAt_eq hget] at hgate hrobots
  have hmoves := moves_update (f := id) hget hgate hrobots
  rwa [update, List.modify_id] at hmoves

theorem moves_servedGate (hhost : t.hostAt? record = some key)
    (hholds : t.holdsGate record task = true) (robots : Option Seat) :
    t.Moves task (.on record (some .queued) robots) t (.on record (some .held) robots) := by
  rw [holdsGate_eq_lockAt] at hholds
  exact moves_served hhost (.served hholds) (.keeps robots)

theorem moves_servedRobots (hhost : t.hostAt? record = some key)
    (hholds : t.holdsRobots record task = true) :
    t.Moves task (.on record none (some .queued)) t (.on record none (some .held)) := by
  rw [holdsRobots_eq_lockAt] at hholds
  exact moves_served hhost (.keeps none) (.served hholds)

theorem moves_requestGate (task : Nat) (hhost : t.hostAt? record = some key)
    (robots : Option Seat) :
    t.Moves task (.on record none robots) (t.requestGate record task)
      (.on record (some (if (t.requestGate record task).holdsGate record task then .held
        else .queued)) robots) := by
  obtain ⟨r, hget⟩ := exists_record_of_hostAt? hhost
  have hget' : (t.requestGate record task).records[record]? =
      some { r with gateLock := r.gateLock.request task } := by
    rw [requestGate, records_update_self, hget]
    rfl
  rw [holdsGate_eq hget']
  exact moves_update hget .requests (.keeps robots)

theorem moves_requestRobots (task : Nat) (hhost : t.hostAt? record = some key) :
    t.Moves task .nowhere (t.requestRobots record task)
      (.on record none (some (if (t.requestRobots record task).holdsRobots record task then .held
        else .queued))) := by
  obtain ⟨r, hget⟩ := exists_record_of_hostAt? hhost
  have hget' : (t.requestRobots record task).records[record]? =
      some { r with robotsLock := r.robotsLock.request task } := by
    rw [requestRobots, records_update_self, hget]
    rfl
  rw [holdsRobots_eq_lockAt, lockAt_eq hget', ← Seats.on_none record]
  exact moves_update hget (.keeps none) .requests

theorem moves_leaveGate (hhost : t.hostAt? record = some key)
    (hholds : ¬ t.holdsGate record task = true) (robots : Option Seat) :
    t.Moves task (.on record (some .queued) robots) (t.leaveGate record task)
      (.on record none robots) := by
  obtain ⟨r, hget⟩ := exists_record_of_hostAt? hhost
  rw [holdsGate_eq hget] at hholds
  exact moves_update hget (.leaves hholds) (.keeps robots)

theorem moves_leaveRobots (hhost : t.hostAt? record = some key)
    (hholds : ¬ t.holdsRobots record task = true) :
    t.Moves task (.on record none (some .queued)) (t.leaveRobots record task) .nowhere := by
  obtain ⟨r, hget⟩ := exists_record_of_hostAt? hhost
  rw [holdsRobots_eq_lockAt, lockAt_eq hget] at hholds
  rw [← Seats.on_none record]
  exact moves_update hget (.keeps none) (.leaves hholds)

theorem moves_releaseGate (task : Nat) (hhost : t.hostAt? record = some key)
    (robots : Option Seat) :
    t.Moves task (.on record (some .held) robots) (t.releaseGate record).1
      (.on record none robots) := by
  obtain ⟨r, hget⟩ := exists_record_of_hostAt? hhost
  exact moves_update hget .releases (.keeps robots)

/-- A change to a gate, after which its lock goes back. -/
theorem moves_gate (task : Nat) (hhost : t.hostAt? record = some key) (f : FetchGate → FetchGate)
    (robots : Option Seat) :
    t.Moves task (.on record (some .held) robots)
      ((t.update record fun r => { r with gate := f r.gate }).releaseGate record).1
      (.on record none robots) := by
  obtain ⟨r, hget⟩ := exists_record_of_hostAt? hhost
  rw [releaseGate_update]
  exact moves_update hget .releases (.keeps robots)

theorem moves_releaseRobots (hhost : t.hostAt? record = some key) :
    t.Moves task (.on record none (some .held)) (t.releaseRobots record).1 .nowhere := by
  obtain ⟨r, hget⟩ := exists_record_of_hostAt? hhost
  rw [← Seats.on_none record]
  exact moves_update hget (.keeps none) .releases

end HostTable

namespace WaitPhase

def seats : WaitPhase → Seats
  | inLine record _ _ => .on record (some .queued) none
  | holding record _ | granting record _ => .on record (some .held) none
  | _ => .nowhere

variable {phase phase' : WaitPhase} {now task : Nat} {key : String} {t t' : HostTable}

theorem Leads.moves (h : Leads now task t phase phase' t') (hsound : phase.Sound now task key t) :
    t.Moves task phase.seats t' phase'.seats := by
  cases h with
  | finds host => exact HostTable.moves_of_lockAt (t.lockAt_find host) .nowhere
  | locks hholds =>
    have hmoves := HostTable.moves_requestGate task hsound none
    rwa [if_pos hholds, Seats.on_none] at hmoves
  | queues hholds =>
    have hmoves := HostTable.moves_requestGate task hsound none
    rwa [if_neg hholds, Seats.on_none] at hmoves
  | served hholds => exact HostTable.moves_servedGate hsound hholds none
  | reports hholds =>
    have hmoves := HostTable.moves_leaveGate hsound hholds none
    rwa [Seats.on_none] at hmoves
  | opens => exact t.moves_refl task _
  | shuts =>
    have hmoves := HostTable.moves_releaseGate task hsound.1 none
    rwa [Seats.on_none] at hmoves
  | grants record instant =>
    have hmoves := HostTable.moves_gate task hsound.1 (·.grant instant) none
    rwa [Seats.on_none] at hmoves
  | givesUp | sleeps => exact HostTable.moves_of_records rfl .nowhere
  | wakes => exact t.moves_refl task .nowhere

/-- A wait that holds the lock of a gate does not have to wait. -/
theorem step_isSome_of_holdsGate {record : Nat} (hsound : phase.Sound now task key t)
    (hseat : (phase.seats .gate record).isSome = true) (hholds : t.holdsGate record task = true) :
    (phase.step now task t).isSome = true := by
  obtain ⟨r, hget⟩ := HostTable.exists_record_of_holdsGate hholds
  cases phase with
  | inLine record' deadline report =>
    rw [seats] at hseat
    obtain rfl := Seats.eq_of_on hseat
    simp [step, hholds]
  | holding record' deadline =>
    rw [seats] at hseat
    obtain rfl := Seats.eq_of_on hseat
    simp only [step, hget]
    split <;> rfl
  | granting record' instant => rfl
  | start | atGate | shut | asleep | finished => cases hseat

/-- A wait has nothing to do with look-ups. -/
theorem seats_robots (phase : WaitPhase) (record : Nat) : phase.seats .robots record = none := by
  cases phase with
  | inLine | holding | granting => exact ite_self none
  | _ => rfl

/-- Where a wait has to wait it does not hold the lock of a gate, and leaves the line if it is given
up. -/
theorem moves_cancel (hsound : phase.Sound now task key t) (hnone : phase.step now task t = none) :
    t.Moves task phase.seats (phase.cancel task t) .nowhere := by
  cases phase with
  | inLine record deadline report =>
    have hholds : ¬ t.holdsGate record task = true := by
      intro hholds
      rw [step, if_pos hholds] at hnone
      cases hnone
    have hmoves := HostTable.moves_leaveGate hsound hholds none
    rwa [Seats.on_none] at hmoves
  | holding record deadline =>
    have hsome := step_isSome_of_holdsGate hsound (by simp [seats]) hsound.2
    rw [hnone] at hsome
    cases hsome
  | granting record instant => cases hnone
  | start | atGate | shut | asleep | finished => exact t.moves_refl task .nowhere

end WaitPhase

namespace LookupPhase

def seats : LookupPhase → Seats
  | inLine record _ => .on record none (some .queued)
  | holding record | asking record | awaiting record _ _ | atGate record _ _ | storing record _
  | leaving record _ => .on record none (some .held)
  | inGateLine record _ _ _ => .on record (some .queued) (some .held)
  | raising record _ _ => .on record (some .held) (some .held)
  | start _ | found _ | atLock _ | finished _ => .nowhere

/-- A look-up is only in line for locks of its record. -/
theorem record?_of_seat (phase : LookupPhase) {kind : LockKind} {record : Nat}
    (h : (phase.seats kind record).isSome = true) : phase.record? = some record := by
  cases phase with
  | start | found | atLock | finished => cases h
  | _ =>
    rw [seats] at h
    rw [Seats.eq_of_on h, record?]

variable {phase phase' : LookupPhase} {now task : Nat} {key : String} {t t' : HostTable}

theorem Leads.moves (h : Leads now task t phase phase' t') (hsound : phase.Sound task key t) :
    t.Moves task phase.seats t' phase'.seats := by
  cases h with
  | finds host => exact HostTable.moves_of_lockAt (t.lockAt_find host) .nowhere
  | locks hholds =>
    have hmoves := HostTable.moves_requestRobots task hsound
    rwa [if_pos hholds] at hmoves
  | queues hholds =>
    have hmoves := HostTable.moves_requestRobots task hsound
    rwa [if_neg hholds] at hmoves
  | served hholds => exact HostTable.moves_servedRobots hsound hholds
  | reports hholds => exact HostTable.moves_leaveRobots hsound hholds
  | locksGate hholds =>
    have hmoves := HostTable.moves_requestGate task hsound (some .held)
    rwa [if_pos hholds] at hmoves
  | queuesAtGate hholds =>
    have hmoves := HostTable.moves_requestGate task hsound (some .held)
    rwa [if_neg hholds] at hmoves
  | servedAtGate hholds => exact HostTable.moves_servedGate hsound hholds (some .held)
  | reportsAtGate hholds => exact HostTable.moves_leaveGate hsound hholds (some .held)
  | raises record outcome delay =>
    exact HostTable.moves_gate task hsound.1 (·.raise delay) (some .held)
  | stores record outcome =>
    rw [HostTable.store]
    apply HostTable.moves_update_of_same
    · intro r
      rfl
    · intro r
      rfl
  | leaves record outcome => exact HostTable.moves_releaseRobots hsound
  | asks => exact HostTable.moves_of_records rfl _
  | sees | misses | seesAgain | missesAgain | wishes | accepts => exact t.moves_refl task _

/-- A look-up that has the lock of a gate does not have to wait. -/
theorem step_isSome_of_holdsGate {record : Nat} (hseat : (phase.seats .gate record).isSome = true)
    (hholds : t.holdsGate record task = true) : (phase.step now task t).isSome = true := by
  cases phase with
  | inGateLine record' outcome delay report =>
    rw [seats] at hseat
    obtain rfl := Seats.eq_of_on hseat
    simp [step, hholds]
  | raising => rfl
  | start | found | atLock | finished => cases hseat
  | inLine | holding | asking | awaiting | atGate | storing | leaving =>
    -- There the task is in line for the other lock.
    rw [seats] at hseat
    obtain rfl := Seats.eq_of_on hseat
    simp at hseat

end LookupPhase

structure HostTable.Unlocked (now : Nat) (t : HostTable) : Prop where
  timely : t.Timely now
  keyed : t.Keyed
  lines : ∀ kind record, (t.lockAt kind record).line = []

theorem HostTable.Fresh.unlocked {t : HostTable} (h : t.Fresh) (now : Nat) : t.Unlocked now where
  timely := h.timely now
  keyed := h.keyed
  lines kind record := by
    rw [lockAt, h.records]
    rfl

end PoliteCrawl
