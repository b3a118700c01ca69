import Mathlib.Data.List.Perm.Subperm
import PoliteCrawl.Politeness.Hosts
import PoliteCrawl.Proofs.Cache.Bounded
import PoliteCrawl.Proofs.Politeness.Gate

namespace PoliteCrawl

namespace Lock

variable {l : Lock} {task other : Nat}

theorem isHeldBy_request (h : l.isHeldBy other = true) :
    (l.request task).isHeldBy other = true := by
  have hholder : l.holder = some other := by simpa [isHeldBy] using h
  rw [request, hholder]
  simp [isHeldBy]

theorem eq_of_isHeldBy (h : l.isHeldBy task = true) (h' : l.isHeldBy other = true) :
    other = task := by
  have hholder : l.holder = some task := by simpa [isHeldBy] using h
  have hholder' : l.holder = some other := by simpa [isHeldBy] using h'
  rw [hholder] at hholder'
  cases hholder'
  rfl

end Lock

namespace HostTable

def gate? (t : HostTable) (record : Nat) : Option FetchGate := t.records[record]?.map (·.gate)

def hostAt? (t : HostTable) (record : Nat) : Option String := t.records[record]?.map (·.host)

def Timely (now : Nat) (t : HostTable) : Prop :=
  ∀ record, ∀ g ∈ t.gate? record, ∀ last ∈ g.lastGrant, last ≤ now

def Keyed (t : HostTable) : Prop :=
  ∀ key record, t.cache.peek key = some record → t.hostAt? record = some key

def Keeps (t : HostTable) (key : String) : Prop :=
  ∀ record, t.hostAt? record = some key → t.cache.peek key = some record

/-- There is room for the records of all hosts that have one of some names. -/
structure Roomy (names : List String) (t : HostTable) : Prop where
  keyed : t.Keyed
  keeps : ∀ key, t.Keeps key
  hosts : ∀ record key, t.hostAt? record = some key → key ∈ names
  room : names.length ≤ t.cache.capacity

def stampOn (stamp? : Option (Nat × Nat)) (record : Nat) : Option Nat :=
  match stamp? with
  | some (r, instant) => if r = record then some instant else none
  | none => none

theorem stampOn_eq_some {stamp? : Option (Nat × Nat)} {record instant : Nat}
    (h : stampOn stamp? record = some instant) : stamp? = some (record, instant) := by
  unfold stampOn at h
  split at h
  · split at h
    · rename_i heq
      cases h
      rw [heq]
    · cases h
  · cases h

/-- What a step of a task may do, with the grant that it stamps on a record and the name of the host
that it looks up, if any. -/
structure Advance (task : Nat) (t : HostTable) (stamp? : Option (Nat × Nat))
    (named? : Option String) (t' : HostTable) : Prop where
  base : t'.minInterval = t.minInterval
  keyed : t.Keyed → t'.Keyed
  hosts : ∀ record host, t.hostAt? record = some host → t'.hostAt? record = some host
  made : ∀ record host, t'.hostAt? record = some host →
    t.hostAt? record = some host ∨
      record = t.records.length ∧ t.cache.peek host = none ∧ named? = some host
  roomy : ∀ names, (∀ key ∈ named?, key ∈ names) → t.Roomy names → t'.Roomy names
  holds : ∀ record other, other ≠ task → t.holdsGate record other = true →
    t'.holdsGate record other = true
  gates : ∀ record other, other ≠ task → t.holdsGate record other = true →
    t'.gate? record = t.gate? record
  follows : ∀ record, FetchGate.Follows t.minInterval (t.gate? record) (stampOn stamp? record)
    (t'.gate? record)

variable {t t' : HostTable} {task now record : Nat} {stamp? : Option (Nat × Nat)}
  {named? : Option String} {key : String}

theorem Advance.timely (h : Advance task t stamp? named? t') (ht : t.Timely now)
    (hstamp : ∀ record instant, stamp? = some (record, instant) → instant ≤ now) :
    t'.Timely now := by
  intro record g hg last hlast
  have hfollows := h.follows record
  rw [hg] at hfollows
  cases hstep : stampOn stamp? record with
  | none =>
    rw [hstep] at hfollows
    generalize hgate : t.gate? record = g? at hfollows
    cases hfollows with
    | same => exact ht record g hgate last hlast
    | opens => cases hlast
    | raises g' interval => exact ht record g' hgate last hlast
  | some instant =>
    rw [hstep] at hfollows
    generalize t.gate? record = g? at hfollows
    cases hfollows with
    | grants =>
      cases hlast
      exact hstamp _ _ (stampOn_eq_some hstep)

/-- A table goes on to keep the record of a host that it does not drop. -/
theorem Advance.keeps (h : Advance task t stamp? named? t') (ht : t.Keyed) (hkeeps : t.Keeps key)
    (hcontains : (∃ record, t'.hostAt? record = some key) →
      ∃ record, t'.cache.peek key = some record) :
    t'.Keeps key := by
  intro record hrecord
  obtain ⟨kept, hkept⟩ := hcontains ⟨record, hrecord⟩
  rw [hkept]
  have hhost := h.keyed ht key kept hkept
  rcases h.made record key hrecord with hold | ⟨rfl, hnone, -⟩
  · rcases h.made kept key hhost with hold' | ⟨-, hnone, -⟩
    · rw [← hkeeps record hold, ← hkeeps kept hold']
    · rw [hkeeps record hold] at hnone
      cases hnone
  · -- The step made the record, so the table kept none of the host before.
    rcases h.made kept key hhost with hold | ⟨rfl, -⟩
    · rw [hkeeps kept hold] at hnone
      cases hnone
    · rfl

theorem Roomy.of_same {names : List String} (h : t.Roomy names)
    (hpeek : ∀ key, t'.cache.peek key = t.cache.peek key)
    (hcapacity : t'.cache.capacity = t.cache.capacity)
    (hhosts : ∀ record, t'.hostAt? record = t.hostAt? record) : t'.Roomy names where
  keyed key record hkey := by
    rw [hpeek] at hkey
    rw [hhosts]
    exact h.keyed key record hkey
  keeps key record hrecord := by
    rw [hhosts] at hrecord
    rw [hpeek]
    exact h.keeps key record hrecord
  hosts record key hrecord := by
    rw [hhosts] at hrecord
    exact h.hosts record key hrecord
  room := by
    rw [hcapacity]
    exact h.room

/-- While a name is new, there is room for one more. -/
theorem Roomy.size_lt {names : List String} (h : t.Roomy names) (hname : key ∈ names)
    (hnone : t.cache.peek key = none) : t.cache.size < t.cache.capacity := by
  -- The new name and those that are kept are as many different ones of the names.
  have hnodup : (key :: t.cache.entries.keys).Nodup := by
    refine List.nodup_cons.mpr ⟨?_, ?_⟩
    · rw [Std.HashMap.mem_keys, ← Std.HashMap.contains_iff_mem]
      intro hmem
      obtain ⟨record, hrecord⟩ := BoundedCache.contains_iff.mp hmem
      rw [hnone] at hrecord
      cases hrecord
    · exact Std.HashMap.distinct_keys.imp fun hne => by simpa using hne
  have hsubset : key :: t.cache.entries.keys ⊆ names := by
    intro key' hmem
    rcases List.mem_cons.mp hmem with rfl | hmem
    · exact hname
    · rw [Std.HashMap.mem_keys, ← Std.HashMap.contains_iff_mem] at hmem
      obtain ⟨record, hrecord⟩ := BoundedCache.contains_iff.mp hmem
      exact h.hosts record key' (h.keyed key' record hrecord)
  have hlength := (List.subperm_of_subset hnodup hsubset).length_le
  rw [List.length_cons, Std.HashMap.length_keys] at hlength
  exact Nat.lt_of_lt_of_le hlength h.room

theorem holdsGate_eq {r : HostRecord} (hget : t.records[record]? = some r) (task : Nat) :
    t.holdsGate record task = r.gateLock.isHeldBy task := by
  rw [holdsGate, hget]
  rfl

/-- Nobody holds the gate of a record that is not there. -/
theorem exists_record_of_holdsGate (h : t.holdsGate record task = true) :
    ∃ r, t.records[record]? = some r := by
  cases hget : t.records[record]? with
  | none => simp [holdsGate, hget] at h
  | some r => exact ⟨r, rfl⟩

/-- A step that leaves all records as they are. -/
theorem advance_of_records (hbase : t'.minInterval = t.minInterval) (hcache : t'.cache = t.cache)
    (hrecords : t'.records = t.records) : Advance task t none none t' where
  base := hbase
  keyed h key record hkey := by
    rw [hostAt?, hrecords]
    rw [hcache] at hkey
    exact h key record hkey
  hosts record host h := by
    rw [hostAt?, hrecords]
    exact h
  made record host h := by
    rw [hostAt?, hrecords] at h
    exact .inl h
  roomy names _ h := by
    apply h.of_same
    · intro key
      rw [hcache]
    · rw [hcache]
    · intro record
      rw [hostAt?, hrecords]
      rfl
  holds record other _ h := by
    rw [holdsGate, hrecords]
    exact h
  gates record other _ _ := by rw [gate?, gate?, hrecords]
  follows record := by
    rw [gate?, gate?, hrecords]
    exact .same _

theorem records_update_self (t : HostTable) (record : Nat) (f : HostRecord → HostRecord) :
    (t.update record f).records[record]? = t.records[record]?.map f := by
  simp [update]

theorem records_update_of_ne (t : HostTable) {record other : Nat} (f : HostRecord → HostRecord)
    (hne : record ≠ other) : (t.update record f).records[other]? = t.records[other]? :=
  List.getElem?_modify_ne f t.records hne

theorem gate?_update {f : HostRecord → HostRecord} (hgate : ∀ r, (f r).gate = r.gate)
    (t : HostTable) (record other : Nat) : (t.update record f).gate? other = t.gate? other := by
  by_cases hr : record = other
  · subst hr
    rw [gate?, gate?, records_update_self, Option.map_map]
    congr 1
    funext r
    exact hgate r
  · rw [gate?, gate?, records_update_of_ne t f hr]

@[simp] theorem gate?_requestGate (t : HostTable) (record task other : Nat) :
    (t.requestGate record task).gate? other = t.gate? other := by
  rw [requestGate]
  apply gate?_update
  intro r
  rfl

@[simp] theorem gate?_leaveGate (t : HostTable) (record task other : Nat) :
    (t.leaveGate record task).gate? other = t.gate? other := by
  rw [leaveGate]
  apply gate?_update
  intro r
  rfl

@[simp] theorem gate?_releaseGate (t : HostTable) (record other : Nat) :
    (t.releaseGate record).1.gate? other = t.gate? other := by
  rw [releaseGate]
  apply gate?_update
  intro r
  rfl

theorem hostAt?_update {f : HostRecord → HostRecord} (hhost : ∀ r, (f r).host = r.host)
    (t : HostTable) (record other : Nat) : (t.update record f).hostAt? other = t.hostAt? other := by
  by_cases hr : record = other
  · subst hr
    rw [hostAt?, hostAt?, records_update_self, Option.map_map]
    congr 1
    funext r
    exact hhost r
  · rw [hostAt?, hostAt?, records_update_of_ne t f hr]

/-- What the holders of gates find after a change to one record. -/
theorem held_update {f : HostRecord → HostRecord} {r other : Nat}
    (hother : ∀ r, t.records[record]? = some r → r.gateLock.isHeldBy other = true →
      (f r).gateLock.isHeldBy other = true ∧ (f r).gate = r.gate)
    (hholds : t.holdsGate r other = true) :
    (t.update record f).holdsGate r other = true ∧ (t.update record f).gate? r = t.gate? r := by
  by_cases hr : record = r
  · subst hr
    obtain ⟨x, hget⟩ := exists_record_of_holdsGate hholds
    rw [holdsGate_eq hget] at hholds
    obtain ⟨hlock, hgate⟩ := hother x hget hholds
    rw [holdsGate, gate?, gate?, records_update_self, hget]
    exact ⟨hlock, congrArg some hgate⟩
  · rw [holdsGate, gate?, gate?, records_update_of_ne t f hr]
    exact ⟨hholds, rfl⟩

theorem follows_update {f : HostRecord → HostRecord} {instant? : Option Nat}
    (hfollows : ∀ r, t.records[record]? = some r →
      FetchGate.Follows t.minInterval (some r.gate) instant? (some (f r).gate))
    (hexists : instant?.isSome = true → (t.records[record]?).isSome = true) (r : Nat) :
    FetchGate.Follows t.minInterval (t.gate? r)
      (stampOn (instant?.map fun instant => (record, instant)) r)
        ((t.update record f).gate? r) := by
  by_cases hr : record = r
  · subst hr
    have hstamp : stampOn (instant?.map fun instant => (record, instant)) record = instant? := by
      cases instant? with
      | none => rfl
      | some instant => exact if_pos rfl
    rw [hstamp, gate?, gate?, records_update_self]
    cases hget : t.records[record]? with
    | none =>
      rw [hget] at hexists
      cases instant? with
      | none => exact .same none
      | some instant => cases hexists rfl
    | some x => exact hfollows x hget
  · have hstamp : stampOn (instant?.map fun instant => (record, instant)) r = none := by
      cases instant? with
      | none => rfl
      | some instant => exact if_neg hr
    rw [hstamp, gate?, gate?, records_update_of_ne t f hr]
    exact .same _

/-- A step that changes one record. If others hold the lock of its gate they go on to do so, and
find the gate as it was. -/
theorem advance_update {f : HostRecord → HostRecord} {instant? : Option Nat}
    (hhost : ∀ r, (f r).host = r.host)
    (hother : ∀ r, t.records[record]? = some r → ∀ other, other ≠ task →
      r.gateLock.isHeldBy other = true →
        (f r).gateLock.isHeldBy other = true ∧ (f r).gate = r.gate)
    (hfollows : ∀ r, t.records[record]? = some r →
      FetchGate.Follows t.minInterval (some r.gate) instant? (some (f r).gate))
    (hexists : instant?.isSome = true → (t.records[record]?).isSome = true) :
    Advance task t (instant?.map fun instant => (record, instant)) none (t.update record f) where
  base := rfl
  keyed h key r hkey := by
    rw [hostAt?_update hhost]
    exact h key r hkey
  hosts r host h := by
    rw [hostAt?_update hhost]
    exact h
  made r host h := by
    rw [hostAt?_update hhost] at h
    exact .inl h
  roomy _ _ h := h.of_same (fun _ => rfl) rfl (hostAt?_update hhost t record)
  holds r other hne h := (held_update (fun r hget => hother r hget other hne) h).1
  gates r other hne h := (held_update (fun r hget => hother r hget other hne) h).2
  follows := follows_update hfollows hexists

/-- A step that leaves the gate of a record and its lock alone. -/
theorem advance_update_of_same {f : HostRecord → HostRecord} (hhost : ∀ r, (f r).host = r.host)
    (hgate : ∀ r, (f r).gate = r.gate) (hlock : ∀ r, (f r).gateLock = r.gateLock) :
    Advance task t none none (t.update record f) := by
  show Advance task t (Option.map (fun instant => (record, instant)) none) none _
  refine advance_update hhost ?_ ?_ (fun h => by cases h)
  · intro r _ other _ hholds
    rw [hlock, hgate]
    exact ⟨hholds, rfl⟩
  · intro r _
    rw [hgate]
    exact .same _

theorem advance_refl (task : Nat) (t : HostTable) : Advance task t none none t :=
  advance_of_records rfl rfl rfl

theorem advance_requestGate (task : Nat) (t : HostTable) (record : Nat) :
    Advance task t none none (t.requestGate record task) := by
  show Advance task t (Option.map (fun instant => (record, instant)) none) none _
  refine advance_update (fun _ => rfl) ?_ ?_ (fun h => by cases h)
  · intro r _ other _ hholds
    exact ⟨Lock.isHeldBy_request hholds, rfl⟩
  · intro r _
    exact .same _

theorem advance_leaveGate (task : Nat) (t : HostTable) (record : Nat) :
    Advance task t none none (t.leaveGate record task) := by
  show Advance task t (Option.map (fun instant => (record, instant)) none) none _
  refine advance_update (fun _ => rfl) ?_ ?_ (fun h => by cases h)
  · intro r _ other _ hholds
    exact ⟨hholds, rfl⟩
  · intro r _
    exact .same _

/-- The holder of a gate's lock may change the gate and give the lock back. -/
theorem advance_held {f : HostRecord → HostRecord} {instant? : Option Nat}
    (hholds : t.holdsGate record task = true) (hhost : ∀ r, (f r).host = r.host)
    (hfollows : ∀ r, t.records[record]? = some r →
      FetchGate.Follows t.minInterval (some r.gate) instant? (some (f r).gate)) :
    Advance task t (instant?.map fun instant => (record, instant)) none (t.update record f) := by
  refine advance_update hhost ?_ hfollows ?_
  · -- Nobody else holds the lock.
    intro r hget other hne hother
    rw [holdsGate_eq hget] at hholds
    exact absurd (Lock.eq_of_isHeldBy hholds hother) hne
  · intro _
    obtain ⟨r, hget⟩ := exists_record_of_holdsGate hholds
    rw [hget]
    rfl

theorem advance_releaseGate (hholds : t.holdsGate record task = true) :
    Advance task t none none (t.releaseGate record).1 := by
  show Advance task t (Option.map (fun instant => (record, instant)) none) none _
  exact advance_held hholds (fun _ => rfl) fun r _ => .same _

theorem releaseGate_update (t : HostTable) (record : Nat) (f : HostRecord → HostRecord) :
    ((t.update record f).releaseGate record).1 =
      t.update record fun r => { f r with gateLock := (f r).gateLock.release } := by
  simp only [releaseGate, update, List.modify_modify_eq]
  rfl

theorem advance_grant {instant : Nat} (hholds : t.holdsGate record task = true)
    (hopen : ∀ g ∈ t.gate? record, ∀ last ∈ g.lastGrant, last + g.minInterval ≤ instant) :
    Advance task t (some (record, instant)) none
      ((t.update record fun r =>
        { r with gate := r.gate.grant instant }).releaseGate record).1 := by
  rw [releaseGate_update]
  show Advance task t (Option.map (fun instant => (record, instant)) (some instant)) none _
  refine advance_held hholds (fun _ => rfl) fun r hget => .grants ?_
  apply hopen
  rw [gate?, hget]
  rfl

theorem advance_raise {interval : Nat} (hholds : t.holdsGate record task = true) :
    Advance task t none none
      ((t.update record fun r =>
        { r with gate := r.gate.raise interval }).releaseGate record).1 := by
  rw [releaseGate_update]
  show Advance task t (Option.map (fun instant => (record, instant)) none) none _
  exact advance_held hholds (fun _ => rfl) fun r _ => .raises _ _

def fresh (t : HostTable) (host : String) : HostRecord :=
  { host := keyOf host, gate := { minInterval := t.minInterval } }

theorem find_of_peek {host : String} (h : t.cache.peek (keyOf host) = some record) :
    t.find host = (record,
      { t with cache :=
          { t.cache with policy := EvictionPolicy.touch t.cache.policy (keyOf host) } }) := by
  rw [find, BoundedCache.getOrCreate_of_peek h]
  rfl

def created (t : HostTable) (host : String) : HostTable :=
  { t with
    cache := (t.cache.getOrCreate (keyOf host) t.records.length).2
    records := t.records ++ [t.fresh host] }

theorem find_of_none {host : String} (h : t.cache.peek (keyOf host) = none) :
    t.find host = (t.records.length, t.created host) := by
  obtain ⟨hvalue, hcreated⟩ := BoundedCache.getOrCreate_value h t.records.length
  rw [find, created]
  simp only [hvalue, hcreated, if_true]
  rfl

theorem records_created_self (t : HostTable) (host : String) :
    (t.created host).records[t.records.length]? = some (t.fresh host) := by
  simp [created]

theorem records_created_of_ne (t : HostTable) (host : String) (hne : record ≠ t.records.length) :
    (t.created host).records[record]? = t.records[record]? := by
  rcases Nat.lt_or_gt_of_ne hne with hlt | hgt
  · exact List.getElem?_append_left hlt
  · rw [created, List.getElem?_eq_none (by simpa using Nat.succ_le_of_lt hgt),
      List.getElem?_eq_none (Nat.le_of_lt hgt)]

/-- A record that is there stays as it is. -/
theorem records_created_of_some {r : HostRecord} (h : t.records[record]? = some r)
    (host : String) : (t.created host).records[record]? = some r := by
  rw [t.records_created_of_ne host (Nat.ne_of_lt (List.getElem?_eq_some_iff.mp h).1), h]

theorem hostAt?_created (t : HostTable) (host : String) :
    (t.created host).hostAt? record = some key ↔
      t.hostAt? record = some key ∨ record = t.records.length ∧ keyOf host = key := by
  by_cases hr : record = t.records.length
  · subst hr
    have hnone : t.hostAt? t.records.length = none := by
      rw [hostAt?, List.getElem?_eq_none (Nat.le_refl _), Option.map_none]
    rw [hostAt?, records_created_self, hnone]
    simp [fresh]
  · rw [hostAt?, t.records_created_of_ne host hr]
    simp [hostAt?, hr]

theorem keyed_created (h : t.Keyed) (host : String) : (t.created host).Keyed := by
  intro key r hkey
  rw [hostAt?_created]
  rcases BoundedCache.peek_of_getOrCreate hkey with hkey | ⟨heq, -, rfl⟩
  · exact .inl (h key r hkey)
  · exact .inr ⟨rfl, eq_of_beq heq⟩

theorem Roomy.created {names : List String} {host : String} (h : t.Roomy names)
    (hname : keyOf host ∈ names) (hpeek : t.cache.peek (keyOf host) = none) :
    (t.created host).Roomy names where
  keyed := keyed_created h.keyed host
  keeps key r hr := by
    have hentries : (t.cache.getOrCreate (keyOf host) t.records.length).2.entries =
        t.cache.entries.insert (keyOf host) t.records.length :=
      BoundedCache.entries_getOrCreate hpeek (h.size_lt hname hpeek)
    rw [HostTable.created, BoundedCache.peek, hentries, Std.HashMap.getElem?_insert]
    rcases (t.hostAt?_created host).mp hr with hold | ⟨rfl, rfl⟩
    · have hkept := h.keeps key r hold
      have hne : ¬ (keyOf host == key) = true := by
        intro heq
        rw [← eq_of_beq heq, hpeek] at hkept
        cases hkept
      rw [if_neg hne]
      exact hkept
    · rw [if_pos (beq_self_eq_true _)]
  hosts r key hr := by
    rcases (t.hostAt?_created host).mp hr with hold | ⟨rfl, rfl⟩
    · exact h.hosts r key hold
    · exact hname
  room := Nat.le_trans h.room (Nat.le_of_eq BoundedCache.capacity_getOrCreate.symm)

theorem advance_created {host : String} (hpeek : t.cache.peek (keyOf host) = none) :
    Advance task t none (some (keyOf host)) (t.created host) where
  base := rfl
  keyed h := keyed_created h host
  hosts record key h := (t.hostAt?_created host).mpr (.inl h)
  made record key h := by
    rcases (t.hostAt?_created host).mp h with hold | ⟨rfl, rfl⟩
    · exact .inl hold
    · exact .inr ⟨rfl, hpeek, rfl⟩
  roomy names hnames h := h.created (hnames _ rfl) hpeek
  holds record other _ h := by
    obtain ⟨r, hget⟩ := exists_record_of_holdsGate h
    rw [holdsGate_eq hget] at h
    rw [holdsGate_eq (records_created_of_some hget host)]
    exact h
  gates record other _ h := by
    obtain ⟨r, hget⟩ := exists_record_of_holdsGate h
    rw [gate?, gate?, records_created_of_some hget, hget]
  follows record := by
    rw [gate?, gate?]
    by_cases hr : record = t.records.length
    · subst hr
      rw [records_created_self, List.getElem?_eq_none (Nat.le_refl _)]
      exact .opens
    · rw [t.records_created_of_ne host hr]
      exact .same _

theorem advance_find (task : Nat) (t : HostTable) (host : String) :
    Advance task t none (some (keyOf host)) (t.find host).2 := by
  cases hpeek : t.cache.peek (keyOf host) with
  | some old =>
    rw [find_of_peek hpeek]
    exact {
      base := rfl
      keyed := fun h => h
      hosts := fun _ _ h => h
      made := fun _ _ h => .inl h
      roomy := fun _ _ h => h.of_same (fun _ => rfl) rfl (fun _ => rfl)
      holds := fun _ _ _ h => h
      gates := fun _ _ _ _ => rfl
      follows := fun _ => .same _ }
  | none =>
    rw [find_of_none hpeek]
    exact advance_created hpeek

/-- Naming a host changes no gate that is there. -/
theorem gate?_find {g : FetchGate} (h : t.gate? record = some g) (host : String) :
    (t.find host).2.gate? record = some g := by
  cases hpeek : t.cache.peek (keyOf host) with
  | some old =>
    rw [find_of_peek hpeek]
    exact h
  | none =>
    obtain ⟨r, hget, hgate⟩ := Option.map_eq_some_iff.mp h
    rw [find_of_none hpeek, gate?, records_created_of_some hget, Option.map_some, hgate]

theorem hostAt?_find (hkeyed : t.Keyed) (host : String) :
    (t.find host).2.hostAt? (t.find host).1 = some (keyOf host) := by
  cases hpeek : t.cache.peek (keyOf host) with
  | some old =>
    rw [find_of_peek hpeek]
    exact hkeyed _ _ hpeek
  | none =>
    rw [find_of_none hpeek]
    exact (t.hostAt?_created host).mpr (.inr ⟨rfl, rfl⟩)

structure Fresh (t : HostTable) : Prop where
  records : t.records = []
  cache : ∀ key, t.cache.peek key = none

theorem fresh_ofSettings (s : PolitenessSettings) (agent : String) (service : RobotsService)
    (jitter : Jitter) : (ofSettings s agent service jitter).Fresh where
  records := rfl
  cache _ := Std.HashMap.getElem?_empty

namespace Fresh

theorem hostAt? (h : t.Fresh) (record : Nat) : t.hostAt? record = none := by
  rw [HostTable.hostAt?, h.records]
  rfl

theorem keyed (h : t.Fresh) : t.Keyed := by
  intro key record hkey
  rw [h.cache] at hkey
  cases hkey

theorem timely (h : t.Fresh) (now : Nat) : t.Timely now := by
  intro record g hg
  rw [gate?, h.records] at hg
  cases hg

theorem roomy {names : List String} (h : t.Fresh) (hroom : names.length ≤ t.cache.capacity) :
    t.Roomy names where
  keyed := h.keyed
  keeps key record hrecord := by
    rw [h.hostAt?] at hrecord
    cases hrecord
  hosts record key hrecord := by
    rw [h.hostAt?] at hrecord
    cases hrecord
  room := hroom

end Fresh

end HostTable

end PoliteCrawl
