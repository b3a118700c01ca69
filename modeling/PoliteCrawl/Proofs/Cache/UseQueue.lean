import PoliteCrawl.Proofs.Cache.Recency
import PoliteCrawl.Proofs.Calls

namespace PoliteCrawl

inductive UseCall (K : Type) where
  | touch (k : K)
  | remove (k : K)
  | pop

inductive UseAnswer (K : Type) where
  | done
  | present (present : Bool)
  | key (k? : Option K)
  deriving DecidableEq

def UseCall.isTouch {K : Type} : UseCall K → Bool
  | .touch _ => true
  | _ => false

namespace UseQueue

variable {K : Type} [BEq K]

def without (keys : List K) (k : K) : List K := keys.filter fun k' => !(k' == k)

def call (keys : List K) : UseCall K → UseAnswer K × List K
  | .touch k => (.done, without keys k ++ [k])
  | .remove k => (.present (keys.any (· == k)), without keys k)
  | .pop => (.key keys.head?, keys.tail)

end UseQueue

namespace RecencyIndex

variable {K : Type} [BEq K] [Hashable K] {r : RecencyIndex K} {k : K} {keys : List K}

def call (r : RecencyIndex K) : UseCall K → UseAnswer K × RecencyIndex K
  | .touch k => (.done, r.touch k)
  | .remove k => let (present, r) := r.remove k; (.present present, r)
  | .pop => let (k?, r) := r.pop; (.key k?, r)

theorem nextTick_call (r : RecencyIndex K) (call : UseCall K) :
    (r.call call).2.nextTick = r.nextTick + if call.isTouch then 1 else 0 := by
  cases call with
  | touch k => rfl
  | remove k => exact nextTick_remove r k
  | pop => exact nextTick_pop r

/-- Only uses take ticks, and each takes one. -/
theorem nextTick_run (r : RecencyIndex K) (calls : List (UseCall K)) :
    (Calls.run call r calls).2.nextTick = r.nextTick + calls.countP UseCall.isTouch := by
  induction calls generalizing r with
  | nil => rfl
  | cons call calls ih =>
    rw [Calls.run, ih, nextTick_call, List.countP_cons]
    omega

/-- The map of ticks has each key as the map of keys has it, and not one that is merely equal. -/
structure Mirrored (r : RecencyIndex K) : Prop where
  coherent : r.Coherent
  kept : ∀ (tick : Nat) (k : K), r.keyAt[tick]? = some k → r.tickOf.getKey? k = some k

theorem mirrored_empty : ({} : RecencyIndex K).Mirrored where
  coherent := coherent_empty
  kept tick k h := by simp at h

variable [EquivBEq K] [LawfulHashable K]

namespace Mirrored

theorem mem_iff (h : r.Mirrored) (k : K) (tick : Nat) :
    (k, tick) ∈ r.tickOf.toList ↔ (tick, k) ∈ r.keyAt.toList := by
  rw [Std.HashMap.mem_toList_iff_getKey?_eq_some_and_getElem?_eq_some,
    Std.TreeMap.mem_toList_iff_getElem?_eq_some]
  constructor
  · rintro ⟨hkey, htick⟩
    obtain ⟨k', hget, heq⟩ := (h.coherent.inverse k tick).mp htick
    have hkept := h.kept tick k' hget
    rw [Std.HashMap.getKey?_congr heq, hkey] at hkept
    rwa [Option.some.inj hkept]
  · intro hget
    exact ⟨h.kept tick k hget, (h.coherent.inverse k tick).mpr ⟨k, hget, BEq.rfl⟩⟩

/-- The maps have the same entries, turned around, and neither has one twice. -/
theorem perm_toList (h : r.Mirrored) :
    r.tickOf.toList.Perm (r.keyAt.toList.map fun e => (e.2, e.1)) := by
  have hticks : r.tickOf.toList.Nodup := by
    refine r.tickOf.distinct_keys_toList.imp fun {a b} hne heq => ?_
    rw [heq, BEq.rfl] at hne
    cases hne
  have hkeys : (r.keyAt.toList.map fun e => (e.2, e.1)).Nodup := by
    refine List.pairwise_map.mpr (r.keyAt.ordered_keys_toList.imp fun {a b} hlt heq => ?_)
    rw [show a.1 = b.1 from congrArg Prod.snd heq] at hlt
    simp at hlt
  refine (List.perm_ext_iff_of_nodup hticks hkeys).mpr fun ⟨k, tick⟩ => ?_
  rw [h.mem_iff, List.mem_map]
  constructor
  · exact fun hmem => ⟨(tick, k), hmem, rfl⟩
  · rintro ⟨e, hmem, heq⟩
    obtain ⟨rfl, rfl⟩ := Prod.mk.inj heq
    exact hmem

theorem size_eq (h : r.Mirrored) : r.size = r.toList.length := by
  rw [size, ← Std.HashMap.length_toList, h.perm_toList.length_eq, toList_eq, List.length_map,
    List.length_map]

theorem touch (h : r.Mirrored) (k : K) : (r.touch k).Mirrored where
  coherent := h.coherent.touch k
  kept tick k' hget := by
    rw [touch_eq] at hget ⊢
    rw [Std.HashMap.getKey?_insert]
    rw [Std.TreeMap.getElem?_insert] at hget
    split at hget
    · obtain rfl : k = k' := Option.some.inj hget
      rw [if_pos BEq.rfl]
    · -- At an older tick there is another key, and that one stays as it is.
      rw [h.coherent.getElem?_keyAtWithout] at hget
      rw [BEq.comm, hget.2]
      exact h.kept tick k' hget.1

theorem remove (h : r.Mirrored) (k : K) : (r.remove k).2.Mirrored where
  coherent := h.coherent.remove k
  kept tick k' hget := by
    rw [keyAt_remove, h.coherent.getElem?_keyAtWithout] at hget
    have hkept := h.kept tick k' hget.1
    unfold RecencyIndex.remove
    split
    · rw [Std.HashMap.getKey?_erase, BEq.comm, hget.2]
      exact hkept
    · exact hkept

/-- To take out the key whose last use is longest ago is to take the head of the queue. -/
theorem pop (h : r.Mirrored) :
    r.pop.1 = r.toList.head? ∧ r.pop.2.toList = r.toList.tail ∧ r.pop.2.Mirrored := by
  cases hlist : r.toList with
  | nil =>
    rw [pop_of_nil hlist]
    exact ⟨rfl, hlist, h⟩
  | cons k rest =>
    obtain ⟨hkey, hremove, hrest⟩ := h.coherent.pop_of_cons hlist
    exact ⟨hkey, hrest, hremove ▸ h.remove k⟩

end Mirrored

structure Queues (r : RecencyIndex K) (keys : List K) : Prop where
  mirrored : r.Mirrored
  listed : r.toList = keys

theorem Queues.call (h : r.Queues keys) (call : UseCall K) :
    (r.call call).1 = (UseQueue.call keys call).1 ∧
      (r.call call).2.Queues (UseQueue.call keys call).2 := by
  obtain ⟨hmirrored, rfl⟩ := h
  cases call with
  | touch k => exact ⟨rfl, hmirrored.touch k, hmirrored.coherent.toList_touch k⟩
  | remove k =>
    exact ⟨congrArg UseAnswer.present (hmirrored.coherent.remove_fst k), hmirrored.remove k,
      hmirrored.coherent.toList_remove k⟩
  | pop =>
    obtain ⟨hkey, hrest, hnext⟩ := hmirrored.pop
    exact ⟨congrArg UseAnswer.key hkey, hnext, hrest⟩

/-- What an index shows of itself if its keys are those of a queue. -/
structure Shows (r : RecencyIndex K) (keys : List K) : Prop where
  /-- The two maps hold the same pairs, turned around. -/
  inverse : ∀ (k : K) (tick : Nat), (k, tick) ∈ r.tickOf.toList ↔ (tick, k) ∈ r.keyAt.toList
  /-- A key is found by any key that is equal to it. -/
  found : ∀ (k : K) (tick : Nat), r.tickOf[k]? = some tick ↔
    ∃ k', r.keyAt[tick]? = some k' ∧ (k' == k) = true
  past : ∀ (tick : Nat) (k : K), r.keyAt[tick]? = some k → tick < r.nextTick
  distinct : keys.Pairwise fun a b => (a == b) = false
  listed : r.toList = keys
  size : r.size = keys.length
  isEmpty : r.isEmpty = keys.isEmpty

theorem Queues.shows (h : r.Queues keys) : r.Shows keys := by
  obtain ⟨hmirrored, rfl⟩ := h
  have hsize := hmirrored.size_eq
  refine ⟨hmirrored.mem_iff, hmirrored.coherent.inverse, hmirrored.coherent.past,
    hmirrored.coherent.distinct, rfl, hsize, ?_⟩
  rw [Bool.eq_iff_iff, List.isEmpty_iff_length_eq_zero, ← hsize, isEmpty,
    Std.HashMap.isEmpty_eq_size_eq_zero, beq_iff_eq]
  rfl

/-- Whatever uses, removals and takings out there were, an index has answered as a queue, it shows
the keys of that queue, and it has spent a tick on each use. -/
theorem queue_of_calls (calls : List (UseCall K)) :
    let run := Calls.run call ({} : RecencyIndex K) calls
    let queue := Calls.run UseQueue.call ([] : List K) calls
    run.1 = queue.1 ∧ run.2.Shows queue.2 ∧
      run.2.nextTick = calls.countP UseCall.isTouch := by
  have hempty : ({} : RecencyIndex K).Queues [] := ⟨mirrored_empty, rfl⟩
  obtain ⟨hanswers, hlast⟩ :=
    Calls.run_of_alike Queues (fun _ _ call h => h.call call) hempty calls
  exact ⟨hanswers, hlast.shows, (nextTick_run _ calls).trans (Nat.zero_add _)⟩

/-- A second use moves the first key to the end, and a key is taken out once only. -/
theorem queue_of_reused :
    EquivBEq Nat ∧ LawfulHashable Nat ∧
      let run := Calls.run call ({} : RecencyIndex Nat)
        [.touch 1, .touch 2, .touch 3, .touch 1, .remove 3, .remove 3, .pop]
      run.1 = [.done, .done, .done, .done, .present true, .present false, .key (some 2)] ∧
        run.2.toList = [1] ∧ run.2.size = 1 ∧ run.2.nextTick = 4 :=
  ⟨inferInstance, inferInstance, (queue_of_calls _).1.trans rfl,
    (queue_of_calls _).2.1.listed.trans rfl, (queue_of_calls _).2.1.size.trans rfl,
    (queue_of_calls _).2.2.trans rfl⟩

end RecencyIndex

end PoliteCrawl
