import PoliteCrawl.Jitter

namespace PoliteCrawl

namespace Time

/-- An instant or a duration in whole milliseconds. -/
def IsWhole (t : Nat) : Prop := ∃ n, t = ofMillis n

theorem IsWhole.add {a b : Nat} (ha : IsWhole a) (hb : IsWhole b) : IsWhole (a + b) := by
  obtain ⟨n, rfl⟩ := ha
  obtain ⟨m, rfl⟩ := hb
  exact ⟨n + m, (Nat.add_mul n m milli).symm⟩

/-- A timer for a whole millisecond rings on time. -/
theorem IsWhole.ofMillis_ringing {t : Nat} (h : IsWhole t) : ofMillis (ringing t) = t := by
  obtain ⟨n, rfl⟩ := h
  simp only [ofMillis, ringing, milli]
  omega

theorem isWhole_ofMillis (n : Nat) : IsWhole (ofMillis n) := ⟨n, rfl⟩

theorem ofMillis_ringing_mono {a b : Nat} (h : a ≤ b) :
    ofMillis (ringing a) ≤ ofMillis (ringing b) := by
  simp only [ofMillis, ringing, milli]
  omega

/-- The next whole millisecond is not later than any alarm that is still to come. -/
theorem IsWhole.add_milli_le {now alarm : Nat} (h : IsWhole now) (halarm : now < alarm) :
    now + milli ≤ ofMillis (ringing alarm) := by
  obtain ⟨n, rfl⟩ := h
  simp only [ofMillis, ringing, milli] at halarm ⊢
  omega

/-- Seconds from an instant on lie in the time to come. -/
theorem not_add_ofSeconds_le (now : Nat) {n : Nat} (hpos : 0 < n) :
    ¬ now + ofSeconds n ≤ now := by
  simp only [ofSeconds, second]
  omega

end Time

namespace Jitter

theorem below_lt {n : Nat} (hpos : 0 < n) (threshold fuel : Nat) (j : Jitter) :
    (below n threshold fuel j).1 < n := by
  induction fuel generalizing j with
  | zero => exact hpos
  | succ fuel ih =>
    simp only [below]
    split
    · exact ih _
    · -- The high half of a product with a 64-bit number
      refine Nat.div_lt_of_lt_mul ?_
      exact Nat.mul_lt_mul_of_pos_right (UInt64.toNat_lt _) hpos

theorem upTo_le (m : Nat) (j : Jitter) : (j.upTo m).1 ≤ m := by
  rw [upTo]
  split
  · have hlt := UInt64.toNat_lt j.next.1
    show j.next.1.toNat ≤ m
    omega
  · exact Nat.le_of_lt_succ (below_lt (Nat.succ_pos m) _ _ j)

theorem isWhole_offset (j : Jitter) (most : Nat) : Time.IsWhole (j.offset most).1 := by
  rw [offset]
  split
  · exact ⟨0, (Nat.zero_mul _).symm⟩
  · exact ⟨_, rfl⟩

theorem offset_le (j : Jitter) (most : Nat) : (j.offset most).1 ≤ most := by
  rw [offset]
  split
  · exact Nat.zero_le _
  · calc
      Time.ofMillis (j.upTo (min (Time.wholeMillis most) (2 ^ 64 - 1))).1
        ≤ Time.ofMillis (Time.wholeMillis most) :=
          Nat.mul_le_mul_right _ (Nat.le_trans (upTo_le _ j) (Nat.min_le_left _ _))
      _ ≤ most := Nat.div_mul_le_self _ _

variable {base spread : Nat}

theorem le_around (j : Jitter) (hbase : base ≤ Time.longest) (spread : Nat) :
    base ≤ (j.around base spread).1 :=
  Nat.le_min.mpr ⟨Nat.le_add_right _ _, hbase⟩

theorem around_le (j : Jitter) (base spread : Nat) : (j.around base spread).1 ≤ base + spread :=
  Nat.le_trans (Nat.min_le_left _ _) (Nat.add_le_add_left (j.offset_le spread) _)

/-- What is not cut off at the longest duration is as whole as the base. -/
theorem isWhole_around (j : Jitter) (hbase : Time.IsWhole base)
    (hlongest : base + spread ≤ Time.longest) : Time.IsWhole (j.around base spread).1 := by
  have hsum : base + (j.offset spread).1 ≤ Time.longest :=
    Nat.le_trans (Nat.add_le_add_left (j.offset_le spread) _) hlongest
  have haround : (j.around base spread).1 = base + (j.offset spread).1 := Nat.min_eq_left hsum
  rw [haround]
  exact hbase.add (j.isWhole_offset spread)

end Jitter

end PoliteCrawl
