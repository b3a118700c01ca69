import PoliteCrawl.Keyspace.Range

namespace PoliteCrawl

namespace Digest

theorem ofBytesDown_foldl (bytes : List UInt8) (acc : Nat) :
    bytes.foldl (fun acc b => acc * 256 + b.toNat) acc =
      acc * 256 ^ bytes.length + ofBytesDown bytes := by
  induction bytes generalizing acc with
  | nil => simp [ofBytesDown]
  | cons b bytes ih =>
    simp only [ofBytesDown, List.foldl_cons, List.length_cons]
    rw [ih, ih (0 * 256 + b.toNat), Nat.pow_succ, Nat.add_mul, Nat.mul_assoc, Nat.mul_comm 256,
      Nat.zero_mul, Nat.zero_add, Nat.add_assoc]

theorem ofBytesDown_cons (b : UInt8) (bytes : List UInt8) :
    ofBytesDown (b :: bytes) = b.toNat * 256 ^ bytes.length + ofBytesDown bytes := by
  rw [ofBytesDown, List.foldl_cons, ofBytesDown_foldl]
  simp

theorem ofBytesDown_lt (bytes : List UInt8) : ofBytesDown bytes < 256 ^ bytes.length := by
  induction bytes with
  | nil => simp [ofBytesDown]
  | cons b bytes ih =>
    have hb : b.toNat + 1 ≤ 256 := b.toNat_lt
    have hmul := Nat.mul_le_mul_right (256 ^ bytes.length) hb
    rw [ofBytesDown_cons, List.length_cons, Nat.pow_succ]
    rw [Nat.add_one_mul] at hmul
    omega

/-- The first byte in which two numbers differ decides which is smaller. -/
theorem ofBytesDown_lt_iff {xs ys : List UInt8} (h : xs.length = ys.length) :
    ofBytesDown xs < ofBytesDown ys ↔ xs < ys := by
  induction xs generalizing ys with
  | nil =>
    cases ys with
    | nil => simp
    | cons => simp at h
  | cons x xs ih =>
    cases ys with
    | nil => simp at h
    | cons y ys =>
      have hlen : xs.length = ys.length := by simpa using h
      have hx := ofBytesDown_lt xs
      have hy := ofBytesDown_lt ys
      rw [List.cons_lt_cons_iff, ← ih hlen, ofBytesDown_cons, ofBytesDown_cons, hlen]
      rw [hlen] at hx
      -- The rest of a number is less than one in the place of its first byte.
      rcases Nat.lt_trichotomy x.toNat y.toNat with hlt | heq | hgt
      · have hmul := Nat.mul_le_mul_right (256 ^ ys.length) hlt
        rw [Nat.succ_mul] at hmul
        exact iff_of_true (by omega) (.inl hlt)
      · have hxy : x = y := UInt8.toNat_inj.mp heq
        subst hxy
        simp
      · have hmul := Nat.mul_le_mul_right (256 ^ ys.length) hgt
        rw [Nat.succ_mul] at hmul
        refine iff_of_false (by omega) ?_
        rintro (hlt | ⟨rfl, -⟩)
        · exact absurd hlt (Nat.lt_asymm hgt)
        · exact Nat.lt_irrefl _ hgt

theorem bytesDown_succ (width n : Nat) :
    bytesDown (width + 1) n = UInt8.ofNat (n / 256 ^ width) :: bytesDown width n := by
  simp [bytesDown, bytesUp, List.range_succ]

@[simp] theorem length_bytesDown (width n : Nat) : (bytesDown width n).length = width := by
  simp [bytesDown, bytesUp]

theorem ofBytesDown_bytesDown (width n : Nat) :
    ofBytesDown (bytesDown width n) = n % 256 ^ width := by
  induction width with
  | zero => simp [bytesDown, bytesUp, ofBytesDown, Nat.mod_one]
  | succ width ih =>
    have hmod : n % 256 ^ (width + 1) =
        n % 256 ^ width + 256 ^ width * (n / 256 ^ width % 256) := Nat.mod_pow_succ
    rw [bytesDown_succ, ofBytesDown_cons, ih, length_bytesDown, UInt8.toNat_ofNat', hmod,
      Nat.mul_comm, Nat.add_comm]

end Digest

namespace KeyHash

def bytes (a : KeyHash) : List UInt8 := Digest.bytesDown 16 a.toNat

theorem ofBytesDown_bytes (a : KeyHash) : Digest.ofBytesDown a.bytes = a.toNat := by
  rw [bytes, Digest.ofBytesDown_bytesDown]
  exact Nat.mod_eq_of_lt a.toNat_lt

theorem bytes_lt_iff {a b : KeyHash} : a.bytes < b.bytes ↔ a < b := by
  rw [← Digest.ofBytesDown_lt_iff (by simp [bytes]), ofBytesDown_bytes, ofBytesDown_bytes, lt_def]

theorem bytes_le_iff {a b : KeyHash} : a.bytes ≤ b.bytes ↔ a ≤ b := by
  rw [← List.not_lt, bytes_lt_iff, lt_def, le_def, Nat.not_lt]

end KeyHash

/-- A range holds the hashes whose bytes lie between the bytes of its bounds. -/
theorem HashRange.contains_iff_bytes {r : HashRange} {a : KeyHash} :
    r.contains a = true ↔ r.min.bytes ≤ a.bytes ∧ a.bytes ≤ r.max.bytes := by
  rw [contains_iff, KeyHash.bytes_le_iff, KeyHash.bytes_le_iff]

end PoliteCrawl
