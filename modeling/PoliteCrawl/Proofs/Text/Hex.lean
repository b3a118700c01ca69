import Mathlib.Data.List.Induction
import PoliteCrawl.Text.Hex

namespace PoliteCrawl.Text.Hex

def digits : List Char := "0123456789abcdefABCDEF".toList

theorem isDigit_of_mem {c : Char} (h : c ∈ digits) : isDigit c = true := by
  have hall : digits.all isDigit = true := by decide
  exact List.all_eq_true.mp hall c h

theorem toNat_lt_of_isDigit {c : Char} (h : isDigit c = true) : c.toNat < 128 := by
  by_contra hlarge
  have hnone : value? c = none := by
    simp only [value?, Bool.and_eq_true, decide_eq_true_eq]
    rw [if_neg (by omega), if_neg (by omega), if_neg (by omega)]
  rw [isDigit, hnone] at h
  cases h

theorem mem_digits_of_isDigit {c : Char} (h : isDigit c = true) : c ∈ digits := by
  have hall : ∀ n < 128, isDigit (Char.ofNat n) = true → Char.ofNat n ∈ digits := by
    decide +kernel
  have hmem := hall c.toNat (toNat_lt_of_isDigit h)
  rw [Char.ofNat_toNat] at hmem
  exact hmem h

theorem isDigit_iff {c : Char} : isDigit c = true ↔ c ∈ digits :=
  ⟨mem_digits_of_isDigit, isDigit_of_mem⟩

/-- A digit is the value that it has, written in lower case. -/
theorem digit_of_value {c : Char} {n : Nat} (h : value? c = some n) :
    n < 16 ∧ digit n = c.toLower := by
  have hall : digits.all fun c => (value? c).all fun n => n < 16 ∧ digit n = c.toLower := by
    decide
  have hdigit : isDigit c = true := by
    rw [isDigit, h]
    rfl
  have hdigits := List.all_eq_true.mp hall c (mem_digits_of_isDigit hdigit)
  rw [h, Option.all_some] at hdigits
  exact of_decide_eq_true hdigits

theorem digit_mem {n : Nat} (h : n < 16) : digit n ∈ digits := by
  rw [← isDigit_iff, isDigit, value?_digit h]
  rfl

theorem digit_lt_digit {m n : Nat} (hm : m < 16) (hn : n < 16) : digit m < digit n ↔ m < n := by
  have hall : ∀ m < 16, ∀ n < 16, (digit m < digit n ↔ m < n) := by decide
  exact hall m hm n hn

theorem toNat?_concat (cs : List Char) (c : Char) :
    toNat? (cs ++ [c]) = (toNat? cs).bind fun n => (value? c).map (n * 16 + ·) := by
  rw [toNat?, List.foldlM_append]
  cases hn : cs.foldlM (fun acc c => (value? c).map (acc * 16 + ·)) 0 with
  | none => simp [toNat?, hn]
  | some n => cases hc : value? c <;> simp [toNat?, hn, hc]

/-- The number that digits spell is written with the same digits. -/
theorem ofNat_of_toNat? {cs : List Char} {n : Nat} (h : toNat? cs = some n) :
    n < 16 ^ cs.length ∧ ofNat cs.length n = cs.map Char.toLower := by
  induction cs using List.reverseRecOn generalizing n with
  | nil =>
    obtain rfl : 0 = n := by simpa [toNat?] using h
    exact ⟨by decide, rfl⟩
  | append_singleton cs c ih =>
    rw [toNat?_concat, Option.bind_eq_some_iff] at h
    obtain ⟨high, hhigh, h⟩ := h
    obtain ⟨low, hlow, rfl⟩ := Option.map_eq_some_iff.mp h
    obtain ⟨hbound, hdigits⟩ := ih hhigh
    obtain ⟨hlt, hdigit⟩ := digit_of_value hlow
    have hdiv : (high * 16 + low) / 16 = high := by omega
    have hmod : (high * 16 + low) % 16 = low := by omega
    rw [List.length_append, List.length_singleton, Nat.pow_succ, ofNat, hdiv, hmod, hdigits,
      hdigit, List.map_append]
    exact ⟨by omega, rfl⟩

theorem exists_toNat? {cs : List Char} (h : ∀ c ∈ cs, c ∈ digits) : ∃ n, toNat? cs = some n := by
  induction cs using List.reverseRecOn with
  | nil => exact ⟨0, rfl⟩
  | append_singleton cs c ih =>
    obtain ⟨high, hhigh⟩ := ih fun d hd => h d (List.mem_append_left _ hd)
    obtain ⟨low, hlow⟩ := Option.isSome_iff_exists.mp (isDigit_of_mem (h c (by simp)))
    exact ⟨high * 16 + low, by rw [toNat?_concat, hhigh, Option.bind_some, hlow, Option.map_some]⟩

theorem mem_digits_of_toNat? {cs : List Char} {n : Nat} (h : toNat? cs = some n) :
    ∀ c ∈ cs, c ∈ digits := by
  induction cs using List.reverseRecOn generalizing n with
  | nil => simp
  | append_singleton cs c ih =>
    rw [toNat?_concat, Option.bind_eq_some_iff] at h
    obtain ⟨high, hhigh, h⟩ := h
    obtain ⟨low, hlow, -⟩ := Option.map_eq_some_iff.mp h
    have hc : isDigit c = true := by
      rw [isDigit, hlow]
      rfl
    intro d hd
    rcases List.mem_append.mp hd with hd | hd
    · exact ih hhigh d hd
    · rw [List.mem_singleton.mp hd]
      exact mem_digits_of_isDigit hc

theorem mem_digits_of_ofNat (width n : Nat) : ∀ c ∈ ofNat width n, c ∈ digits := by
  induction width generalizing n with
  | zero => simp [ofNat]
  | succ width ih =>
    intro c hc
    rcases List.mem_append.mp hc with hc | hc
    · exact ih (n / 16) c hc
    · rw [List.mem_singleton.mp hc]
      exact digit_mem (Nat.mod_lt n (by decide))

theorem toNat?_ofNat {width n : Nat} (h : n < 16 ^ width) : toNat? (ofNat width n) = some n := by
  induction width generalizing n with
  | zero =>
    obtain rfl : n = 0 := by simpa using h
    rfl
  | succ width ih =>
    rw [Nat.pow_succ, Nat.mul_comm] at h
    have hhigh : n / 16 < 16 ^ width := Nat.div_lt_of_lt_mul h
    rw [ofNat, toNat?_concat, ih hhigh, Option.bind_some, value?_digit (Nat.mod_lt n (by decide)),
      Option.map_some, Nat.div_add_mod']

theorem ofNat_inj {width m n : Nat} (hm : m < 16 ^ width) (hn : n < 16 ^ width)
    (h : ofNat width m = ofNat width n) : m = n := by
  have hread := toNat?_ofNat hm
  rw [h, toNat?_ofNat hn] at hread
  exact (Option.some.inj hread).symm

/-- The first place in which two lists differ decides, and their last one only if it is that. -/
theorem concat_lt_concat_iff {xs ys : List Char} (h : xs.length = ys.length) (x y : Char) :
    xs ++ [x] < ys ++ [y] ↔ xs < ys ∨ xs = ys ∧ x < y := by
  induction xs generalizing ys with
  | nil =>
    cases ys with
    | nil => simp [List.cons_lt_cons_iff]
    | cons => simp at h
  | cons a xs ih =>
    cases ys with
    | nil => simp at h
    | cons b ys =>
      have hlength : xs.length = ys.length := by simpa using h
      rw [List.cons_append, List.cons_append, List.cons_lt_cons_iff, List.cons_lt_cons_iff,
        ih hlength, List.cons.injEq]
      tauto

theorem ofNat_lt_ofNat_iff {width m n : Nat} (hm : m < 16 ^ width) (hn : n < 16 ^ width) :
    ofNat width m < ofNat width n ↔ m < n := by
  induction width generalizing m n with
  | zero =>
    rw [Nat.pow_zero] at hm hn
    exact iff_of_false (by simp [ofNat]) (by omega)
  | succ width ih =>
    rw [Nat.pow_succ, Nat.mul_comm] at hm hn
    have hm' : m / 16 < 16 ^ width := Nat.div_lt_of_lt_mul hm
    have hn' : n / 16 < 16 ^ width := Nat.div_lt_of_lt_mul hn
    have hsame : ofNat width (m / 16) = ofNat width (n / 16) ↔ m / 16 = n / 16 :=
      ⟨ofNat_inj hm' hn', fun heq => by rw [heq]⟩
    rw [ofNat, ofNat, concat_lt_concat_iff (by simp), ih hm' hn', hsame,
      digit_lt_digit (Nat.mod_lt m (by decide)) (Nat.mod_lt n (by decide))]
    omega

end PoliteCrawl.Text.Hex
