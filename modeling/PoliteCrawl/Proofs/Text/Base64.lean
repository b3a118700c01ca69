import PoliteCrawl.Text.Base64

namespace PoliteCrawl.Text.Base64

def group (c : Char) : Nat := alphabet.toList.idxOf c

def decodeChars : List Char → List UInt8
  | c₁ :: c₂ :: c₃ :: c₄ :: rest =>
    let first := UInt8.ofNat (group c₁ * 4 + group c₂ / 16)
    let second := UInt8.ofNat (group c₂ * 16 + group c₃ / 4)
    let third := UInt8.ofNat (group c₃ * 64 + group c₄)
    if c₃ = '=' then [first]
    else if c₄ = '=' then [first, second]
    else first :: second :: third :: decodeChars rest
  | _ => []

/-- What holds of the letters of the 64 groups holds of every letter. -/
theorem letter_forall {p : Char → Prop} (h : ∀ k ∈ List.range 64, p (letter k)) (n : Nat) :
    p (letter n) := by
  have hletter := h (n % 64) (List.mem_range.mpr (Nat.mod_lt n (by decide)))
  rwa [letter, Nat.mod_mod, ← letter] at hletter

theorem group_letter (n : Nat) : group (letter n) = n % 64 := by
  have hgroups : ∀ k ∈ List.range 64, group (letter k) = k := by decide
  have hgroup := hgroups (n % 64) (List.mem_range.mpr (Nat.mod_lt n (by decide)))
  rwa [letter, Nat.mod_mod, ← letter] at hgroup

theorem letter_ne_pad (n : Nat) : letter n ≠ '=' :=
  letter_forall (p := (· ≠ '=')) (by decide) n

theorem ofNat_eq_byte {n : Nat} {b : UInt8} (h : n % 256 = b.toNat) : UInt8.ofNat n = b :=
  UInt8.toNat_inj.mp ((UInt8.toNat_ofNat').trans h)

/-- The bytes of a text in base64 can be read back. -/
theorem decodeChars_encodeChars (bytes : List UInt8) : decodeChars (encodeChars bytes) = bytes := by
  have hbyte (b : UInt8) : b.toNat < 256 := b.toNat_lt
  fun_induction encodeChars bytes with
  | case1 => rfl
  | case2 a =>
    have ha := hbyte a
    simp only [decodeChars, group_letter, if_true]
    rw [ofNat_eq_byte (b := a) (by omega)]
  | case3 a b =>
    have ha := hbyte a
    have hb := hbyte b
    simp only [decodeChars, group_letter, if_neg (letter_ne_pad _), if_true]
    rw [ofNat_eq_byte (b := a) (by omega), ofNat_eq_byte (b := b) (by omega)]
  | case4 a b c rest ih =>
    have ha := hbyte a
    have hb := hbyte b
    have hc := hbyte c
    simp only [decodeChars, group_letter, if_neg (letter_ne_pad _), ih]
    rw [ofNat_eq_byte (b := a) (by omega), ofNat_eq_byte (b := b) (by omega),
      ofNat_eq_byte (b := c) (by omega)]

theorem encode_injective : Function.Injective encode := by
  intro bytes bytes' h
  have hchars := congrArg decodeChars (String.ofList_injective h)
  rwa [decodeChars_encodeChars, decodeChars_encodeChars] at hchars

/-- Only letters and padding occur. -/
theorem mem_encodeChars {bytes : List UInt8} {c : Char} (h : c ∈ encodeChars bytes) :
    (∃ n, c = letter n) ∨ c = '=' := by
  fun_induction encodeChars bytes with
  | case1 => cases h
  | case2 a | case3 a b => grind
  | case4 a b c rest ih => grind

end PoliteCrawl.Text.Base64
