namespace PoliteCrawl.Text.Lossy

def replacement : Char := '\ufffd'

/-- What has to follow the first byte of a character of several bytes. -/
structure Lead where
  /-- The bits of the character that the first byte holds. -/
  bits : Nat
  /-- The bounds of the second byte. -/
  low : UInt8
  high : UInt8
  /-- How many bytes follow the second. -/
  more : Nat

def leadOf? (b : UInt8) : Option Lead :=
  -- the second byte rules out forms that are too long, surrogates and what is beyond Unicode
  let bits (from_ : UInt8) : Nat := (b - from_).toNat
  if 0xc2 ≤ b ∧ b ≤ 0xdf then some ⟨bits 0xc0, 0x80, 0xbf, 0⟩
  else if b = 0xe0 then some ⟨bits 0xe0, 0xa0, 0xbf, 1⟩
  else if b = 0xed then some ⟨bits 0xe0, 0x80, 0x9f, 1⟩
  else if 0xe1 ≤ b ∧ b ≤ 0xef then some ⟨bits 0xe0, 0x80, 0xbf, 1⟩
  else if b = 0xf0 then some ⟨bits 0xf0, 0x90, 0xbf, 2⟩
  else if b = 0xf4 then some ⟨bits 0xf0, 0x80, 0x8f, 2⟩
  else if 0xf1 ≤ b ∧ b ≤ 0xf3 then some ⟨bits 0xf0, 0x80, 0xbf, 2⟩
  else none

def readMore (bits : Nat) : (more : Nat) → List UInt8 → Char × List UInt8
  | 0, rest => (Char.ofNat bits, rest)
  | _ + 1, [] => (replacement, [])
  | more + 1, b :: rest =>
    if 0x80 ≤ b ∧ b ≤ 0xbf then readMore (bits * 64 + (b - 0x80).toNat) more rest
    -- the byte that does not go on with the character is looked at again
    else (replacement, b :: rest)

def readChar (b : UInt8) (rest : List UInt8) : Char × List UInt8 :=
  if b < 0x80 then (Char.ofNat b.toNat, rest)
  else match leadOf? b, rest with
    | some lead, second :: tail =>
      if lead.low ≤ second ∧ second ≤ lead.high then
        readMore (lead.bits * 64 + (second - 0x80).toNat) lead.more tail
      else (replacement, rest)
    | _, _ => (replacement, rest)

theorem length_readMore_le (bits more : Nat) (bytes : List UInt8) :
    (readMore bits more bytes).2.length ≤ bytes.length := by
  induction more generalizing bits bytes with
  | zero => simp [readMore]
  | succ more ih =>
    cases bytes with
    | nil => simp [readMore]
    | cons b rest =>
      unfold readMore
      split
      · exact Nat.le_succ_of_le (ih _ rest)
      · exact Nat.le_refl _

theorem length_readChar_le (b : UInt8) (rest : List UInt8) :
    (readChar b rest).2.length ≤ rest.length := by
  unfold readChar
  split
  · simp
  · split
    · split
      · exact Nat.le_succ_of_le (length_readMore_le _ _ _)
      · simp
    · simp

def decodeChars : List UInt8 → List Char
  | [] => []
  | b :: rest =>
    let next := readChar b rest
    next.1 :: decodeChars next.2
termination_by bytes => bytes.length
decreasing_by
  exact Nat.lt_succ_of_le (length_readChar_le b rest)

def decode (bytes : List UInt8) : String := String.ofList (decodeChars bytes)

end PoliteCrawl.Text.Lossy
