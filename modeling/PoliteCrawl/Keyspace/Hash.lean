import PoliteCrawl.Digest.MD5
import PoliteCrawl.Text.Blank
import PoliteCrawl.Text.Hex

namespace PoliteCrawl

structure KeyHash where
  toNat : Nat
  toNat_lt : toNat < 2 ^ 128
  deriving DecidableEq

namespace KeyHash

theorem ext {a b : KeyHash} (h : a.toNat = b.toNat) : a = b := by
  cases a; cases b; cases h; rfl

instance : LE KeyHash := ⟨fun a b => a.toNat ≤ b.toNat⟩

instance : LT KeyHash := ⟨fun a b => a.toNat < b.toNat⟩

instance (a b : KeyHash) : Decidable (a ≤ b) := inferInstanceAs (Decidable (a.toNat ≤ b.toNat))

instance (a b : KeyHash) : Decidable (a < b) := inferInstanceAs (Decidable (a.toNat < b.toNat))

theorem le_def {a b : KeyHash} : a ≤ b ↔ a.toNat ≤ b.toNat := Iff.rfl

theorem lt_def {a b : KeyHash} : a < b ↔ a.toNat < b.toNat := Iff.rfl

/-- The point of a number, taken modulo the size of the keyspace. -/
def ofNat (n : Nat) : KeyHash := ⟨n % 2 ^ 128, Nat.mod_lt _ (by decide)⟩

theorem toNat_ofNat {n : Nat} (h : n < 2 ^ 128) : (ofNat n).toNat = n := Nat.mod_eq_of_lt h

theorem ofNat_toNat (a : KeyHash) : ofNat a.toNat = a := ext (toNat_ofNat a.toNat_lt)

def least : KeyHash := ⟨0, by decide⟩

def greatest : KeyHash := ⟨2 ^ 128 - 1, by decide⟩

theorem le_greatest (a : KeyHash) : a ≤ greatest := Nat.le_pred_of_lt a.toNat_lt

/-- The point whose bytes these are, most significant first. -/
def ofBytes (bytes : List UInt8) : KeyHash := ofNat (Digest.ofBytesDown bytes)

def ofData (data : List UInt8) : KeyHash := ofBytes (Digest.MD5.digest data)

/-- The point of a host, whatever the case of its name's ASCII letters. -/
def ofHost (host : String) : KeyHash := ofData (Text.lowerAscii host).toUTF8.toList

/-- Thirty-two hexadecimal digits in lower case. -/
def text (a : KeyHash) : String := String.ofList (Text.Hex.ofNat 32 a.toNat)

/-- Reads thirty-two hexadecimal digits of either case, with blanks around them. -/
def read? (s : String) : Option KeyHash :=
  let digits := Text.trimChars s.toList
  if digits.length = 32 then (Text.Hex.toNat? digits).map ofNat else none

end KeyHash

end PoliteCrawl
