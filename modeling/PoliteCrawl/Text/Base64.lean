namespace PoliteCrawl.Text.Base64

def alphabet : Array Char :=
  "ABCDEFGHIJKLMNOPQRSTUVWXYZabcdefghijklmnopqrstuvwxyz0123456789+/".toList.toArray

def letter (n : Nat) : Char := alphabet.getD (n % 64) 'A'

/-- Three bytes become four letters; one or two left over are padded with `=`. -/
def encodeChars : List UInt8 → List Char
  | [] => []
  | [a] => [letter (a.toNat / 4), letter (a.toNat * 16), '=', '=']
  | [a, b] =>
    [letter (a.toNat / 4), letter (a.toNat * 16 + b.toNat / 16), letter (b.toNat * 4), '=']
  | a :: b :: c :: rest =>
    letter (a.toNat / 4) :: letter (a.toNat * 16 + b.toNat / 16) ::
      letter (b.toNat * 4 + c.toNat / 64) :: letter c.toNat :: encodeChars rest

def encode (bytes : List UInt8) : String := String.ofList (encodeChars bytes)

end PoliteCrawl.Text.Base64
