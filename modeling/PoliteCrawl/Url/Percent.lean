import PoliteCrawl.Text.Hex

namespace PoliteCrawl.Url

def isControl (c : Char) : Bool := c.toNat < 0x20 || c.toNat ≥ 0x7f

def inFragmentSet (c : Char) : Bool := isControl c || " \"<>`".contains c

def inPathSet (c : Char) : Bool := inFragmentSet c || "#?\x7b\x7d".contains c

def inUserinfoSet (c : Char) : Bool := inPathSet c || "/:;=@[\\]^|".contains c

def inQuerySet (c : Char) : Bool := isControl c || " \"#<>".contains c

def inSpecialQuerySet (c : Char) : Bool := inQuerySet c || c == '\''

def encodeByte (b : UInt8) : List Char :=
  ['%', Text.Hex.digitUpper (b.toNat / 16), Text.Hex.digitUpper (b.toNat % 16)]

def percentEncode (set : Char → Bool) (cs : List Char) : List Char :=
  cs.flatMap fun c =>
    if set c then (String.singleton c).toUTF8.toList.flatMap encodeByte else [c]

def percentDecode : List UInt8 → List UInt8
  | 0x25 :: a :: b :: rest =>
    match Text.Hex.value? (Char.ofNat a.toNat), Text.Hex.value? (Char.ofNat b.toNat) with
    | some hi, some lo => UInt8.ofNat (hi * 16 + lo) :: percentDecode rest
    | _, _ => 0x25 :: percentDecode (a :: b :: rest)
  | c :: rest => c :: percentDecode rest
  | [] => []

end PoliteCrawl.Url
