import PolicyGate.Text.Bytes
/-! # Hexadecimal numerals

Bytes are written as two lower-case digits each; reading admits both cases. -/

namespace PolicyGate.Text.Hex

def isDigit (c : Char) : Bool :=
  c.isDigit || ('a' ≤ c && c ≤ 'f') || ('A' ≤ c && c ≤ 'F')

def digitValue? (c : Char) : Option Nat :=
  if c.isDigit then some (c.toNat - '0'.toNat)
  else if 'a' ≤ c ∧ c ≤ 'f' then some (c.toNat - 'a'.toNat + 10)
  else if 'A' ≤ c ∧ c ≤ 'F' then some (c.toNat - 'A'.toNat + 10)
  else none

def digit (n : Nat) : Char :=
  if n < 10 then Char.ofNat ('0'.toNat + n) else Char.ofNat ('a'.toNat + (n - 10))

def encode : Bytes → List Char
  | [] => []
  | b :: bs => digit (b.toNat / 16) :: digit (b.toNat % 16) :: encode bs

/-- Reads digits two by two; an odd number of digits or another character is refused. -/
def decode? : List Char → Option Bytes
  | [] => some []
  | [_] => none
  | c :: d :: cs => do
    let high ← digitValue? c
    let low ← digitValue? d
    let rest ← decode? cs
    return UInt8.ofNat (16 * high + low) :: rest

def text (bs : Bytes) : String :=
  String.ofList (encode bs)

def value? (cs : List Char) : Option Nat :=
  cs.foldlM (fun n c => (digitValue? c).map (16 * n + ·)) 0

end PolicyGate.Text.Hex
