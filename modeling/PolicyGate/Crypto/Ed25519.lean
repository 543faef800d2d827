import PolicyGate.Crypto.Sha512
/-! # Ed25519 signatures

Signing and strict verification. The points lie on the curve −x² + y² = 1 + d·x²·y² over the integers
modulo 2²⁵⁵ − 19; they are kept in extended coordinates, and a point is written as its y with the parity
of its x in the highest bit. Verification also refuses keys and nonce points of small order and
signatures whose scalar is not reduced. -/

namespace PolicyGate.Crypto.Ed25519

def fieldPrime : Nat := (1 <<< 255) - 19

def groupOrder : Nat := (1 <<< 252) + 27742317777372353535851937790883648493

/-- Powers modulo the prime, by the lowest `bits` bits of the exponent. -/
def powFrom (base exponent : Nat) : Nat → Nat
  | 0 => 1
  | bits + 1 =>
    let half := powFrom (base * base % fieldPrime) (exponent / 2) bits
    if exponent % 2 = 1 then base * half % fieldPrime else half

def pow (base exponent : Nat) : Nat :=
  powFrom (base % fieldPrime) exponent 256

def sub (a b : Nat) : Nat :=
  (a + fieldPrime - b % fieldPrime) % fieldPrime

/-- The inverse modulo the prime; zero has none and gives zero. -/
def inverse (a : Nat) : Nat :=
  pow a (fieldPrime - 2)

/-- The constant d of the curve, −121665 / 121666. -/
def curveConstant : Nat :=
  sub 0 (121665 * inverse 121666 % fieldPrime)

def rootOfMinusOne : Nat :=
  pow 2 ((fieldPrime - 1) / 4)

/-- A point (x, y) as X, Y, Z, T with x = X / Z, y = Y / Z and X · Y = Z · T. -/
structure Point where
  x : Nat
  y : Nat
  z : Nat
  t : Nat
deriving Repr

def Point.zero : Point := ⟨0, 1, 1, 0⟩

/-- The sum of two points, which holds for all points of the curve; `twice` is 2 · d. -/
def Point.addWith (twice : Nat) (p q : Point) : Point :=
  let a := sub p.y p.x * sub q.y q.x % fieldPrime
  let b := (p.y + p.x) * (q.y + q.x) % fieldPrime
  let c := p.t * twice % fieldPrime * q.t % fieldPrime
  let d := 2 * p.z * q.z % fieldPrime
  let e := sub b a
  let f := sub d c
  let g := (d + c) % fieldPrime
  let h := (b + a) % fieldPrime
  ⟨e * f % fieldPrime, g * h % fieldPrime, f * g % fieldPrime, e * h % fieldPrime⟩

def Point.add (p q : Point) : Point :=
  p.addWith (2 * curveConstant) q

def Point.neg (p : Point) : Point :=
  ⟨sub 0 p.x, p.y, p.z, sub 0 p.t⟩

def Point.mulFrom (twice : Nat) (p : Point) (n : Nat) : Nat → Point
  | 0 => Point.zero
  | bits + 1 =>
    let rest := Point.mulFrom twice (p.addWith twice p) (n / 2) bits
    if n % 2 = 1 then p.addWith twice rest else rest

def Point.mul (n : Nat) (p : Point) : Point :=
  Point.mulFrom (2 * curveConstant) p n 256

def Point.hasSmallOrder (p : Point) : Bool :=
  let q := p.mul 8
  q.x % fieldPrime == 0 && sub q.y q.z == 0

def littleEndian (bs : Bytes) : Nat :=
  bs.foldr (fun b n => n * 256 + b.toNat) 0

def bytes32 (n : Nat) : Bytes :=
  (bigEndian 32 n).reverse

def Point.encode (p : Point) : Bytes :=
  let i := inverse p.z
  let x := p.x * i % fieldPrime
  let y := p.y * i % fieldPrime
  bytes32 (y + ((x % 2) <<< 255))

/-- A square root of u / v, if there is one; the even one. -/
def rootOfQuotient? (u v : Nat) : Option Nat :=
  let v3 := v * v % fieldPrime * v % fieldPrime
  let v7 := v3 * v3 % fieldPrime * v % fieldPrime
  let r := u * v3 % fieldPrime * pow (u * v7 % fieldPrime) ((fieldPrime - 5) / 8) % fieldPrime
  let check := v * (r * r % fieldPrime) % fieldPrime
  let even (x : Nat) := if x % 2 = 1 then fieldPrime - x else x
  if check = u % fieldPrime then some (even r)
  else if check = sub 0 u then some (even (r * rootOfMinusOne % fieldPrime))
  else none

/-- The point that 32 bytes write. The y may be any number below 2²⁵⁵. -/
def Point.decode? (bs : Bytes) : Option Point := do
  if bs.length ≠ 32 then none
  else
    let n := littleEndian bs
    let y := n % (1 <<< 255) % fieldPrime
    let yy := y * y % fieldPrime
    let x ← rootOfQuotient? (sub yy 1) ((curveConstant * yy + 1) % fieldPrime)
    let x := if n >>> 255 = 1 then sub 0 x else x
    return ⟨x, y, 1, x * y % fieldPrime⟩

def basePoint : Point :=
  (Point.decode? (bytes32 (4 * inverse 5 % fieldPrime))).getD Point.zero

def hashNumber (bs : Bytes) : Nat :=
  littleEndian (Sha512.hash bs) % groupOrder

/-- The secret scalar of a seed: the lower half of its hash with the three lowest bits and the highest
bit cleared and the next bit set. -/
def secretScalar (seed : Bytes) : Nat :=
  let n := littleEndian ((Sha512.hash seed).take 32)
  (1 <<< 254) + (n % (1 <<< 254)) / 8 * 8

def publicKey (seed : Bytes) : Bytes :=
  (basePoint.mul (secretScalar seed)).encode

def sign (seed message : Bytes) : Bytes :=
  let a := secretScalar seed
  let r := hashNumber ((Sha512.hash seed).drop 32 ++ message)
  let noncePoint := (basePoint.mul r).encode
  let k := hashNumber (noncePoint ++ publicKey seed ++ message)
  noncePoint ++ bytes32 ((r + k * a) % groupOrder)

def verifyStrict (key message signature : Bytes) : Bool :=
  let noncePoint := signature.take 32
  let s := littleEndian (signature.drop 32)
  match Point.decode? key, Point.decode? noncePoint with
  | some a, some r =>
    if s < groupOrder ∧ !r.hasSmallOrder ∧ !a.hasSmallOrder then
      let k := hashNumber (noncePoint ++ key ++ message)
      ((a.neg.mul k).add (basePoint.mul s)).encode == noncePoint
    else false
  | _, _ => false

end PolicyGate.Crypto.Ed25519
