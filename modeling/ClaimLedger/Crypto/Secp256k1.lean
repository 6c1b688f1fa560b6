import ClaimLedger.Bytes.Basic

/-! The curve secp256k1: arithmetic modulo its prime, points in projective
coordinates, and the encodings of points and secret keys. Numbers are plain
naturals reduced after every operation, so the arithmetic reads as the
textbook's and needs no limbs. -/
namespace ClaimLedger.Secp256k1

/-- The prime of the coordinate field. -/
def fieldPrime : Nat :=
  0xfffffffffffffffffffffffffffffffffffffffffffffffffffffffefffffc2f

/-- The number of points, a prime too. -/
def groupOrder : Nat :=
  0xfffffffffffffffffffffffffffffffebaaedce6af48a03bbfd25e8cd0364141

/-- `acc * base ^ exponent` modulo `modulus`, for exponents below `2 ^ fuel`. -/
def powAux (modulus : Nat) : (fuel base exponent acc : Nat) → Nat
  | 0, _, _, acc => acc
  | fuel + 1, base, exponent, acc =>
    let acc := if exponent % 2 = 1 then acc * base % modulus else acc
    powAux modulus fuel (base * base % modulus) (exponent / 2) acc

def powMod (modulus base exponent : Nat) : Nat :=
  powAux modulus 256 (base % modulus) exponent 1

/-- The inverse modulo a prime, by Fermat's little theorem; zero for zero. -/
def inverseMod (modulus n : Nat) : Nat :=
  powMod modulus n (modulus - 2)

def subMod (a b : Nat) : Nat :=
  (a + (fieldPrime - b)) % fieldPrime

/-- A point as `(x / z², y / z³)`; the point at infinity has `z = 0`. -/
structure Jacobian where
  x : Nat
  y : Nat
  z : Nat

namespace Jacobian

def infinity : Jacobian := ⟨1, 1, 0⟩

def double (a : Jacobian) : Jacobian :=
  let p := fieldPrime
  if a.z = 0 ∨ a.y = 0 then infinity else
  let yy := a.y * a.y % p
  let s := 4 * a.x * yy % p
  let m := 3 * a.x * a.x % p
  let x := subMod (m * m % p) (2 * s % p)
  let y := subMod (m * subMod s x % p) (8 * yy * yy % p)
  ⟨x, y, 2 * a.y * a.z % p⟩

def add (a b : Jacobian) : Jacobian :=
  let p := fieldPrime
  if a.z = 0 then b else if b.z = 0 then a else
  let zza := a.z * a.z % p
  let zzb := b.z * b.z % p
  let ua := a.x * zzb % p
  let ub := b.x * zza % p
  let sa := a.y * zzb * b.z % p
  let sb := b.y * zza * a.z % p
  if ua = ub then (if sa = sb then double a else infinity) else
  let h := subMod ub ua
  let r := subMod sb sa
  let hh := h * h % p
  let hhh := h * hh % p
  let v := ua * hh % p
  let x := subMod (subMod (r * r % p) hhh) (2 * v % p)
  let y := subMod (r * subMod v x % p) (sa * hhh % p)
  ⟨x, y, h * a.z * b.z % p⟩

/-- `acc + scalar * a` for scalars below `2 ^ fuel`. -/
def mulAux : (fuel : Nat) → (a : Jacobian) → (scalar : Nat) → (acc : Jacobian) → Jacobian
  | 0, _, _, acc => acc
  | fuel + 1, a, scalar, acc =>
    mulAux fuel (double a) (scalar / 2) (if scalar % 2 = 1 then add acc a else acc)

def mul (scalar : Nat) (a : Jacobian) : Jacobian :=
  mulAux 256 a scalar infinity

end Jacobian

/-- A point of the curve other than infinity, by its coordinates. -/
structure Point where
  x : Nat
  y : Nat
  deriving DecidableEq

namespace Point

def generator : Point where
  x := 0x79be667ef9dcbbac55a06295ce870b07029bfcdb2dce28d959f2815b16f81798
  y := 0x483ada7726a3c4655da4fbfc0e1108a8fd17b448a68554199c47d08ffb10d4b8

def toJacobian (a : Point) : Jacobian := ⟨a.x, a.y, 1⟩

/-- Both coordinates are reduced and satisfy the equation of the curve. -/
def OnCurve (a : Point) : Prop :=
  a.x < fieldPrime ∧ a.y < fieldPrime ∧
    a.y * a.y % fieldPrime = (a.x * a.x * a.x + 7) % fieldPrime

instance (a : Point) : Decidable a.OnCurve := by unfold OnCurve; infer_instance

/-- The coordinates of a projective point; nothing for infinity. -/
def ofJacobian? (a : Jacobian) : Option Point :=
  if a.z = 0 then none else
  let w := inverseMod fieldPrime a.z
  let ww := w * w % fieldPrime
  some ⟨a.x * ww % fieldPrime, a.y * ww * w % fieldPrime⟩

/-- The point with a given abscissa whose ordinate has the given parity. -/
def lift? (x : Nat) (odd : Bool) : Option Point :=
  let square := (x * x * x + 7) % fieldPrime
  let root := powMod fieldPrime square ((fieldPrime + 1) / 4)
  let y := if (root % 2 == 1) == odd then root else fieldPrime - root
  let point : Point := ⟨x, y⟩
  if point.OnCurve then some point else none

/-- A parity mark and the abscissa. -/
def compressed (a : Point) : Bytes :=
  (if a.y % 2 = 1 then 3 else 2) :: beBytes 32 a.x

/-- The mark of a full point and both coordinates. -/
def uncompressed (a : Point) : Bytes :=
  4 :: beBytes 32 a.x ++ beBytes 32 a.y

/-- Reads thirty-three bytes with mark 2 or 3, or sixty-five with mark 4, or
with mark 6 or 7, which repeats the parity of the ordinate. -/
def decode? (bytes : Bytes) : Option Point :=
  match bytes with
  | [] => none
  | mark :: rest =>
    if rest.length = 32 ∧ (mark = 2 ∨ mark = 3) then
      lift? (beValue rest) (mark == 3)
    else if rest.length = 64 ∧ (mark = 4 ∨ mark = 6 ∨ mark = 7) then
      let point : Point := ⟨beValue (rest.take 32), beValue (rest.drop 32)⟩
      if point.OnCurve ∧ (mark = 4 ∨ (mark == 7) = (point.y % 2 == 1)) then some point else none
    else none

end Point

/-- A secret key: a nonzero number below the group order. -/
structure SecretKey where
  value : Nat
  positive : 0 < value
  lt_order : value < groupOrder
  deriving DecidableEq

namespace SecretKey

/-- Thirty-two bytes that spell a number in range. -/
def ofBytes? (bytes : Bytes) : Option SecretKey :=
  if bytes.length = 32 then
    if inRange : 0 < beValue bytes ∧ beValue bytes < groupOrder then
      some ⟨beValue bytes, inRange.1, inRange.2⟩
    else none
  else none

def toBytes (key : SecretKey) : Bytes :=
  beBytes 32 key.value

/-- The multiple of the generator that verifies this key's signatures. -/
def publicKey (key : SecretKey) : Point :=
  (Point.ofJacobian? (Jacobian.mul key.value Point.generator.toJacobian)).getD Point.generator

end SecretKey

end ClaimLedger.Secp256k1
