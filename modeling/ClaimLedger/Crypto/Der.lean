import ClaimLedger.Crypto.Ecdsa

/-! Strict DER for signatures and public keys. A signature is a sequence of two
integers. Lengths must be written in their shortest form and cover the input
exactly; integers must have no superfluous leading byte. An integer that is
negative or not below the group order is read as zero, which no verification
accepts. A public key is one of two fixed headers and an encoded point. -/
namespace ClaimLedger.Der

open Secp256k1

/-- A length and what follows it. The long form is refused where the short one
would do, with leading zeros, or when it reaches past the input. -/
def readLength? : Bytes → Option (Nat × Bytes)
  | [] => none
  | first :: rest =>
    if first < 0x80 then some (first.toNat, rest)
    else
      let width := first.toNat - 0x80
      if first = 0xFF ∨ width = 0 ∨ rest.length < width ∨ 8 < width ∨ rest.head? = some 0 then none
      else
        let length := beValue (rest.take width)
        let rest := rest.drop width
        if rest.length < length ∨ length < 128 then none else some (length, rest)

/-- Whether the first byte of an integer repeats the sign of the second. -/
def padded : Bytes → Bool
  | first :: second :: _ => (first == 0 && second < 0x80) || (first == 0xFF && 0x80 ≤ second)
  | _ => false

/-- The value of an integer's bytes: zero when negative or out of range. -/
def scalarOfContent (content : Bytes) : Nat :=
  let value := beValue content
  if 0x80 ≤ content.headD 0 ∨ groupOrder ≤ value then 0 else value

/-- One integer and what follows it. -/
def readInteger? : Bytes → Option (Nat × Bytes)
  | 0x02 :: rest =>
    match readLength? rest with
    | none => none
    | some (length, rest) =>
      let content := rest.take length
      if length = 0 ∨ rest.length < length ∨ padded content then none
      else some (scalarOfContent content, rest.drop length)
  | _ => none

/-- The signature whose strict encoding the bytes are. -/
def readSignature? : Bytes → Option Ecdsa.Signature
  | 0x30 :: rest =>
    match readLength? rest with
    | none => none
    | some (length, body) =>
      if body.length ≠ length then none
      else match readInteger? body with
        | none => none
        | some (r, rest) =>
          match readInteger? rest with
          | some (s, []) => some ⟨r, s⟩
          | _ => none
  | _ => none

/-- The shortest bytes of a nonnegative integer, with a zero in front where the
first bit is set. -/
def integerContent (n : Nat) : Bytes :=
  let significant := (beBytes 32 n).dropWhile (· == 0)
  match significant with
  | [] => [0]
  | first :: _ => if 0x80 ≤ first then 0 :: significant else significant

def writeInteger (n : Nat) : Bytes :=
  let content := integerContent n
  0x02 :: UInt8.ofNat content.length :: content

/-- The strict encoding of a signature. -/
def writeSignature (signature : Ecdsa.Signature) : Bytes :=
  let body := writeInteger signature.r ++ writeInteger signature.s
  0x30 :: UInt8.ofNat body.length :: body

/-- Header of a key published as a full point: the algorithm, the curve, and a
bit string of sixty-six bytes. -/
def uncompressedHeader : Bytes :=
  [0x30, 0x56, 0x30, 0x10, 0x06, 0x07, 0x2a, 0x86, 0x48, 0xce, 0x3d, 0x02, 0x01, 0x06, 0x05,
   0x2b, 0x81, 0x04, 0x00, 0x0a, 0x03, 0x42, 0x00]

/-- Header of a key published by abscissa and parity: the same with a bit string
of thirty-four bytes. -/
def compressedHeader : Bytes :=
  [0x30, 0x36, 0x30, 0x10, 0x06, 0x07, 0x2a, 0x86, 0x48, 0xce, 0x3d, 0x02, 0x01, 0x06, 0x05,
   0x2b, 0x81, 0x04, 0x00, 0x0a, 0x03, 0x22, 0x00]

/-- Public keys are published as full points. -/
def writePublicKey (point : Point) : Bytes :=
  uncompressedHeader ++ point.uncompressed

/-- What follows one of the two headers. The point after it may have either
form whichever header stands before it. -/
def publicKeyContent? (bytes : Bytes) : Option Bytes :=
  if uncompressedHeader.isPrefixOf bytes || compressedHeader.isPrefixOf bytes then
    some (bytes.drop 23)
  else none

end ClaimLedger.Der
