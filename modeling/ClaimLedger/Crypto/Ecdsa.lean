import ClaimLedger.Crypto.Secp256k1
import ClaimLedger.Crypto.Sha256

/-! ECDSA signatures over secp256k1. A signature is a pair of numbers; its
fixed form is sixty-four bytes, its other form the strict DER of
`Crypto.Der`. Signing draws its nonce from the key and the digest, so that it
is a function, and returns the low one of the two equivalent second numbers;
verification accepts low ones only. -/

/-! ## Nonces

Keyed hashing with SHA-256, and the generator of deterministic nonces that RFC 6979 builds from
it. -/
namespace ClaimLedger

/-- The HMAC of a message with SHA-256. Keys longer than a block are hashed
first. -/
def hmacSha256 (key message : Bytes) : Bytes :=
  let short := if key.length ≤ 64 then key else (sha256 key).toList
  let padded := (short ++ List.replicate (64 - short.length) 0)
  let inner := sha256 (padded.map (· ^^^ 0x36) ++ message)
  (sha256 (padded.map (· ^^^ 0x5c) ++ inner.toList)).toList

/-- The state of the nonce generator: a key and the last output. -/
structure NonceState where
  key : Bytes
  value : Bytes

namespace NonceState

/-- The generator seeded with the secret key and the message hash. -/
def seed (material : Bytes) : NonceState :=
  let value := List.replicate 32 1
  let key := hmacSha256 (List.replicate 32 0) (value ++ 0 :: material)
  let value := hmacSha256 key value
  let key := hmacSha256 key (value ++ 1 :: material)
  ⟨key, hmacSha256 key value⟩

/-- The next thirty-two bytes: the value of the returned state. -/
def draw (state : NonceState) : NonceState :=
  ⟨state.key, hmacSha256 state.key state.value⟩

/-- The state after a drawn value was refused. -/
def refuse (state : NonceState) : NonceState :=
  let key := hmacSha256 state.key (state.value ++ [0])
  ⟨key, hmacSha256 key state.value⟩

end NonceState

end ClaimLedger

/-! ## Signatures -/
namespace ClaimLedger.Ecdsa

open Secp256k1

/-- A signature. Zero numbers can be written but never verify. -/
structure Signature where
  r : Nat
  s : Nat
  deriving DecidableEq

namespace Signature

/-- Two big-endian numbers, thirty-two bytes each. -/
def compact (signature : Signature) : FixedBytes 64 :=
  ⟨beBytes 32 signature.r ++ beBytes 32 signature.s, by simp⟩

/-- Reads the fixed form; each number must be below the group order. -/
def ofCompact? (bytes : Bytes) : Option Signature :=
  let r := beValue (bytes.take 32)
  let s := beValue (bytes.drop 32)
  if bytes.length = 64 ∧ r < groupOrder ∧ s < groupOrder then some ⟨r, s⟩ else none

/-- Of `s` and its negative, the one in the lower half. -/
def normalized (signature : Signature) : Signature :=
  if groupOrder / 2 < signature.s then ⟨signature.r, groupOrder - signature.s⟩ else signature

end Signature

/-- The number a digest stands for in the signature equation. -/
def scalarOfDigest (digest : Hash256) : Nat :=
  beValue digest.toList % groupOrder

/-- The signature with a given nonce, unless one of its numbers is zero. -/
def signWithNonce? (key : SecretKey) (digest : Hash256) (nonce : Nat) : Option Signature :=
  match Point.ofJacobian? (Jacobian.mul nonce Point.generator.toJacobian) with
  | none => none
  | some point =>
    let r := point.x % groupOrder
    let sum := scalarOfDigest digest + r * key.value
    let s := inverseMod groupOrder nonce * sum % groupOrder
    if r = 0 ∨ s = 0 then none else some (Signature.normalized ⟨r, s⟩)

/-- Draws nonces until one is in range and gives a signature. A draw is refused
with probability below `2 ^ -127`, so the bound on their number is never met. -/
def signFrom (key : SecretKey) (digest : Hash256) : (fuel : Nat) → NonceState → Signature
  | 0, _ => ⟨0, 0⟩
  | fuel + 1, state =>
    let state := state.draw
    let nonce := beValue state.value
    let attempt :=
      if 0 < nonce ∧ nonce < groupOrder then signWithNonce? key digest nonce else none
    match attempt with
    | some signature => signature
    | none => signFrom key digest fuel state.refuse

/-- Signs a digest. The nonce generator is seeded with the key and the number
the digest stands for. -/
def sign (key : SecretKey) (digest : Hash256) : Signature :=
  signFrom key digest 64 (NonceState.seed (key.toBytes ++ beBytes 32 (scalarOfDigest digest)))

/-- Whether the signature is low, has numbers in range, and satisfies the
signature equation for the digest and the public key. -/
def verify (key : Point) (digest : Hash256) (signature : Signature) : Bool :=
  let ⟨r, s⟩ := signature
  if r = 0 ∨ s = 0 ∨ groupOrder ≤ r ∨ groupOrder / 2 < s then false else
  let w := inverseMod groupOrder s
  let fromGenerator := Jacobian.mul (scalarOfDigest digest * w % groupOrder)
    Point.generator.toJacobian
  let fromKey := Jacobian.mul (r * w % groupOrder) key.toJacobian
  match Point.ofJacobian? (fromGenerator.add fromKey) with
  | none => false
  | some point => point.x % groupOrder == r

end ClaimLedger.Ecdsa
