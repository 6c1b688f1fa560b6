/-! Byte strings, byte strings of a fixed length, and numbers as bytes. Everything that travels on
the wire is a list of bytes; identities (transaction hashes, claim hashes, key hashes) are byte
strings whose length is part of their type, so that no later definition has to check it again. -/
namespace ClaimLedger

/-- A byte string, first byte first. -/
abbrev Bytes := List UInt8

/-- A byte string of exactly `n` bytes. -/
structure FixedBytes (n : Nat) where
  toList : Bytes
  length_toList : toList.length = n
  deriving DecidableEq

namespace FixedBytes

@[ext] theorem ext {n : Nat} {a b : FixedBytes n} (same : a.toList = b.toList) : a = b := by
  cases a; cases b; cases same; rfl

/-- The bytes as a fixed-length string, if there are exactly `n` of them. -/
def ofList? (n : Nat) (bytes : Bytes) : Option (FixedBytes n) :=
  if exact : bytes.length = n then some ⟨bytes, exact⟩ else none

/-- The first `n` bytes, filled up with zeros where there are fewer. -/
def ofPadded (n : Nat) (bytes : Bytes) : FixedBytes n :=
  ⟨(bytes ++ List.replicate n 0).take n, by simp⟩

/-- `n` zero bytes. -/
def zeros (n : Nat) : FixedBytes n :=
  ⟨List.replicate n 0, List.length_replicate⟩

/-- The same bytes, last one first: displayed identities are reversed. -/
def reverse {n : Nat} (bytes : FixedBytes n) : FixedBytes n :=
  ⟨bytes.toList.reverse, by rw [List.length_reverse, bytes.length_toList]⟩

theorem ofList?_toList {n : Nat} (bytes : FixedBytes n) : ofList? n bytes.toList = some bytes := by
  simp [ofList?, bytes.length_toList]

theorem ofList?_eq_some_iff {n : Nat} {bytes : Bytes} {fixed : FixedBytes n} :
    ofList? n bytes = some fixed ↔ fixed.toList = bytes := by
  constructor
  · intro found
    unfold ofList? at found
    split at found
    · cases found; rfl
    · cases found
  · rintro rfl; exact ofList?_toList fixed

theorem ofPadded_toList {n : Nat} (bytes : FixedBytes n) : ofPadded n bytes.toList = bytes := by
  apply ext
  have exact := bytes.length_toList
  simp [ofPadded, ← exact]

theorem reverse_reverse {n : Nat} (bytes : FixedBytes n) : bytes.reverse.reverse = bytes := by
  apply ext; simp [reverse]

instance {n : Nat} : Inhabited (FixedBytes n) := ⟨zeros n⟩

end FixedBytes

/-- A 32-byte hash: transaction ids and signature digests. -/
abbrev Hash256 := FixedBytes 32

/-- A 20-byte hash: keys, scripts and claims. -/
abbrev Hash160 := FixedBytes 20

/-- Equality of byte strings by folding the differences of all positions into
one byte, so that the work depends on the lengths alone. -/
def constantTimeEq (a b : Bytes) : Bool :=
  a.length == b.length && (a.zipWith (· ^^^ ·) b).foldl (· ||| ·) 0 == 0

/-! ## Numbers

One pair of functions serves every fixed width: the low `width` bytes of a number, least
significant first, and the number such bytes spell. The two undo each other on numbers that fit and
on strings of the right length; big-endian forms are the reversed strings. -/

/-- The low `width` bytes of `n`, least significant first. -/
def leBytes : (width : Nat) → (n : Nat) → Bytes
  | 0, _ => []
  | width + 1, n => UInt8.ofNat n :: leBytes width (n / 256)

/-- The number spelled by bytes, least significant first. -/
def leValue : Bytes → Nat
  | [] => 0
  | byte :: rest => byte.toNat + 256 * leValue rest

/-- The low `width` bytes of `n`, most significant first. -/
def beBytes (width n : Nat) : Bytes :=
  (leBytes width n).reverse

/-- The number spelled by bytes, most significant first. -/
def beValue (bytes : Bytes) : Nat :=
  leValue bytes.reverse

@[simp] theorem length_leBytes (width n : Nat) : (leBytes width n).length = width := by
  induction width generalizing n with
  | zero => rfl
  | succ width ih => simp [leBytes, ih]

@[simp] theorem length_beBytes (width n : Nat) : (beBytes width n).length = width := by
  simp [beBytes]

theorem leBytes_leValue (bytes : Bytes) : leBytes bytes.length (leValue bytes) = bytes := by
  induction bytes with
  | nil => rfl
  | cons byte rest ih =>
    have small := byte.toNat_lt
    have quotient : (byte.toNat + 256 * leValue rest) / 256 = leValue rest := by omega
    simp only [List.length_cons, leBytes, leValue, quotient, ih, List.cons.injEq, and_true]
    apply UInt8.toNat_inj.mp
    rw [UInt8.toNat_ofNat']
    omega

end ClaimLedger
