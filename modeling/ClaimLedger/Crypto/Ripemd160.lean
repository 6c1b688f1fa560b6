import ClaimLedger.Bytes.Basic
import ClaimLedger.Crypto.Sha256

/-! RIPEMD-160, and the twenty-byte hash of keys, scripts and claims built from
it. Two lines of eighty steps run over the same block with different word
orders, rotations and constants; their results are added crosswise. -/
namespace ClaimLedger

namespace Ripemd160

/-- The five chaining words. -/
structure State where
  a : UInt32
  b : UInt32
  c : UInt32
  d : UInt32
  e : UInt32

def initial : State :=
  ⟨0x67452301, 0xefcdab89, 0x98badcfe, 0x10325476, 0xc3d2e1f0⟩

/-- Word order of the left line. -/
def leftOrder : List Nat :=
  [0, 1, 2, 3, 4, 5, 6, 7, 8, 9, 10, 11, 12, 13, 14, 15,
   7, 4, 13, 1, 10, 6, 15, 3, 12, 0, 9, 5, 2, 14, 11, 8,
   3, 10, 14, 4, 9, 15, 8, 1, 2, 7, 0, 6, 13, 11, 5, 12,
   1, 9, 11, 10, 0, 8, 12, 4, 13, 3, 7, 15, 14, 5, 6, 2,
   4, 0, 5, 9, 7, 12, 2, 10, 14, 1, 3, 8, 11, 6, 15, 13]

/-- Word order of the right line. -/
def rightOrder : List Nat :=
  [5, 14, 7, 0, 9, 2, 11, 4, 13, 6, 15, 8, 1, 10, 3, 12,
   6, 11, 3, 7, 0, 13, 5, 10, 14, 15, 8, 12, 4, 9, 1, 2,
   15, 5, 1, 3, 7, 14, 6, 9, 11, 8, 12, 2, 10, 0, 4, 13,
   8, 6, 4, 1, 3, 11, 15, 0, 5, 12, 2, 13, 9, 7, 10, 14,
   12, 15, 10, 4, 1, 5, 8, 7, 6, 2, 13, 14, 0, 3, 9, 11]

def leftRotations : List UInt32 :=
  [11, 14, 15, 12, 5, 8, 7, 9, 11, 13, 14, 15, 6, 7, 9, 8,
   7, 6, 8, 13, 11, 9, 7, 15, 7, 12, 15, 9, 11, 7, 13, 12,
   11, 13, 6, 7, 14, 9, 13, 15, 14, 8, 13, 6, 5, 12, 7, 5,
   11, 12, 14, 15, 14, 15, 9, 8, 9, 14, 5, 6, 8, 6, 5, 12,
   9, 15, 5, 11, 6, 8, 13, 12, 5, 12, 13, 14, 11, 8, 5, 6]

def rightRotations : List UInt32 :=
  [8, 9, 9, 11, 13, 15, 15, 5, 7, 7, 8, 11, 14, 14, 12, 6,
   9, 13, 15, 7, 12, 8, 9, 11, 7, 7, 12, 7, 6, 15, 13, 11,
   9, 7, 15, 11, 8, 6, 6, 14, 12, 13, 5, 14, 13, 13, 7, 5,
   15, 5, 8, 11, 14, 14, 6, 14, 6, 9, 12, 9, 12, 5, 15, 8,
   8, 5, 12, 9, 12, 5, 14, 6, 8, 13, 6, 5, 15, 13, 11, 11]

def leftConstants : List UInt32 :=
  [0x00000000, 0x5a827999, 0x6ed9eba1, 0x8f1bbcdc, 0xa953fd4e]

def rightConstants : List UInt32 :=
  [0x50a28be6, 0x5c4dd124, 0x6d703ef3, 0x7a6d76e9, 0x00000000]

/-- The bitwise function of a group of sixteen steps. -/
def mix (group : Nat) (x y z : UInt32) : UInt32 :=
  match group with
  | 0 => x ^^^ y ^^^ z
  | 1 => (x &&& y) ||| (~~~x &&& z)
  | 2 => (x ||| ~~~y) ^^^ z
  | 3 => (x &&& z) ||| (y &&& ~~~z)
  | _ => x ^^^ (y ||| ~~~z)

def rotateLeft (x n : UInt32) : UInt32 :=
  (x <<< n) ||| (x >>> (32 - n))

/-- One step: `added` is the message word plus the constant of the group. -/
def step (group : Nat) (s : State) (added rotation : UInt32) : State :=
  let t := rotateLeft (s.a + mix group s.b s.c s.d + added) rotation + s.e
  ⟨s.e, t, s.b, rotateLeft s.c 10, s.d⟩

/-- The eighty steps of one line; `groupOf` says which function a step uses. -/
def line (groupOf : Nat → Nat) (order : List Nat) (rotations constants : List UInt32)
    (block : Array UInt32) (s : State) : State :=
  ((order.zip rotations).foldl
    (fun (progress : Nat × State) plan =>
      let added := block.getD plan.1 0 + constants.getD (progress.1 / 16) 0
      (progress.1 + 1, step (groupOf (progress.1 / 16)) progress.2 added plan.2))
    (0, s)).2

/-- Folds a block of sixteen words into the chaining words. -/
def compress (s : State) (block : Array UInt32) : State :=
  let l := line id leftOrder leftRotations leftConstants block s
  let r := line (4 - ·) rightOrder rightRotations rightConstants block s
  ⟨s.b + l.c + r.d, s.c + l.d + r.e, s.d + l.e + r.a, s.e + l.a + r.b, s.a + l.b + r.c⟩

/-- Little-endian words of a string whose length is a multiple of four. -/
def wordsOf : Bytes → List UInt32
  | b0 :: b1 :: b2 :: b3 :: rest =>
    (b0.toUInt32 ||| (b1.toUInt32 <<< 8) ||| (b2.toUInt32 <<< 16) ||| (b3.toUInt32 <<< 24))
      :: wordsOf rest
  | _ => []

/-- The message, one bit, zeros up to eight bytes before a block boundary, and
the message length in bits, least significant byte first. -/
def pad (message : Bytes) : Bytes :=
  let zeros := (119 - message.length % 64) % 64
  message ++ 0x80 :: List.replicate zeros 0 ++ leBytes 8 (8 * message.length)

/-- Compresses `count` blocks in order. -/
def compressAll : (count : Nat) → State → List UInt32 → State
  | 0, s, _ => s
  | count + 1, s, words => compressAll count (compress s (words.take 16).toArray) (words.drop 16)

def State.toBytes (s : State) : Bytes :=
  [s.a, s.b, s.c, s.d, s.e].flatMap fun word => leBytes 4 word.toNat

theorem State.length_toBytes (s : State) : s.toBytes.length = 20 := by
  simp [State.toBytes]

end Ripemd160

/-- The RIPEMD-160 hash of a byte string. -/
def ripemd160 (message : Bytes) : Hash160 :=
  let words := Ripemd160.wordsOf (Ripemd160.pad message)
  let final := Ripemd160.compressAll (words.length / 16) Ripemd160.initial words
  ⟨final.toBytes, final.length_toBytes⟩

/-- RIPEMD-160 of SHA-256. -/
def hash160 (message : Bytes) : Hash160 :=
  ripemd160 (sha256 message).toList

end ClaimLedger
