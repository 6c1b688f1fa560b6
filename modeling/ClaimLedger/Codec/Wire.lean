import ClaimLedger.Error

/-! Writing and reading byte strings from front to back. -/
namespace ClaimLedger

/-! ## Writing

A compact size takes one byte below 253 and otherwise a marker byte with two, four or eight bytes,
whichever is shortest; a string is its length as a compact size and its bytes. -/

/-- The shortest compact size of a number below `2 ^ 64`. -/
def compactSize (n : Nat) : Bytes :=
  if n < 0xFD then [UInt8.ofNat n]
  else if n ≤ 0xFFFF then 0xFD :: leBytes 2 n
  else if n ≤ 0xFFFFFFFF then 0xFE :: leBytes 4 n
  else 0xFF :: leBytes 8 n

/-- How many bytes `compactSize` takes. -/
def compactSizeLength (n : Nat) : Nat :=
  if n < 0xFD then 1 else if n ≤ 0xFFFF then 3 else if n ≤ 0xFFFFFFFF then 5 else 9

/-- A byte string behind its length. -/
def lengthPrefixed (bytes : Bytes) : Bytes :=
  compactSize bytes.length ++ bytes

theorem length_compactSize (n : Nat) : (compactSize n).length = compactSizeLength n := by
  unfold compactSize compactSizeLength
  split
  · rfl
  · split
    · simp
    · split <;> simp

theorem length_lengthPrefixed (bytes : Bytes) :
    (lengthPrefixed bytes).length = compactSizeLength bytes.length + bytes.length := by
  simp [lengthPrefixed, length_compactSize]

/-! ## Reading

The cursor splits the bytes into those already passed and those still to come, so it cannot leave
them; a reader that fails says why and keeps the cursor where it stopped, and reading can go on
from there. A single read that asks for too much passes nothing; a compound one keeps the parts it
already read. -/

/-- A place in a byte string: the bytes before it, last one first, and the bytes
after it. -/
structure Cursor where
  passed : Bytes
  rest : Bytes
  deriving DecidableEq

namespace Cursor

/-- The place before the first byte. -/
def start (bytes : Bytes) : Cursor := ⟨[], bytes⟩

/-- The whole byte string. -/
def data (c : Cursor) : Bytes := c.passed.reverse ++ c.rest

def tell (c : Cursor) : Nat := c.passed.length

def remaining (c : Cursor) : Nat := c.rest.length

/-- The bytes between a position and the cursor; none for positions after it. -/
def consumedSince (c : Cursor) (start : Nat) : Bytes :=
  (c.passed.take (c.tell - start)).reverse

end Cursor

/-- A reader: it moves the cursor also when it fails. -/
abbrev Reader := EStateM Error Cursor

namespace Reader

/-- The next `n` bytes. -/
def take (n : Nat) : Reader Bytes := fun c =>
  match c.rest.splitAt n with
  | (front, rest) =>
    if front.length = n then .ok front ⟨front.reverseAux c.passed, rest⟩
    else .error (.malformed (.shortRead n c.tell c.remaining)) c

/-- The next `n` bytes as a string of that length. -/
def fixed (n : Nat) : Reader (FixedBytes n) :=
  return FixedBytes.ofPadded n (← take n)

/-- The number spelled by the next `width` bytes, least significant first. -/
def number (width : Nat) : Reader Nat :=
  return leValue (← take width)

def u8 : Reader UInt8 := return UInt8.ofNat (← number 1)

def u16 : Reader UInt16 := return UInt16.ofNat (← number 2)

def u32 : Reader UInt32 := return UInt32.ofNat (← number 4)

def u64 : Reader UInt64 := return UInt64.ofNat (← number 8)

/-- A compact size: a small number in one byte, or a marker that says how many
bytes the number takes. The shortest form is not required. -/
def compactSize : Reader Nat := do
  let first ← u8
  if first = 0xFD then number 2
  else if first = 0xFE then number 4
  else if first = 0xFF then number 8
  else return first.toNat

/-- A compact size and as many bytes. The length is checked against what is left
before anything is read. -/
def string : Reader Bytes := do
  let length ← compactSize
  let c ← get
  if length ≤ c.remaining then take length
  else throw (.malformed (.lengthOverrun length c.remaining))

/-- The same reader `count` times. -/
def replicate {α : Type} (reader : Reader α) : (count : Nat) → Reader (List α)
  | 0 => return []
  | count + 1 => do
    let first ← reader
    let rest ← replicate reader count
    return first :: rest

/-- Runs a reader from the start of a byte string. -/
def run {α : Type} (reader : Reader α) (bytes : Bytes) : Except Error (α × Cursor) :=
  match reader (Cursor.start bytes) with
  | .ok value c => .ok (value, c)
  | .error cause _ => .error cause

end Reader

end ClaimLedger
