import ClaimLedger.Bytes.Basic

/-! Reading byte strings as UTF-8 text. Beside the decoder stands a scanner that
finds the first place where a byte string stops being text: surrogates,
overlong forms and code points past the last plane are refused at their second
byte, and a sequence that the end of the input cuts off is told apart from one
that a wrong byte breaks. -/
namespace ClaimLedger.Utf8

/-- Where a byte string stops being text. `validUpTo` counts the bytes before
the broken sequence, `broken` the bytes that were a valid beginning of it; it
is missing when the input ends inside the sequence. -/
structure Fault where
  validUpTo : Nat
  broken : Option Nat
  deriving DecidableEq

/-- What the beginning of a nonempty byte string holds. -/
inductive Piece where
  | char (length : Nat)
  | broken (length : Nat)
  | incomplete
  deriving DecidableEq

def isContinuation (byte : UInt8) : Bool :=
  0x80 ≤ byte && byte ≤ 0xBF

/-- The second bytes that may follow `first` in a sequence of three or four:
the others spell surrogates, overlong forms or values past the last plane. -/
def isSecond (first second : UInt8) : Bool :=
  if first == 0xE0 then 0xA0 ≤ second && second ≤ 0xBF
  else if first == 0xED then 0x80 ≤ second && second ≤ 0x9F
  else if first == 0xF0 then 0x90 ≤ second && second ≤ 0xBF
  else if first == 0xF4 then 0x80 ≤ second && second ≤ 0x8F
  else isContinuation second

/-- The number of bytes in the sequence that `first` opens, if it opens one. -/
def width? (first : UInt8) : Option Nat :=
  if first < 0x80 then some 1
  else if 0xC2 ≤ first ∧ first ≤ 0xDF then some 2
  else if 0xE0 ≤ first ∧ first ≤ 0xEF then some 3
  else if 0xF0 ≤ first ∧ first ≤ 0xF4 then some 4
  else none

/-- Classifies the sequence at the front of `first :: rest`. -/
def piece (first : UInt8) (rest : Bytes) : Piece :=
  match width? first, rest with
  | none, _ => .broken 1
  | some 1, _ => .char 1
  | some _, [] => .incomplete
  | some 2, second :: _ => if isContinuation second then .char 2 else .broken 1
  | some width, second :: rest =>
    if !isSecond first second then .broken 1
    else match rest with
      | [] => .incomplete
      | third :: rest =>
        if !isContinuation third then .broken 2
        else if width = 3 then .char 3
        else match rest with
          | [] => .incomplete
          | fourth :: _ => if isContinuation fourth then .char 4 else .broken 3

/-- The first fault, with `offset` bytes read before. `fuel` is the length of
the bytes: every sequence has at least one. -/
def faultFrom : (fuel : Nat) → (offset : Nat) → Bytes → Option Fault
  | 0, _, _ => none
  | _ + 1, _, [] => none
  | fuel + 1, offset, first :: rest =>
    match piece first rest with
    | .char length => faultFrom fuel (offset + length) (rest.drop (length - 1))
    | .broken length => some ⟨offset, some length⟩
    | .incomplete => some ⟨offset, none⟩

/-- The first fault of a byte string, if it is not text. -/
def fault? (bytes : Bytes) : Option Fault :=
  faultFrom bytes.length 0 bytes

/-- The text that the bytes spell, or the place where they stop being text. -/
def decode (bytes : Bytes) : Except Fault String :=
  match String.fromUTF8? ⟨bytes.toArray⟩ with
  | some text => .ok text
  | none => .error ((fault? bytes).getD ⟨0, none⟩)

def encode (text : String) : Bytes :=
  text.toByteArray.data.toList

/-- The replacement character, in bytes. -/
def replacement : Bytes := [0xEF, 0xBF, 0xBD]

/-- The bytes with one replacement character in place of every maximal broken
sequence. -/
def mend : (fuel : Nat) → Bytes → Bytes
  | 0, _ => []
  | _ + 1, [] => []
  | fuel + 1, first :: rest =>
    match piece first rest with
    | .char length => first :: rest.take (length - 1) ++ mend fuel (rest.drop (length - 1))
    | .broken length => replacement ++ mend fuel (rest.drop (length - 1))
    | .incomplete => replacement

/-- The text nearest to the bytes: what is broken is shown as U+FFFD. -/
def decodeLossy (bytes : Bytes) : String :=
  (String.fromUTF8? ⟨(mend bytes.length bytes).toArray⟩).getD ""

end ClaimLedger.Utf8
