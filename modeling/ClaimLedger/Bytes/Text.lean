import ClaimLedger.Bytes.Basic

/-! Bytes as text, in hexadecimal and in base 58. -/

/-! ## Hexadecimal

Bytes are written as two lower-case digits each; reading takes digits of either case. A text of odd
length is refused before its digits are looked at; otherwise the first byte that is no digit is
reported with its index, counted in bytes of the text. -/
namespace ClaimLedger.Hex

/-- Why a text is no hexadecimal byte string. -/
inductive Fault where
  | oddLength
  | invalidDigit (byte : UInt8) (index : Nat)
  deriving DecidableEq

/-- The lower-case digit of a number below sixteen. -/
def digit (value : Nat) : Char :=
  if value < 10 then Char.ofNat (48 + value) else Char.ofNat (87 + value)

/-- Digits, lower-case and upper-case letters up to `f`. -/
def digitValue? (byte : UInt8) : Option Nat :=
  if 48 ≤ byte ∧ byte ≤ 57 then some (byte.toNat - 48)
  else if 97 ≤ byte ∧ byte ≤ 102 then some (byte.toNat - 87)
  else if 65 ≤ byte ∧ byte ≤ 70 then some (byte.toNat - 55)
  else none

def encodeChars (bytes : Bytes) : List Char :=
  bytes.flatMap fun byte => [digit (byte.toNat / 16), digit (byte.toNat % 16)]

def encode (bytes : Bytes) : String :=
  String.ofList (encodeChars bytes)

/-- The byte value of each pair of digits; anything that is no digit counts as
zero, which `decodeBytes` rules out beforehand. -/
def joinPairs : Bytes → Bytes
  | high :: low :: rest =>
    UInt8.ofNat (16 * (digitValue? high).getD 0 + (digitValue? low).getD 0) :: joinPairs rest
  | _ => []

/-- Reads hexadecimal text given as the bytes of its encoding. -/
def decodeBytes (text : Bytes) : Except Fault Bytes :=
  if text.length % 2 = 1 then .error .oddLength
  else match text.findIdx? fun byte => (digitValue? byte).isNone with
    | some index => .error (.invalidDigit (text.getD index 0) index)
    | none => .ok (joinPairs text)

def decode (text : String) : Except Fault Bytes :=
  decodeBytes text.toByteArray.data.toList

theorem length_joinPairs (text : Bytes) : (joinPairs text).length = text.length / 2 := by
  fun_induction joinPairs text with
  | case1 high low rest ih => simp only [List.length_cons, ih]; omega
  | case2 text short =>
    match text, short with
    | [], _ => rfl
    | [_], _ => simp
    | high :: low :: rest, short => exact absurd rfl (short high low rest)

end ClaimLedger.Hex

/-! ## Base 58

A byte string is read as one big-endian number and written with fifty-eight digits; the leading
zero bytes, which the number does not remember, become leading `1` digits one for one. -/
namespace ClaimLedger.Base58

/-- The digits in order of value. The characters that look alike (`0`, `O`,
`I`, `l`) are left out. -/
def alphabet : List Char :=
  "123456789ABCDEFGHJKLMNPQRSTUVWXYZabcdefghijkmnopqrstuvwxyz".toList

def digitValue? (digit : Char) : Option Nat :=
  alphabet.idxOf? digit

/-- Digit values of a number, most significant first, on top of `lower`.
`fuel` bounds their count. -/
def digitValues : (fuel : Nat) → (n : Nat) → (lower : List Nat) → List Nat
  | 0, _, lower => lower
  | fuel + 1, n, lower =>
    if n = 0 then lower else digitValues fuel (n / 58) (n % 58 :: lower)

/-- The bytes of a number without leading zeros, on top of `lower`. -/
def byteValues : (fuel : Nat) → (n : Nat) → (lower : Bytes) → Bytes
  | 0, _, lower => lower
  | fuel + 1, n, lower =>
    if n = 0 then lower else byteValues fuel (n / 256) (UInt8.ofNat n :: lower)

/-- Two digits hold more than one byte, so twice as many digits as bytes are
always enough. -/
def encode (bytes : Bytes) : List Char :=
  let zeros := (bytes.takeWhile (· == 0)).length
  let values := digitValues (2 * bytes.length) (beValue bytes) []
  List.replicate zeros '1' ++ values.map fun value => alphabet.getD value '1'

/-- The first character that is no digit, or the bytes. -/
def decode (text : List Char) : Except Char Bytes :=
  match text.find? fun digit => (digitValue? digit).isNone with
  | some stranger => .error stranger
  | none =>
    let zeros := (text.takeWhile (· == '1')).length
    let value := text.foldl (fun n digit => 58 * n + (digitValue? digit).getD 0) 0
    .ok (List.replicate zeros 0 ++ byteValues text.length value [])

end ClaimLedger.Base58
