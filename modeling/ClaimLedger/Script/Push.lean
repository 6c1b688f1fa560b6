import ClaimLedger.Error

/-! Data pushes, and input scripts. The only kind of input script told apart redeems a payment to
the hash of a key: it pushes a signature and the key, and nothing else. -/

/-! ## Pushes

A push is a length and the bytes it pushes; lengths up to 75 are an opcode of their own, longer
ones follow an opcode in one, two or four bytes. Reading accepts every length behind every opcode,
writing takes the shortest. -/
namespace ClaimLedger.Script

/-- The first `length` bytes and what follows them. -/
def splitExactly? (length : Nat) (bytes : Bytes) : Option (Bytes × Bytes) :=
  match bytes.splitAt length with
  | (front, rest) => if front.length = length then some (front, rest) else none

/-- A push whose length takes `width` bytes. -/
def readLongPush? (width : Nat) (bytes : Bytes) : Option (Bytes × Bytes) :=
  match splitExactly? width bytes with
  | none => none
  | some (length, rest) => splitExactly? (leValue length) rest

/-- The data pushed at the front of a script and the rest of the script. There
is none at the end of a script, before any other opcode, and when the script
ends before the data does. -/
def readPush? : Bytes → Option (Bytes × Bytes)
  | [] => none
  | opcode :: rest =>
    if opcode ≤ 0x4b then splitExactly? opcode.toNat rest
    else if opcode = 0x4c then readLongPush? 1 rest
    else if opcode = 0x4d then readLongPush? 2 rest
    else if opcode = 0x4e then readLongPush? 4 rest
    else none

/-- Pushes of this many bytes cannot be written. -/
def pushLimit : Nat := 0x100000000

/-- The shortest push of some data. -/
def pushOf (data : Bytes) : Bytes :=
  if data.length ≤ 0x4b then UInt8.ofNat data.length :: data
  else if data.length < 0x100 then 0x4c :: leBytes 1 data.length ++ data
  else if data.length < 0x10000 then 0x4d :: leBytes 2 data.length ++ data
  else 0x4e :: leBytes 4 data.length ++ data

/-- The shortest push of some data that is not too large for one. -/
def writePush (data : Bytes) : Except Error Bytes :=
  if data.length < pushLimit then .ok (pushOf data)
  else .error (.malformed (.pushTooLarge data.length))

end ClaimLedger.Script

/-! ## Input scripts -/
namespace ClaimLedger

inductive InputTemplate where
  | redeemPubKeyHash (signature pubKey : Bytes)
  | other
  deriving DecidableEq

/-- A script and its template. -/
structure InputScript where
  source : Bytes
  template : InputTemplate
  deriving DecidableEq

namespace InputScript

/-- The two data of a script that is two pushes. -/
def readTwoPushes? (source : Bytes) : Option (Bytes × Bytes) :=
  match Script.readPush? source with
  | none => none
  | some (first, rest) =>
    match Script.readPush? rest with
    | some (second, []) => some (first, second)
    | _ => none

def parse (source : Bytes) : InputScript :=
  match readTwoPushes? source with
  | some (signature, pubKey) => ⟨source, .redeemPubKeyHash signature pubKey⟩
  | none => ⟨source, .other⟩

/-- The script that redeems with a signature and a key. -/
def redeemPubKeyHash (signature pubKey : Bytes) : Except Error InputScript := do
  let first ← Script.writePush signature
  let second ← Script.writePush pubKey
  return ⟨first ++ second, .redeemPubKeyHash signature pubKey⟩

def isRedeem (script : InputScript) : Bool :=
  match script.template with
  | .redeemPubKeyHash .. => true
  | .other => false

end InputScript

end ClaimLedger
