import ClaimLedger.Output.Signing
import ClaimLedger.Script.Push

/-! Transaction inputs. An input names the output it spends and may carry a copy
of it, without which its amount is not known. Its script slot holds a script,
or arbitrary bytes when the input is a coinbase and spends nothing. -/
namespace ClaimLedger

/-- A reference to an output, with a copy of the output where it is resolved. -/
structure OutputRef where
  place : Attachment
  output : Option Output
  deriving DecidableEq

namespace OutputRef

/-- A reference by name alone. -/
def unresolved (place : Attachment) : OutputRef := ⟨place, none⟩

/-- A reference to an output of a transaction, with a copy of it. -/
def resolved (output : Output) : Except Error OutputRef :=
  match output.place with
  | some place => .ok ⟨place, some output⟩
  | none => .error (.unresolvedReference .detachedOutput)

def isNull (ref : OutputRef) : Bool := ref.place.owner.isNull

def outpoint (ref : OutputRef) : Outpoint := ref.place.outpoint

end OutputRef

/-- What the script slot of an input holds. -/
inductive InputSource where
  | script (script : InputScript)
  | coinbase (bytes : Bytes)
  deriving DecidableEq

/-- The bytes in the slot. -/
def InputSource.bytes : InputSource → Bytes
  | .script redeem => redeem.source
  | .coinbase slot => slot

structure Input where
  spends : OutputRef
  source : InputSource
  sequence : UInt32
  /-- Where the input stands, once it belongs to a transaction. -/
  place : Option Attachment
  deriving DecidableEq

namespace Input

/-- The sequence number of inputs that need none. -/
def finalSequence : UInt32 := 0xFFFFFFFF

/-- The length of the longest signature with its mark. -/
def placeholderSignature : Bytes := List.replicate 72 0

/-- The length of a compressed key. -/
def placeholderPubKey : Bytes := List.replicate 33 0

/-- What coinbase inputs made here carry. -/
def placeholderCoinbase : Bytes := [0x62, 0x65, 0x65, 0x66]

/-- An input is a coinbase exactly when it names no transaction. -/
def ofBytes (spends : OutputRef) (slot : Bytes) (sequence : UInt32) : Input :=
  ⟨spends, if spends.isNull then .coinbase slot else .script (InputScript.parse slot),
    sequence, none⟩

/-- Spends a payment to the hash of a key. Until it is signed, the slot holds
zeros of the final size, so that sizes and fees are already right. -/
def spend (output : Output) : Except Error Input := do
  if output.script.isPayPubKeyHash then
    let script ← InputScript.redeemPubKeyHash placeholderSignature placeholderPubKey
    let spends ← OutputRef.resolved output
    return ⟨spends, .script script, finalSequence, none⟩
  else throw (.unsupportedOutput .notSpendable)

def coinbase : Input :=
  ofBytes (.unresolved ⟨⟨FixedBytes.zeros 32, 0⟩, 0⟩) placeholderCoinbase finalSequence

def isCoinbase (input : Input) : Bool :=
  match input.source with
  | .coinbase _ => true
  | .script _ => false

/-- The input standing at a place. -/
def attach (input : Input) (place : Attachment) : Input :=
  { input with place := some place }

/-- The amount of the output spent. -/
def amount (input : Input) : Except Error UInt64 :=
  match input.spends.output with
  | some output => .ok output.amount
  | none => .error (.unresolvedReference (.spentAmount input.spends.outpoint))

/-- Whether the output spent is ours; unresolved outputs are not. -/
def isMyInput (input : Input) : Option Bool :=
  match input.spends.output with
  | some output => output.annotations.isMyOutput
  | none => some false

/-- The input on the wire with other bytes in its script slot. -/
def writeWith (input : Input) (slot : Bytes) : Bytes :=
  input.spends.outpoint.wire.toList ++ lengthPrefixed slot ++ leBytes 4 input.sequence.toNat

def write (input : Input) : Bytes :=
  input.writeWith input.source.bytes

/-- Reads an input. The transaction it spends is seen at no known height. -/
def read : Reader Input := do
  let txid ← Reader.fixed 32
  let position ← Reader.u32
  let slot ← Reader.string
  let sequence ← Reader.u32
  return ofBytes (.unresolved ⟨⟨txid, -1⟩, position⟩) slot sequence

def size (input : Input) : Nat :=
  input.write.length

/-- The fee for the bytes of the input. -/
def fee (input : Input) (ledger : Ledger) : Nat :=
  input.size * ledger.feePerByte.toNat

end Input

end ClaimLedger
