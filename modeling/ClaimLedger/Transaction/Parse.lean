import ClaimLedger.Text.Characters
import ClaimLedger.Transaction.Basic

/-! Reading transactions from the wire. An input count of zero is a marker: a
flag byte and the real count follow it, and witness stacks come after the
outputs when the flag is not zero. A transaction with flag zero keeps the exact
bytes it was read from; any other gets its canonical form. -/
namespace ClaimLedger.Transaction

/-- The flag and the number of inputs. -/
def readInputCount : Reader (UInt8 × Nat) := do
  let count ← Reader.compactSize
  if count = 0 then
    let flag ← Reader.u8
    let count ← Reader.compactSize
    return (flag, count)
  else return (0, count)

/-- One witness stack: a count and as many items. -/
def readStack : Reader (List Bytes) := do
  let count ← Reader.compactSize
  Reader.replicate Reader.string count

/-- The items of all stacks, one stack for each input, when the flag asks for
them. -/
def readWitnesses (flag : UInt8) (inputs : Nat) : Reader (List Bytes) :=
  if flag = 0 then return []
  else return (← Reader.replicate readStack inputs).flatten

/-- The fields of a transaction that starts at position `start`. It has no
identity yet. -/
def readFields (start : Nat) : Reader Transaction := do
  let version ← Reader.u32
  let (flag, inputCount) ← readInputCount
  let inputs ← Reader.replicate Input.read inputCount
  let outputCount ← Reader.compactSize
  let outputs ← Reader.replicate (Output.read start) outputCount
  let witnesses ← readWitnesses flag inputCount
  let locktime ← Reader.u32
  return ofFields version locktime inputs outputs flag witnesses

/-- Reads one transaction and leaves the cursor behind it. -/
def read : Reader Transaction := do
  let start := (← get).tell
  let tx ← readFields start
  if tx.segwitFlag = 0 then return tx.identify ((← get).consumedSince start)
  else return tx.invalidate

/-- The transaction that a byte string holds; nothing may follow it. -/
def ofBytes (bytes : Bytes) : Except Error Transaction :=
  match Reader.run read bytes with
  | .error cause => .error cause
  | .ok (tx, c) =>
    if c.remaining = 0 then .ok tx
    else .error (.malformed (.trailingAfterTransaction c.remaining))

/-- The transaction that a hexadecimal text holds; blanks around it are
dropped. -/
def ofHex (text : String) : Except Error Transaction :=
  match Hex.decode (Blank.trim text) with
  | .error fault => .error (.malformed (.transactionText fault))
  | .ok bytes => ofBytes bytes

end ClaimLedger.Transaction
