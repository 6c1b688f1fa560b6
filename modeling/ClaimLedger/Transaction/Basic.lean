import ClaimLedger.Input
import ClaimLedger.Output.Edit

/-! Transactions: inputs and outputs with a version and a lock time, their wire
form, and their identity. A transaction keeps its wire form and the reference
made from it; every child carries a copy of that reference and its own
position. Operations that change what travels end in `invalidate`, which
recomputes both and stamps the children anew. -/
namespace ClaimLedger

/-- Heights of transactions that no block contains. -/
def heightNotBroadcast : Int := -2
def heightMempoolUnconfirmedInputs : Int := -1
def heightMempool : Int := 0

structure Transaction where
  version : UInt32
  locktime : UInt32
  inputs : List Input
  outputs : List Output
  /-- The flag byte behind the segwit marker; zero without marker. -/
  segwitFlag : UInt8
  /-- Witness items in input order. They are read and never written. -/
  witnesses : List Bytes
  height : Int
  /-- The index within the confirming block; negative when unknown. -/
  position : Int
  isVerified : Bool
  /-- The wire form: the canonical one, or the bytes it was parsed from. -/
  raw : Bytes
  /-- The hash of the wire form and the height. -/
  txRef : TxRef
  /-- The day of the confirming block, once it was asked for. -/
  day : Option Int
  deriving DecidableEq

namespace Transaction

/-- The input count and the inputs. -/
def writeInputs (inputs : List Input) : Bytes :=
  compactSize inputs.length ++ inputs.flatMap Input.write

/-- The output count and the outputs. -/
def writeOutputs (outputs : List Output) : Bytes :=
  compactSize outputs.length ++ outputs.flatMap Output.write

/-- The canonical wire form, without marker, flag and witnesses. -/
def serialize (tx : Transaction) : Bytes :=
  leBytes 4 tx.version.toNat ++ writeInputs tx.inputs ++ writeOutputs tx.outputs ++
    leBytes 4 tx.locktime.toNat

/-- The reference that the wire form and the height give. -/
def refOf (raw : Bytes) (height : Int) : TxRef :=
  ⟨doubleSha256 raw, height⟩

/-- Stamps every child with the reference and its position. -/
def stampChildren (tx : Transaction) : Transaction :=
  { tx with
    inputs := tx.inputs.mapIdx fun i input => input.attach ⟨tx.txRef, UInt32.ofNat i⟩
    outputs := tx.outputs.mapIdx fun i output => output.attach ⟨tx.txRef, UInt32.ofNat i⟩ }

/-- The transaction identified by a wire form. -/
def identify (tx : Transaction) (raw : Bytes) : Transaction :=
  stampChildren { tx with raw := raw, txRef := refOf raw tx.height }

/-- Forgets the wire form and the identity and computes them from the fields. -/
def invalidate (tx : Transaction) : Transaction :=
  tx.identify tx.serialize

/-- The fields of a transaction that nobody has seen. -/
def ofFields (version locktime : UInt32) (inputs : List Input) (outputs : List Output)
    (segwitFlag : UInt8) (witnesses : List Bytes) : Transaction where
  version := version
  locktime := locktime
  inputs := inputs
  outputs := outputs
  segwitFlag := segwitFlag
  witnesses := witnesses
  height := heightNotBroadcast
  position := -1
  isVerified := false
  raw := []
  txRef := TxRef.null
  day := none

/-- A transaction without inputs and outputs. -/
def new (version locktime : UInt32) : Transaction :=
  (ofFields version locktime [] [] 0 []).invalidate

def empty : Transaction := new 1 0

def hash (tx : Transaction) : Hash256 := tx.txRef.hash

def id (tx : Transaction) : String := tx.txRef.id

/-- The bytes that are hashed: witnesses are never part of the wire form. -/
def rawSansSegwit (tx : Transaction) : Bytes := tx.raw

def toHex (tx : Transaction) : String := Hex.encode tx.raw

/-- A short form of the id. -/
def display (tx : Transaction) : String :=
  let digits := tx.id.toList
  String.ofList ("TX(".toList ++ digits.take 10 ++ "...".toList ++
    digits.drop (digits.length - 10) ++ [')'])

def setVersion (tx : Transaction) (version : UInt32) : Transaction :=
  { tx with version := version }.invalidate

def setLocktime (tx : Transaction) (locktime : UInt32) : Transaction :=
  { tx with locktime := locktime }.invalidate

def addInputs (tx : Transaction) (inputs : List Input) : Transaction :=
  { tx with inputs := tx.inputs ++ inputs }.invalidate

def addOutputs (tx : Transaction) (outputs : List Output) : Transaction :=
  { tx with outputs := tx.outputs ++ outputs }.invalidate

/-- Moves the transaction to another height. The wire form stays; reference and
stamps follow, and the day is forgotten. -/
def setHeight (tx : Transaction) (height : Int) : Transaction :=
  stampChildren { tx with height := height, txRef := refOf tx.raw height, day := none }

def setStatus (tx : Transaction) (position : Int) (isVerified : Bool) : Transaction :=
  { tx with position := position, isVerified := isVerified }

def isBroadcast (tx : Transaction) : Bool :=
  heightNotBroadcast < tx.height

def isMempool (tx : Transaction) : Bool :=
  tx.height = heightMempoolUnconfirmedInputs ∨ tx.height = heightMempool

def isConfirmed (tx : Transaction) : Bool :=
  heightMempool < tx.height

/-- The day on which the transaction was confirmed, as estimated by a ledger;
nothing before it is confirmed. The first answer is kept. -/
def ordinalDay (tx : Transaction) (ledger : Ledger) : Option Int × Transaction :=
  match tx.day with
  | some day => (some day, tx)
  | none =>
    if tx.isConfirmed then
      match ledger.estimatedDate? tx.height with
      | some date => (some date.ordinal, { tx with day := some date.ordinal })
      | none => (none, tx)
    else (none, tx)

/-- Edits the annotations of an output, if it is there. They do not travel, so
wire form and identity stay. -/
def editAnnotations (tx : Transaction) (index : Nat) (edit : Annotations → Annotations) :
    Transaction :=
  { tx with
    outputs := tx.outputs.modify index fun output =>
      { output with annotations := edit output.annotations } }

/-- The output at an index. -/
def output (tx : Transaction) (index : Nat) : Except Error Output :=
  match tx.outputs[index]? with
  | some output => .ok output
  | none => .error (.malformed (.outputIndex index tx.outputs.length))

/-- Puts another output at an index. -/
def replaceOutput (tx : Transaction) (index : Nat) (output : Output) : Transaction :=
  { tx with outputs := tx.outputs.set index output }

/-- Runs an edit on the output at an index and invalidates the transaction,
whether or not the edit succeeds. Without such an output nothing happens. -/
def editOutput {α : Type} (index : Nat) (edit : EStateM Error Output α) :
    EStateM Error Transaction α := fun tx =>
  match tx.output index with
  | .error cause => .error cause tx
  | .ok output =>
    match edit output with
    | .ok result output => .ok result (tx.replaceOutput index output).invalidate
    | .error cause output => .error cause (tx.replaceOutput index output).invalidate

/-- An edit followed by regeneration, which happens also when the edit fails. An
error of the edit comes first. -/
def thenRegenerate {α : Type} (edit : EStateM Error Output α) : EStateM Error Output α :=
  fun output =>
    match edit output with
    | .ok result output =>
      match Output.regenerate output with
      | .ok _ output => .ok result output
      | .error cause output => .error cause output
    | .error cause output =>
      match Output.regenerate output with
      | .ok _ output => .error cause output
      | .error _ output => .error cause output

/-- Edits an output; its script is rebuilt from its payload afterwards. -/
def modifyOutput {α : Type} (index : Nat) (edit : EStateM Error Output α) :
    EStateM Error Transaction α :=
  editOutput index (thenRegenerate edit)

/-- The transaction after somebody looked at an output. What was decoded stays
decoded; nothing that travels changes. -/
def afterRead (tx : Transaction) (index : Nat) (read : Output.Read) : Transaction :=
  { tx with outputs := tx.outputs.modify index fun output => output.after read }

/-- The transaction after somebody looked at all of it. -/
def afterReadingAll (tx : Transaction) : Transaction :=
  { tx with outputs := tx.outputs.map fun output => output.after .everything }

end Transaction

end ClaimLedger
