import ClaimLedger.Transaction.Basic

/-! Signatures in transactions: the bytes that spending signatures are made
over, and the signing of claims. A spending signature covers everything except
the script slots, with the script of the output spent in the slot of the input
that is signed. -/
namespace ClaimLedger.Transaction

/-- The mark of signatures that cover all inputs and outputs. -/
def sighashAll : Nat := 1

/-- The inputs as they are signed: the spent script in the slot of the signed
input and nothing in the others. -/
def writeSigned (inputs : List Input) (index : Nat) (script : Bytes) : Bytes :=
  compactSize inputs.length ++
    (inputs.mapIdx fun i input => input.writeWith (if i = index then script else [])).flatten

/-- The bytes that the signature of an input is made over. -/
def signaturePreimage (tx : Transaction) (index : Nat) : Except Error Bytes :=
  match tx.inputs[index]? with
  | none => .error (.malformed (.inputIndex index tx.inputs.length))
  | some input =>
    match input.spends.output with
    | none => .error (.unresolvedReference (.spentScript index input.spends.outpoint))
    | some spent =>
      .ok (leBytes 4 tx.version.toNat ++ writeSigned tx.inputs index spent.script.source ++
        writeOutputs tx.outputs ++ leBytes 4 tx.locktime.toNat ++ leBytes 4 sighashAll)

def signatureHash (tx : Transaction) (index : Nat) : Except Error Hash256 :=
  doubleSha256 <$> tx.signaturePreimage index

/-- The first outpoint spent, in wire form: the anchor of claim signatures. -/
def firstInputHash (tx : Transaction) : Option Bytes :=
  tx.inputs.head?.map (·.spends.outpoint.wire.toList)

/-- The anchor to sign over: the one supplied, or that of the transaction. -/
def signingAnchor (tx : Transaction) (supplied : Option Bytes) : Except Error Bytes :=
  match supplied with
  | some anchor => .ok anchor
  | none =>
    match tx.firstInputHash with
    | some anchor => .ok anchor
    | none => .error (.unresolvedReference .signingAnchor)

/-- Signs the claim in an output with a channel. An anchor is supplied when
claims are signed before their funding inputs are chosen. -/
def signOutput (index : Nat) (channel : Output) (supplied : Option Bytes) :
    EStateM Error Transaction Unit := fun tx =>
  match tx.signingAnchor supplied with
  | .error cause => .error cause tx
  | .ok anchor => editOutput index (Output.sign channel anchor) tx

def clearOutputSignature (index : Nat) : EStateM Error Transaction Unit :=
  editOutput index Output.clearSignature

/-- Installs a fresh key in the channel claim of an output. -/
def installChannelKey (index : Nat) (fresh : ChannelKey) :
    EStateM Error Transaction ChannelKey :=
  editOutput index (Output.installChannelKey fresh)

def outputSignatureDigest (tx : Transaction) (index : Nat) (ledger : Ledger) :
    Except Error Hash256 := do
  let output ← tx.output index
  output.signatureDigest tx.firstInputHash ledger

def isOutputSignedBy (tx : Transaction) (index : Nat) (channel : Output) (ledger : Ledger) :
    Except Error Bool := do
  let output ← tx.output index
  output.isSignedBy channel tx.firstInputHash ledger

end ClaimLedger.Transaction
