import ClaimLedger.Annotations
import ClaimLedger.Codec.Wire
import ClaimLedger.Ledger
import ClaimLedger.Script.Output

/-! Transaction outputs: an amount and a script, which travel, and the wallet's
annotations and the place in the owning transaction, which do not. -/
namespace ClaimLedger

structure Output where
  amount : UInt64
  script : OutputScript
  annotations : Annotations
  /-- Where the output stands, once it belongs to a transaction. -/
  place : Option Attachment
  deriving DecidableEq

/-- The largest amount an output may be read with. -/
def maxAmount : Nat := 0x7FFFFFFFFFFFFFFF

namespace Output

/-- An output of its own, without annotations. -/
def ofScript (amount : UInt64) (script : OutputScript) : Output :=
  ⟨amount, script, {}, none⟩

def payPubKeyHash (amount : UInt64) (hash : Hash160) : Output :=
  ofScript amount (OutputScript.payPubKeyHash hash)

def payScriptHash (amount : UInt64) (hash : Hash160) : Output :=
  ofScript amount (OutputScript.payScriptHash hash)

/-- Names a new claim. -/
def payClaimName (amount : UInt64) (name : String) (claim : Claim) (hash : Hash160) :
    Except Error Output :=
  ofScript amount <$> OutputScript.payClaimName (Utf8.encode name) claim hash

/-- Updates a claim. -/
def payUpdateClaim (amount : UInt64) (name : String) (claimHash : ClaimHash) (claim : Claim)
    (hash : Hash160) : Except Error Output :=
  ofScript amount <$> OutputScript.payUpdateClaim (Utf8.encode name) claimHash claim hash

/-- Supports a claim. -/
def paySupport (amount : UInt64) (name : String) (claimHash : ClaimHash) (hash : Hash160) :
    Except Error Output :=
  ofScript amount <$> OutputScript.paySupport (Utf8.encode name) claimHash hash

/-- Records a purchase; pays nothing. -/
def recordPurchase (purchase : Purchase) : Except Error Output :=
  ofScript 0 <$> OutputScript.returnPurchase purchase

/-- The output standing at a place. -/
def attach (output : Output) (place : Attachment) : Output :=
  { output with place := some place }

def outpoint? (output : Output) : Option Outpoint :=
  output.place.map (·.outpoint)

def write (output : Output) : Bytes :=
  leBytes 8 output.amount.toNat ++ lengthPrefixed output.script.source

/-- Reads an output of a transaction that starts at position `start`. The
script remembers how far into the transaction it begins. -/
def read (start : Nat) : Reader Output := do
  let amount ← Reader.u64
  if maxAmount < amount.toNat then throw (.malformed (.outputAmount amount.toNat))
  let length ← Reader.compactSize
  let c ← get
  let source ← Reader.take length
  return ofScript amount (OutputScript.parse source (c.tell - start))

def size (output : Output) : Nat :=
  output.write.length

/-- The fee for creating the output: by its bytes, or for new claims by the
length of the name where that is more. -/
def fee (output : Output) (ledger : Ledger) : Nat :=
  let nameFee := match output.script.template with
    | .claimName name _ _ => name.length * ledger.feePerNameByte.toNat
    | _ => 0
  max nameFee (output.size * ledger.feePerByte.toNat)

def pubKeyHash? (output : Output) : Option Hash160 :=
  output.script.pubKeyHash?

def hasAddress (output : Output) : Bool :=
  output.pubKeyHash?.isSome

/-- The address paid, for outputs that pay the hash of a key. -/
def address? (output : Output) (ledger : Ledger) : Option String :=
  output.pubKeyHash?.map ledger.keyAddress

/-- Rebuilds the script from its template. -/
def regenerate : EStateM Error Output Unit := fun output =>
  match output.script.generate with
  | .ok _ script => .ok () { output with script := script }
  | .error cause script => .error cause { output with script := script }

/-- The output after somebody looked for its claim. -/
def claimDecoded (output : Output) : Output :=
  { output with script := output.script.claimDecoded }

/-- The output after somebody looked for the purchase it records. -/
def purchaseDecoded (output : Output) : Output :=
  { output with script := output.script.purchaseDecoded }

/-- Takes annotations over from another output, or clears them. -/
def updateAnnotations (output : Output) (other : Option Output) : Output :=
  { output with annotations := output.annotations.updateFrom (other.map (·.annotations)) }

def hasPrivateKey (output : Output) : Bool :=
  output.annotations.privateKey.isSome

end Output

end ClaimLedger
