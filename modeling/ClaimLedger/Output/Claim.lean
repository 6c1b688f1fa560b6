import ClaimLedger.Crypto.Ripemd160
import ClaimLedger.Output.Basic

/-! The claims and purchases that outputs carry. A new claim takes its identity
from the place of the output that names it; updates and supports carry the
identity in their script. -/
namespace ClaimLedger.Output

/-- Outputs with a claim payload: new claims and updates. -/
def isClaim (output : Output) : Bool :=
  output.script.isClaimName || output.script.isUpdateClaim

def isSupport (output : Output) : Bool :=
  output.script.isSupportClaim

/-- The identity of a claim named at a place: its transaction hash and position,
most significant byte first, hashed. -/
def claimHashAt (place : Attachment) : ClaimHash :=
  hash160 (place.owner.hash.toList ++ beBytes 4 place.position.toNat)

def claimHash (output : Output) : Except Error ClaimHash :=
  if output.script.isClaimName then
    match output.place with
    | some place => .ok (claimHashAt place)
    | none => .error (.unresolvedReference .detachedClaim)
  else match output.script.claimHash? with
    | some hash => .ok hash
    | none => .error (.noClaim .claimId)

def claimId (output : Output) : Except Error String :=
  ClaimHash.claimId <$> output.claimHash

def claimName (output : Output) : Except Error String :=
  match output.script.claimName? with
  | none => .error (.noClaim .claimName)
  | some name =>
    match Utf8.decode name with
    | .ok text => .ok text
    | .error fault => .error (.malformed (.claimNameText fault))

/-- The address under which people find the claim. -/
def permanentUrl (output : Output) : Except Error String := do
  let name ← output.claimName
  let id ← output.claimId
  return "lbry://" ++ name ++ "#" ++ id

/-- The claim in the payload. -/
def claim (output : Output) : Except Error Claim :=
  match output.script.claim? with
  | none => .error (.noClaim .payload)
  | some payload => payload.value

def canDecodeClaim (output : Output) : Bool :=
  output.claim.isOk

/-- The price of a stream, if it asks one. -/
def price (output : Output) : Except Error (Option Fee) := do
  let claim ← output.claim
  return claim.asStream?.bind (·.fee)

/-- Whether the price is there and not zero. -/
def hasPrice (output : Output) : Bool :=
  match output.price with
  | .ok (some fee) => 0 < fee.amount
  | _ => false

/-- Whether the output records a purchase, judged by the payload held or by the
first byte of the data. -/
def isPurchaseData (output : Output) : Bool :=
  match output.script.data? with
  | none => false
  | some data => data.isParsed || Purchase.hasStartByte data.raw

def purchaseData (output : Output) : Except Error Purchase :=
  match output.script.data? with
  | none => .error (.unsupportedOutput .notReturnData)
  | some data => data.value

def canDecodePurchaseData (output : Output) : Bool :=
  output.purchaseData.isOk

/-- Whether the key is the one this channel claim publishes. -/
def isChannelKey (output : Output) (key : ChannelKey) : Bool :=
  match output.claim with
  | .ok claim =>
    match claim.asChannel? with
    | some channel => ChannelKey.matchesPublicKey key channel.publicKey
    | none => false
  | .error _ => false

/-- Changes the claim in memory; the script follows when it is regenerated. A
payload that does not decode cannot be changed. -/
def editClaim (edit : Claim → Claim) : EStateM Error Output Unit := fun output =>
  match output.script.claim? with
  | none => .error (.noClaim .payload) output
  | some payload =>
    match payload.value with
    | .error cause => .error cause output
    | .ok claim =>
      .ok () { output with script := output.script.setClaim (payload.withValue (edit claim)) }

/-- Gives a claim another message title; reposts and collections have none. -/
def setTitle (title : String) : EStateM Error Output Unit :=
  editClaim fun claim =>
    match claim.message with
    | .stream stream => { claim with message := .stream { stream with title := title } }
    | .channel channel => { claim with message := .channel { channel with title := title } }
    | _ => claim

/-- Changes the price of a stream; other claims have none. -/
def setFee (fee : Option Fee) : EStateM Error Output Unit :=
  editClaim fun claim =>
    match claim.message with
    | .stream stream => { claim with message := .stream { stream with fee := fee } }
    | _ => claim

/-- Publishes a key in a channel claim and keeps it for signing. -/
def setChannelKey (key : ChannelKey) : EStateM Error Output Unit := do
  editClaim id
  let output ← get
  let claim ← MonadExcept.ofExcept output.claim
  match claim.message with
  | .channel channel =>
    editClaim fun claim =>
      { claim with message := .channel { channel with publicKey := ChannelKey.publicKeyDer key } }
    regenerate
    modify fun output =>
      { output with annotations := { output.annotations with privateKey := some key } }
  | _ => throw (.noClaim .notChannel)

/-- The same, with a key made for the purpose. Whether the claim is a channel is
found out before the key is used. -/
def installChannelKey (fresh : ChannelKey) : EStateM Error Output ChannelKey := do
  let output ← get
  let claim ← MonadExcept.ofExcept output.claim
  set output.claimDecoded
  if claim.isChannel then
    setChannelKey fresh
    return fresh
  else throw (.noClaim .notChannel)

end ClaimLedger.Output
