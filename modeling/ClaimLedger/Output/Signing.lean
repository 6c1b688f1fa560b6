import ClaimLedger.Output.Claim

/-! Signing claims with channels. A claim is signed over the first outpoint its
transaction spends, which whoever asks supplies; claims of the older scheme are
still checked, over the address of their payee, but never made. -/
namespace ClaimLedger

/-- Where a claim stands with respect to channels. -/
inductive SigningState where
  | unsigned
  | signed
  | legacySigned
  deriving DecidableEq

namespace Output

/-- Claims that do not decode count as unsigned. -/
def signingState (output : Output) : SigningState :=
  match output.claim with
  | .error _ => .unsigned
  | .ok claim =>
    if claim.isSigned then
      if claim.unsignedPayload.isSome then .legacySigned else .signed
    else .unsigned

/-- The bytes an address spells. -/
def decodeAddress (address : String) : Except Error Bytes :=
  match Base58.decode address.toList with
  | .ok bytes => .ok bytes
  | .error digit => .error (.malformed (.addressDigit digit))

/-- The digest that the signature of the claim is made over. The scheme is told
by whether the claim keeps an unsigned payload. -/
def signatureDigest (output : Output) (anchor : Option Bytes) (ledger : Ledger) :
    Except Error Hash256 := do
  let claim ← output.claim
  match claim.channelHash with
  | none => throw (.invalidSignature .noChannel)
  | some channel =>
    match claim.unsignedPayload with
    | some payload =>
      match output.address? ledger with
      | none => throw (.unsupportedOutput .noPayeeAddress)
      | some address =>
        let address ← decodeAddress address
        return ClaimSignature.legacyDigest address payload channel
    | none =>
      match anchor with
      | none => throw (.unresolvedReference .digestAnchor)
      | some anchor => return ClaimSignature.currentDigest anchor channel claim.messageBytes

/-- The signature of the claim in DER. -/
def encodedSignature (output : Output) : Except Error Bytes := do
  let claim ← output.claim
  match claim.signature with
  | none => throw (.invalidSignature .unsigned)
  | some signature => ClaimSignature.encode signature.toList

/-- The key that a channel output publishes. -/
def publishedKey (channel : Output) : Except Error Bytes := do
  let claim ← channel.claim
  match claim.asChannel? with
  | none => throw (.noClaim .signerNotChannel)
  | some channel => return channel.publicKey

/-- Whether the claim carries a valid signature under the key that `channel`
publishes. Unsigned claims and signatures that do not decode do not; only a
claim or a digest that is missing is an error. -/
def isSignedBy (output channel : Output) (anchor : Option Bytes) (ledger : Ledger) :
    Except Error Bool := do
  let published ← channel.publishedKey
  let claim ← output.claim
  if claim.isSigned then
    let digest ← output.signatureDigest anchor ledger
    match output.encodedSignature with
    | .ok signature => return ClaimSignature.isValid signature digest published
    | .error _ => return false
  else return false

/-- The claim signed by a channel: it names the channel, keeps no payload of the
older scheme, and carries a signature over anchor, channel and message. -/
def signedClaim (claim : Claim) (key : ChannelKey) (channel : ClaimHash) (anchor : Bytes) :
    Claim where
  message := claim.message
  channelHash := some channel
  signature := some
    (ChannelKey.signDigest key
      (ClaimSignature.currentDigest anchor channel claim.messageBytes))
  unsignedPayload := none

/-- Signs the claim with the private key kept at a channel output, notes the
channel and rebuilds the script. -/
def sign (channel : Output) (anchor : Bytes) : EStateM Error Output Unit := do
  match channel.annotations.privateKey with
  | none => throw .missingPrivateKey
  | some key =>
    let channelHash ← MonadExcept.ofExcept channel.claimHash
    editClaim fun claim => signedClaim claim key channelHash anchor
    modify fun output =>
      { output with annotations := { output.annotations with channel := some channelHash } }
    regenerate

/-- Drops signature and channel from the claim and rebuilds the script. -/
def clearSignature : EStateM Error Output Unit := do
  editClaim Claim.clearSignature
  modify fun output =>
    { output with annotations := { output.annotations with channel := none } }
  regenerate

end Output

end ClaimLedger
