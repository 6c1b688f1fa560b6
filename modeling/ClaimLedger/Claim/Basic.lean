import ClaimLedger.Claim.Message

/-! A claim: its message and, when a channel signed it, the channel, the
signature, and the payload that signatures of the older scheme were made over.
The wire form is an envelope byte, the signing fields it announces, and the
message. The envelopes with signing fields need both a channel and a signature;
a claim that has only one of them is written as unsigned. -/
namespace ClaimLedger

structure Claim where
  message : ClaimMessage
  channelHash : Option ClaimHash
  /-- Two numbers of thirty-two bytes each. -/
  signature : Option (FixedBytes 64)
  /-- The signed payload of claims signed under the older scheme. -/
  unsignedPayload : Option Bytes
  deriving DecidableEq

namespace Claim

/-- An unsigned claim. -/
def ofMessage (message : ClaimMessage) : Claim :=
  ⟨message, none, none, none⟩

def isStream (claim : Claim) : Bool :=
  match claim.message with
  | .stream _ => true
  | _ => false

def isChannel (claim : Claim) : Bool :=
  match claim.message with
  | .channel _ => true
  | _ => false

def asStream? (claim : Claim) : Option StreamClaim :=
  match claim.message with
  | .stream stream => some stream
  | _ => none

def asChannel? (claim : Claim) : Option ChannelClaim :=
  match claim.message with
  | .channel channel => some channel
  | _ => none

def isSigned (claim : Claim) : Bool :=
  claim.signature.isSome

/-- The claim without channel, signature and payload. -/
def clearSignature (claim : Claim) : Claim :=
  ofMessage claim.message

/-- The message without its envelope: what signatures are made over. -/
def messageBytes (claim : Claim) : Bytes :=
  claim.message.write

/-- The envelope and the signing fields. -/
def writeEnvelope (claim : Claim) : Bytes :=
  match claim.channelHash, claim.signature with
  | some channel, some signature =>
    match claim.unsignedPayload with
    | none => 1 :: channel.toList ++ signature.toList
    | some payload => 2 :: channel.toList ++ signature.toList ++ lengthPrefixed payload
  | _, _ => [0]

def encode (claim : Claim) : Bytes :=
  claim.writeEnvelope ++ claim.message.write

/-- An envelope, the fields it announces, and a message. -/
def read : Reader Claim := do
  let envelope ← Reader.u8
  if envelope = 0 then return ofMessage (← ClaimMessage.read)
  else if envelope = 1 then
    let channel ← Reader.fixed 20
    let signature ← Reader.fixed 64
    let message ← ClaimMessage.read
    return ⟨message, some channel, some signature, none⟩
  else if envelope = 2 then
    let channel ← Reader.fixed 20
    let signature ← Reader.fixed 64
    let payload ← Reader.string
    let message ← ClaimMessage.read
    return ⟨message, some channel, some signature, some payload⟩
  else throw (.malformed (.claimEnvelope envelope))

/-- The claim that a byte string holds; nothing may follow its message. -/
def decode (bytes : Bytes) : Except Error Claim :=
  match Reader.run read bytes with
  | .error cause => .error cause
  | .ok (claim, c) =>
    if c.remaining = 0 then .ok claim
    else .error (.malformed (.trailingAfterMessage c.remaining))

end Claim

end ClaimLedger
