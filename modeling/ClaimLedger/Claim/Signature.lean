import ClaimLedger.Claim.Basic
import ClaimLedger.Crypto.Der

/-! Channel signatures on claims. What is signed is a SHA-256 digest. Under the
current scheme it covers the first outpoint the transaction spends, the channel
and the message; under the older one the payee's address, a payload and the
channel, last byte first. Signatures travel in fixed form and are checked in
DER, against the key a channel publishes. -/
namespace ClaimLedger

/-- The key a channel signs with. -/
abbrev ChannelKey := Secp256k1.SecretKey

namespace ChannelKey

def ofBytes (bytes : Bytes) : Except Error ChannelKey :=
  match Secp256k1.SecretKey.ofBytes? bytes with
  | some key => .ok key
  | none => .error (.malformed .secretKey)

/-- The key as channels publish it. -/
def publicKeyDer (key : ChannelKey) : Bytes :=
  Der.writePublicKey key.publicKey

/-- A signature in fixed form. -/
def signDigest (key : ChannelKey) (digest : Hash256) : FixedBytes 64 :=
  (Ecdsa.sign key digest).compact

/-- How a key is shown: by its public half alone. -/
def describe (key : ChannelKey) : String :=
  "ChannelKey(" ++ Hex.encode key.publicKey.compressed ++ ")"

/-- Whether the bytes are exactly how this key is published. -/
def matchesPublicKey (key : ChannelKey) (published : Bytes) : Bool :=
  constantTimeEq (publicKeyDer key) published

end ChannelKey

namespace ClaimSignature

/-- The bytes signed under the current scheme. -/
def currentPreimage (anchor : Bytes) (channel : ClaimHash) (message : Bytes) : Bytes :=
  anchor ++ channel.toList ++ message

/-- The bytes signed under the older scheme. -/
def legacyPreimage (address payload : Bytes) (channel : ClaimHash) : Bytes :=
  address ++ payload ++ channel.reverse.toList

def currentDigest (anchor : Bytes) (channel : ClaimHash) (message : Bytes) : Hash256 :=
  sha256 (currentPreimage anchor channel message)

def legacyDigest (address payload : Bytes) (channel : ClaimHash) : Hash256 :=
  sha256 (legacyPreimage address payload channel)

/-- The point a published key holds. -/
def decodePublicKey (published : Bytes) : Except Error Secp256k1.Point :=
  match Der.publicKeyContent? published with
  | none => .error (.invalidSignature .notPublicKeyInfo)
  | some content =>
    match Secp256k1.Point.decode? content with
    | none => .error (.invalidSignature .publicKeyPoint)
    | some point => .ok point

/-- The DER form of a signature in fixed form. -/
def encode (raw : Bytes) : Except Error Bytes :=
  if raw.length ≠ 64 then .error (.invalidSignature (.rawLength raw.length))
  else match Ecdsa.Signature.ofCompact? raw with
    | none => .error (.invalidSignature .scalars)
    | some signature => .ok (Der.writeSignature signature)

/-- Checks a signature in DER. High second numbers are accepted for their low
counterparts; the key is looked at before the signature. -/
def verify (signature : Bytes) (digest : Hash256) (published : Bytes) : Except Error Unit :=
  match decodePublicKey published with
  | .error cause => .error cause
  | .ok key =>
    match Der.readSignature? signature with
    | none => .error (.invalidSignature .encoding)
    | some signature =>
      if Ecdsa.verify key digest signature.normalized then .ok ()
      else .error (.invalidSignature .verification)

/-- Whether `verify` finds nothing wrong. -/
def isValid (signature : Bytes) (digest : Hash256) (published : Bytes) : Bool :=
  match verify signature digest published with
  | .ok _ => true
  | .error _ => false

end ClaimSignature

end ClaimLedger
