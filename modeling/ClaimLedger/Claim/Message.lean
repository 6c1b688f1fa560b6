import ClaimLedger.Codec.Wire

/-! What outputs say about claims: the hash that names a claim, the record of a purchase, and the
message of a claim, which is a stream with its title, description and price, a channel with its key
and title, a repost of another claim, or a collection of claims. -/
namespace ClaimLedger

/-! ## Names of claims

Twenty bytes, kept in the order scripts have them. People see the claim id, the same bytes reversed
in hexadecimal. -/

/-- The identity of a claim in script order. -/
abbrev ClaimHash := Hash160

namespace ClaimHash

def ofBytes (bytes : Bytes) : Except Error ClaimHash :=
  match FixedBytes.ofList? 20 bytes with
  | some hash => .ok hash
  | none => .error (.malformed (.claimHashLength bytes.length))

/-- The claim id, as people see it. -/
def claimId (hash : ClaimHash) : String :=
  Hex.encode hash.reverse.toList

/-- Reads a claim id. Digits may have either case. -/
def ofClaimId (text : String) : Except Error ClaimHash :=
  match Hex.decode text with
  | .error fault => .error (.malformed (.claimIdText text fault))
  | .ok bytes => ofBytes bytes.reverse

end ClaimHash

/-! ## Purchases

Outputs that pay nobody carry a start byte and the hash of the claim that was bought. -/

structure Purchase where
  claimHash : ClaimHash
  deriving DecidableEq

namespace Purchase

/-- The letter `P`. -/
def startByte : UInt8 := 0x50

def hasStartByte (bytes : Bytes) : Bool :=
  bytes.head? == some startByte

def claimId (purchase : Purchase) : String :=
  purchase.claimHash.claimId

def encode (purchase : Purchase) : Bytes :=
  startByte :: purchase.claimHash.toList

def decode : Bytes → Except Error Purchase
  | [] => .error (.malformed .purchaseStart)
  | first :: rest =>
    if first = startByte then Purchase.mk <$> ClaimHash.ofBytes rest
    else .error (.malformed .purchaseStart)

end Purchase

/-! ## Messages

The wire form opens with a kind byte; texts are length-prefixed UTF-8. -/

/-- The price asked for a stream. -/
structure Fee where
  currency : String
  amount : UInt64
  deriving DecidableEq

structure StreamClaim where
  title : String
  description : String
  fee : Option Fee
  deriving DecidableEq

/-- A channel publishes the public key that verifies its signatures, in DER. -/
structure ChannelClaim where
  publicKey : Bytes
  title : String
  deriving DecidableEq

inductive ClaimMessage where
  | stream (stream : StreamClaim)
  | channel (channel : ChannelClaim)
  | repost (claim : ClaimHash)
  | collection (claims : List ClaimHash)
  deriving DecidableEq

namespace ClaimMessage

/-- A text behind its length in bytes. -/
def writeText (text : String) : Bytes :=
  lengthPrefixed (Utf8.encode text)

/-- The price of a stream behind a flag that says whether there is one. -/
def writeFee : Option Fee → Bytes
  | none => [0]
  | some fee => 1 :: writeText fee.currency ++ leBytes 8 fee.amount.toNat

def write : ClaimMessage → Bytes
  | .stream s => 1 :: writeText s.title ++ writeText s.description ++ writeFee s.fee
  | .channel c => 2 :: lengthPrefixed c.publicKey ++ writeText c.title
  | .repost claim => 3 :: claim.toList
  | .collection claims => 4 :: compactSize claims.length ++ claims.flatMap (·.toList)

/-- A text of a given field: bytes that are no text are refused after they were
read. -/
def readText (field : TextField) : Reader String := do
  let bytes ← Reader.string
  match Utf8.decode bytes with
  | .ok text => return text
  | .error fault => throw (.malformed (.fieldText field fault))

def readFee : Reader (Option Fee) := do
  let flag ← Reader.u8
  if flag = 0 then return none
  else if flag = 1 then
    let currency ← readText .feeCurrency
    let amount ← Reader.u64
    return some ⟨currency, amount⟩
  else throw (.malformed (.feeFlag flag))

def read : Reader ClaimMessage := do
  let kind ← Reader.u8
  if kind = 1 then
    let title ← readText .streamTitle
    let description ← readText .streamDescription
    let fee ← readFee
    return .stream ⟨title, description, fee⟩
  else if kind = 2 then
    let publicKey ← Reader.string
    let title ← readText .channelTitle
    return .channel ⟨publicKey, title⟩
  else if kind = 3 then return .repost (← Reader.fixed 20)
  else if kind = 4 then
    let count ← Reader.compactSize
    return .collection (← Reader.replicate (Reader.fixed 20) count)
  else throw (.malformed (.claimKind kind))

end ClaimMessage

end ClaimLedger
