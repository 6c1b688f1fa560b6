import ClaimLedger.Bytes.Text
import ClaimLedger.Calendar
import ClaimLedger.Crypto.Sha256

/-! The parameters of a network: fees, address marks, and the pace of its
blocks, from which the date of a block is estimated. -/
namespace ClaimLedger

structure Ledger where
  /-- Fee for each serialized byte. -/
  feePerByte : UInt64
  /-- Fee for each byte of the name of a new claim. -/
  feePerNameByte : UInt64
  keyAddressMark : UInt8
  scriptAddressMark : UInt8
  /-- Seconds since the start of 1970. -/
  genesisTimestamp : Int
  /-- Seconds between blocks. -/
  targetBlockTime : Int
  deriving DecidableEq

/-- Numbers that a signed word of sixty-four bits can hold. -/
def InSigned64 (n : Int) : Prop :=
  -0x8000000000000000 ≤ n ∧ n < 0x8000000000000000

instance (n : Int) : Decidable (InSigned64 n) := by unfold InSigned64; infer_instance

namespace Ledger

/-- The main network. -/
def mainNetwork : Ledger where
  feePerByte := 50
  feePerNameByte := 200000
  keyAddressMark := 0x55
  scriptAddressMark := 0x7a
  genesisTimestamp := 1446058291
  targetBlockTime := 150

/-- The bytes an address spells: a mark, a hash, and four bytes that guard
against typing errors. -/
def addressBytes (mark : UInt8) (hash : Hash160) : Bytes :=
  let payload := mark :: hash.toList
  payload ++ (doubleSha256 payload).toList.take 4

def address (mark : UInt8) (hash : Hash160) : String :=
  String.ofList (Base58.encode (addressBytes mark hash))

/-- The address of a key. -/
def keyAddress (ledger : Ledger) (hash : Hash160) : String :=
  address ledger.keyAddressMark hash

/-- The address of a script. -/
def scriptAddress (ledger : Ledger) (hash : Hash160) : String :=
  address ledger.scriptAddressMark hash

/-- The estimated date of the block at a height, unless the estimate leaves the
range of clocks or of calendars. -/
def estimatedDate? (ledger : Ledger) (height : Int) : Option Date :=
  let elapsed := height * ledger.targetBlockTime
  let timestamp := ledger.genesisTimestamp + elapsed
  if InSigned64 elapsed ∧ InSigned64 timestamp then Date.ofTimestamp? timestamp else none

end Ledger

end ClaimLedger
