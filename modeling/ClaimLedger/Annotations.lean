import ClaimLedger.Claim.Signature

/-! What a wallet notes about an output. Nothing of it is ever serialized. Links
to other outputs are names, not the outputs themselves: claims by claim hash,
plain outputs by outpoint. -/
namespace ClaimLedger

structure Annotations where
  isInternalTransfer : Option Bool := none
  isSpent : Option Bool := none
  isMyOutput : Option Bool := none
  isMyInput : Option Bool := none
  sentSupports : Option UInt64 := none
  sentTips : Option UInt64 := none
  receivedTips : Option UInt64 := none
  /-- The channel that signed the claim. -/
  channel : Option ClaimHash := none
  /-- The output that records the purchase of this claim. -/
  purchase : Option Outpoint := none
  /-- The claim that a purchase is about. -/
  purchasedClaim : Option ClaimHash := none
  /-- The output that proves this claim was bought. -/
  purchaseReceipt : Option Outpoint := none
  repostedClaim : Option ClaimHash := none
  /-- The members of a collection. -/
  claims : Option (List ClaimHash) := none
  /-- The signing key of a channel of ours. -/
  privateKey : Option ChannelKey := none
  /-- Free notes by name; their values are kept as serialized text. -/
  notes : List (String × String) := []
  deriving DecidableEq

namespace Annotations

/-- Takes status, signing channel and key over from other annotations, or clears
them. Links to purchases, reposts and collections and the notes stay. -/
def updateFrom (own : Annotations) (other : Option Annotations) : Annotations :=
  let source := other.getD {}
  { own with
    isInternalTransfer := source.isInternalTransfer
    isSpent := source.isSpent
    isMyOutput := source.isMyOutput
    isMyInput := source.isMyInput
    sentSupports := source.sentSupports
    sentTips := source.sentTips
    receivedTips := source.receivedTips
    channel := source.channel
    privateKey := source.privateKey }

end Annotations

end ClaimLedger
