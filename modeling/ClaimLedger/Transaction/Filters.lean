import ClaimLedger.Transaction.Basic

/-! The inputs and outputs a wallet asks a transaction for. -/
namespace ClaimLedger

namespace Output

/-- Whether the output is known to be ours. -/
def isMine (output : Output) : Bool :=
  output.annotations.isMyOutput == some true

end Output

namespace Transaction

/-- Inputs that spend an output of ours. -/
def myInputs (tx : Transaction) : List Input :=
  tx.inputs.filter fun input => (input.spends.output.map (·.isMine)).getD false

def myClaimOutputs (tx : Transaction) : List Output :=
  tx.outputs.filter fun output => output.isMine && output.script.isClaimName

def myUpdateOutputs (tx : Transaction) : List Output :=
  tx.outputs.filter fun output => output.isMine && output.script.isUpdateClaim

def mySupportOutputs (tx : Transaction) : List Output :=
  tx.outputs.filter fun output => output.isMine && output.script.isSupportClaim

/-- Outputs linked to a purchase. -/
def purchaseOutputs (tx : Transaction) : List Output :=
  tx.outputs.filter fun output => output.annotations.purchase.isSome

/-- Supports that are not known to be ours. -/
def otherSupportOutputs (tx : Transaction) : List Output :=
  tx.outputs.filter fun output => !output.isMine && output.script.isSupportClaim

/-- The claims that our updates carry forward. -/
def updatedClaims (tx : Transaction) : List ClaimHash :=
  tx.myUpdateOutputs.filterMap fun update => update.claimHash.toOption

/-- Whether an output spent here ends a claim or a support of ours: it is about
a claim, and unless it is a support no update of ours carries the claim
forward. -/
def isAbandoned (tx : Transaction) (spent : Output) : Bool :=
  spent.isMine && spent.script.isClaimInvolved &&
    (!spent.isClaim ||
      match spent.claimHash with
      | .ok hash => !tx.updatedClaims.contains hash
      | .error _ => true)

/-- Outputs of ours about claims that are spent and not carried forward. -/
def abandonedOutputs (tx : Transaction) : List Output :=
  (tx.inputs.filterMap (·.spends.output)).filter tx.isAbandoned

end Transaction

end ClaimLedger
