import ClaimLedger.Output.Signing

/-! Looking at outputs and editing them. What looking answers is a function of the output, and all
that it changes is whether the payload in the script is held in decoded form afterwards. Signing,
clearing and publishing a key rebuild the script at once; other changes of the claim show in the
script when it is rebuilt. -/
namespace ClaimLedger.Output

/-! ## Looking -/

/-- The ways to look at an output that may decode its payload. -/
inductive Read where
  | claim
  | canDecodeClaim
  | price
  | hasPrice
  | signingState
  | signatureDigest
  | encodedSignature
  | channelKey
  | signedBy (channel : Output)
  | purchaseData
  | canDecodePurchaseData
  | everything

/-- The output after somebody looked at it. Whether it is signed by a channel is
found out without its claim when the channel publishes no key. -/
def after (output : Output) : Read → Output
  | .signedBy channel => if channel.publishedKey.isOk then output.claimDecoded else output
  | .purchaseData => output.purchaseDecoded
  | .canDecodePurchaseData => output.purchaseDecoded
  | .everything => output.claimDecoded.purchaseDecoded
  | _ => output.claimDecoded

/-! ## Edits -/

inductive Edit where
  | amount (value : UInt64)
  | script (source : Bytes)
  | claim (value : Claim)
  | title (value : String)
  | fee (value : Option Fee)
  /-- The secret is checked before the claim is. -/
  | channelKey (secret : Bytes)
  | sign (channel : Output) (anchor : Bytes)
  | clear
  | regenerate
  | refuse (reason : String)

/-- One edit. What it changed before it failed stays changed. -/
def Edit.apply : Edit → EStateM Error Output Unit
  | .amount value => modify fun output => { output with amount := value }
  | .script source => modify fun output => { output with script := OutputScript.parse source 0 }
  | .claim value => editClaim fun _ => value
  | .title value => setTitle value
  | .fee value => setFee value
  | .channelKey secret => do
    let key ← MonadExcept.ofExcept (ChannelKey.ofBytes secret)
    setChannelKey key
  | .sign channel anchor => Output.sign channel anchor
  | .clear => clearSignature
  | .regenerate => Output.regenerate
  | .refuse reason => throw (.malformed (.refused reason))

/-- Edits in order up to the first that fails, and after each of them the script
and where the claim stands with respect to channels, which decodes it. -/
def Edit.applyAll : List Edit → EStateM Error Output (List (Bytes × SigningState))
  | [] => return []
  | edit :: edits => do
    edit.apply
    let output ← get
    set (output.after .signingState)
    let reports ← applyAll edits
    return (output.script.source, output.signingState) :: reports

end ClaimLedger.Output
