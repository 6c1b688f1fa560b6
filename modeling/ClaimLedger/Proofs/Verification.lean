import ClaimLedger.Output.Signing
import ClaimLedger.Proofs.Templates

/-! Checking signatures on claims. The digest is made over the channel that the
claim names, the key is that of the channel it is checked against, and nothing
compares the two: the verdict depends on the channel only through the key it
publishes. A channel that publishes the key of another passes for it. -/
namespace ClaimLedger

/-- A check of validity hides only what was wrong. -/
theorem ClaimSignature.isValid_iff {signature published : Bytes} {digest : Hash256} :
    isValid signature digest published = true ↔ verify signature digest published = .ok () := by
  unfold isValid
  cases verify signature digest published with
  | ok result => simp
  | error cause => simp

theorem Claim.isSigned_of_signature {claim : Claim} {signature : FixedBytes 64}
    (signed : claim.signature = some signature) : claim.isSigned = true := by
  rw [Claim.isSigned, signed, Option.isSome_some]

namespace Output

/-- What the signature of a claim that names a channel is made over: the anchor under
the current scheme, and the payee's address and a payload under the older one. -/
inductive Digested (output : Output) (claim : Claim) (named : ClaimHash) (ledger : Ledger) :
    Option Bytes → Hash256 → Prop where
  | current {anchor : Bytes} (scheme : claim.unsignedPayload = none) :
      Digested output claim named ledger (some anchor)
        (ClaimSignature.currentDigest anchor named claim.messageBytes)
  | legacy {anchor : Option Bytes} {payload address : Bytes} {text : String}
      (scheme : claim.unsignedPayload = some payload)
      (paid : output.address? ledger = some text) (spelled : decodeAddress text = .ok address) :
      Digested output claim named ledger anchor
        (ClaimSignature.legacyDigest address payload named)

/-- There is a digest where the claim names a channel and what its scheme covers is at
hand. -/
theorem signatureDigest_ok_iff {output : Output} {anchor : Option Bytes} {ledger : Ledger}
    {digest : Hash256} :
    output.signatureDigest anchor ledger = .ok digest ↔
      ∃ claim named, output.claim = .ok claim ∧ claim.channelHash = some named ∧
        Digested output claim named ledger anchor digest := by
  constructor
  · intro made
    obtain ⟨claim, decodes, made⟩ := Error.bind_ok_iff.mp made
    split at made
    · cases made
    · next named names =>
      refine ⟨claim, named, decodes, names, ?_⟩
      split at made
      · next payload scheme =>
        split at made
        · cases made
        · next text paid =>
          obtain ⟨address, spelled, made⟩ := Error.bind_ok_iff.mp made
          cases made
          exact .legacy scheme paid spelled
      · next scheme =>
        split at made
        · cases made
        · cases made
          exact .current scheme
  · rintro ⟨claim, named, decodes, names, digested⟩
    refine Error.bind_ok_iff.mpr ⟨claim, decodes, ?_⟩
    cases digested with
    | current scheme => simp only [names, scheme]; rfl
    | legacy scheme paid spelled => simp only [names, scheme, paid, spelled]; rfl

/-- A signature in fixed form, brought into DER, verifies under a published key. -/
def Verifies (signature : FixedBytes 64) (digest : Hash256) (published : Bytes) : Prop :=
  ∃ der, ClaimSignature.encode signature.toList = .ok der ∧
    ClaimSignature.verify der digest published = .ok ()

theorem encodedSignature_eq {output : Output} {claim : Claim} {signature : FixedBytes 64}
    (decodes : output.claim = .ok claim) (signed : claim.signature = some signature) :
    output.encodedSignature = ClaimSignature.encode signature.toList := by
  simp only [encodedSignature, decodes, signed, Bind.bind, Except.bind]

/-- The claim names a channel, and its signature over that channel verifies under a
published key. -/
def Passes (output : Output) (published : Bytes) (anchor : Option Bytes) (ledger : Ledger) :
    Prop :=
  ∃ claim named signature digest, output.claim = .ok claim ∧ claim.channelHash = some named ∧
    claim.signature = some signature ∧ Digested output claim named ledger anchor digest ∧
    Verifies signature digest published

theorem passes_of_isSignedBy {output channel : Output} {anchor : Option Bytes} {ledger : Ledger}
    (passed : output.isSignedBy channel anchor ledger = .ok true) :
    ∃ published, channel.publishedKey = .ok published ∧ output.Passes published anchor ledger := by
  obtain ⟨published, publishes, passed⟩ := Error.bind_ok_iff.mp passed
  obtain ⟨claim, decodes, passed⟩ := Error.bind_ok_iff.mp passed
  refine ⟨published, publishes, ?_⟩
  split at passed
  · next isSigned =>
    obtain ⟨signature, signed⟩ := Option.isSome_iff_exists.mp isSigned
    obtain ⟨digest, made, passed⟩ := Error.bind_ok_iff.mp passed
    rw [encodedSignature_eq decodes signed] at passed
    split at passed
    · next der encoded =>
      injection passed with valid
      obtain ⟨same, named, decoded, names, digested⟩ := signatureDigest_ok_iff.mp made
      obtain rfl : same = claim := Except.ok.inj (decoded.symm.trans decodes)
      exact ⟨same, named, signature, digest, decodes, names, signed, digested, der, encoded,
        ClaimSignature.isValid_iff.mp valid⟩
    · cases passed
  · cases passed

theorem isSignedBy_of_passes {output channel : Output} {anchor : Option Bytes} {ledger : Ledger}
    {published : Bytes} (publishes : channel.publishedKey = .ok published)
    (passes : output.Passes published anchor ledger) :
    output.isSignedBy channel anchor ledger = .ok true := by
  obtain ⟨claim, named, signature, digest, decodes, names, signed, digested, der, encoded,
    verifies⟩ := passes
  have made := signatureDigest_ok_iff.mpr ⟨claim, named, decodes, names, digested⟩
  have isSigned := Claim.isSigned_of_signature signed
  refine Error.bind_ok_iff.mpr ⟨published, publishes, Error.bind_ok_iff.mpr ⟨claim, decodes, ?_⟩⟩
  rw [if_pos isSigned]
  refine Error.bind_ok_iff.mpr ⟨digest, made, ?_⟩
  simp only [encodedSignature_eq decodes signed, encoded, ClaimSignature.isValid_iff.mpr verifies]
  rfl

/-- A claim passes for signed by a channel exactly when it names some channel and its
signature, over that channel, verifies under the key that the given one publishes.
So of the given channel nothing counts but the key: all that publish it are answered
alike, whatever their identity. -/
theorem isSignedBy_ok_true_iff {output channel : Output} {anchor : Option Bytes}
    {ledger : Ledger} :
    (output.isSignedBy channel anchor ledger = .ok true ↔
      ∃ published, channel.publishedKey = .ok published ∧
        output.Passes published anchor ledger) ∧
      ∀ other : Output, other.publishedKey = channel.publishedKey →
        output.isSignedBy other anchor ledger = output.isSignedBy channel anchor ledger := by
  refine ⟨⟨passes_of_isSignedBy, ?_⟩, fun other same => by simp only [isSignedBy, same]⟩
  rintro ⟨published, publishes, passes⟩
  exact isSignedBy_of_passes publishes passes

/-- The claim hash of twenty equal bytes. -/
def evenHash (byte : UInt8) : ClaimHash :=
  ⟨List.replicate 20 byte, List.length_replicate⟩

/-- An update of a claim, standing in a transaction. -/
def updating (identity : ClaimHash) (claim : Claim) : Output where
  amount := 1
  script :=
    let template := OutputTemplate.updateClaim [0x76] identity (Payload.ofValue claim)
      (.pubKeyHash (FixedBytes.zeros 20))
    ⟨template.script, 0, template⟩
  annotations := {}
  place := some ⟨TxRef.null, 0⟩

/-- A channel that publishes the generator of the curve, which is the public half of
the key one. -/
def unitChannel (identity : ClaimHash) : Output :=
  updating identity
    (Claim.ofMessage (.channel ⟨Der.writePublicKey Secp256k1.Point.generator, "c"⟩))

/-- A stream that names a channel of that key and is signed with it. -/
def unitSigned : Output :=
  updating (evenHash 0x33)
    { message := .stream ⟨"v", "", none⟩
      channelHash := some (evenHash 0x11)
      signature := some (Ecdsa.Signature.compact
        ⟨0x4636d6cabdd09aacac937a731ed6764ca25a3b344d2aaad7818c6735d9ead8fe,
          0x58f8236b661f4fa263dff280fa53816b4e5c339c2770baa9f1dd6369c02bd85e⟩)
      unsignedPayload := none }

/-- The outpoint that the stream is signed over. -/
def unitAnchor : Bytes := List.replicate 32 9 ++ [0, 0, 0, 0]

/-- Channels of one key are answered alike under two identities. -/
theorem isSignedBy_unitChannel :
    (unitChannel (evenHash 0x22)).publishedKey = (unitChannel (evenHash 0x11)).publishedKey ∧
      unitSigned.isSignedBy (unitChannel (evenHash 0x22)) (some unitAnchor) Ledger.mainNetwork =
        unitSigned.isSignedBy (unitChannel (evenHash 0x11)) (some unitAnchor) Ledger.mainNetwork :=
  ⟨rfl, isSignedBy_ok_true_iff.2 _ rfl⟩

/-- A claim passes for signed by a channel that it does not name. -/
theorem isSignedBy_unnamed :
    unitSigned.isSignedBy (unitChannel (evenHash 0x22)) (some unitAnchor) Ledger.mainNetwork = .ok true ∧
      (unitChannel (evenHash 0x22)).place.isSome = true ∧
      (unitChannel (evenHash 0x22)).claimHash = .ok (evenHash 0x22) ∧
      unitSigned.claim.map (·.channelHash) = .ok (some (evenHash 0x11)) ∧
      evenHash 0x11 ≠ evenHash 0x22 := by
  decide +kernel

end Output

end ClaimLedger
