import ClaimLedger.Proofs.Children
import ClaimLedger.Proofs.ClaimEditing
import ClaimLedger.Proofs.ClaimReading
import ClaimLedger.Proofs.Regeneration
import ClaimLedger.Proofs.ScriptGrammar
import ClaimLedger.Proofs.SignatureForms
import ClaimLedger.Proofs.Verification

/-! Signing a claim in its output. A channel that holds its key and publishes it can
sign every claim that is small enough for a script. The claim passes for signed by it
afterwards, in memory and when the script is read again. -/
namespace ClaimLedger.Output

/-- A channel in a transaction that holds a private key and publishes the public half
of it. -/
structure Signer (channel : Output) (key : ChannelKey) : Prop where
  attached : channel.place.isSome = true
  keeps : channel.annotations.privateKey = some key
  publishes : ∃ published, channel.publishedKey = .ok published ∧
    ClaimSignature.decodePublicKey published = .ok key.publicKey

/-- The signature that a key makes over a claim verifies under its public half. -/
def SignsSoundly (key : ChannelKey) (channel : Output) (anchor : Bytes) (claim : Claim) : Prop :=
  ∀ hash, channel.claimHash = .ok hash →
    Ecdsa.verify key.publicKey (ClaimSignature.currentDigest anchor hash claim.messageBytes)
      (Ecdsa.sign key (ClaimSignature.currentDigest anchor hash claim.messageBytes)) = true

/-- The claim in the output names the channel and is signed over an anchor under the
current scheme, with the key that the channel publishes. -/
def SignedOver (output channel : Output) (anchor : Bytes) : Prop :=
  ∃ hash published claim signature, channel.claimHash = .ok hash ∧
    channel.publishedKey = .ok published ∧ output.claim = .ok claim ∧
    claim.channelHash = some hash ∧ claim.signature = some signature ∧
    claim.unsignedPayload = none ∧
    Verifies signature (ClaimSignature.currentDigest anchor hash claim.messageBytes) published

/-- The claim in the output is the one that its script gives when it is read. -/
def Rereadable (output : Output) : Prop :=
  ∀ offset, (output.readBack offset).claim = output.claim

/-! ## What a claim depends on -/

theorem claim_congr {output other : Output}
    (same : other.script.template = output.script.template) : other.claim = output.claim := by
  simp only [Output.claim, OutputScript.claim?, same]

theorem SignedOver.congr {output other channel : Output} {anchor : Bytes}
    (signed : output.SignedOver channel anchor) (same : other.claim = output.claim) :
    other.SignedOver channel anchor := by
  obtain ⟨hash, published, claim, signature, identity, publishes, decodes, parts⟩ := signed
  exact ⟨hash, published, claim, signature, identity, publishes, same.trans decodes, parts⟩

/-- Such a claim passes under every ledger and counts as signed. -/
theorem SignedOver.isSignedBy {output channel : Output} {anchor : Bytes}
    (signed : output.SignedOver channel anchor) (ledger : Ledger) :
    output.isSignedBy channel (some anchor) ledger = .ok true := by
  obtain ⟨hash, published, claim, signature, identity, publishes, decodes, names, carried, scheme,
    verifies⟩ := signed
  exact isSignedBy_of_passes publishes
    ⟨claim, hash, signature, _, decodes, names, carried, .current scheme, verifies⟩

theorem SignedOver.signingState {output channel : Output} {anchor : Bytes}
    (signed : output.SignedOver channel anchor) : output.signingState = .signed := by
  obtain ⟨hash, published, claim, signature, -, -, decodes, -, carried, scheme, -⟩ := signed
  simp [Output.signingState, decodes, Claim.isSigned, carried, scheme]

/-- The claim names the identity of the channel. -/
theorem SignedOver.names {output channel : Output} {anchor : Bytes}
    (signed : output.SignedOver channel anchor) :
    ∃ claim hash, output.claim = .ok claim ∧ channel.claimHash = .ok hash ∧
      claim.channelHash = some hash := by
  obtain ⟨hash, published, claim, signature, identity, -, decodes, names, -⟩ := signed
  exact ⟨claim, hash, decodes, identity, names⟩

/-- A claim in a transaction has an identity. -/
theorem claimHash_of_attached {output : Output} (isClaim : output.isClaim = true)
    (attached : output.place.isSome = true) : ∃ hash, output.claimHash = .ok hash := by
  obtain ⟨place, stands⟩ := Option.isSome_iff_exists.mp attached
  obtain ⟨amount, ⟨source, offset, template⟩, annotations, found⟩ := output
  obtain rfl : found = some place := stands
  cases template with
  | claimName name payload payee => exact ⟨claimHashAt place, rfl⟩
  | updateClaim name hash payload payee => exact ⟨hash, rfl⟩
  | _ => cases isClaim

/-- An output whose claim decodes is a claim. -/
theorem isClaim_of_decodes {output : Output} {claim : Claim} (decodes : output.claim = .ok claim) :
    output.isClaim = true := by
  obtain ⟨payload, carries, -⟩ := claim_ok decodes
  obtain ⟨amount, ⟨source, offset, template⟩, annotations, place⟩ := output
  cases template with
  | claimName | updateClaim => rfl
  | _ => cases carries

theorem Signer.identity {channel : Output} {key : ChannelKey} (signer : channel.Signer key) :
    ∃ hash, channel.claimHash = .ok hash := by
  obtain ⟨published, publishes, -⟩ := signer.publishes
  obtain ⟨claim, decodes, -⟩ := Error.bind_ok_iff.mp publishes
  exact claimHash_of_attached (isClaim_of_decodes decodes) signer.attached

/-! ## Signing -/

theorem length_encode_signedClaim (claim : Claim) (key : ChannelKey) (hash : ClaimHash)
    (anchor : Bytes) :
    (signedClaim claim key hash anchor).encode.length = 85 + claim.messageBytes.length := by
  simp only [Claim.encode, Claim.writeEnvelope, signedClaim, Claim.messageBytes,
    List.length_append, List.length_cons, hash.length_toList, FixedBytes.length_toList]

/-- Scripts are read with the bytes of the payload that they were written with. -/
theorem claim?_undecoded (source other : Bytes) (offset start : Nat)
    (template : OutputTemplate) :
    (OutputScript.mk source offset template.undecoded).claim? =
      (OutputScript.mk other start template).claim?.map fun payload =>
        Payload.ofRaw payload.raw := by
  cases template <;> rfl

/-- A script written for a claim gives what the wire keeps of it. -/
theorem claim_reread_written {output : Output} {claim other : Claim}
    (decodes : output.claim = .ok claim) (notes : Annotations)
    (pushable : (output.script.setClaim (Payload.ofValue other)).template.Pushable)
    (start : Nat) : ((output.written other notes).reread start).claim = .ok other.onWire := by
  obtain ⟨payload, carries, -⟩ := claim_ok decodes
  have short : other.encode.length < 2 ^ 64 :=
    Nat.lt_trans ((pushable_holding decodes other none).mp pushable).2 (by decide)
  have parsed := OutputTemplate.parse_script
    (known_setClaim carries (Payload.ofValue other)) pushable
  have held : (output.script.setClaim (Payload.ofValue other)).claim? =
      some (Payload.ofValue other) := claim?_setClaim carries _
  have reread : ((output.written other notes).reread start).script.claim? =
      some (Payload.ofRaw other.encode) := by
    have read := claim?_undecoded (output.written other notes).script.source
      (output.script.setClaim (Payload.ofValue other)).source start
      (output.script.setClaim (Payload.ofValue other)).offset
      (output.script.setClaim (Payload.ofValue other)).template
    rw [← parsed] at read
    exact read.trans (congrArg _ held)
  simp only [Output.claim, reread]
  exact Claim.decode_encode other short

/-- A rebuilt script gives the claim that it was rebuilt for, if the wire keeps it. -/
theorem rereadable_rebuilt {output : Output} {claim other : Claim} {channel : Option ClaimHash}
    (decodes : output.claim = .ok claim) (complete : other.onWire = other)
    (pushable : (output.holding other channel).script.template.Pushable) :
    (output.holding other channel).rebuilt.Rereadable := by
  intro offset
  have reread := claim_reread_written decodes
    { output.annotations with channel := channel } pushable offset
  rw [complete] at reread
  exact reread.trans (claim_holding decodes other channel).symm

/-- A channel that keeps and publishes its key signs every claim that is small enough,
and what it signed can be told from the script. -/
theorem sign_ok {output channel : Output} {key : ChannelKey} {claim : Claim} {anchor : Bytes}
    (signer : channel.Signer key) (decodes : output.claim = .ok claim)
    (named : ∀ name ∈ output.script.claimName?, name.length < Script.pushLimit)
    (small : 85 + claim.messageBytes.length < Script.pushLimit)
    (sound : SignsSoundly key channel anchor claim) :
    ∃ signed, sign channel anchor output = .ok () signed ∧ signed.SignedOver channel anchor ∧
      signed.Rereadable := by
  obtain ⟨hash, identity⟩ := signer.identity
  obtain ⟨published, publishes, holds⟩ := signer.publishes
  have pushable :
      (output.holding (signedClaim claim key hash anchor) (some hash)).script.template.Pushable :=
    (pushable_holding decodes _ _).mpr
      ⟨named, by rw [length_encode_signedClaim]; exact small⟩
  have signed : rewriteClaim (signedClaim · key hash anchor) (some hash) output =
      .ok () (output.holding (signedClaim claim key hash anchor) (some hash)).rebuilt :=
    rewriteClaim_ok decodes pushable
  refine ⟨_, (congrFun (sign_eq signer.keeps identity anchor) output).trans signed, ?_,
    rereadable_rebuilt decodes rfl pushable⟩
  obtain ⟨der, encoded, verifies⟩ := ClaimSignature.verify_compact (sound hash identity) holds
  have carries :
      (output.holding (signedClaim claim key hash anchor) (some hash)).rebuilt.claim =
        .ok (signedClaim claim key hash anchor) := claim_holding decodes _ (some hash)
  exact ⟨hash, published, _, _, identity, publishes, carries, rfl, rfl, rfl, der, encoded,
    verifies⟩

/-- Signing refuses whatever is larger: the claim is signed in memory, and the script
stays. -/
theorem sign_oversized {output channel : Output} {key : ChannelKey} {claim : Claim}
    (signer : channel.Signer key) (decodes : output.claim = .ok claim)
    (oversized : ¬ ((∀ name ∈ output.script.claimName?, name.length < Script.pushLimit) ∧
      85 + claim.messageBytes.length < Script.pushLimit)) (anchor : Bytes) :
    ∃ length hash, Script.pushLimit ≤ length ∧ channel.claimHash = .ok hash ∧
      sign channel anchor output = .error (.malformed (.pushTooLarge length))
        (output.holding (signedClaim claim key hash anchor) (some hash)) := by
  obtain ⟨hash, identity⟩ := signer.identity
  have refused :
      ¬(output.holding (signedClaim claim key hash anchor)
        (some hash)).script.template.Pushable := by
    rwa [pushable_holding decodes, length_encode_signedClaim]
  obtain ⟨length, large, ran⟩ : ∃ length, Script.pushLimit ≤ length ∧
      rewriteClaim (signedClaim · key hash anchor) (some hash) output =
        .error (.malformed (.pushTooLarge length))
          (output.holding (signedClaim claim key hash anchor) (some hash)) :=
    rewriteClaim_oversized decodes refused
  refine ⟨length, hash, large, identity, ?_⟩
  exact (congrFun (sign_eq signer.keeps identity anchor) output).trans ran

end ClaimLedger.Output
