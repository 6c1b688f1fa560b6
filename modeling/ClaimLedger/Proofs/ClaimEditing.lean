import ClaimLedger.Output.Signing
import ClaimLedger.Proofs.Templates

/-! Changing the claim of an output. Signing and clearing do the same three
things: they change the claim in memory, note a channel or none, and rebuild the
script. They stop before the first where the claim does not decode, and after the
second where the new claim is too large for a script; there is no other way to
fail. -/
namespace ClaimLedger.Output

/-- Changes the claim, notes a channel and rebuilds the script. -/
def rewriteClaim (edit : Claim → Claim) (channel : Option ClaimHash) :
    EStateM Error Output Unit := do
  editClaim edit
  modify fun output =>
    { output with annotations := { output.annotations with channel := channel } }
  regenerate

/-- The output with another claim in its template and a channel noted. The bytes
of its script are still those before. -/
def holding (output : Output) (claim : Claim) (channel : Option ClaimHash) : Output :=
  { output with
    script := output.script.setClaim (Payload.ofValue claim)
    annotations := { output.annotations with channel := channel } }

/-- The output with the bytes of its script following its template. -/
def rebuilt (output : Output) : Output :=
  { output with script := { output.script with source := output.script.template.script } }

/-- The output with another claim and other annotations, and the bytes of its script
following them. -/
def written (output : Output) (claim : Claim) (notes : Annotations) : Output :=
  let script := output.script.setClaim (Payload.ofValue claim)
  { output with
    script := { script with source := script.template.script }
    annotations := notes }

/-- Clearing is one such change. -/
theorem clearSignature_eq : clearSignature = rewriteClaim Claim.clearSignature none := rfl

/-- Signing is another, for channels with a key and an identity. -/
theorem sign_eq {channel : Output} {key : ChannelKey} {hash : ClaimHash}
    (keeps : channel.annotations.privateKey = some key) (identity : channel.claimHash = .ok hash)
    (anchor : Bytes) :
    sign channel anchor = rewriteClaim (signedClaim · key hash anchor) (some hash) := by
  simp only [sign, keeps, identity]
  rfl

/-- Other channels sign nothing. -/
theorem sign_refuses {channel : Output} {anchor : Bytes}
    (unable : ∀ key hash, channel.annotations.privateKey = some key →
      channel.claimHash ≠ .ok hash) :
    ∃ cause, ∀ output, sign channel anchor output = .error cause output := by
  cases keeps : channel.annotations.privateKey with
  | none =>
    refine ⟨.missingPrivateKey, fun output => ?_⟩
    simp only [sign, keeps]
    rfl
  | some key =>
    cases identity : channel.claimHash with
    | ok hash => exact absurd identity (unable key hash keeps)
    | error cause =>
      refine ⟨cause, fun output => ?_⟩
      simp only [sign, keeps, identity]
      rfl

/-! ## The claim that an output holds -/

/-- Outputs with a claim name it or update it. -/
theorem claim_ok {output : Output} {claim : Claim} (decodes : output.claim = .ok claim) :
    ∃ payload, output.script.claim? = some payload ∧ payload.value = .ok claim := by
  unfold Output.claim at decodes
  cases carries : output.script.claim? with
  | none =>
    rw [carries] at decodes
    cases decodes
  | some payload =>
    rw [carries] at decodes
    exact ⟨payload, rfl, decodes⟩

theorem claim?_setClaim {script : OutputScript} {payload : Payload Claim}
    (carries : script.claim? = some payload) (other : Payload Claim) :
    (script.setClaim other).claim? = some other := by
  obtain ⟨source, offset, template⟩ := script
  cases template with
  | claimName name claim payee => rfl
  | updateClaim name hash claim payee => rfl
  | _ => cases carries

theorem claim_holding {output : Output} {claim : Claim} (decodes : output.claim = .ok claim)
    (other : Claim) (channel : Option ClaimHash) :
    (output.holding other channel).claim = .ok other := by
  obtain ⟨payload, carries, -⟩ := claim_ok decodes
  simp only [Output.claim, holding, claim?_setClaim carries]
  rfl

/-- The bytes of a payload follow the claim it holds. -/
theorem synced_setClaim {script : OutputScript} {payload : Payload Claim}
    (carries : script.claim? = some payload) (claim : Claim) :
    (script.setClaim (payload.withValue claim)).template.synced =
      (script.setClaim (Payload.ofValue claim)).template := by
  obtain ⟨source, offset, template⟩ := script
  cases template with
  | claimName name claim payee => rfl
  | updateClaim name hash claim payee => rfl
  | _ => cases carries

/-- A script can be rebuilt around a claim when its name and the claim are small
enough. -/
theorem pushable_holding {output : Output} {claim : Claim} (decodes : output.claim = .ok claim)
    (other : Claim) (channel : Option ClaimHash) :
    (output.holding other channel).script.template.Pushable ↔
      (∀ name ∈ output.script.claimName?, name.length < Script.pushLimit) ∧
        other.encode.length < Script.pushLimit := by
  obtain ⟨payload, carries, -⟩ := claim_ok decodes
  obtain ⟨amount, ⟨source, offset, template⟩, annotations, place⟩ := output
  cases template with
  | claimName name claim payee =>
    simp only [holding, OutputScript.setClaim, OutputTemplate.Pushable, Payload.ofValue,
      OutputScript.claimName?, Option.mem_def, Option.some.injEq, forall_eq']
    rfl
  | updateClaim name hash claim payee =>
    simp only [holding, OutputScript.setClaim, OutputTemplate.Pushable, Payload.ofValue,
      OutputScript.claimName?, Option.mem_def, Option.some.injEq, forall_eq']
    rfl
  | _ => cases carries

theorem known_setClaim {script : OutputScript} {payload : Payload Claim}
    (carries : script.claim? = some payload) (other : Payload Claim) :
    (script.setClaim other).template ≠ .other := by
  intro unknown
  have none : (script.setClaim other).claim? = none := by
    simp only [OutputScript.claim?, unknown]
  rw [claim?_setClaim carries] at none
  cases none

/-! ## How the change runs -/

theorem editClaim_ok {output : Output} {claim : Claim} {payload : Payload Claim}
    (carries : output.script.claim? = some payload) (value : payload.value = .ok claim)
    (edit : Claim → Claim) :
    editClaim edit output =
      .ok () { output with script := output.script.setClaim (payload.withValue (edit claim)) } := by
  simp only [editClaim, carries, value]

/-- What does not decode is not changed. -/
theorem editClaim_undecoded {output : Output} {cause : Error}
    (undecoded : output.claim = .error cause) (edit : Claim → Claim) :
    editClaim edit output = .error cause output := by
  unfold Output.claim at undecoded
  cases carries : output.script.claim? with
  | none =>
    rw [carries] at undecoded
    cases undecoded
    simp only [editClaim, carries]
  | some payload =>
    rw [carries] at undecoded
    have value : payload.value = .error cause := undecoded
    simp only [editClaim, carries, value]

theorem rewriteClaim_undecoded {output : Output} {cause : Error}
    (undecoded : output.claim = .error cause) (edit : Claim → Claim) (channel : Option ClaimHash) :
    rewriteClaim edit channel output = .error cause output := by
  simp only [rewriteClaim, Bind.bind, EStateM.bind, editClaim_undecoded undecoded]

/-- Up to the rebuilding of the script the change cannot fail. -/
theorem rewriteClaim_run {output : Output} {claim : Claim} {payload : Payload Claim}
    (carries : output.script.claim? = some payload) (value : payload.value = .ok claim)
    (edit : Claim → Claim) (channel : Option ClaimHash) :
    rewriteClaim edit channel output =
      regenerate
        { output with
          script := output.script.setClaim (payload.withValue (edit claim))
          annotations := { output.annotations with channel := channel } } := by
  simp only [rewriteClaim, Bind.bind, EStateM.bind, editClaim_ok carries value]
  rfl

/-- The script can be rebuilt around a claim that is small enough for it. -/
theorem regenerate_ok {output : Output} {payload : Payload Claim}
    (carries : output.script.claim? = some payload) {claim : Claim} (notes : Annotations)
    (pushable : (output.script.setClaim (Payload.ofValue claim)).template.Pushable) :
    regenerate
        { output with
          script := output.script.setClaim (payload.withValue claim)
          annotations := notes } =
      .ok () (output.written claim notes) := by
  have synced := synced_setClaim carries claim
  have generated := OutputScript.generate_pushable
    (synced ▸ known_setClaim carries (Payload.ofValue claim)) (synced ▸ pushable)
  rw [synced] at generated
  simp only [regenerate, generated]
  rfl

/-- Around other claims it is not; the claim stays behind in memory. -/
theorem regenerate_oversized {output : Output} {payload : Payload Claim}
    (carries : output.script.claim? = some payload) {claim : Claim} (notes : Annotations)
    (oversized : ¬ (output.script.setClaim (Payload.ofValue claim)).template.Pushable) :
    ∃ length, Script.pushLimit ≤ length ∧
      regenerate
          { output with
            script := output.script.setClaim (payload.withValue claim)
            annotations := notes } =
        .error (.malformed (.pushTooLarge length))
          { output with
            script := output.script.setClaim (Payload.ofValue claim)
            annotations := notes } := by
  have synced := synced_setClaim carries claim
  obtain ⟨length, large, refused⟩ := OutputScript.generate_oversized (synced ▸ oversized)
  rw [synced] at refused
  refine ⟨length, large, ?_⟩
  simp only [regenerate, refused]
  rfl

theorem rewriteClaim_ok {output : Output} {claim : Claim} (decodes : output.claim = .ok claim)
    {edit : Claim → Claim} {channel : Option ClaimHash}
    (pushable : (output.holding (edit claim) channel).script.template.Pushable) :
    rewriteClaim edit channel output = .ok () (output.holding (edit claim) channel).rebuilt := by
  obtain ⟨payload, carries, value⟩ := claim_ok decodes
  rw [rewriteClaim_run carries value, regenerate_ok carries _ pushable]
  rfl

theorem rewriteClaim_oversized {output : Output} {claim : Claim}
    (decodes : output.claim = .ok claim) {edit : Claim → Claim} {channel : Option ClaimHash}
    (oversized : ¬ (output.holding (edit claim) channel).script.template.Pushable) :
    ∃ length, Script.pushLimit ≤ length ∧ rewriteClaim edit channel output =
      .error (.malformed (.pushTooLarge length)) (output.holding (edit claim) channel) := by
  obtain ⟨payload, carries, value⟩ := claim_ok decodes
  obtain ⟨length, large, refused⟩ := regenerate_oversized carries
    { output.annotations with channel := channel } oversized
  exact ⟨length, large, (rewriteClaim_run carries value edit channel).trans refused⟩

end ClaimLedger.Output
