import ClaimLedger.Proofs.ClaimRewriting

/-! Signatures come in pairs. The second number of a signature and its negative modulo the
group order satisfy the same equation, and signers may give either. The check takes the lower
of the two, so both forms of every signature in range are encoded, read back and answered
alike, and a claim passes with the one exactly where it passes with the other. -/
namespace ClaimLedger

open Secp256k1

namespace Ecdsa.Signature

/-- Two numbers that a signature can have: positive and below the group order. -/
structure InRange (signature : Signature) : Prop where
  r_pos : 0 < signature.r
  r_lt : signature.r < groupOrder
  s_pos : 0 < signature.s
  s_lt : signature.s < groupOrder

/-- The same signature with the negative of its second number. -/
def mirrored (signature : Signature) : Signature :=
  ⟨signature.r, groupOrder - signature.s⟩

theorem InRange.mirrored {signature : Signature} (inRange : signature.InRange) :
    signature.mirrored.InRange where
  r_pos := inRange.r_pos
  r_lt := inRange.r_lt
  s_pos := Nat.sub_pos_of_lt inRange.s_lt
  s_lt := Nat.sub_lt (by decide) inRange.s_pos

/-- The lower half of the pair is the lesser of the two. -/
theorem normalized_eq_min {signature : Signature} (inRange : signature.InRange) :
    signature.normalized = ⟨signature.r, min signature.s (groupOrder - signature.s)⟩ := by
  have below := inRange.s_lt
  unfold normalized
  split
  · next high => rw [Nat.min_eq_right (by omega)]
  · next low => rw [Nat.min_eq_left (by omega)]

theorem normalized_mirrored {signature : Signature} (inRange : signature.InRange) :
    signature.mirrored.normalized = signature.normalized := by
  have back : groupOrder - (groupOrder - signature.s) = signature.s :=
    Nat.sub_sub_self inRange.s_lt.le
  rw [normalized_eq_min inRange, normalized_eq_min inRange.mirrored]
  simp only [Signature.mirrored, back, Nat.min_comm]

end Ecdsa.Signature

namespace ClaimSignature

variable {signature : Ecdsa.Signature}

theorem verify_mirrored (inRange : signature.InRange) (digest : Hash256) (published : Bytes) :
    verify (Der.writeSignature signature.mirrored) digest published =
      verify (Der.writeSignature signature) digest published := by
  rw [verify_writeSignature inRange.r_lt inRange.s_lt,
    verify_writeSignature inRange.mirrored.r_lt inRange.mirrored.s_lt,
    Ecdsa.Signature.normalized_mirrored inRange]

end ClaimSignature

/-- The claim with another signature. -/
def Claim.bearing (claim : Claim) (signature : FixedBytes 64) : Claim :=
  { claim with signature := some signature }

namespace Output

/-- The claim carries the signature, and so does that of the other output but for the second
number, and both outputs pay alike. -/
structure Mirrors (signature : Ecdsa.Signature) (output other : Output) : Prop where
  claims : ∃ claim, output.claim = .ok claim ∧ claim.signature = some signature.compact ∧
    other.claim = .ok (claim.bearing signature.mirrored.compact)
  payee : other.pubKeyHash? = output.pubKeyHash?

theorem mirrors_setClaim {signature : Ecdsa.Signature} {output : Output} {claim : Claim}
    (decodes : output.claim = .ok claim) (bears : claim.signature = some signature.compact)
    {payload : Payload Claim}
    (value : payload.value = .ok (claim.bearing signature.mirrored.compact)) {later : Output}
    (template : later.script.template = (output.script.setClaim payload).template) :
    Mirrors signature output later := by
  obtain ⟨held, carries, -⟩ := claim_ok decodes
  refine ⟨⟨claim, decodes, bears, ?_⟩, ?_⟩
  · have found : later.script.claim? = some payload := by
      rw [← claim?_setClaim carries payload]
      simp only [OutputScript.claim?, template]
    simp only [Output.claim, found, value]
  · have payee : (output.script.setClaim payload).template.payee? =
        output.script.template.payee? :=
      congrArg OutputScript.Heading.payee (output.script.heading_setClaim payload)
    simp only [pubKeyHash?, OutputScript.pubKeyHash?, template, payee]

/-- Nothing but the verdict on the signature depends on it. -/
theorem Mirrors.isSignedBy_eq {signature : Ecdsa.Signature} {output other : Output}
    (mirrors : Mirrors signature output other) (inRange : signature.InRange) (channel : Output)
    (anchor : Option Bytes) (ledger : Ledger) :
    other.isSignedBy channel anchor ledger = output.isSignedBy channel anchor ledger := by
  obtain ⟨⟨claim, decodes, bears, found⟩, payee⟩ := mirrors
  have digests : other.signatureDigest anchor ledger = output.signatureDigest anchor ledger := by
    simp only [signatureDigest, address?, decodes, found, payee]
    rfl
  have encoded : output.encodedSignature = .ok (Der.writeSignature signature) :=
    (encodedSignature_eq decodes bears).trans
      (ClaimSignature.encode_compact inRange.r_lt inRange.s_lt)
  have mirrored : other.encodedSignature = .ok (Der.writeSignature signature.mirrored) :=
    (encodedSignature_eq found rfl).trans
      (ClaimSignature.encode_compact inRange.mirrored.r_lt inRange.mirrored.s_lt)
  have isSigned : (claim.bearing signature.mirrored.compact).isSigned = claim.isSigned := by
    simp only [Claim.isSigned, Claim.bearing, bears, Option.isSome_some]
  have verdict (digest : Hash256) (published : Bytes) :
      ClaimSignature.isValid (Der.writeSignature signature.mirrored) digest published =
        ClaimSignature.isValid (Der.writeSignature signature) digest published := by
    simp only [ClaimSignature.isValid, ClaimSignature.verify_mirrored inRange]
  simp only [isSignedBy, decodes, found, digests, encoded, mirrored, Bind.bind, Except.bind,
    isSigned, verdict]

/-- Both forms of a signature in range are encoded, and their encodings give the same numbers
back. Over every digest and under every published key they get the same answer, that of the
lower form. A claim that carries the one can be given the other in memory, and in its script
where that can be rebuilt, and then it is answered alike, whatever channel, anchor and ledger
it is checked with; so are any two outputs that differ in nothing else that counts. -/
theorem mirrored_signature_alike {signature : Ecdsa.Signature} (inRange : signature.InRange) :
    (∃ der mirrored, ClaimSignature.encode signature.compact.toList = .ok der ∧
      ClaimSignature.encode signature.mirrored.compact.toList = .ok mirrored ∧
      Der.readSignature? der = some signature ∧
      Der.readSignature? mirrored = some signature.mirrored ∧
      ∀ digest published,
        ClaimSignature.verify mirrored digest published =
          ClaimSignature.verify der digest published ∧
        (ClaimSignature.verify der digest published = .ok () ↔
          ∃ key, ClaimSignature.decodePublicKey published = .ok key ∧
            Ecdsa.verify key digest ⟨signature.r, min signature.s (groupOrder - signature.s)⟩ =
              true)) ∧
    (∀ output claim, output.claim = .ok claim → claim.signature = some signature.compact →
      (∃ later, editClaim (·.bearing signature.mirrored.compact) output = .ok () later ∧
        Mirrors signature output later) ∧
      ∀ later, (Rewrite.edit (·.bearing signature.mirrored.compact)).perform output =
        .ok () later → Mirrors signature output later) ∧
    ∀ output other, Mirrors signature output other → ∀ channel anchor ledger,
      other.isSignedBy channel anchor ledger = output.isSignedBy channel anchor ledger := by
  refine ⟨⟨_, _, ClaimSignature.encode_compact inRange.r_lt inRange.s_lt,
    ClaimSignature.encode_compact inRange.mirrored.r_lt inRange.mirrored.s_lt,
    Der.readSignature?_writeSignature inRange.r_lt inRange.s_lt,
    Der.readSignature?_writeSignature inRange.mirrored.r_lt inRange.mirrored.s_lt,
    fun digest published => ⟨ClaimSignature.verify_mirrored inRange digest published, ?_⟩⟩,
    fun output claim decodes bears => ⟨?_, fun later ran => ?_⟩,
    fun output other mirrors => mirrors.isSignedBy_eq inRange⟩
  · rw [← Ecdsa.Signature.normalized_eq_min inRange]
    exact ClaimSignature.verify_writeSignature_ok_iff inRange.r_lt inRange.s_lt
  · obtain ⟨payload, carries, value⟩ := claim_ok decodes
    exact ⟨_, editClaim_ok carries value _, mirrors_setClaim decodes bears rfl rfl⟩
  · have outcome := outcome_edit output (·.bearing signature.mirrored.compact)
    rw [ran] at outcome
    cases outcome with
    | written found asks pushable =>
      cases asks
      obtain rfl := Except.ok.inj (found.symm.trans decodes)
      exact mirrors_setClaim decodes bears rfl rfl

/-- The signature on the stream that is signed with the key one. -/
def unitSignature : Ecdsa.Signature :=
  ⟨0x4636d6cabdd09aacac937a731ed6764ca25a3b344d2aaad7818c6735d9ead8fe,
    0x58f8236b661f4fa263dff280fa53816b4e5c339c2770baa9f1dd6369c02bd85e⟩

theorem inRange_unitSignature : unitSignature.InRange where
  r_pos := by decide
  r_lt := by decide
  s_pos := by decide
  s_lt := by decide

/-- The stream passes with the higher form of its signature too, in memory and written. -/
theorem mirrored_signature_alike_unitSigned :
    groupOrder / 2 < unitSignature.mirrored.s ∧
      ∃ edited written,
        editClaim (·.bearing unitSignature.mirrored.compact) unitSigned = .ok () edited ∧
        edited.isSignedBy (unitChannel (evenHash 0x11)) (some unitAnchor) Ledger.mainNetwork =
          .ok true ∧
        (Rewrite.edit (·.bearing unitSignature.mirrored.compact)).perform unitSigned =
          .ok () written ∧
        written.isSignedBy (unitChannel (evenHash 0x11)) (some unitAnchor) Ledger.mainNetwork =
          .ok true := by
  obtain ⟨-, replace, alike⟩ := mirrored_signature_alike inRange_unitSignature
  have decodes : unitSigned.claim = .ok _ := rfl
  obtain ⟨⟨edited, edits, mirrors⟩, written⟩ := replace unitSigned _ decodes rfl
  have passes : unitSigned.isSignedBy (unitChannel (evenHash 0x11)) (some unitAnchor)
      Ledger.mainNetwork = .ok true := by
    decide +kernel
  exact ⟨by decide, edited, _, edits, (alike _ _ mirrors _ _ _).trans passes, rfl,
    (alike _ _ (written _ rfl) _ _ _).trans passes⟩

end Output

end ClaimLedger
