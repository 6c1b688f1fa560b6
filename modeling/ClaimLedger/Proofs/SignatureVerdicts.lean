import ClaimLedger.Proofs.MirroredSignatures
import ClaimLedger.Proofs.SignatureSchemes

/-! What a check of a signature comes to. It can fail: there may be no key to check against, no
claim to check, or nothing that the claim could have been signed over. Signature and key
themselves never make it fail. Whatever bytes they are, the check ends, and those that are none
do not pass. -/
namespace ClaimLedger

open Secp256k1

/-! ## What passes is well formed -/

theorem Ecdsa.Signature.pos_of_normalized {signature : Ecdsa.Signature}
    (first : 0 < signature.normalized.r) (second : 0 < signature.normalized.s) :
    0 < signature.r ∧ 0 < signature.s := by
  unfold normalized at first second
  split at second
  · next high =>
    rw [if_pos high] at first
    exact ⟨first, Nat.zero_lt_of_lt high⟩
  · next low =>
    rw [if_neg low] at first
    exact ⟨first, second⟩

/-- Only numbers in range verify, and only under keys that are points. -/
theorem ClaimSignature.wellFormed_of_verifies {signature : FixedBytes 64} {digest : Hash256}
    {published : Bytes} (verifies : Output.Verifies signature digest published) :
    (∃ scalars : Ecdsa.Signature, scalars.InRange ∧ scalars.compact = signature) ∧
      ∃ key, decodePublicKey published = .ok key := by
  obtain ⟨der, encoded, verified⟩ := verifies
  obtain ⟨scalars, spells, first, second, rfl⟩ := encode_ok encoded
  obtain ⟨key, decoded, lower⟩ := (verify_writeSignature_ok_iff first second).mp verified
  obtain ⟨firstPos, secondPos, -, -⟩ := Ecdsa.range_of_verify lower
  obtain ⟨r_pos, s_pos⟩ := Ecdsa.Signature.pos_of_normalized firstPos secondPos
  exact ⟨⟨scalars, ⟨r_pos, first, s_pos, second⟩, spells⟩, key, decoded⟩

namespace Output

/-! ## What the check reads -/

/-- Channels publish a key, whatever bytes it is. -/
theorem publishedKey_ok_iff {channel : Output} :
    (∃ published, channel.publishedKey = .ok published) ↔
      ∃ claim content, channel.claim = .ok claim ∧ claim.message = .channel content := by
  constructor
  · rintro ⟨published, publishes⟩
    obtain ⟨claim, decodes, publishes⟩ := Error.bind_ok_iff.mp publishes
    refine ⟨claim, ?_⟩
    cases said : claim.message with
    | channel content => exact ⟨content, decodes, rfl⟩
    | _ =>
      simp only [Claim.asChannel?, said] at publishes
      cases publishes
  · rintro ⟨claim, content, decodes, said⟩
    refine ⟨content.publicKey, Error.bind_ok_iff.mpr ⟨claim, decodes, ?_⟩⟩
    simp only [Claim.asChannel?, said]
    rfl

theorem signingState_eq_signed_iff {output : Output} :
    output.signingState = .signed ↔ ∃ claim signature, output.claim = .ok claim ∧
      claim.signature = some signature ∧ claim.unsignedPayload = none := by
  unfold signingState
  cases output.claim with
  | error cause => simp
  | ok claim =>
    obtain ⟨message, channelHash, signature, unsignedPayload⟩ := claim
    cases signature <;> cases unsignedPayload <;> simp [Claim.isSigned]

theorem signingState_eq_legacySigned_iff {output : Output} :
    output.signingState = .legacySigned ↔ ∃ claim signature payload, output.claim = .ok claim ∧
      claim.signature = some signature ∧ claim.unsignedPayload = some payload := by
  unfold signingState
  cases output.claim with
  | error cause => simp
  | ok claim =>
    obtain ⟨message, channelHash, signature, unsignedPayload⟩ := claim
    cases signature <;> cases unsignedPayload <;> simp [Claim.isSigned]

/-- The claim in the output, if it is signed, names a channel. Claims that are edited in memory
need not. -/
def NamesSigner (output : Output) : Prop :=
  ∀ claim, output.claim = .ok claim → claim.isSigned = true →
    ∃ named, claim.channelHash = some named

/-- What comes from the wire carries signature and channel together. -/
theorem namesSigner_of_faithful {output : Output} (faithful : output.script.Faithful) :
    output.NamesSigner := by
  intro claim decodes signed
  obtain ⟨payload, carries, value⟩ := claim_ok decodes
  have complete := onWire_faithful faithful carries value
  obtain ⟨message, channelHash, signature, unsignedPayload⟩ := claim
  cases channelHash with
  | some named => exact ⟨named, rfl⟩
  | none =>
    obtain rfl : none = signature := congrArg Claim.signature complete
    cases signed

/-- A claim passes only with a key that is a point and a signature in range. -/
theorem wellFormed_of_isSignedBy {output channel : Output} {anchor : Option Bytes}
    {ledger : Ledger} (passed : output.isSignedBy channel anchor ledger = .ok true) :
    ∃ published key claim, ∃ scalars : Ecdsa.Signature, channel.publishedKey = .ok published ∧
      ClaimSignature.decodePublicKey published = .ok key ∧ output.claim = .ok claim ∧
      scalars.InRange ∧ claim.signature = some scalars.compact := by
  obtain ⟨published, publishes, claim, named, signature, digest, decodes, -, bears, -, verifies⟩ :=
    passes_of_isSignedBy passed
  obtain ⟨⟨scalars, inRange, rfl⟩, key, decoded⟩ :=
    ClaimSignature.wellFormed_of_verifies verifies
  exact ⟨published, key, claim, scalars, publishes, decoded, decodes, inRange, bears⟩

/-! ## When there is no answer -/

/-- Why it cannot be said whether the channel signed the claim. The channel is looked at first,
then the claim, and last what it is signed over. -/
inductive Unanswerable (output channel : Output) : Option Bytes → Error → Prop where
  | channelUndecoded {anchor : Option Bytes} {cause : Error}
      (undecoded : channel.claim = .error cause) : Unanswerable output channel anchor cause
  | notChannel {anchor : Option Bytes} {claim : Claim} (decodes : channel.claim = .ok claim)
      (other : claim.asChannel? = none) :
      Unanswerable output channel anchor (.noClaim .signerNotChannel)
  | undecoded {anchor : Option Bytes} {published : Bytes} {cause : Error}
      (publishes : channel.publishedKey = .ok published)
      (undecoded : output.claim = .error cause) : Unanswerable output channel anchor cause
  | noPayee {anchor : Option Bytes} {published : Bytes}
      (publishes : channel.publishedKey = .ok published)
      (scheme : output.signingState = .legacySigned) (unpaid : output.pubKeyHash? = none) :
      Unanswerable output channel anchor (.unsupportedOutput .noPayeeAddress)
  | noAnchor {published : Bytes} (publishes : channel.publishedKey = .ok published)
      (scheme : output.signingState = .signed) :
      Unanswerable output channel none (.unresolvedReference .digestAnchor)

section Answers
variable {output channel : Output} {anchor : Option Bytes} {published : Bytes} {claim : Claim}

/-- Claims without a signature are signed by nobody. -/
theorem isSignedBy_unsigned (publishes : channel.publishedKey = .ok published)
    (decodes : output.claim = .ok claim) (unsigned : claim.signature = none) (ledger : Ledger) :
    output.isSignedBy channel anchor ledger = .ok false := by
  simp only [isSignedBy, publishes, decodes, Claim.isSigned, unsigned, Bind.bind, Except.bind]
  rfl

/-- Beyond the digest nothing fails. -/
theorem isSignedBy_of_digest {digest : Hash256} (publishes : channel.publishedKey = .ok published)
    (decodes : output.claim = .ok claim) {ledger : Ledger}
    (made : output.signatureDigest anchor ledger = .ok digest) :
    ∃ verdict, output.isSignedBy channel anchor ledger = .ok verdict := by
  simp only [isSignedBy, publishes, decodes, made, Bind.bind, Except.bind]
  split
  · split
    · exact ⟨_, rfl⟩
    · exact ⟨_, rfl⟩
  · exact ⟨_, rfl⟩

theorem isSignedBy_of_no_digest {cause : Error} (publishes : channel.publishedKey = .ok published)
    (decodes : output.claim = .ok claim) (signed : claim.isSigned = true) {ledger : Ledger}
    (missing : output.signatureDigest anchor ledger = .error cause) :
    output.isSignedBy channel anchor ledger = .error cause := by
  simp only [isSignedBy, publishes, decodes, signed, missing, Bind.bind, Except.bind, if_true]

/-- A claim of the older scheme has a digest where the output pays a key. -/
theorem signatureDigest_legacy {named : ClaimHash} {payload : Bytes}
    (decodes : output.claim = .ok claim) (names : claim.channelHash = some named)
    (scheme : claim.unsignedPayload = some payload) (ledger : Ledger) :
    output.signatureDigest anchor ledger =
      match output.pubKeyHash? with
      | some hash => .ok (ClaimSignature.legacyDigest
          (Ledger.addressBytes ledger.keyAddressMark hash) payload named)
      | none => .error (.unsupportedOutput .noPayeeAddress) := by
  cases paid : output.pubKeyHash? with
  | none =>
    simp only [signatureDigest, decodes, Bind.bind, Except.bind, names, scheme, address?, paid]
    rfl
  | some hash =>
    have commits : output.CommitsLegacy hash payload named :=
      ⟨paid, claim, decodes, names, scheme⟩
    exact commits.signatureDigest anchor ledger

/-- A claim of the current one has a digest over an anchor. -/
theorem signatureDigest_current {named : ClaimHash} (decodes : output.claim = .ok claim)
    (names : claim.channelHash = some named) (scheme : claim.unsignedPayload = none)
    (ledger : Ledger) :
    output.signatureDigest anchor ledger =
      match anchor with
      | some anchor => .ok (ClaimSignature.currentDigest anchor named claim.messageBytes)
      | none => .error (.unresolvedReference .digestAnchor) := by
  simp only [signatureDigest, decodes, Bind.bind, Except.bind, names, scheme]
  cases anchor <;> rfl

/-- Each of the reasons stops the check. -/
theorem Unanswerable.isSignedBy_eq {cause : Error}
    (unanswerable : output.Unanswerable channel anchor cause) (names : output.NamesSigner)
    (ledger : Ledger) : output.isSignedBy channel anchor ledger = .error cause := by
  cases unanswerable with
  | channelUndecoded undecoded =>
    simp only [isSignedBy, publishedKey, undecoded, Bind.bind, Except.bind]
  | notChannel decodes other =>
    simp only [isSignedBy, publishedKey, decodes, other, Bind.bind, Except.bind]
    rfl
  | undecoded publishes undecoded =>
    simp only [isSignedBy, publishes, undecoded, Bind.bind, Except.bind]
  | noPayee publishes scheme unpaid =>
    obtain ⟨claim, signature, payload, decodes, bears, keeps⟩ :=
      signingState_eq_legacySigned_iff.mp scheme
    have signed := Claim.isSigned_of_signature bears
    obtain ⟨named, named_eq⟩ := names claim decodes signed
    refine isSignedBy_of_no_digest publishes decodes signed ?_
    rw [signatureDigest_legacy decodes named_eq keeps, unpaid]
  | noAnchor publishes scheme =>
    obtain ⟨claim, signature, decodes, bears, keeps⟩ := signingState_eq_signed_iff.mp scheme
    have signed := Claim.isSigned_of_signature bears
    obtain ⟨named, named_eq⟩ := names claim decodes signed
    exact isSignedBy_of_no_digest publishes decodes signed
      (signatureDigest_current decodes named_eq keeps ledger)

/-- A channel publishes a key unless it gives a reason itself. -/
theorem publishes_of_answerable (answerable : ∀ cause, ¬ output.Unanswerable channel anchor cause) :
    ∃ published, channel.publishedKey = .ok published := by
  cases heard : channel.claim with
  | error cause => exact absurd (.channelUndecoded heard) (answerable cause)
  | ok claim =>
    refine publishedKey_ok_iff.mpr ⟨claim, ?_⟩
    cases said : claim.message with
    | channel content => exact ⟨content, heard, rfl⟩
    | _ =>
      have other : claim.asChannel? = none := by simp only [Claim.asChannel?, said]
      exact absurd (.notChannel heard other) (answerable _)

/-- A signed claim has a digest unless its scheme gives a reason. -/
theorem exists_digest_of_answerable {signature : FixedBytes 64} {named : ClaimHash}
    (answerable : ∀ cause, ¬ output.Unanswerable channel anchor cause)
    (publishes : channel.publishedKey = .ok published) (decodes : output.claim = .ok claim)
    (bears : claim.signature = some signature) (names : claim.channelHash = some named)
    (ledger : Ledger) : ∃ digest, output.signatureDigest anchor ledger = .ok digest := by
  cases scheme : claim.unsignedPayload with
  | some payload =>
    have state := signingState_eq_legacySigned_iff.mpr
      ⟨claim, signature, payload, decodes, bears, scheme⟩
    rw [signatureDigest_legacy decodes names scheme]
    cases paid : output.pubKeyHash? with
    | none => exact absurd (.noPayee publishes state paid) (answerable _)
    | some hash => exact ⟨_, rfl⟩
  | none =>
    have state := signingState_eq_signed_iff.mpr ⟨claim, signature, decodes, bears, scheme⟩
    rw [signatureDigest_current decodes names scheme]
    cases anchor with
    | none => exact absurd (.noAnchor publishes state) (answerable _)
    | some anchor => exact ⟨_, rfl⟩

/-- Where there is none of them the check ends. -/
theorem isSignedBy_of_answerable (names : output.NamesSigner)
    (answerable : ∀ cause, ¬ output.Unanswerable channel anchor cause) (ledger : Ledger) :
    ∃ verdict, output.isSignedBy channel anchor ledger = .ok verdict := by
  obtain ⟨published, publishes⟩ := publishes_of_answerable answerable
  cases decodes : output.claim with
  | error cause => exact absurd (.undecoded publishes decodes) (answerable cause)
  | ok claim =>
    cases bears : claim.signature with
    | none => exact ⟨false, isSignedBy_unsigned publishes decodes bears ledger⟩
    | some signature =>
      obtain ⟨named, names⟩ := names claim decodes (Claim.isSigned_of_signature bears)
      obtain ⟨digest, made⟩ :=
        exists_digest_of_answerable answerable publishes decodes bears names ledger
      exact isSignedBy_of_digest publishes decodes made

theorem isSignedBy_eq_error_iff (names : output.NamesSigner) (ledger : Ledger) (cause : Error) :
    output.isSignedBy channel anchor ledger = .error cause ↔
      output.Unanswerable channel anchor cause := by
  refine ⟨fun failed => ?_, fun unanswerable => unanswerable.isSignedBy_eq names ledger⟩
  by_cases answerable : ∀ other, ¬ output.Unanswerable channel anchor other
  · obtain ⟨verdict, ended⟩ := isSignedBy_of_answerable names answerable ledger
    rw [ended] at failed
    cases failed
  · obtain ⟨other, unanswerable⟩ := not_forall_not.mp answerable
    have same : Except.error other = Except.error cause :=
      (unanswerable.isSignedBy_eq names ledger).symm.trans failed
    cases same
    exact unanswerable

/-- The reasons without their causes. -/
theorem exists_unanswerable_iff :
    (∃ cause, output.Unanswerable channel anchor cause) ↔
      (¬ ∃ claim content, channel.claim = .ok claim ∧ claim.message = .channel content) ∨
      (¬ ∃ claim, output.claim = .ok claim) ∨
      (output.signingState = .legacySigned ∧ output.pubKeyHash? = none) ∨
      (output.signingState = .signed ∧ anchor = none) := by
  constructor
  · rintro ⟨cause, unanswerable⟩
    cases unanswerable with
    | channelUndecoded undecoded =>
      left
      rintro ⟨claim, content, decodes, -⟩
      rw [undecoded] at decodes
      cases decodes
    | notChannel decodes other =>
      left
      rintro ⟨claim, content, found, said⟩
      obtain rfl := Except.ok.inj (found.symm.trans decodes)
      simp only [Claim.asChannel?, said] at other
      cases other
    | undecoded publishes undecoded =>
      right; left
      rintro ⟨claim, decodes⟩
      rw [undecoded] at decodes
      cases decodes
    | noPayee publishes scheme unpaid => exact .inr (.inr (.inl ⟨scheme, unpaid⟩))
    | noAnchor publishes scheme => exact .inr (.inr (.inr ⟨scheme, rfl⟩))
  · intro reasons
    by_contra answerable
    have answerable := not_exists.mp answerable
    obtain ⟨published, publishes⟩ := publishes_of_answerable answerable
    rcases reasons with silent | undecoded | ⟨scheme, unpaid⟩ | ⟨scheme, rfl⟩
    · exact silent (publishedKey_ok_iff.mp ⟨published, publishes⟩)
    · cases decodes : output.claim with
      | error cause => exact answerable cause (.undecoded publishes decodes)
      | ok claim => exact undecoded ⟨claim, decodes⟩
    · exact answerable _ (.noPayee publishes scheme unpaid)
    · exact answerable _ (.noAnchor publishes scheme)

end Answers

/-- The check of an output whose script was read, and which anybody may have looked at, fails
for four reasons only, each with its own error: the channel has no claim that decodes to a
channel, the output has none that decodes, a claim of the older scheme pays no key, one of the
current scheme comes without an anchor. In every other case it ends, whatever the bytes of
signature and key are: it never passes without a signature, with a key that is no point of the
curve, or with a signature whose numbers are out of range. -/
theorem isSignedBy_fails_for_structure (amount : UInt64) (source : Bytes) (offset : Nat)
    (annotations : Annotations) (place : Option Attachment) (looks : List Read)
    (channel : Output) (anchor : Option Bytes) (ledger : Ledger) :
    let output := looks.foldl after ⟨amount, OutputScript.parse source offset, annotations, place⟩
    (∀ cause, output.isSignedBy channel anchor ledger = .error cause ↔
      output.Unanswerable channel anchor cause) ∧
    ((∃ cause, output.isSignedBy channel anchor ledger = .error cause) ↔
      (¬ ∃ claim content, channel.claim = .ok claim ∧ claim.message = .channel content) ∨
      (¬ ∃ claim, output.claim = .ok claim) ∨
      (output.signingState = .legacySigned ∧ output.pubKeyHash? = none) ∨
      (output.signingState = .signed ∧ anchor = none)) ∧
    ∀ verdict, output.isSignedBy channel anchor ledger = .ok verdict →
      (∀ claim, output.claim = .ok claim → claim.signature = none → verdict = false) ∧
      (∀ published, channel.publishedKey = .ok published →
        (∀ key, ClaimSignature.decodePublicKey published ≠ .ok key) → verdict = false) ∧
      ∀ claim signature, output.claim = .ok claim → claim.signature = some signature →
        (∀ scalars : Ecdsa.Signature, scalars.InRange → scalars.compact ≠ signature) →
        verdict = false := by
  intro output
  have read : (Output.mk amount (OutputScript.parse source offset) annotations
      place).script.Faithful := OutputScript.faithful_parse source offset
  have names : output.NamesSigner := namesSigner_of_faithful (faithful_looked read looks)
  have fails (cause : Error) := @isSignedBy_eq_error_iff output channel anchor names ledger cause
  refine ⟨fails, (exists_congr fails).trans exists_unanswerable_iff, fun verdict ended => ?_⟩
  cases verdict with
  | false => exact ⟨fun _ _ _ => rfl, fun _ _ _ => rfl, fun _ _ _ _ _ => rfl⟩
  | true =>
    obtain ⟨published, key, claim, scalars, publishes, decoded, decodes, inRange, bears⟩ :=
      wellFormed_of_isSignedBy ended
    refine ⟨fun other found unsigned => ?_, fun other found malformed => ?_,
      fun other signature found carries malformed => ?_⟩
    · obtain rfl := Except.ok.inj (found.symm.trans decodes)
      rw [unsigned] at bears
      cases bears
    · obtain rfl := Except.ok.inj (found.symm.trans publishes)
      exact absurd decoded (malformed key)
    · obtain rfl := Except.ok.inj (found.symm.trans decodes)
      exact absurd (Option.some.inj (bears.symm.trans carries)) (malformed scalars inRange)

/-- A channel that publishes a byte for its key. -/
def byteChannel : Output :=
  updating (evenHash 0x11) (Claim.ofMessage (.channel ⟨[0xff], "c"⟩))

/-- A script with a stream that carries the highest bytes for its signature. -/
def highBytesScript : Bytes :=
  (updating (evenHash 0x33)
    { message := .stream ⟨"v", "", none⟩
      channelHash := some (evenHash 0x11)
      signature := some ⟨List.replicate 64 0xff, List.length_replicate⟩
      unsignedPayload := none }).script.source

/-- Neither of the two makes the check fail, only the missing anchor does. -/
theorem isSignedBy_fails_for_structure_highBytes :
    let output : Output := ⟨1, OutputScript.parse highBytesScript 0, {}, none⟩
    output.isSignedBy byteChannel (some unitAnchor) Ledger.mainNetwork = .ok false ∧
      output.isSignedBy byteChannel none Ledger.mainNetwork =
        .error (.unresolvedReference .digestAnchor) := by
  intro output
  obtain ⟨-, reasons, verdicts⟩ := isSignedBy_fails_for_structure 1 highBytesScript 0 {} none []
    byteChannel (some unitAnchor) Ledger.mainNetwork
  obtain ⟨fails, -, -⟩ := isSignedBy_fails_for_structure 1 highBytesScript 0 {} none []
    byteChannel none Ledger.mainNetwork
  have state : output.signingState = .signed := by decide +kernel
  refine ⟨?_, (fails _).mpr (.noAnchor rfl state)⟩
  cases ended : output.isSignedBy byteChannel (some unitAnchor) Ledger.mainNetwork with
  | ok verdict =>
    have malformed (key : Point) : ClaimSignature.decodePublicKey [0xff] ≠ .ok key := nofun
    exact congrArg Except.ok ((verdicts verdict ended).2.1 [0xff] rfl malformed)
  | error cause =>
    rcases reasons.mp ⟨cause, ended⟩ with silent | undecoded | ⟨scheme, -⟩ | ⟨-, unanchored⟩
    · exact absurd ⟨_, _, rfl, rfl⟩ silent
    · exact absurd ⟨_, rfl⟩ undecoded
    · exact nomatch state.symm.trans scheme
    · cases unanchored

end Output

end ClaimLedger
