import ClaimLedger.Proofs.SignatureVerdicts

/-! What claims of the older scheme are signed over. Their digest begins with the bytes that the
address of the payee spells. The address is text in between, but base 58 gives back every byte
that it was made from, zeros in front too, so that the bytes are always the same twenty-five and
no address is ever invalid. Nor does an invalid address come from the claim, which is refused for
faults of its own. -/
namespace ClaimLedger

/-! ## Addresses -/

namespace Ledger

/-- An address spells one mark and one hash. -/
theorem addressBytes_inj {mark otherMark : UInt8} {hash otherHash : Hash160}
    (same : addressBytes mark hash = addressBytes otherMark otherHash) :
    mark = otherMark ∧ hash = otherHash := by
  have lengths : (mark :: hash.toList).length = (otherMark :: otherHash.toList).length := by
    rw [List.length_cons, List.length_cons, hash.length_toList, otherHash.length_toList]
  obtain ⟨spelled, -⟩ := List.append_inj same lengths
  obtain ⟨marks, hashes⟩ := List.cons.inj spelled
  exact ⟨marks, FixedBytes.ext hashes⟩

/-- The address of a key tells its mark and its hash. -/
theorem keyAddress_eq_iff {ledger other : Ledger} {hash otherHash : Hash160} :
    ledger.keyAddress hash = other.keyAddress otherHash ↔
      ledger.keyAddressMark = other.keyAddressMark ∧ hash = otherHash := by
  constructor
  · intro same
    have bytes : Except.ok (addressBytes ledger.keyAddressMark hash) =
        Except.ok (ε := Error) (addressBytes other.keyAddressMark otherHash) := by
      rw [← Output.decodeAddress_keyAddress, same, Output.decodeAddress_keyAddress]
    exact addressBytes_inj (Except.ok.inj bytes)
  · rintro ⟨marks, rfl⟩
    rw [keyAddress, keyAddress, marks]

end Ledger

/-! ## Faults of claims -/

/-- Faults of bytes that are read as a claim. -/
def Malformation.OfClaim : Malformation → Prop
  | shortRead _ _ _ => True
  | lengthOverrun _ _ => True
  | trailingAfterMessage _ => True
  | fieldText _ _ => True
  | feeFlag _ => True
  | claimKind _ => True
  | claimEnvelope _ => True
  | _ => False

/-- The error is a fault of a claim. -/
def Error.OfClaim : Error → Prop
  | malformed fault => fault.OfClaim
  | _ => False

namespace Reader

variable {α β : Type}

/-- The reader refuses bytes for faults of a claim and for nothing else. -/
def Faults (reader : Reader α) : Prop :=
  ∀ before cause after, reader before = .error cause after → cause.OfClaim

namespace Faults

theorem pure (value : α) : Faults (Pure.pure value : Reader α) := nofun

theorem throw {cause : Error} (fault : cause.OfClaim) :
    Faults (MonadExcept.throw cause : Reader α) := by
  rintro before _ after ⟨⟩
  exact fault

theorem bind {reader : Reader α} {next : α → Reader β} (first : Faults reader)
    (rest : ∀ value, Faults (next value)) : Faults (reader >>= next) := by
  intro before cause after refused
  cases ran : reader before with
  | ok value middle =>
    refine rest value middle cause after ?_
    simpa only [Bind.bind, EStateM.bind, ran] using refused
  | error fault middle =>
    have same : EStateM.Result.error fault middle = EStateM.Result.error (α := β) cause after := by
      simpa only [Bind.bind, EStateM.bind, ran] using refused
    cases same
    exact first before cause after ran

theorem map {reader : Reader α} {f : α → β} (faults : Faults reader) :
    Faults (reader >>= fun value => Pure.pure (f value)) :=
  faults.bind fun value => pure (f value)

theorem ite {reader other : Reader α} {condition : Prop} [Decidable condition]
    (faults : Faults reader) (otherwise : Faults other) :
    Faults (if condition then reader else other) := by
  split
  · exact faults
  · exact otherwise

theorem take (n : Nat) : Faults (Reader.take n) := by
  intro before cause after refused
  unfold Reader.take at refused
  split at refused
  split at refused
  · cases refused
  · cases refused
    trivial

theorem number (width : Nat) : Faults (Reader.number width) := (take width).map

theorem u8 : Faults Reader.u8 := (number 1).map

theorem u64 : Faults Reader.u64 := (number 8).map

theorem fixed (n : Nat) : Faults (Reader.fixed n) := (take n).map

theorem compactSize : Faults Reader.compactSize :=
  u8.bind fun first => ite (number 2) (ite (number 4) (ite (number 8) (pure first.toNat)))

theorem string : Faults Reader.string := by
  have look : Faults (get : Reader Cursor) := nofun
  exact compactSize.bind fun length => look.bind fun c => ite (take length) (throw trivial)

theorem replicate {reader : Reader α} (faults : Faults reader) (count : Nat) :
    Faults (Reader.replicate reader count) := by
  induction count with
  | zero => exact pure []
  | succ count ih => exact faults.bind fun _ => ih.map

end Faults

end Reader

open Reader (Faults)

namespace ClaimMessage

theorem faults_readText (field : TextField) : Faults (readText field) := by
  refine Faults.string.bind fun bytes => ?_
  cases Utf8.decode bytes with
  | ok text => exact .pure text
  | error fault => exact .throw trivial

theorem faults_readFee : Faults readFee := by
  refine Faults.u8.bind fun _ => .ite ?absent <| .ite ?present (.throw trivial)
  case absent => exact .pure none
  case present => exact (faults_readText .feeCurrency).bind fun _ => Faults.u64.map

theorem faults_read : Faults read := by
  refine Faults.u8.bind fun kind => .ite ?stream <| .ite ?channel <| .ite ?repost <|
    .ite ?collection (.throw trivial)
  case stream =>
    exact (faults_readText .streamTitle).bind fun _ =>
      (faults_readText .streamDescription).bind fun _ => faults_readFee.map
  case channel => exact Faults.string.bind fun _ => (faults_readText .channelTitle).map
  case repost => exact (Faults.fixed 20).map
  case collection =>
    exact Faults.compactSize.bind fun count => ((Faults.fixed 20).replicate count).map

end ClaimMessage

namespace Claim

theorem faults_read : Faults read := by
  refine Faults.u8.bind fun envelope => .ite ?unsigned <| .ite ?signed <| .ite ?legacy
    (.throw trivial)
  case unsigned => exact ClaimMessage.faults_read.map
  case signed =>
    exact (Faults.fixed 20).bind fun _ => (Faults.fixed 64).bind fun _ =>
      ClaimMessage.faults_read.map
  case legacy =>
    exact (Faults.fixed 20).bind fun _ => (Faults.fixed 64).bind fun _ =>
      Faults.string.bind fun _ => ClaimMessage.faults_read.map

/-- Bytes are refused as a claim for faults of a claim. -/
theorem ofClaim_of_decode {bytes : Bytes} {cause : Error} (refused : decode bytes = .error cause) :
    cause.OfClaim := by
  unfold decode Reader.run at refused
  cases ran : read (Cursor.start bytes) with
  | error fault after =>
    rw [ran] at refused
    cases refused
    exact faults_read _ _ _ ran
  | ok claim after =>
    simp only [ran] at refused
    split at refused
    · cases refused
    · cases refused
      trivial

end Claim

namespace Output

/-- An output without a claim that decodes has no payload, or one with a fault of a claim. -/
theorem claim_error {output : Output} {cause : Error} (undecoded : output.claim = .error cause) :
    cause = .noClaim .payload ∨ cause.OfClaim := by
  unfold claim at undecoded
  split at undecoded
  · cases undecoded
    exact .inl rfl
  · unfold Payload.value at undecoded
    split at undecoded
    · cases undecoded
    · exact .inr (Claim.ofClaim_of_decode undecoded)

/-! ## Missing digests -/

/-- What a claim can lack that it would be signed over. -/
inductive Undigested (output : Output) (anchor : Option Bytes) : Error → Prop where
  | undecoded {cause : Error} (undecoded : output.claim = .error cause) :
      Undigested output anchor cause
  | noChannel {claim : Claim} (decodes : output.claim = .ok claim)
      (nameless : claim.channelHash = none) :
      Undigested output anchor (.invalidSignature .noChannel)
  | noPayee {claim : Claim} {named : ClaimHash} {payload : Bytes}
      (decodes : output.claim = .ok claim) (names : claim.channelHash = some named)
      (scheme : claim.unsignedPayload = some payload) (unpaid : output.pubKeyHash? = none) :
      Undigested output anchor (.unsupportedOutput .noPayeeAddress)
  | noAnchor {claim : Claim} {named : ClaimHash} (decodes : output.claim = .ok claim)
      (names : claim.channelHash = some named) (scheme : claim.unsignedPayload = none)
      (unanchored : anchor = none) :
      Undigested output anchor (.unresolvedReference .digestAnchor)

section
variable {output : Output} {anchor : Option Bytes} {ledger : Ledger} {cause : Error}

theorem Undigested.signatureDigest_eq (undigested : output.Undigested anchor cause)
    (ledger : Ledger) : output.signatureDigest anchor ledger = .error cause := by
  cases undigested with
  | undecoded undecoded => simp only [signatureDigest, undecoded, Bind.bind, Except.bind]
  | noChannel decodes nameless =>
    simp only [signatureDigest, decodes, nameless, Bind.bind, Except.bind]
    rfl
  | noPayee decodes names scheme unpaid =>
    rw [signatureDigest_legacy decodes names scheme, unpaid]
  | noAnchor decodes names scheme unanchored =>
    rw [signatureDigest_current decodes names scheme, unanchored]

/-- A digest is missing where the claim lacks a part of it, whatever the address of the payee. -/
theorem signatureDigest_eq_error_iff :
    output.signatureDigest anchor ledger = .error cause ↔ output.Undigested anchor cause := by
  refine ⟨fun missing => ?_, fun undigested => undigested.signatureDigest_eq ledger⟩
  cases decodes : output.claim with
  | error fault =>
    have undigested : output.Undigested anchor fault := .undecoded decodes
    rw [undigested.signatureDigest_eq ledger] at missing
    cases missing
    exact undigested
  | ok claim =>
    cases names : claim.channelHash with
    | none =>
      have undigested : output.Undigested anchor _ := .noChannel decodes names
      rw [undigested.signatureDigest_eq ledger] at missing
      cases missing
      exact undigested
    | some named =>
      cases scheme : claim.unsignedPayload with
      | some payload =>
        rw [signatureDigest_legacy decodes names scheme] at missing
        cases unpaid : output.pubKeyHash? with
        | some hash =>
          rw [unpaid] at missing
          cases missing
        | none =>
          rw [unpaid] at missing
          cases missing
          exact .noPayee decodes names scheme unpaid
      | none =>
        rw [signatureDigest_current decodes names scheme] at missing
        cases unanchored : anchor with
        | some anchor =>
          rw [unanchored] at missing
          cases missing
        | none =>
          rw [unanchored] at missing
          cases missing
          exact .noAnchor decodes names scheme rfl

/-- No digest is missing for an invalid address. -/
theorem signatureDigest_ne_addressDigit (digit : Char) :
    output.signatureDigest anchor ledger ≠ .error (.malformed (.addressDigit digit)) := by
  intro missing
  cases signatureDigest_eq_error_iff.mp missing with
  | undecoded undecoded =>
    rcases claim_error undecoded with absent | fault
    · cases absent
    · exact fault

end

/-! ## Digests over addresses -/

/-- A claim that is signed under the older scheme and names its signer is signed over the hash of
the key that it pays. -/
theorem exists_commitsLegacy {output : Output} {hash : Hash160}
    (scheme : output.signingState = .legacySigned) (names : output.NamesSigner)
    (pays : output.pubKeyHash? = some hash) :
    ∃ payload named, output.CommitsLegacy hash payload named := by
  obtain ⟨claim, signature, payload, decodes, bears, keeps⟩ :=
    signingState_eq_legacySigned_iff.mp scheme
  obtain ⟨named, named_eq⟩ := names claim decodes (Claim.isSigned_of_signature bears)
  exact ⟨payload, named, pays, claim, decodes, named_eq, keeps⟩

/-- The address of a key always decodes, to the mark of the ledger, the hash of the key and the
four bytes that guard them. Two addresses are the same where mark and hash are. A claim of the
older scheme that keeps a payload, names a channel and pays the hash always has a digest, over
these twenty-five bytes, the payload and the channel backwards, and every claim signed under that
scheme that names its signer is one of them. No claim at all is without a digest for an invalid
address. -/
theorem signatureDigest_over_address (ledger : Ledger) (hash : Hash160) :
    let spelled := ledger.keyAddressMark :: hash.toList
    let guarded := spelled ++ (doubleSha256 spelled).toList.take 4
    decodeAddress (ledger.keyAddress hash) = .ok guarded ∧ guarded.length = 25 ∧
    (∀ (other : Ledger) (otherHash : Hash160),
      ledger.keyAddress hash = other.keyAddress otherHash ↔
        ledger.keyAddressMark = other.keyAddressMark ∧ hash = otherHash) ∧
    ∀ (output : Output) (anchor : Option Bytes),
      (∀ payload named, output.CommitsLegacy hash payload named →
        output.signatureDigest anchor ledger =
          .ok (sha256 (guarded ++ payload ++ named.reverse.toList))) ∧
      (output.signingState = .legacySigned → output.NamesSigner →
        output.pubKeyHash? = some hash →
        ∃ payload named, output.CommitsLegacy hash payload named) ∧
      ∀ digit, output.signatureDigest anchor ledger ≠ .error (.malformed (.addressDigit digit)) := by
  intro spelled guarded
  refine ⟨decodeAddress_keyAddress ledger hash,
    Ledger.length_addressBytes ledger.keyAddressMark hash,
    fun other otherHash => Ledger.keyAddress_eq_iff, fun output anchor => ⟨?_, ?_, ?_⟩⟩
  · intro payload named commits
    exact commits.signatureDigest anchor ledger
  · intro scheme names pays
    exact exists_commitsLegacy scheme names pays
  · exact signatureDigest_ne_addressDigit

/-- The main network with zero for the mark of its keys. -/
def zeroMarked : Ledger :=
  { Ledger.mainNetwork with keyAddressMark := 0 }

/-- Twenty-one zeros in front come out of the address of the hash zero, and into what a stream of
the older scheme that pays it is signed over. -/
theorem signatureDigest_over_address_zeros :
    ∃ guard : Bytes, guard.length = 4 ∧
      decodeAddress (zeroMarked.keyAddress (FixedBytes.zeros 20)) =
        .ok (List.replicate 21 0 ++ guard) ∧
      borrowedStream.signatureDigest none zeroMarked = .ok (sha256
        (List.replicate 21 0 ++ guard ++ repostPayload ++ (evenHash 0x22).reverse.toList)) ∧
      ∃ payload named, borrowedStream.CommitsLegacy (FixedBytes.zeros 20) payload named := by
  obtain ⟨decodes, length, -, digests⟩ :=
    signatureDigest_over_address zeroMarked (FixedBytes.zeros 20)
  obtain ⟨digest, commits, -⟩ := digests borrowedStream none
  have names : borrowedStream.NamesSigner := by
    intro claim found signed
    cases found
    exact ⟨_, rfl⟩
  exact ⟨_, rfl, decodes, digest _ _ commitsLegacy_borrowedStream, commits rfl names rfl⟩

end Output

end ClaimLedger
