import ClaimLedger.Proofs.Addresses
import ClaimLedger.Proofs.SignedMessages

/-! The two signature schemes side by side. What is signed carries no mark of its scheme:
the current one puts outpoint, channel and message together, the older one the address of
the payee, a payload and the channel. The address is shorter than the outpoint and the
channel stands at the other end, so the same bytes belong to both schemes exactly when the
outpoint begins with the address. The rest can then be read as a payload and a channel in
one way, whatever was signed. -/
namespace ClaimLedger

namespace ClaimSignature

/-- The bytes signed over an anchor begin with an address, and go on with a payload and a
channel. -/
structure Meets (anchor : Bytes) (channel : ClaimHash) (message address payload : Bytes)
    (named : ClaimHash) : Prop where
  begins : anchor.take 25 = address
  rest : anchor.drop 25 ++ channel.toList ++ message = payload ++ named.reverse.toList

/-- Both schemes sign the same bytes exactly when these begin with the address and go on as
the older scheme has it. -/
theorem currentPreimage_eq_legacyPreimage_iff {anchor : FixedBytes 36} {channel named : ClaimHash}
    {message address payload : Bytes} (spelled : address.length = 25) :
    currentPreimage anchor.toList channel message = legacyPreimage address payload named ↔
      Meets anchor.toList channel message address payload named := by
  have front : (anchor.toList.take 25).length = address.length := by
    rw [List.length_take, anchor.length_toList, spelled]
    rfl
  have split : currentPreimage anchor.toList channel message =
      anchor.toList.take 25 ++ (anchor.toList.drop 25 ++ channel.toList ++ message) := by
    rw [currentPreimage, ← List.append_assoc, ← List.append_assoc, List.take_append_drop]
  rw [split, legacyPreimage, List.append_assoc address]
  constructor
  · intro same
    obtain ⟨begins, rest⟩ := List.append_inj same front
    exact ⟨begins, rest⟩
  · rintro ⟨begins, rest⟩
    rw [begins, rest]

/-- Bytes that are long enough end in a channel in one way. -/
theorem existsUnique_append_channel {bytes : Bytes} (enough : 20 ≤ bytes.length) :
    ∃! parts : Bytes × ClaimHash, bytes = parts.1 ++ parts.2.reverse.toList := by
  have exact : (bytes.drop (bytes.length - 20)).length = 20 := by
    rw [List.length_drop]
    omega
  refine ⟨(bytes.take (bytes.length - 20), FixedBytes.reverse ⟨_, exact⟩), ?_, ?_⟩
  · simp only [FixedBytes.reverse_reverse, List.take_append_drop]
  · rintro ⟨payload, named⟩ split
    have same : bytes.take (bytes.length - 20) ++ bytes.drop (bytes.length - 20) =
        payload ++ named.reverse.toList := (List.take_append_drop _ _).trans split
    obtain ⟨front, back⟩ := List.append_inj' same (exact.trans named.reverse.length_toList.symm)
    have channel : ⟨_, exact⟩ = named.reverse := FixedBytes.ext back
    rw [front, channel, FixedBytes.reverse_reverse]

/-- Over an anchor that begins with the address, every message is signed for one payload and
one channel of the older scheme. -/
theorem existsUnique_meets {anchor address : Bytes} (begins : anchor.take 25 = address)
    (channel : ClaimHash) (message : Bytes) :
    ∃! parts : Bytes × ClaimHash, Meets anchor channel message address parts.1 parts.2 := by
  have enough : 20 ≤ (anchor.drop 25 ++ channel.toList ++ message).length := by
    simp only [List.length_append, channel.length_toList]
    omega
  obtain ⟨parts, rest, unique⟩ := existsUnique_append_channel enough
  exact ⟨parts, ⟨begins, rest⟩, fun other meets => unique other meets.rest⟩

end ClaimSignature

namespace Output

/-- The claim in the output is of the older scheme, names the channel, keeps the payload and
pays the hash of a key. -/
def CommitsLegacy (output : Output) (hash : Hash160) (payload : Bytes) (named : ClaimHash) :
    Prop :=
  output.pubKeyHash? = some hash ∧ ∃ claim, output.claim = .ok claim ∧
    claim.channelHash = some named ∧ claim.unsignedPayload = some payload

theorem CommitsLegacy.signatureDigest {output : Output} {hash : Hash160} {payload : Bytes}
    {named : ClaimHash} (commits : output.CommitsLegacy hash payload named)
    (anchor : Option Bytes) (ledger : Ledger) :
    output.signatureDigest anchor ledger =
      .ok (ClaimSignature.legacyDigest (Ledger.addressBytes ledger.keyAddressMark hash) payload
        named) := by
  obtain ⟨pays, claim, decodes, names, scheme⟩ := commits
  have paid : output.address? ledger = some (ledger.keyAddress hash) := by
    rw [address?, pays]
    rfl
  exact signatureDigest_ok_iff.mpr
    ⟨claim, named, decodes, names, .legacy scheme paid (decodeAddress_keyAddress ledger hash)⟩

/-- One signature over one digest has one verdict. -/
theorem isSignedBy_congr {output other : Output} {anchor otherAnchor : Option Bytes}
    {ledger otherLedger : Ledger}
    (signature : Claim.signature <$> output.claim = Claim.signature <$> other.claim)
    (digest : output.signatureDigest anchor ledger = other.signatureDigest otherAnchor otherLedger)
    (signer : Output) :
    output.isSignedBy signer anchor ledger = other.isSignedBy signer otherAnchor otherLedger := by
  simp only [isSignedBy, encodedSignature, digest, Bind.bind, Except.bind]
  cases decodes : output.claim with
  | error cause =>
    cases otherDecodes : other.claim with
    | error otherCause =>
      rw [decodes, otherDecodes] at signature
      cases signature
      rfl
    | ok otherClaim =>
      rw [decodes, otherDecodes] at signature
      cases signature
  | ok claim =>
    cases otherDecodes : other.claim with
    | error otherCause =>
      rw [decodes, otherDecodes] at signature
      cases signature
    | ok otherClaim =>
      rw [decodes, otherDecodes] at signature
      have same : claim.signature = otherClaim.signature := Except.ok.inj signature
      simp only [Claim.isSigned, same]
      rfl

end Output

/-- The bytes signed under the two schemes are the same exactly when the outpoint begins with
the twenty-five bytes that the address of the payee decodes to, and goes on with the payload
and the channel of the older scheme. Over such an outpoint there are one payload and one
channel for whatever is signed, and over other outpoints there are none. A signature made
under the current scheme passes for the older one on every claim with that payload and that
channel as it does on its own, whatever that claim says. Everywhere else the older scheme
makes another digest, where the hash function tells apart what is signed. -/
theorem schemes_meet_iff (ledger : Ledger) (hash : Hash160) :
    ∃ address, Output.decodeAddress (ledger.keyAddress hash) = .ok address ∧
      address.length = 25 ∧
      ∀ (anchor : FixedBytes 36) (channel : ClaimHash) (message : ClaimMessage),
        (∀ (payload : Bytes) (named : ClaimHash),
          ClaimSignature.currentPreimage anchor.toList channel message.write =
              ClaimSignature.legacyPreimage address payload named ↔
            ClaimSignature.Meets anchor.toList channel message.write address payload named) ∧
        (anchor.toList.take 25 = address →
          ∃! parts : Bytes × ClaimHash,
            ClaimSignature.Meets anchor.toList channel message.write address parts.1 parts.2) ∧
        ∀ {output other : Output} {payload : Bytes} {named : ClaimHash}
            (otherAnchor : Option Bytes) (otherLedger : Ledger),
          output.Commits channel message → other.CommitsLegacy hash payload named →
          (ClaimSignature.Meets anchor.toList channel message.write address payload named →
            Claim.signature <$> other.claim = Claim.signature <$> output.claim →
            ∀ signer, other.isSignedBy signer otherAnchor ledger =
              output.isSignedBy signer (some anchor.toList) otherLedger) ∧
          ((sha256 (ClaimSignature.currentPreimage anchor.toList channel message.write) =
                sha256 (ClaimSignature.legacyPreimage address payload named) →
              ClaimSignature.currentPreimage anchor.toList channel message.write =
                ClaimSignature.legacyPreimage address payload named) →
            other.signatureDigest otherAnchor ledger =
                output.signatureDigest (some anchor.toList) otherLedger →
            ClaimSignature.Meets anchor.toList channel message.write address payload named) := by
  have spelled := Ledger.length_addressBytes ledger.keyAddressMark hash
  refine ⟨_, Output.decodeAddress_keyAddress ledger hash, spelled, ?_⟩
  intro anchor channel message
  refine ⟨fun payload named => ClaimSignature.currentPreimage_eq_legacyPreimage_iff spelled,
    fun begins => ClaimSignature.existsUnique_meets begins channel message.write, ?_⟩
  intro output other payload named otherAnchor otherLedger commits otherCommits
  have current := commits.signatureDigest anchor.toList otherLedger
  have legacy := otherCommits.signatureDigest otherAnchor ledger
  constructor
  · intro meets signature signer
    refine Output.isSignedBy_congr signature ?_ signer
    have same := (ClaimSignature.currentPreimage_eq_legacyPreimage_iff spelled).mpr meets
    rw [current, legacy, ClaimSignature.currentDigest, same, ClaimSignature.legacyDigest]
  · intro told same
    rw [current, legacy] at same
    exact (ClaimSignature.currentPreimage_eq_legacyPreimage_iff spelled).mp
      (told (Except.ok.inj same).symm)

/-! ## Where the schemes meet -/

namespace Output

/-- An outpoint that begins with the address of a key with the hash zero. -/
def addressPoint : Outpoint :=
  ⟨⟨0x55 :: List.replicate 20 0 ++ [0xb1, 0xe3, 0xe4, 0xc1] ++ List.replicate 7 0, by decide⟩, 0⟩

/-- What the older scheme finds behind the address when a repost is signed over it. -/
def repostPayload : Bytes := List.replicate 11 0 ++ List.replicate 20 0x11 ++ [3]

/-- Made with the key one. -/
def repostSignature : FixedBytes 64 :=
  Ecdsa.Signature.compact
    ⟨0x962863614f6ba92cf0e0a8e0dc26b95660ba143ad9b9424c60768e42fbab64b9,
      0x783af005f69b11dc15e1a46263948044928a271d0ac52f188234dd17e42696b8⟩

/-- A repost, signed over the outpoint. -/
def signedRepost : Output :=
  updating (evenHash 0x33)
    { message := .repost (evenHash 0x22)
      channelHash := some (evenHash 0x11)
      signature := some repostSignature
      unsignedPayload := none }

/-- A stream of the older scheme that carries the signature of the repost. -/
def borrowedStream : Output :=
  updating (evenHash 0x44)
    { message := .stream ⟨"forged", "", none⟩
      channelHash := some (evenHash 0x22)
      signature := some repostSignature
      unsignedPayload := some repostPayload }

end Output

open Output (addressPoint repostPayload signedRepost borrowedStream evenHash unitChannel)

theorem addressBytes_zeros :
    Ledger.addressBytes 0x55 (FixedBytes.zeros 20) = addressPoint.wire.toList.take 25 := by
  decide +kernel

theorem decodeAddress_zeros :
    Output.decodeAddress (Ledger.mainNetwork.keyAddress (FixedBytes.zeros 20)) =
      .ok (addressPoint.wire.toList.take 25) :=
  (Output.decodeAddress_keyAddress _ _).trans (congrArg Except.ok addressBytes_zeros)

theorem commits_signedRepost :
    signedRepost.Commits (evenHash 0x11) (.repost (evenHash 0x22)) :=
  ⟨_, rfl, rfl, rfl, rfl⟩

theorem commitsLegacy_borrowedStream :
    borrowedStream.CommitsLegacy (FixedBytes.zeros 20) repostPayload (evenHash 0x22) :=
  ⟨rfl, _, rfl, rfl, rfl⟩

theorem preimage_repost :
    ClaimSignature.currentPreimage addressPoint.wire.toList (evenHash 0x11)
        (ClaimMessage.repost (evenHash 0x22)).write =
      ClaimSignature.legacyPreimage (addressPoint.wire.toList.take 25) repostPayload
        (evenHash 0x22) := by
  decide

theorem signature_borrowedStream :
    Claim.signature <$> borrowedStream.claim = Claim.signature <$> signedRepost.claim := rfl

/-- The repost and the stream are signed over the same bytes, so the stream passes for signed
with the signature of the repost. -/
theorem schemes_meet_repost :
    Output.decodeAddress (Ledger.mainNetwork.keyAddress (FixedBytes.zeros 20)) =
        .ok (addressPoint.wire.toList.take 25) ∧
      ClaimSignature.currentPreimage addressPoint.wire.toList (evenHash 0x11)
          (ClaimMessage.repost (evenHash 0x22)).write =
        ClaimSignature.legacyPreimage (addressPoint.wire.toList.take 25) repostPayload
          (evenHash 0x22) ∧
      signedRepost.isSignedBy (unitChannel (evenHash 0x11)) (some addressPoint.wire.toList)
        Ledger.mainNetwork = .ok true ∧
      borrowedStream.isSignedBy (unitChannel (evenHash 0x11)) none Ledger.mainNetwork =
        .ok true := by
  have signed : signedRepost.isSignedBy (unitChannel (evenHash 0x11))
      (some addressPoint.wire.toList) Ledger.mainNetwork = .ok true := by decide +kernel
  have digest : borrowedStream.signatureDigest none Ledger.mainNetwork =
      signedRepost.signatureDigest (some addressPoint.wire.toList) Ledger.mainNetwork := by
    rw [commitsLegacy_borrowedStream.signatureDigest, commits_signedRepost.signatureDigest,
      ClaimSignature.currentDigest, preimage_repost, ← addressBytes_zeros]
    rfl
  refine ⟨decodeAddress_zeros, preimage_repost, signed, ?_⟩
  rw [Output.isSignedBy_congr signature_borrowedStream digest, signed]

/-- Whoever signed the repost, the stream has the verdict of it. -/
theorem schemes_meet_iff_repost :
    borrowedStream.isSignedBy (unitChannel (evenHash 0x55)) none Ledger.mainNetwork =
      signedRepost.isSignedBy (unitChannel (evenHash 0x55)) (some addressPoint.wire.toList)
        Ledger.mainNetwork := by
  obtain ⟨address, spelled, -, meet⟩ :=
    schemes_meet_iff Ledger.mainNetwork (FixedBytes.zeros 20)
  have begins : addressPoint.wire.toList.take 25 = address :=
    Except.ok.inj (decodeAddress_zeros.symm.trans spelled)
  obtain ⟨-, -, presented⟩ :=
    meet addressPoint.wire (evenHash 0x11) (ClaimMessage.repost (evenHash 0x22))
  obtain ⟨same, -⟩ :=
    presented none Ledger.mainNetwork commits_signedRepost commitsLegacy_borrowedStream
  have rest : addressPoint.wire.toList.drop 25 ++ (evenHash 0x11).toList ++
      (ClaimMessage.repost (evenHash 0x22)).write =
        repostPayload ++ (evenHash 0x22).reverse.toList := by decide
  exact same ⟨begins, rest⟩ signature_borrowedStream (unitChannel (evenHash 0x55))

end ClaimLedger
