import ClaimLedger.Proofs.KeyForms
import ClaimLedger.Proofs.SignThenVerify

/-! Whose key a channel publishes. A key recognises its public half by the bytes that it would
publish itself, and signatures are checked under the point that the bytes are read as. Whatever
a key recognises is read as its public half. What is read as the public half may be in any form
behind any header, and is recognised in one of them only. -/
namespace ClaimLedger

/-! ## Comparing bytes -/

theorem foldl_or_eq_zero_iff (bytes : Bytes) (acc : UInt8) :
    bytes.foldl (· ||| ·) acc = 0 ↔ acc = 0 ∧ ∀ byte ∈ bytes, byte = 0 := by
  induction bytes generalizing acc with
  | nil => simp
  | cons first rest ih =>
    rw [List.foldl_cons, ih, UInt8.or_eq_zero_iff, List.forall_mem_cons, and_assoc]

theorem forall_mem_zipWith_xor_iff {a b : Bytes} (length : a.length = b.length) :
    (∀ byte ∈ a.zipWith (· ^^^ ·) b, byte = 0) ↔ a = b := by
  induction a generalizing b with
  | nil =>
    obtain rfl := List.length_eq_zero_iff.mp length.symm
    simp
  | cons first rest ih =>
    cases b with
    | nil => cases length
    | cons other others =>
      rw [List.zipWith_cons_cons, List.forall_mem_cons, UInt8.xor_eq_zero_iff,
        ih (Nat.succ.inj length), List.cons.injEq]

/-- The comparison that looks at every byte is equality. -/
theorem constantTimeEq_iff {a b : Bytes} : constantTimeEq a b = true ↔ a = b := by
  rw [constantTimeEq, Bool.and_eq_true, beq_iff_eq, beq_iff_eq, foldl_or_eq_zero_iff]
  constructor
  · rintro ⟨length, -, zero⟩
    exact (forall_mem_zipWith_xor_iff length).mp zero
  · rintro rfl
    exact ⟨rfl, rfl, (forall_mem_zipWith_xor_iff rfl).mpr rfl⟩

/-! ## Recognising keys -/

namespace ChannelKey

open Der ClaimSignature

theorem matchesPublicKey_iff {key : ChannelKey} {der : Bytes} :
    matchesPublicKey key der = true ↔ der = keyInfo .uncompressed .uncompressed key.publicKey := by
  rw [matchesPublicKey, constantTimeEq_iff, publicKeyDer, writePublicKey_eq, eq_comm]

/-- The bytes are read as the public half of the key. -/
theorem decodePublicKey_publicKey_iff {key : ChannelKey} {der : Bytes} :
    decodePublicKey der = .ok key.publicKey ↔
      ∃ header form, der = keyInfo header form key.publicKey := by
  rw [decodePublicKey_eq_ok_iff, and_iff_right key.onCurve_publicKey]

/-- The bytes are the public half of the key in another form, or behind another header, than
the key publishes it. -/
def Respelled (key : ChannelKey) (der : Bytes) : Prop :=
  ∃ header form, ¬ (header = .uncompressed ∧ form = .uncompressed) ∧
    der = keyInfo header form key.publicKey

theorem not_matches_of_respelled {key : ChannelKey} {der : Bytes} (respelled : Respelled key der) :
    decodePublicKey der = .ok key.publicKey ∧ ¬ matchesPublicKey key der = true := by
  obtain ⟨header, form, other, rfl⟩ := respelled
  exact ⟨decodePublicKey_publicKey_iff.mpr ⟨header, form, rfl⟩,
    fun matched => other (keyInfo_inj (matchesPublicKey_iff.mp matched))⟩

/-- A key recognises what is read as its public half unless it is spelled in another way. -/
theorem matches_iff_decodes_iff {key : ChannelKey} {der : Bytes} :
    (matchesPublicKey key der = true ↔ decodePublicKey der = .ok key.publicKey) ↔
      ¬ Respelled key der := by
  constructor
  · intro agree respelled
    obtain ⟨decodes, unmatched⟩ := not_matches_of_respelled respelled
    exact unmatched (agree.mpr decodes)
  · intro plain
    rw [matchesPublicKey_iff, decodePublicKey_publicKey_iff]
    constructor
    · intro same
      exact ⟨.uncompressed, .uncompressed, same⟩
    · rintro ⟨header, form, same⟩
      by_contra other
      refine plain ⟨header, form, ?_, same⟩
      rintro ⟨rfl, rfl⟩
      exact other same

end ChannelKey

namespace Output

open Der ClaimSignature ChannelKey

/-- Of a channel nothing counts but the bytes that it publishes. -/
theorem isChannelKey_eq {channel : Output} {published : Bytes}
    (publishes : channel.publishedKey = .ok published) (key : ChannelKey) :
    channel.isChannelKey key = ChannelKey.matchesPublicKey key published := by
  obtain ⟨claim, decodes, publishes⟩ := Error.bind_ok_iff.mp publishes
  unfold isChannelKey
  rw [decodes]
  dsimp only
  split at publishes
  · cases publishes
  · next content said =>
    cases publishes
    rw [said]

/-- What a key recognises is read as its public half, and what is read so are the public half's
three forms behind the two headers. The two questions have one answer about some bytes exactly
where these are not one of the five spellings other than that of the key itself, and the same
goes for the channels that publish the bytes: those in another spelling have their signatures
checked under the public half of a key that is said not to be theirs. -/
theorem matches_agrees_iff (key : ChannelKey) (der : Bytes) :
    (matchesPublicKey key der = true → decodePublicKey der = .ok key.publicKey) ∧
    (decodePublicKey der = .ok key.publicKey ↔
      ∃ header form, der = keyInfo header form key.publicKey) ∧
    ((matchesPublicKey key der = true ↔ decodePublicKey der = .ok key.publicKey) ↔
      ¬ Respelled key der) ∧
    ∀ channel : Output, channel.publishedKey = .ok der →
      ((channel.isChannelKey key = true ↔ decodePublicKey der = .ok key.publicKey) ↔
        ¬ Respelled key der) := by
  refine ⟨fun matched => ?_, decodePublicKey_publicKey_iff, matches_iff_decodes_iff,
    fun channel publishes => ?_⟩
  · exact decodePublicKey_publicKey_iff.mpr ⟨_, _, matchesPublicKey_iff.mp matched⟩
  · rw [isChannelKey_eq publishes]
    exact matches_iff_decodes_iff

/-- The key one recognises the generator as it publishes it itself, and so does the channel that
publishes it. -/
theorem matches_agrees_unitChannel :
    let der := writePublicKey Secp256k1.Point.generator
    matchesPublicKey Transaction.unitKey der = true ∧
      decodePublicKey der = .ok Transaction.unitKey.publicKey ∧
      (unitChannel (evenHash 0x11)).isChannelKey Transaction.unitKey = true := by
  intro der
  have published : (unitChannel (evenHash 0x11)).publishedKey = .ok der := rfl
  have matched : matchesPublicKey Transaction.unitKey der = true := by decide +kernel
  obtain ⟨sound, -, agree, channels⟩ := matches_agrees_iff Transaction.unitKey der
  have plain : ¬ Respelled Transaction.unitKey der :=
    agree.mp ⟨sound, fun _ => matched⟩
  exact ⟨matched, sound matched, ((channels _ published).mpr plain).mpr (sound matched)⟩

/-- A channel that publishes the generator in compressed form. -/
def compressedChannel : Output :=
  updating (evenHash 0x11)
    (Claim.ofMessage (.channel ⟨keyInfo .compressed .compressed Secp256k1.Point.generator, "c"⟩))

/-- Streams signed with the key one pass for signed by the channel that publishes its public half
in compressed form, whose key it is said not to be. -/
theorem matches_disagrees_compressed :
    let der := keyInfo .compressed .compressed Secp256k1.Point.generator
    decodePublicKey der = .ok Transaction.unitKey.publicKey ∧
      matchesPublicKey Transaction.unitKey der = false ∧
      compressedChannel.isChannelKey Transaction.unitKey = false ∧
      unitSigned.isSignedBy compressedChannel (some unitAnchor) Ledger.mainNetwork = .ok true := by
  decide +kernel

end Output

end ClaimLedger
