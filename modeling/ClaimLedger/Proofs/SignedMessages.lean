import ClaimLedger.Proofs.ClaimReading
import ClaimLedger.Proofs.Verification
import ClaimLedger.Transaction.Signing

/-! What channel signatures commit to. Under the current scheme an outpoint, the channel and
the message are signed, one after the other and with nothing in between. The first two are
of fixed length and the third can be told from its bytes, so the bytes signed tell all three
apart; and so does the digest, as far as the hash function does. -/
namespace ClaimLedger

open Reader (Reads)

/-! ## Messages are told from their bytes -/

namespace ClaimMessage

theorem reads_write (message : ClaimMessage) (fits : message.write.length < 2 ^ 64)
    (skipped : Nat) : Reads (fun _ => read) skipped message.write message := by
  rw [← shortest_layout] at fits ⊢
  exact message.accepts_read.reads_shortest
    (fun n counted => Nat.lt_of_le_of_lt (message.counts_layout n counted) fits) skipped

/-- Messages of one wire form are one message. -/
theorem write_inj {message other : ClaimMessage} (fits : message.write.length < 2 ^ 64)
    (same : message.write = other.write) : message = other :=
  ((reads_write message fits 0).unique (reads_write other (same ▸ fits) 0)
    (congrArg (· ++ []) same)).1

end ClaimMessage

theorem FixedBytes.append_inj {n : Nat} {front otherFront : FixedBytes n} {back otherBack : Bytes}
    (same : front.toList ++ back = otherFront.toList ++ otherBack) :
    front = otherFront ∧ back = otherBack := by
  obtain ⟨fronts, backs⟩ :=
    List.append_inj same (front.length_toList.trans otherFront.length_toList.symm)
  exact ⟨FixedBytes.ext fronts, backs⟩

/-- Outpoints are told from their wire form. -/
theorem Outpoint.wire_inj {point other : Outpoint} (same : point.wire = other.wire) :
    point = other := by
  obtain ⟨txid, position⟩ := point
  obtain ⟨otherTxid, otherPosition⟩ := other
  obtain ⟨rfl, positions⟩ := FixedBytes.append_inj (congrArg FixedBytes.toList same)
  have numbers : position.toNat % 256 ^ 4 = otherPosition.toNat % 256 ^ 4 := by
    simpa only [leValue_leBytes] using congrArg leValue positions
  have bound := position.toNat_lt
  have otherBound := otherPosition.toNat_lt
  obtain rfl : position = otherPosition := UInt32.toNat_inj.mp (by omega)
  rfl

/-! ## What is signed -/

namespace ClaimSignature

/-- The bytes signed tell outpoint, channel and message apart, whatever the kind of the
message and the lengths of its fields. Lengths are told from the bytes as long as these can
be stored. -/
theorem currentPreimage_inj {anchor otherAnchor : FixedBytes 36} {channel otherChannel : ClaimHash}
    {message other : ClaimMessage}
    (addressable : (currentPreimage anchor.toList channel message.write).length < 2 ^ 64) :
    currentPreimage anchor.toList channel message.write =
        currentPreimage otherAnchor.toList otherChannel other.write ↔
      anchor = otherAnchor ∧ channel = otherChannel ∧ message = other := by
  constructor
  · intro same
    simp only [currentPreimage, List.append_assoc] at same
    obtain ⟨anchors, same⟩ := FixedBytes.append_inj same
    obtain ⟨channels, same⟩ := FixedBytes.append_inj same
    have fits : message.write.length < 2 ^ 64 := by
      simp only [currentPreimage, List.length_append] at addressable
      omega
    exact ⟨anchors, channels, ClaimMessage.write_inj fits same⟩
  · rintro ⟨rfl, rfl, rfl⟩
    rfl

end ClaimSignature

/-- The claim in the output is of the current scheme, names the channel and says the
message. -/
def Output.Commits (output : Output) (channel : ClaimHash) (message : ClaimMessage) : Prop :=
  ∃ claim, output.claim = .ok claim ∧ claim.channelHash = some channel ∧
    claim.unsignedPayload = none ∧ claim.message = message

/-- The bytes signed for a message over an outpoint. -/
def Outpoint.signedBytes (point : Outpoint) (channel : ClaimHash) (message : ClaimMessage) :
    Bytes :=
  ClaimSignature.currentPreimage point.wire.toList channel message.write

theorem Output.Commits.signatureDigest {output : Output} {channel : ClaimHash}
    {message : ClaimMessage} (commits : output.Commits channel message) (anchor : Bytes)
    (ledger : Ledger) :
    output.signatureDigest (some anchor) ledger =
      .ok (ClaimSignature.currentDigest anchor channel message.write) := by
  obtain ⟨claim, decodes, names, scheme, rfl⟩ := commits
  exact signatureDigest_ok_iff.mpr ⟨claim, channel, decodes, names, .current scheme⟩

/-- Digests agree when what is signed does, if the hash function tells it apart. -/
theorem Output.Commits.signatureDigest_eq_iff {output otherOutput : Output}
    {channel otherChannel : ClaimHash} {message other : ClaimMessage}
    (commits : output.Commits channel message)
    (otherCommits : otherOutput.Commits otherChannel other) (point otherPoint : Outpoint)
    (ledger otherLedger : Ledger)
    (addressable : (point.signedBytes channel message).length < 2 ^ 64)
    (told : sha256 (point.signedBytes channel message) =
        sha256 (otherPoint.signedBytes otherChannel other) →
      point.signedBytes channel message = otherPoint.signedBytes otherChannel other) :
    output.signatureDigest (some point.wire.toList) ledger =
        otherOutput.signatureDigest (some otherPoint.wire.toList) otherLedger ↔
      point = otherPoint ∧ channel = otherChannel ∧ message = other := by
  rw [commits.signatureDigest, otherCommits.signatureDigest]
  constructor
  · intro same
    obtain ⟨points, rest⟩ :=
      (ClaimSignature.currentPreimage_inj addressable).mp (told (Except.ok.inj same))
    exact ⟨Outpoint.wire_inj points, rest⟩
  · rintro ⟨rfl, rfl, rfl⟩
    rfl

/-- In a transaction the outpoint is the one that its first input spends. -/
theorem Transaction.outputSignatureDigest_eq {tx : Transaction} {input : Input} {index : Nat}
    {output : Output} (first : tx.inputs.head? = some input)
    (stands : tx.outputs[index]? = some output) (ledger : Ledger) :
    tx.outputSignatureDigest index ledger =
      output.signatureDigest (some input.spends.outpoint.wire.toList) ledger := by
  simp only [outputSignatureDigest, Transaction.output, stands, firstInputHash, first]
  rfl

/-- The bytes that are signed under the current scheme commit to the outpoint, the channel
and the message. So two claims of this scheme have one digest only if all three agree, where
the hash function tells apart what is signed for them; and if they agree they have, whatever
else is in the outputs and under any ledger. In transactions the outpoint is the one that the
first input spends. -/
theorem currentPreimage_binding :
    (∀ (anchor otherAnchor : FixedBytes 36) (channel otherChannel : ClaimHash)
        (message other : ClaimMessage),
      (ClaimSignature.currentPreimage anchor.toList channel message.write).length < 2 ^ 64 →
      (ClaimSignature.currentPreimage anchor.toList channel message.write =
          ClaimSignature.currentPreimage otherAnchor.toList otherChannel other.write ↔
        anchor = otherAnchor ∧ channel = otherChannel ∧ message = other)) ∧
    (∀ {output otherOutput : Output} {channel otherChannel : ClaimHash}
        {message other : ClaimMessage} (point otherPoint : Outpoint) (ledger otherLedger : Ledger),
      output.Commits channel message → otherOutput.Commits otherChannel other →
      (point.signedBytes channel message).length < 2 ^ 64 →
      (sha256 (point.signedBytes channel message) =
          sha256 (otherPoint.signedBytes otherChannel other) →
        point.signedBytes channel message = otherPoint.signedBytes otherChannel other) →
      (output.signatureDigest (some point.wire.toList) ledger =
          otherOutput.signatureDigest (some otherPoint.wire.toList) otherLedger ↔
        point = otherPoint ∧ channel = otherChannel ∧ message = other)) ∧
    ∀ {tx otherTx : Transaction} {input otherInput : Input} {i j : Nat}
        {output otherOutput : Output} {channel otherChannel : ClaimHash}
        {message other : ClaimMessage} (ledger otherLedger : Ledger),
      tx.inputs.head? = some input → otherTx.inputs.head? = some otherInput →
      tx.outputs[i]? = some output → otherTx.outputs[j]? = some otherOutput →
      output.Commits channel message → otherOutput.Commits otherChannel other →
      (input.spends.outpoint.signedBytes channel message).length < 2 ^ 64 →
      (sha256 (input.spends.outpoint.signedBytes channel message) =
          sha256 (otherInput.spends.outpoint.signedBytes otherChannel other) →
        input.spends.outpoint.signedBytes channel message =
          otherInput.spends.outpoint.signedBytes otherChannel other) →
      (tx.outputSignatureDigest i ledger = otherTx.outputSignatureDigest j otherLedger ↔
        input.spends.outpoint = otherInput.spends.outpoint ∧ channel = otherChannel ∧
          message = other) := by
  refine ⟨fun _ _ _ _ _ _ => ClaimSignature.currentPreimage_inj,
    fun point otherPoint ledger otherLedger commits otherCommits =>
      commits.signatureDigest_eq_iff otherCommits point otherPoint ledger otherLedger, ?_⟩
  intro tx otherTx input otherInput i j output otherOutput channel otherChannel message other
    ledger otherLedger first otherFirst stands otherStands commits otherCommits addressable told
  rw [Transaction.outputSignatureDigest_eq first stands,
    Transaction.outputSignatureDigest_eq otherFirst otherStands]
  exact commits.signatureDigest_eq_iff otherCommits _ _ ledger otherLedger addressable told

/-- The outpoint that `unitSigned` is signed over. -/
def unitPoint : Outpoint := ⟨⟨List.replicate 32 9, List.length_replicate⟩, 0⟩

/-- A transaction that spends it and holds the claim. -/
def spendingUnitPoint (version : UInt32) : Transaction :=
  Transaction.ofFields version 0 [Input.ofBytes ⟨⟨⟨unitPoint.txid, -1⟩, 0⟩, none⟩ [0x51] 5]
    [Output.unitSigned] 0 []

/-- A claim keeps its digest with another amount, and in another transaction that spends the
outpoint. Over another outpoint other bytes are signed. -/
theorem currentPreimage_binding_unitSigned :
    Output.unitSigned.signatureDigest (some unitPoint.wire.toList) Ledger.mainNetwork =
        { Output.unitSigned with amount := 2 }.signatureDigest (some unitPoint.wire.toList)
          Ledger.mainNetwork ∧
      (spendingUnitPoint 1).outputSignatureDigest 0 Ledger.mainNetwork =
        (spendingUnitPoint 2).outputSignatureDigest 0 Ledger.mainNetwork ∧
      unitPoint.signedBytes (Output.evenHash 0x11) (.stream ⟨"v", "", none⟩) ≠
        (Outpoint.mk TxRef.null.hash 0).signedBytes (Output.evenHash 0x11)
          (.stream ⟨"v", "", none⟩) := by
  obtain ⟨bytes, digests, inTransactions⟩ := currentPreimage_binding
  have commits (amount : UInt64) (place : Option Attachment) :
      Output.Commits ⟨amount, Output.unitSigned.script, {}, place⟩ (Output.evenHash 0x11)
        (.stream ⟨"v", "", none⟩) :=
    ⟨_, rfl, rfl, rfl, rfl⟩
  refine ⟨?_, ?_, fun same => ?_⟩
  · exact (digests unitPoint unitPoint _ _ (commits 1 _) (commits 2 _) (by decide)
      fun _ => rfl).mpr ⟨rfl, rfl, rfl⟩
  · exact (inTransactions _ _ rfl rfl rfl rfl (commits 1 _) (commits 1 _) (by decide)
      fun _ => rfl).mpr ⟨rfl, rfl, rfl⟩
  · have points := ((bytes _ _ _ _ _ _ (by decide)).mp same).1
    exact absurd points (by decide)

end ClaimLedger
