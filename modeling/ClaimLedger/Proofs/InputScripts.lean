import ClaimLedger.Proofs.RoundTrip

/-! Scripts of inputs. A script redeems a payment to the hash of a key when it pushes a signature
and a key and does nothing else. Which forms the two pushes have does not matter, and neither does
what they push. What is built to redeem is told apart as such when it is read, so an input that
spends an output comes back from the wire as it was; only beside the name of no transaction would
its script be taken for a coinbase. -/
namespace ClaimLedger

open Reader (Reads)

namespace InputScript

/-- The script pushes a signature and then a key, and there is nothing else in it. -/
def Redeems (signature pubKey source : Bytes) : Prop :=
  ∃ first second, Script.Pushes signature first ∧ Script.Pushes pubKey second ∧
    source = first ++ second

theorem readTwoPushes?_eq_some_iff {source signature pubKey : Bytes} :
    readTwoPushes? source = some (signature, pubKey) ↔ Redeems signature pubKey source := by
  constructor
  · intro read
    unfold readTwoPushes? at read
    split at read
    · cases read
    · rename_i firstData rest firstRead
      split at read
      · rename_i secondData secondRead
        cases read
        obtain ⟨first, pushesFirst, rfl⟩ := Script.readPush?_eq_some_iff.mp firstRead
        obtain ⟨second, pushesSecond, rfl⟩ := Script.readPush?_eq_some_iff.mp secondRead
        exact ⟨first, second, pushesFirst, pushesSecond, by rw [List.append_nil]⟩
      · cases read
  · rintro ⟨first, second, pushesFirst, pushesSecond, rfl⟩
    have last := pushesSecond.read []
    rw [List.append_nil] at last
    simp only [readTwoPushes?, pushesFirst.read second, last]

theorem template_parse (source : Bytes) :
    (parse source).template =
      ((readTwoPushes? source).map fun data => InputTemplate.redeemPubKeyHash data.1 data.2).getD
        .other := by
  unfold parse
  cases readTwoPushes? source <;> rfl

theorem parse_redeems_iff {source signature pubKey : Bytes} :
    (parse source).template = .redeemPubKeyHash signature pubKey ↔
      Redeems signature pubKey source := by
  rw [template_parse, ← readTwoPushes?_eq_some_iff]
  cases readTwoPushes? source with
  | none => exact ⟨nofun, nofun⟩
  | some data =>
    simp only [Option.map_some, Option.getD_some, InputTemplate.redeemPubKeyHash.injEq,
      Option.some_inj, Prod.ext_iff]

theorem parse_other_iff {source : Bytes} :
    (parse source).template = .other ↔ ∀ signature pubKey, ¬Redeems signature pubKey source := by
  constructor
  · intro other signature pubKey redeems
    rw [parse_redeems_iff.mpr redeems] at other
    cases other
  · intro none
    cases found : (parse source).template with
    | other => rfl
    | redeemPubKeyHash signature pubKey => exact absurd (parse_redeems_iff.mp found) (none _ _)

/-- Data that fit a push are built into the script of their shortest pushes. -/
theorem redeemPubKeyHash_ok_iff {signature pubKey : Bytes} {script : InputScript} :
    redeemPubKeyHash signature pubKey = .ok script ↔
      signature.length < Script.pushLimit ∧ pubKey.length < Script.pushLimit ∧
        script = ⟨Script.pushOf signature ++ Script.pushOf pubKey,
          .redeemPubKeyHash signature pubKey⟩ := by
  constructor
  · intro built
    obtain ⟨first, firstWritten, built⟩ := Error.bind_ok_iff.mp built
    obtain ⟨second, secondWritten, built⟩ := Error.bind_ok_iff.mp built
    cases built
    obtain ⟨smallSignature, rfl⟩ := Script.writePush_ok firstWritten
    obtain ⟨smallKey, rfl⟩ := Script.writePush_ok secondWritten
    exact ⟨smallSignature, smallKey, rfl⟩
  · rintro ⟨smallSignature, smallKey, rfl⟩
    rw [redeemPubKeyHash, Script.writePush, Script.writePush, if_pos smallSignature,
      if_pos smallKey]
    rfl

end InputScript

namespace Input

/-- The script of an input that is not signed yet. -/
def placeholderScript : InputScript :=
  ⟨Script.pushOf placeholderSignature ++ Script.pushOf placeholderPubKey,
    .redeemPubKeyHash placeholderSignature placeholderPubKey⟩

theorem built_placeholderScript :
    InputScript.redeemPubKeyHash placeholderSignature placeholderPubKey = .ok placeholderScript :=
  InputScript.redeemPubKeyHash_ok_iff.mpr ⟨by decide, by decide, rfl⟩

/-- Payments to the hash of a key can be spent where they stand in a transaction. -/
theorem spend_ok_iff {output : Output} {input : Input} :
    spend output = .ok input ↔ output.script.isPayPubKeyHash = true ∧ ∃ place,
      output.place = some place ∧
        input = ⟨⟨place, some output⟩, .script placeholderScript, finalSequence, none⟩ := by
  unfold spend
  rw [built_placeholderScript]
  by_cases pays : output.script.isPayPubKeyHash = true
  · rw [if_pos pays, OutputRef.resolved]
    cases output.place with
    | none => exact ⟨nofun, nofun⟩
    | some place =>
      constructor
      · rintro ⟨⟩
        exact ⟨pays, place, rfl, rfl⟩
      · rintro ⟨-, _, ⟨⟩, rfl⟩
        rfl
  · rw [if_neg pays]
    exact ⟨nofun, fun spends => absurd spends.1 pays⟩

/-- The slot comes back as a script exactly where the outpoint names a transaction. -/
theorem reads_spend {output : Output} {input : Input} (spent : spend output = .ok input) :
    (∀ skipped, Reads (fun _ => read) skipped input.write input.readBack) ∧
      (input.readBack.source = input.source ↔ input.spends.isNull = false) := by
  obtain ⟨-, place, -, rfl⟩ := spend_ok_iff.mp spent
  refine ⟨reads_write _ (show placeholderScript.source.length < 2 ^ 64 by decide), ?_⟩
  have parsed := InputScript.parse_redeem built_placeholderScript
  have null : (OutputRef.unresolved ⟨⟨place.owner.hash, -1⟩, place.position⟩).isNull =
    OutputRef.isNull ⟨place, some output⟩ := rfl
  simp only [readBack, ofBytes, OutputRef.outpoint, Attachment.outpoint, null, InputSource.bytes,
    parsed]
  cases OutputRef.isNull ⟨place, some output⟩ <;> simp

/-- Outputs of a transaction name it by its hash. -/
theorem isNull_spend_iff {output : Output} {input : Input} (spent : spend output = .ok input)
    {tx : Transaction} (reached : tx.Reachable) (member : output ∈ tx.outputs) :
    input.spends.isNull = true ↔ doubleSha256 tx.raw = FixedBytes.zeros 32 := by
  obtain ⟨-, place, stands, rfl⟩ := spend_ok_iff.mp spent
  obtain ⟨kept, history⟩ := reached.history
  obtain ⟨index, inside, found⟩ := List.mem_iff_getElem.mp member
  have owned := history.coherent.outputs (List.getElem?_eq_some_iff.mpr ⟨inside, found⟩)
  rw [stands, Option.some_inj] at owned
  rw [OutputRef.isNull, owned, TxRef.isNull, history.coherent.ref, decide_eq_true_eq]
  rfl

end Input

namespace InputScript

/-- A script redeems with a signature and a key exactly when it is a push of the one and a push of
the other, in any of their forms; all other scripts are of no known kind. What is built to redeem,
from data that fit their pushes, is what its bytes are read as. So an input that spends an output
comes back from the wire with the same slot, wherever it stands there, unless the output is said to
be of the transaction that coinbases name: its wire form would have to be hashed to zeros. -/
theorem parse_two_pushes :
    (∀ source signature pubKey,
      (parse source).template = .redeemPubKeyHash signature pubKey ↔
        Redeems signature pubKey source) ∧
    (∀ source, (parse source).template = .other ↔
      ∀ signature pubKey, ¬Redeems signature pubKey source) ∧
    (∀ source, (parse source).source = source) ∧
    (∀ signature pubKey : Bytes, signature.length < 2 ^ 32 → pubKey.length < 2 ^ 32 →
      ∃ script, redeemPubKeyHash signature pubKey = .ok script ∧
        script.template = .redeemPubKeyHash signature pubKey ∧ parse script.source = script) ∧
    ∀ (output : Output) (input : Input), Input.spend output = .ok input →
      ∃ back, (∀ passed rest, Input.read ⟨passed, input.write ++ rest⟩ =
          .ok back ⟨input.write.reverse ++ passed, rest⟩) ∧
        (back.source = input.source ↔ input.spends.isNull = false) ∧
        ∀ tx : Transaction, tx.Reachable → output ∈ tx.outputs →
          (input.spends.isNull = true ↔ doubleSha256 tx.raw = FixedBytes.zeros 32) := by
  refine ⟨fun _ _ _ => parse_redeems_iff, fun _ => parse_other_iff, source_parse,
    fun signature pubKey smallSignature smallKey => ?_, fun output input spent => ?_⟩
  · have built := redeemPubKeyHash_ok_iff.mpr ⟨smallSignature, smallKey, rfl⟩
    exact ⟨_, built, rfl, parse_redeem built⟩
  · obtain ⟨reads, unchanged⟩ := Input.reads_spend spent
    exact ⟨input.readBack, fun passed rest => reads 0 passed rest (Nat.zero_le _), unchanged,
      fun tx reached member => Input.isNull_spend_iff spent reached member⟩

/-- A payment as it stands in a transaction that spends something. -/
def payment : Output :=
  (Output.payPubKeyHash 7 (FixedBytes.zeros 20)).attach ⟨Transaction.sample.txRef, 0⟩

theorem payment_mem_sample : payment ∈ Transaction.sample.outputs :=
  List.mem_singleton.mpr rfl

/-- A wide push and an empty one; data of the limit that one byte counts; and the payment. -/
theorem parse_two_pushes_sample :
    (parse [0x4d, 0x01, 0x00, 0x07, 0x00]).template = .redeemPubKeyHash [7] [] ∧
    (∃ script, redeemPubKeyHash (List.replicate 255 1) [] = .ok script ∧
      parse script.source = script) ∧
    ∃ input back, Input.spend payment = .ok input ∧
      Input.read (Cursor.start input.write) = .ok back ⟨input.write.reverse, []⟩ ∧
      back.source = input.source := by
  obtain ⟨redeems, -, -, built, spends⟩ := parse_two_pushes
  have wide : Script.Pushes [7] [0x4d, 0x01, 0x00, 0x07] :=
    @Script.Pushes.counted [7] 0x4d 2 (by simp) (by decide)
  have empty : Script.Pushes [] [0x00] := .direct (by decide)
  have fits : (List.replicate 255 (1 : UInt8)).length < 2 ^ 32 := by
    rw [List.length_replicate]
    decide
  obtain ⟨script, written, -, same⟩ := built (List.replicate 255 1) [] fits (by decide)
  have spent : Input.spend payment = .ok _ := Input.spend_ok_iff.mpr ⟨rfl, _, rfl, rfl⟩
  obtain ⟨back, reads, unchanged, named⟩ := spends payment _ spent
  have owner := named Transaction.sample Transaction.built_sample.reachable payment_mem_sample
  have hashed : ¬doubleSha256 Transaction.sample.raw = FixedBytes.zeros 32 := by decide +kernel
  have read := reads [] []
  rw [List.append_nil] at read
  exact ⟨(redeems _ [7] []).mpr ⟨_, _, wide, empty, rfl⟩, ⟨script, written, same⟩, _, back, spent,
    read, unchanged.mpr (Bool.eq_false_iff.mpr (mt owner.mp hashed))⟩

end InputScript

end ClaimLedger
