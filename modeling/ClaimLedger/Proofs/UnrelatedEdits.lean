import ClaimLedger.Proofs.Looking
import ClaimLedger.Proofs.SignThenVerify

/-! Edits beside a signed claim. Every edit of a transaction changes its identity and with it
the place of every child, and edits of one output rebuild its script. But a signature is
checked against the first outpoint spent and against what its own output says of itself, and
of these an edit that is not aimed at the output keeps both, whether it succeeds or fails. So
digests and signatures stand through any run of such edits. -/
namespace ClaimLedger

/-- What the output says wherever it stands. -/
def Output.said (output : Output) : Output.Meaning :=
  output.detached.meaning

theorem Output.said_looked (output : Output) : output.looked.said = output.said :=
  meaning_looked output.detached

theorem Output.said_after (output : Output) (how : Read) :
    (output.after how).said = output.said := by
  rcases output.after_cases how with same | looked
  · rw [same]
  · rw [looked, said_looked]

namespace Transaction

open Output (said unitSigned evenHash updating)

/-- The operation is not aimed at the output at an index. Notes may be made on it, and it may
be looked at. -/
def Operation.Spares (index : Nat) : Operation → Prop
  | modify other _ => other ≠ index
  | sign other _ _ => other ≠ index
  | clear other => other ≠ index
  | installKey other _ => other ≠ index
  | _ => True

/-- The first outpoint spent, and what the output at an index says. -/
structure Standing (tx : Transaction) (index : Nat) (anchor : Bytes) (meaning : Output.Meaning) :
    Prop where
  first : tx.firstInputHash = some anchor
  stands : (tx.outputs.map said)[index]? = some meaning

variable {tx later : Transaction} {index : Nat} {anchor : Bytes} {meaning : Output.Meaning}

/-! ## One operation -/

/-- No operation changes which outpoint is spent first, once there is one. -/
theorem Effect.firstInputHash {drops : Bool} {added : List Input}
    (effect : Effect tx drops added later) (first : tx.firstInputHash = some anchor) :
    later.firstInputHash = some anchor := by
  cases effect with
  | @invalidated edited added inputs =>
    rw [firstInputHash_invalidate, ← first]
    cases spent : tx.inputs with
    | nil => simp [Transaction.firstInputHash, spent] at first
    | cons input rest => simp [Transaction.firstInputHash, inputs, spent]
  | moved height => exact (firstInputHash_congr (content_stampChildren _)).trans first
  | untouched untouched => exact (firstInputHash_congr untouched.content).trans first

theorem said_stampChildren (tx : Transaction) :
    tx.stampChildren.outputs.map said = tx.outputs.map said :=
  map_view_mapIdx said (by intros; rfl) tx.outputs

/-- An edit of another output is not seen, whatever it does and whether or not it fails. -/
theorem said_editOutput {α : Type} (tx : Transaction) {other : Nat} (apart : other ≠ index)
    (edit : EStateM Error Output α) :
    ((stateAfter (editOutput other edit tx)).outputs.map said)[index]? =
      (tx.outputs.map said)[index]? := by
  have replaced (output : Output) :
      ((tx.replaceOutput other output).invalidate.outputs.map said)[index]? =
        (tx.outputs.map said)[index]? := by
    have stamped : (tx.replaceOutput other output).invalidate.outputs.map said =
        (tx.outputs.set other output).map said := said_stampChildren _
    rw [stamped, List.map_set, List.getElem?_set_ne apart]
  rw [stateAfter_editOutput]
  cases tx.outputs[other]? with
  | none => rfl
  | some output => exact replaced _

theorem said_apply {op : Operation} (spares : op.Spares index)
    (stands : (tx.outputs.map said)[index]? = some meaning) :
    ((tx.apply op).outputs.map said)[index]? = some meaning := by
  rw [apply_stateAfter, ← stands]
  -- Additions come behind the outputs that are there; only edits put another output in a place.
  have inside := (List.getElem?_eq_some_iff.mp stands).1
  have invalidated (edited : Transaction) (same : edited.outputs = tx.outputs) :
      (edited.invalidate.outputs.map said)[index]? = (tx.outputs.map said)[index]? := by
    rw [← same]
    exact congrArg (·[index]?) (said_stampChildren _)
  cases op with
  | addInputs inputs => exact invalidated _ rfl
  | addOutputs outputs =>
    have stamped : (tx.addOutputs outputs).outputs.map said = (tx.outputs ++ outputs).map said :=
      said_stampChildren _
    show ((tx.addOutputs outputs).outputs.map said)[index]? = _
    rw [stamped, List.map_append, List.getElem?_append_left inside]
  | setVersion version => exact invalidated _ rfl
  | setLocktime locktime => exact invalidated _ rfl
  | setHeight height => exact congrArg (·[index]?) (said_stampChildren _)
  | setStatus position isVerified => rfl
  | invalidate => exact invalidated tx rfl
  | annotate other edit =>
    have noted (output : Output) :
        said { output with annotations := edit output.annotations } = said output := rfl
    exact congrArg (·[index]?) (map_view_modify said noted tx.outputs other)
  | modify other edit => exact said_editOutput tx spares (thenRegenerate edit)
  | sign other channel supplied =>
    simp only [Operation.perform, signOutput]
    cases tx.signingAnchor supplied with
    | error cause => rfl
    | ok anchor => exact said_editOutput tx spares (Output.sign channel anchor)
  | clear other => exact said_editOutput tx spares Output.clearSignature
  | installKey other fresh =>
    rw [stateAfter_installKey]
    exact said_editOutput tx spares (Output.installChannelKey fresh)
  | look other how =>
    exact congrArg (·[index]?)
      (map_view_modify said (fun output => output.said_after how) tx.outputs other)
  | ordinalDay ledger =>
    simp only [Operation.perform, Transaction.ordinalDay]
    split
    · rfl
    split
    · split <;> rfl
    · rfl

theorem Standing.apply {op : Operation} (standing : tx.Standing index anchor meaning)
    (spares : op.Spares index) : (tx.apply op).Standing index anchor meaning :=
  ⟨(effect_apply tx op).firstInputHash standing.first, said_apply spares standing.stands⟩

/-! ## Runs of operations -/

theorem Standing.run {ops : List Operation} (standing : tx.Standing index anchor meaning)
    (spares : ∀ op ∈ ops, op.Spares index) : (tx.run ops).Standing index anchor meaning := by
  -- The transaction changes at each operation; anchor and meaning are those of the beginning.
  induction ops generalizing tx with
  | nil => exact standing
  | cons op ops ih =>
    obtain ⟨first, rest⟩ := List.forall_mem_cons.mp spares
    exact ih (standing.apply first) rest

/-- What is asked about a signature is answered from the anchor and from what the output
says. -/
theorem Standing.answers (standing : tx.Standing index anchor meaning) (ledger : Ledger) :
    tx.outputSignatureDigest index ledger = meaning.digest (some anchor) ledger ∧
      ∀ channel, tx.isOutputSignedBy index channel ledger =
        meaning.signedBy channel (some anchor) ledger := by
  obtain ⟨output, stands, rfl⟩ :
      ∃ output, tx.outputs[index]? = some output ∧ output.said = meaning := by
    simpa only [List.getElem?_map, Option.map_eq_some_iff] using standing.stands
  constructor
  · simp only [outputSignatureDigest, Transaction.output, stands, standing.first]
    rfl
  · intro channel
    rw [isOutputSignedBy_eq stands, standing.first]
    rfl

/-- In a transaction that spends something, the digest that the signature of a claim is made
over and the answer whether a channel has signed it stay what they are, errors included,
through every run of operations that are not aimed at the output with the claim. The scheme
of the signature makes no difference. -/
theorem signatures_outlast_run {ops : List Operation} (spending : tx.inputs ≠ [])
    (inside : index < tx.outputs.length) (spares : ∀ op ∈ ops, op.Spares index)
    (ledger : Ledger) :
    (tx.run ops).outputSignatureDigest index ledger = tx.outputSignatureDigest index ledger ∧
      ∀ channel, (tx.run ops).isOutputSignedBy index channel ledger =
        tx.isOutputSignedBy index channel ledger := by
  obtain ⟨input, rest, spent⟩ := List.exists_cons_of_ne_nil spending
  have standing : tx.Standing index input.spends.outpoint.wire.toList tx.outputs[index].said := by
    constructor
    · rw [firstInputHash, spent, List.head?_cons, Option.map_some]
    · rw [List.getElem?_map, List.getElem?_eq_getElem inside, Option.map_some]
  obtain ⟨digest, signedBy⟩ := standing.answers ledger
  obtain ⟨digestLater, signedByLater⟩ := (standing.run spares).answers ledger
  exact ⟨digestLater.trans digest.symm,
    fun channel => (signedByLater channel).trans (signedBy channel).symm⟩

/-- A claim of the older scheme, a claim that is signed over the outpoint it is published
with, and a payment. -/
def publication : Transaction :=
  ((new 1 0).apply (.addInputs [funding])).apply (.addOutputs
    [updating (evenHash 0x44)
        { message := .stream ⟨"w", "", none⟩
          channelHash := some (evenHash 0x11)
          signature := some (FixedBytes.zeros 64)
          unsignedPayload := some [1, 2, 3] },
      unitSigned, Output.payPubKeyHash 7 (FixedBytes.zeros 20)])

/-- Additions, edits of the payment and of another claim, some of which fail, a note on the
signed claim, and another version and height. -/
def unrelatedEdits : List Operation :=
  [.addInputs [Input.coinbase], .addOutputs [updating (evenHash 0x33) unsignedStream],
    .modify 2 (modify fun output => { output with amount := 8 }),
    .modify 2 (throw (.malformed (.refused ""))), .clear 2, .clear 9, .installKey 3 unitKey,
    .sign 3 unitSigner none, .annotate 1 fun _ => {}, .setVersion 2, .setHeight 5]

theorem signatures_outlast_edits :
    (∀ index < 2, ∀ ledger, (publication.run unrelatedEdits).outputSignatureDigest index ledger =
      publication.outputSignatureDigest index ledger) ∧
      ∀ ledger, (publication.run unrelatedEdits).isOutputSignedBy 1 unitSigner ledger =
        publication.isOutputSignedBy 1 unitSigner ledger := by
  have spares (index : Nat) (signed : index < 2) : ∀ op ∈ unrelatedEdits, op.Spares index := by
    simp only [unrelatedEdits, List.forall_mem_cons, Operation.Spares, true_and, List.not_mem_nil,
      false_implies, implies_true, and_true]
    omega
  have spending : publication.inputs ≠ [] := List.cons_ne_nil _ _
  have inside (index : Nat) (signed : index < 2) : index < publication.outputs.length :=
    Nat.lt_trans signed (by decide)
  refine ⟨fun index signed ledger => ?_, fun ledger => ?_⟩
  · exact (signatures_outlast_run spending (inside index signed) (spares index signed) _).1
  · exact (signatures_outlast_run spending (inside 1 (by decide)) (spares 1 (by decide)) _).2 _

end Transaction

end ClaimLedger
