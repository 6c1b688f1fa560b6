import Mathlib.Data.List.Forall2
import ClaimLedger.Proofs.BlindEdits
import ClaimLedger.Proofs.SignThenVerify
import ClaimLedger.Transaction.Amounts

/-! What a wallet notes stays with the wallet. Two transactions that differ only in what is
noted about their outputs, and about the copies of outputs that their inputs hold, are
told apart by nothing that is sent, hashed, signed or reckoned; and operations that differ
only in such notes leave them so, wherever notes are edited in between. The one note that
counts is the key of the channel that is asked to sign. -/
namespace ClaimLedger

open Transaction (stateAfter)

/-! ## Without the notes -/

namespace Output

/-- The output without what is noted about it. -/
def unannotated (output : Output) : Output := { output with annotations := {} }

/-- The same output, whatever is noted about it. -/
def Alike (output other : Output) : Prop := output.unannotated = other.unannotated

/-- The edits leave the same amount and the same script on outputs that are alike. What they
answer, and what they note, is theirs. -/
def EditAlike {α β : Type} (edit : EStateM Error Output α) (edit' : EStateM Error Output β) :
    Prop :=
  ∀ output other, Alike output other →
    (stateAfter (edit output)).unannotated.detached =
      (stateAfter (edit' other)).unannotated.detached

end Output

/-- The input without what is noted about the output it spends. -/
def Input.unannotated (input : Input) : Input :=
  { input with
    spends := { input.spends with output := input.spends.output.map Output.unannotated } }

namespace Transaction

/-- The transaction without what is noted about its outputs and those it spends. -/
def unannotated (tx : Transaction) : Transaction :=
  { tx with
    inputs := tx.inputs.map Input.unannotated
    outputs := tx.outputs.map Output.unannotated }

/-- Such a transaction whose outputs do not know where they stand. -/
def bare (tx : Transaction) : Transaction :=
  { tx.unannotated with outputs := tx.outputs.map fun output => output.unannotated.detached }

/-- Operations that do more than note something. -/
def Operation.isStep : Operation → Bool
  | annotate _ _ => false
  | _ => true

/-- The operations without those that only note something. -/
def steps (ops : List Operation) : List Operation := ops.filter (·.isStep)

/-- The same operation, whatever is noted about the outputs handed over, except that a
channel asked to sign keeps its key. -/
inductive Operation.Alike : Operation → Operation → Prop where
  | addInputs {inputs inputs' : List Input}
      (same : inputs.map Input.unannotated = inputs'.map Input.unannotated) :
      Alike (.addInputs inputs) (.addInputs inputs')
  | addOutputs {outputs outputs' : List Output}
      (same : outputs.map Output.unannotated = outputs'.map Output.unannotated) :
      Alike (.addOutputs outputs) (.addOutputs outputs')
  | setVersion (version : UInt32) : Alike (.setVersion version) (.setVersion version)
  | setLocktime (locktime : UInt32) : Alike (.setLocktime locktime) (.setLocktime locktime)
  | setHeight (height : Int) : Alike (.setHeight height) (.setHeight height)
  | setStatus (position : Int) (isVerified : Bool) :
      Alike (.setStatus position isVerified) (.setStatus position isVerified)
  | invalidate : Alike .invalidate .invalidate
  | modify (index : Nat) {edit edit' : EStateM Error Output Unit}
      (alike : Output.EditAlike edit edit') : Alike (.modify index edit) (.modify index edit')
  | sign (index : Nat) (anchor : Option Bytes) {channel channel' : Output}
      (same : channel.Alike channel')
      (key : channel.annotations.privateKey = channel'.annotations.privateKey) :
      Alike (.sign index channel anchor) (.sign index channel' anchor)
  | clear (index : Nat) : Alike (.clear index) (.clear index)
  | installKey (index : Nat) (fresh : ChannelKey) :
      Alike (.installKey index fresh) (.installKey index fresh)
  | look (index : Nat) (how : Output.Read) : Alike (.look index how) (.look index how)
  | lookSigned (index : Nat) {channel channel' : Output} (same : channel.Alike channel') :
      Alike (.look index (.signedBy channel)) (.look index (.signedBy channel'))
  | ordinalDay (ledger : Ledger) : Alike (.ordinalDay ledger) (.ordinalDay ledger)

/-- Nothing that is sent, hashed, signed or reckoned tells the two apart. -/
structure Agrees (tx other : Transaction) : Prop where
  raw : tx.raw = other.raw
  id : tx.id = other.id
  witnesses : tx.witnesses = other.witnesses
  size : tx.size = other.size
  fee : tx.fee = other.fee
  ordinalDay : ∀ ledger, (tx.ordinalDay ledger).1 = (other.ordinalDay ledger).1
  signaturePreimage : ∀ index, tx.signaturePreimage index = other.signaturePreimage index
  outputSignatureDigest : ∀ index ledger,
    tx.outputSignatureDigest index ledger = other.outputSignatureDigest index ledger
  isOutputSignedBy : ∀ index ledger {channel channel' : Output}, channel.Alike channel' →
    tx.isOutputSignedBy index channel ledger = other.isOutputSignedBy index channel' ledger

end Transaction

/-! ## Answers -/

namespace Output

variable {output other : Output}

/-- Outputs that are alike differ in nothing but their notes. -/
theorem Alike.exists_notes (same : output.Alike other) :
    ∃ notes, other = { output with annotations := notes } := by
  obtain ⟨amount, script, notes, place⟩ := other
  refine ⟨notes, ?_⟩
  have amounts : output.amount = amount := congrArg Output.amount same
  have scripts : output.script = script := congrArg Output.script same
  have places : output.place = place := congrArg Output.place same
  rw [amounts, scripts, places]

theorem alike_annotated (output : Output) (notes : Annotations) :
    output.Alike { output with annotations := notes } := rfl

theorem Alike.claim (same : output.Alike other) : other.claim = output.claim :=
  (congrArg Output.claim same).symm

theorem Alike.claimHash (same : output.Alike other) : other.claimHash = output.claimHash :=
  (congrArg Output.claimHash same).symm

end Output

namespace Transaction

variable (tx : Transaction)

theorem writeOutputs_unannotated (outputs : List Output) :
    writeOutputs (outputs.map Output.unannotated) = writeOutputs outputs := by
  rw [writeOutputs, List.length_map, List.flatMap_map]
  rfl

theorem writeSigned_unannotated (inputs : List Input) (index : Nat) (script : Bytes) :
    writeSigned (inputs.map Input.unannotated) index script = writeSigned inputs index script := by
  simp only [writeSigned, List.length_map, List.mapIdx_eq_zipIdx_map, List.zipIdx_map,
    List.map_map]
  rfl

theorem output_unannotated (index : Nat) :
    tx.unannotated.output index = Output.unannotated <$> tx.output index := by
  simp only [output, unannotated, List.getElem?_map, List.length_map]
  cases tx.outputs[index]? <;> rfl

theorem firstInputHash_unannotated : tx.unannotated.firstInputHash = tx.firstInputHash := by
  simp only [firstInputHash, unannotated, List.head?_map, Option.map_map]
  rfl

theorem signingAnchor_unannotated (supplied : Option Bytes) :
    tx.unannotated.signingAnchor supplied = tx.signingAnchor supplied := by
  simp only [signingAnchor, firstInputHash_unannotated]

theorem signaturePreimage_unannotated (index : Nat) :
    tx.unannotated.signaturePreimage index = tx.signaturePreimage index := by
  simp only [signaturePreimage, unannotated, List.getElem?_map, List.length_map]
  cases tx.inputs[index]? with
  | none => rfl
  | some input =>
    obtain ⟨⟨place, spent⟩, source, sequence, here⟩ := input
    cases spent with
    | none => rfl
    | some spent =>
      simp only [Option.map_some, Input.unannotated, writeOutputs_unannotated,
        writeSigned_unannotated]
      rfl

theorem outputSignatureDigest_unannotated (index : Nat) (ledger : Ledger) :
    tx.unannotated.outputSignatureDigest index ledger = tx.outputSignatureDigest index ledger := by
  rw [outputSignatureDigest, output_unannotated, firstInputHash_unannotated,
    outputSignatureDigest]
  cases tx.output index <;> rfl

theorem isOutputSignedBy_unannotated (index : Nat) (channel : Output) (ledger : Ledger) :
    tx.unannotated.isOutputSignedBy index channel.unannotated ledger =
      tx.isOutputSignedBy index channel ledger := by
  rw [isOutputSignedBy, output_unannotated, firstInputHash_unannotated, isOutputSignedBy]
  cases tx.output index <;> rfl

theorem addInputAmounts_unannotated (sum : Nat) (inputs : List Input) :
    addInputAmounts sum (inputs.map Input.unannotated) = addInputAmounts sum inputs := by
  induction inputs generalizing sum with
  | nil => rfl
  | cons input inputs ih =>
    have amount : input.unannotated.amount = input.amount := by
      obtain ⟨⟨place, spent⟩, source, sequence, here⟩ := input
      cases spent <;> rfl
    simp only [List.map_cons, addInputAmounts, amount, ih]

theorem fee_unannotated : tx.unannotated.fee = tx.fee := by
  have paid : tx.unannotated.outputSum = tx.outputSum := by
    simp only [outputSum, unannotated, List.map_map]
    rfl
  simp only [fee, paid]
  rw [unannotated, addInputAmounts_unannotated]

theorem ordinalDay_unannotated (ledger : Ledger) :
    tx.unannotated.ordinalDay ledger =
      ((tx.ordinalDay ledger).1, (tx.ordinalDay ledger).2.unannotated) := by
  have confirmed : tx.unannotated.isConfirmed = tx.isConfirmed := rfl
  have day : tx.unannotated.day = tx.day := rfl
  have height : tx.unannotated.height = tx.height := rfl
  simp only [ordinalDay, confirmed, day, height]
  cases tx.day with
  | some day => rfl
  | none =>
    cases tx.isConfirmed
    · rfl
    · cases ledger.estimatedDate? tx.height <;> rfl

/-- The answers are about what is left without the notes. -/
theorem agrees_unannotated {tx other : Transaction} (same : tx.unannotated = other.unannotated) :
    tx.Agrees other where
  raw := (congrArg Transaction.raw same :)
  id := (congrArg Transaction.id same :)
  witnesses := (congrArg Transaction.witnesses same :)
  size := (congrArg Transaction.size same :)
  fee := by rw [← fee_unannotated tx, same, fee_unannotated]
  ordinalDay ledger := by
    have days := congrArg (·.ordinalDay ledger) same
    rw [ordinalDay_unannotated, ordinalDay_unannotated] at days
    exact (Prod.mk.inj days).1
  signaturePreimage index := by
    rw [← signaturePreimage_unannotated tx, same, signaturePreimage_unannotated]
  outputSignatureDigest index ledger := by
    rw [← outputSignatureDigest_unannotated tx, same, outputSignatureDigest_unannotated]
  isOutputSignedBy index ledger channel channel' alike := by
    rw [← isOutputSignedBy_unannotated tx, same, alike, isOutputSignedBy_unannotated]

end Transaction

/-! ## Edits of one output -/

namespace Output

/-- Notes are a difference that the edits of this library do not see. -/
theorem unseen_alike : Unseen Alike where
  claim := Alike.claim
  claimDecoded same := congrArg Output.claimDecoded same
  editClaim edit output other same := by
    obtain ⟨notes, rfl⟩ := same.exists_notes
    simp only [editClaim]
    cases output.script.claim? with
    | none => exact .error _ same
    | some payload =>
      dsimp only
      cases payload.value with
      | error cause => exact .error cause same
      | ok claim => exact .ok () (alike_annotated _ notes)
  annotate change := respects_modify fun same => same
  regenerate output other same := by
    obtain ⟨notes, rfl⟩ := same.exists_notes
    simp only [regenerate]
    cases output.script.generate with
    | ok result script => exact .ok () (alike_annotated _ notes)
    | error cause script => exact .error cause (alike_annotated _ notes)

variable {α β : Type}

theorem Respects.editAlike {edit : EStateM Error Output α} (respects : Respects Alike edit) :
    EditAlike edit edit :=
  fun output other same => congrArg Output.detached (respects output other same).stateAfter

/-- Only the key and the identity of the channel matter. -/
theorem sign_congr {channel channel' : Output} (same : channel.Alike channel')
    (key : channel.annotations.privateKey = channel'.annotations.privateKey) (anchor : Bytes) :
    sign channel' anchor = sign channel anchor := by
  simp only [sign, key, same.claimHash]

theorem stateAfter_thenRegenerate (edit : EStateM Error Output α) (output : Output) :
    stateAfter (Transaction.thenRegenerate edit output) =
      stateAfter (regenerate (stateAfter (edit output))) := by
  simp only [Transaction.thenRegenerate]
  cases edit output with
  | ok result changed =>
    simp only [stateAfter]
    cases regenerate changed <;> rfl
  | error cause changed =>
    simp only [stateAfter]
    cases regenerate changed <;> rfl

/-- A script is rebuilt from itself alone. -/
theorem unannotated_regenerate (output : Output) :
    (stateAfter (regenerate output)).unannotated.detached =
      stateAfter (regenerate output.unannotated.detached) := by
  simp only [regenerate, unannotated, detached]
  cases output.script.generate <;> rfl

theorem EditAlike.thenRegenerate {edit : EStateM Error Output α} {edit' : EStateM Error Output β}
    (alike : EditAlike edit edit') :
    EditAlike (Transaction.thenRegenerate edit) (Transaction.thenRegenerate edit') := by
  intro output other same
  rw [stateAfter_thenRegenerate, stateAfter_thenRegenerate, unannotated_regenerate,
    unannotated_regenerate, alike output other same]

end Output

/-! ## Operations -/

namespace Transaction

/-- Stamping tells the outputs where they stand, wherever they stood before. -/
theorem unannotated_stampChildren (tx : Transaction) :
    tx.stampChildren.unannotated = tx.bare.stampChildren := by
  simp only [stampChildren, unannotated, bare, List.mapIdx_eq_zipIdx_map, List.zipIdx_map,
    List.map_map]
  rfl

theorem unannotated_invalidate (tx : Transaction) :
    tx.invalidate.unannotated = tx.bare.invalidate := by
  have content : tx.bare.content = tx.content := by
    simp only [Transaction.content, bare, unannotated, List.map_map]
    rfl
  rw [invalidate, invalidate, serialize_congr content]
  exact unannotated_stampChildren _

theorem unannotated_setHeight (tx : Transaction) (height : Int) :
    (tx.setHeight height).unannotated = tx.bare.setHeight height :=
  unannotated_stampChildren _

variable {tx other : Transaction}

/-- Places are forgotten beside the notes. -/
theorem bare_congr (same : tx.unannotated = other.unannotated) : tx.bare = other.bare := by
  have detaching (tx : Transaction) : tx.bare =
      { tx.unannotated with outputs := tx.unannotated.outputs.map Output.detached } := by
    simp only [bare, unannotated, List.map_map]
    rfl
  rw [detaching, detaching, same]

theorem unannotated_editAnnotations (tx : Transaction) (index : Nat)
    (edit : Annotations → Annotations) :
    (tx.editAnnotations index edit).unannotated = tx.unannotated := by
  simp only [editAnnotations, unannotated]
  rw [map_view_modify Output.unannotated (by intros; rfl)]

theorem invalidate_congr (same : tx.bare = other.bare) :
    tx.invalidate.unannotated = other.invalidate.unannotated := by
  rw [unannotated_invalidate, unannotated_invalidate, same]

/-- Edits that are alike have their output in both transactions or in neither. -/
theorem unannotated_editOutput {α β : Type} {edit : EStateM Error Output α}
    {edit' : EStateM Error Output β} (alike : Output.EditAlike edit edit')
    (same : tx.unannotated = other.unannotated) (index : Nat) :
    (stateAfter (editOutput index edit tx)).unannotated =
      (stateAfter (editOutput index edit' other)).unannotated := by
  have stands : tx.outputs[index]?.map Output.unannotated =
      other.outputs[index]?.map Output.unannotated := by
    have outputs := congrArg (fun tx : Transaction => tx.outputs[index]?) same
    simpa only [unannotated, List.getElem?_map] using outputs
  rw [stateAfter_editOutput, stateAfter_editOutput]
  cases here : tx.outputs[index]? with
  | none =>
    rw [here, Option.map_none, eq_comm, Option.map_eq_none_iff] at stands
    simp only [stands]
    exact same
  | some output =>
    rw [here, Option.map_some, eq_comm, Option.map_eq_some_iff] at stands
    obtain ⟨output', here', like⟩ := stands
    have replaced (tx : Transaction) (output : Output) : (tx.replaceOutput index output).bare =
        tx.bare.replaceOutput index output.unannotated.detached := by
      simp only [bare, unannotated, replaceOutput, List.map_set]
    simp only [here']
    rw [unannotated_invalidate, unannotated_invalidate, replaced, replaced, bare_congr same,
      alike output output' like.symm]

/-- Looking decodes payloads, which are the same without the notes. -/
theorem unannotated_afterRead (tx : Transaction) (index : Nat) (how : Output.Read) :
    (tx.afterRead index how).unannotated = tx.unannotated.afterRead index how := by
  have shows (output : Output) : (output.after how).unannotated = output.unannotated.after how := by
    cases how with
    | signedBy channel =>
      simp only [Output.after]
      split <;> rfl
    | _ => rfl
  simp only [afterRead, unannotated]
  rw [@map_modify _ _ Output.unannotated _ (Output.after · how) shows]

theorem afterRead_signedBy_congr (tx : Transaction) (index : Nat) {channel channel' : Output}
    (same : channel.Alike channel') :
    tx.afterRead index (.signedBy channel') = tx.afterRead index (.signedBy channel) := by
  have published : channel'.publishedKey = channel.publishedKey := by
    rw [Output.publishedKey, same.claim]
    rfl
  simp only [afterRead, Output.after, published]

/-- Operations that only note something leave the rest. -/
theorem unannotated_note {op : Operation} (note : op.isStep = false) (tx : Transaction) :
    (tx.apply op).unannotated = tx.unannotated := by
  cases op with
  | annotate index edit => exact unannotated_editAnnotations tx index edit
  | _ => cases note

/-- One operation on transactions that differ only in notes. -/
theorem unannotated_apply {op op' : Operation} (alike : op.Alike op')
    (same : tx.unannotated = other.unannotated) :
    (tx.apply op).unannotated = (other.apply op').unannotated := by
  have bare := bare_congr same
  rw [apply_stateAfter, apply_stateAfter]
  cases alike with
  | addInputs added =>
    have appended (tx : Transaction) (inputs : List Input) :
        unannotated { tx with inputs := tx.inputs ++ inputs } =
          { tx.unannotated with
            inputs := tx.unannotated.inputs ++ inputs.map Input.unannotated } := by
      simp only [unannotated, List.map_append]
    refine invalidate_congr (bare_congr ?_)
    rw [appended, appended, same, added]
  | addOutputs added =>
    have appended (tx : Transaction) (outputs : List Output) :
        unannotated { tx with outputs := tx.outputs ++ outputs } =
          { tx.unannotated with
            outputs := tx.unannotated.outputs ++ outputs.map Output.unannotated } := by
      simp only [unannotated, List.map_append]
    refine invalidate_congr (bare_congr ?_)
    rw [appended, appended, same, added]
  | setVersion version =>
    exact invalidate_congr (congrArg (fun tx => { tx with version := version }) bare)
  | setLocktime locktime =>
    exact invalidate_congr (congrArg (fun tx => { tx with locktime := locktime }) bare)
  | setHeight height =>
    show (tx.setHeight height).unannotated = (other.setHeight height).unannotated
    rw [unannotated_setHeight, unannotated_setHeight, bare]
  | setStatus position isVerified => exact congrArg (·.setStatus position isVerified) same
  | invalidate => exact invalidate_congr bare
  | modify index alike => exact unannotated_editOutput alike.thenRegenerate same index
  | sign index anchor channels key =>
    have anchors : tx.signingAnchor anchor = other.signingAnchor anchor := by
      rw [← signingAnchor_unannotated tx, same, signingAnchor_unannotated]
    simp only [Operation.perform, signOutput, anchors, Output.sign_congr channels key]
    cases other.signingAnchor anchor with
    | error cause => exact same
    | ok anchor =>
      exact unannotated_editOutput (Output.unseen_alike.sign _ anchor).editAlike same index
  | clear index =>
    exact unannotated_editOutput (Output.unseen_alike.rewriteClaim _ _).editAlike same index
  | installKey index fresh =>
    rw [stateAfter_installKey, stateAfter_installKey]
    exact unannotated_editOutput (Output.unseen_alike.installChannelKey fresh).editAlike same index
  | look index how =>
    show (tx.afterRead index how).unannotated = (other.afterRead index how).unannotated
    rw [unannotated_afterRead, unannotated_afterRead, same]
  | lookSigned index channels =>
    show (tx.afterRead index _).unannotated = (other.afterRead index _).unannotated
    rw [afterRead_signedBy_congr other index channels, unannotated_afterRead,
      unannotated_afterRead, same]
  | ordinalDay ledger =>
    have days := congrArg (·.ordinalDay ledger) same
    rw [ordinalDay_unannotated, ordinalDay_unannotated] at days
    exact (Prod.mk.inj days).2

/-! ## Runs -/

theorem unannotated_run_notes {ops : List Operation} (notes : ∀ op ∈ ops, op.isStep = false)
    (tx : Transaction) : (tx.run ops).unannotated = tx.unannotated := by
  induction ops generalizing tx with
  | nil => rfl
  | cons op ops ih =>
    rw [List.forall_mem_cons] at notes
    exact (ih notes.2 (tx.apply op)).trans (unannotated_note notes.1 tx)

/-- Runs of operations that are alike, with notes edited in between. -/
theorem unannotated_run {ops ops' : List Operation}
    (alike : List.Forall₂ Operation.Alike (steps ops) (steps ops'))
    (same : tx.unannotated = other.unannotated) :
    (tx.run ops).unannotated = (other.run ops').unannotated := by
  generalize made : steps ops = done at alike
  generalize made' : steps ops' = done' at alike
  induction alike generalizing ops ops' tx other with
  | nil =>
    have notes {ops : List Operation} (made : steps ops = []) (op : Operation) (mem : op ∈ ops) :
        op.isStep = false := by
      simpa using List.filter_eq_nil_iff.mp made op mem
    rw [unannotated_run_notes (notes made), unannotated_run_notes (notes made'), same]
  | cons first rest ih =>
    obtain ⟨notes, later, rfl, before, -, made⟩ := List.filter_eq_cons_iff.mp made
    obtain ⟨notes', later', rfl, before', -, made'⟩ := List.filter_eq_cons_iff.mp made'
    simp only [run, List.foldl_append, List.foldl_cons]
    refine ih (unannotated_apply first ?_) made made'
    exact (unannotated_run_notes (by simpa using before) tx).trans
      (same.trans (unannotated_run_notes (by simpa using before') other).symm)

/-- The operations done when some of them are done are the first ones. -/
theorem steps_take (ops : List Operation) (n : Nat) :
    steps (ops.take n) = (steps ops).take (steps (ops.take n)).length :=
  List.prefix_iff_eq_take.mp ((List.take_prefix n ops).filter _)

/-- What a wallet notes never shows. Two transactions that differ only in what is noted about
their outputs and about the outputs they spend, and that have the same things done to them
but for such notes, with notes edited anywhere in between, agree after every step in
everything that is sent, hashed, signed or reckoned. -/
theorem annotations_never_travel {tx other : Transaction} {ops ops' : List Operation}
    (same : tx.unannotated = other.unannotated)
    (alike : List.Forall₂ Operation.Alike (steps ops) (steps ops')) {n m : Nat}
    (level : (steps (ops.take n)).length = (steps (ops'.take m)).length) :
    (tx.run (ops.take n)).Agrees (other.run (ops'.take m)) := by
  refine agrees_unannotated (unannotated_run ?_ same)
  rw [steps_take, steps_take ops', level]
  exact List.forall₂_take _ alike

open Output (evenHash updating)

/-- A claim that is funded, published, noted, paid more for and signed, by a wallet that notes
the same about every output. -/
def notedSigning (notes : Annotations) : List Operation :=
  [.addInputs [Input.ofBytes
      { funding.spends with
        output := some { Output.payPubKeyHash 9 (FixedBytes.zeros 20) with annotations := notes } }
      [] 5],
    .addOutputs [{ updating (evenHash 0x33) unsignedStream with annotations := notes }],
    .annotate 0 fun _ => notes,
    .modify 0 (modify fun output => { output with amount := 8, annotations := notes }),
    .sign 0 { unitSigner with annotations := { notes with privateKey := some unitKey } } none]

/-- A wallet that notes nothing does the same without the operation that only notes. -/
theorem annotations_never_travel_signing :
    ((new 1 0).run
        (notedSigning { privateKey := some unitKey, notes := [("label", "rent")] })).Agrees
      ((new 1 0).run (steps (notedSigning {}))) := by
  have raises (notes notes' : Annotations) : Output.EditAlike
      (modify fun output => { output with amount := 8, annotations := notes })
      (modify fun output => { output with amount := 8, annotations := notes' }) :=
    fun _ _ same => congrArg (fun output => Output.detached { output with amount := 8 }) same
  refine @annotations_never_travel (new 1 0) (new 1 0) (notedSigning _) (steps (notedSigning {}))
    rfl ?_ 5 4 rfl
  exact .cons (.addInputs rfl) (.cons (.addOutputs rfl) (.cons (.modify 0 (raises _ _))
    (.cons (.sign 0 none rfl rfl) .nil)))

end Transaction

end ClaimLedger
