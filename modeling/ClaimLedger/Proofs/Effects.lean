import ClaimLedger.Proofs.Content
import ClaimLedger.Transaction.Operation

/-! What operations do to the wire form and the identity of a transaction. There
are only three effects, failures included: the transaction is identified anew, or
seen at another height, or left alone in everything that travels or
identifies. -/
namespace ClaimLedger.Transaction

/-- Whether an operation makes the transaction forget the bytes it was read from.
Edits do whether or not they succeed, but only where there is an output to edit;
signing also needs an anchor. -/
def Operation.drops (tx : Transaction) : Operation → Bool
  | addInputs _ => true
  | addOutputs _ => true
  | setVersion _ => true
  | setLocktime _ => true
  | setHeight _ => false
  | setStatus _ _ => false
  | invalidate => true
  | annotate _ _ => false
  | modify index _ => index < tx.outputs.length
  | sign index _ anchor => (anchor.isSome || !tx.inputs.isEmpty) && index < tx.outputs.length
  | clear index => index < tx.outputs.length
  | installKey index _ => index < tx.outputs.length
  | look _ _ => false
  | ordinalDay _ => false

/-- The inputs that an operation brings. -/
def Operation.added : Operation → List Input
  | addInputs inputs => inputs
  | _ => []

/-- Everything that travels or identifies is as it was. Annotations, status, the
day and which payloads are decoded may differ. -/
structure Untouched (tx later : Transaction) : Prop where
  version : later.version = tx.version
  locktime : later.locktime = tx.locktime
  height : later.height = tx.height
  raw : later.raw = tx.raw
  txRef : later.txRef = tx.txRef
  inputs : later.inputs = tx.inputs
  contents : later.outputs.map Output.content = tx.outputs.map Output.content
  places : later.outputs.map (·.place) = tx.outputs.map (·.place)

theorem Untouched.refl (tx : Transaction) : tx.Untouched tx :=
  ⟨rfl, rfl, rfl, rfl, rfl, rfl, rfl, rfl⟩

theorem Untouched.content {tx later : Transaction} (untouched : tx.Untouched later) :
    later.content = tx.content := by
  simp only [Transaction.content, untouched.version, untouched.locktime, untouched.inputs,
    untouched.contents]

/-- Editing one output in what neither travels nor identifies. -/
theorem untouched_modify (tx : Transaction) (index : Nat) {edit : Output → Output}
    (content : ∀ output, (edit output).content = output.content)
    (place : ∀ output, (edit output).place = output.place) :
    tx.Untouched { tx with outputs := tx.outputs.modify index edit } :=
  ⟨rfl, rfl, rfl, rfl, rfl, rfl, map_view_modify Output.content content tx.outputs index,
    map_view_modify (·.place) place tx.outputs index⟩

/-- What becomes of a transaction, whether it forgot the bytes it was read from,
and which inputs it gained: an edited transaction is identified anew, or the
transaction is seen at another height, or it is left alone. -/
inductive Effect (tx : Transaction) : Bool → List Input → Transaction → Prop where
  | invalidated {edited : Transaction} {added : List Input}
      (inputs : edited.inputs = tx.inputs ++ added) : Effect tx true added edited.invalidate
  | moved (height : Int) : Effect tx false [] (tx.setHeight height)
  | untouched {later : Transaction} (untouched : tx.Untouched later) : Effect tx false [] later

/-- What a failing or succeeding run leaves. -/
def stateAfter {σ α : Type} : EStateM.Result Error σ α → σ
  | .ok _ state => state
  | .error _ state => state

theorem apply_stateAfter (tx : Transaction) (op : Operation) :
    tx.apply op = stateAfter (op.perform tx) := by
  unfold apply
  cases op.perform tx <;> rfl

/-- An edit leaves the transaction identified anew with the output that it leaves, whether or
not it failed. -/
theorem stateAfter_editOutput {α : Type} (tx : Transaction) (index : Nat)
    (edit : EStateM Error Output α) :
    stateAfter (editOutput index edit tx) =
      match tx.outputs[index]? with
      | none => tx
      | some output => (tx.replaceOutput index (stateAfter (edit output))).invalidate := by
  simp only [editOutput, Transaction.output]
  cases tx.outputs[index]? with
  | none => rfl
  | some output =>
    dsimp only
    cases edit output <;> rfl

/-- An edit identifies the transaction anew, where there is an output to edit. -/
theorem effect_editOutput {α : Type} (tx : Transaction) (index : Nat)
    (edit : EStateM Error Output α) :
    Effect tx (index < tx.outputs.length) [] (stateAfter (editOutput index edit tx)) := by
  rw [stateAfter_editOutput]
  by_cases present : index < tx.outputs.length
  · simp only [present, decide_true, List.getElem?_eq_getElem present]
    exact .invalidated (List.append_nil _).symm
  · simp only [present, decide_false, List.getElem?_eq_none (Nat.le_of_not_lt present)]
    exact .untouched (.refl tx)

/-- Looking changes nothing that travels or identifies. -/
theorem after_untouched (output : Output) (read : Output.Read) :
    (output.after read).content = output.content ∧ (output.after read).place = output.place := by
  cases read with
  | signedBy channel =>
    simp only [Output.after]
    split <;> exact ⟨rfl, rfl⟩
  | _ => exact ⟨rfl, rfl⟩

/-- There is an anchor to sign over when one is supplied or an outpoint is spent. -/
theorem isOk_signingAnchor (tx : Transaction) (supplied : Option Bytes) :
    (tx.signingAnchor supplied).isOk = (supplied.isSome || !tx.inputs.isEmpty) := by
  cases supplied with
  | some anchor => rfl
  | none =>
    cases spent : tx.inputs with
    | nil => simp [signingAnchor, firstInputHash, spent, Except.isOk, Except.toBool]
    | cons input inputs => simp [signingAnchor, firstInputHash, spent, Except.isOk, Except.toBool]

/-- Installing a key leaves what the edit of the output leaves; the key itself is for whoever
asked. -/
theorem stateAfter_installKey (tx : Transaction) (index : Nat) (fresh : ChannelKey) :
    stateAfter ((Operation.installKey index fresh).perform tx) =
      stateAfter (editOutput index (Output.installChannelKey fresh) tx) := by
  simp only [Operation.perform, installChannelKey]
  cases editOutput index (Output.installChannelKey fresh) tx <;> rfl

/-- Every operation has one of the three effects. -/
theorem effect_apply (tx : Transaction) (op : Operation) :
    Effect tx (op.drops tx) op.added (tx.apply op) := by
  rw [apply_stateAfter]
  cases op with
  | addInputs inputs => exact .invalidated rfl
  | addOutputs outputs => exact .invalidated (List.append_nil _).symm
  | setVersion version => exact .invalidated (List.append_nil _).symm
  | setLocktime locktime => exact .invalidated (List.append_nil _).symm
  | setHeight height => exact .moved height
  | setStatus position isVerified => exact .untouched ⟨rfl, rfl, rfl, rfl, rfl, rfl, rfl, rfl⟩
  | invalidate => exact .invalidated (List.append_nil _).symm
  | annotate index edit =>
    exact .untouched (untouched_modify tx index (fun _ => rfl) fun _ => rfl)
  | modify index edit => exact effect_editOutput tx index (thenRegenerate edit)
  | sign index channel anchor =>
    have anchored := isOk_signingAnchor tx anchor
    simp only [Operation.drops, Operation.perform, signOutput, ← anchored]
    cases tx.signingAnchor anchor with
    | error cause => exact .untouched (.refl tx)
    | ok anchor => exact effect_editOutput tx index (Output.sign channel anchor)
  | clear index => exact effect_editOutput tx index Output.clearSignature
  | installKey index fresh =>
    rw [stateAfter_installKey]
    exact effect_editOutput tx index (Output.installChannelKey fresh)
  | look index how =>
    exact .untouched (untouched_modify tx index (fun output => (after_untouched output how).1)
      fun output => (after_untouched output how).2)
  | ordinalDay ledger =>
    simp only [Operation.perform, Transaction.ordinalDay]
    split
    · exact .untouched (.refl tx)
    split
    · split <;> exact .untouched ⟨rfl, rfl, rfl, rfl, rfl, rfl, rfl, rfl⟩
    · exact .untouched (.refl tx)

end ClaimLedger.Transaction
