import ClaimLedger.Proofs.Numbers
import ClaimLedger.Transaction.Basic

/-! What of a transaction travels. An input travels as the outpoint it spends,
the bytes in its slot and its sequence number, an output as its amount and the
bytes of its script; places, copies of spent outputs, annotations and decoded
payloads stay behind. The canonical wire form is a function of the content, and
stamping and looking leave the content alone. -/
namespace ClaimLedger

/-- What of an input travels. -/
structure Input.Content where
  spends : Outpoint
  slot : Bytes
  sequence : UInt32
  deriving DecidableEq

/-- What of an output travels. -/
structure Output.Content where
  amount : UInt64
  source : Bytes
  deriving DecidableEq

/-- What of a transaction travels. -/
structure Transaction.Content where
  version : UInt32
  locktime : UInt32
  inputs : List Input.Content
  outputs : List Output.Content
  deriving DecidableEq

def Input.content (input : Input) : Input.Content :=
  ⟨input.spends.outpoint, input.source.bytes, input.sequence⟩

def Output.content (output : Output) : Output.Content :=
  ⟨output.amount, output.script.source⟩

def Transaction.content (tx : Transaction) : Transaction.Content :=
  ⟨tx.version, tx.locktime, tx.inputs.map Input.content, tx.outputs.map Output.content⟩

def Input.Content.write (content : Input.Content) : Bytes :=
  content.spends.wire.toList ++ lengthPrefixed content.slot ++ leBytes 4 content.sequence.toNat

def Output.Content.write (content : Output.Content) : Bytes :=
  leBytes 8 content.amount.toNat ++ lengthPrefixed content.source

/-- The wire form that a content has. -/
def Transaction.Content.write (content : Transaction.Content) : Bytes :=
  leBytes 4 content.version.toNat ++
    (compactSize content.inputs.length ++ content.inputs.flatMap Input.Content.write) ++
    (compactSize content.outputs.length ++ content.outputs.flatMap Output.Content.write) ++
    leBytes 4 content.locktime.toNat

theorem Transaction.serialize_content (tx : Transaction) : tx.serialize = tx.content.write := by
  simp only [serialize, writeInputs, writeOutputs, content, Content.write, List.length_map,
    List.flatMap_map]
  rfl

/-- Content decides the canonical wire form. -/
theorem Transaction.serialize_congr {tx other : Transaction} (same : tx.content = other.content) :
    tx.serialize = other.serialize := by
  rw [serialize_content, serialize_content, same]

/-! ## What leaves the content alone -/

/-- Editing items by their index shows in no view that the edits do not touch. -/
theorem map_view_mapIdx {α β : Type} (view : α → β) {edit : Nat → α → α}
    (blind : ∀ i item, view (edit i item) = view item) (items : List α) :
    (items.mapIdx edit).map view = items.map view := by
  apply List.ext_getElem?
  intro i
  simp only [List.getElem?_map, List.getElem?_mapIdx, Option.map_map]
  exact congrArg (Option.map · items[i]?) (funext fun item => blind i item)

/-- Editing one item shows in a view as the edit shows in the view of the item. -/
theorem map_modify {α β : Type} (view : α → β) {edit : α → α} {edit' : β → β}
    (shows : ∀ item, view (edit item) = edit' (view item)) (items : List α) (index : Nat) :
    (items.modify index edit).map view = (items.map view).modify index edit' := by
  apply List.ext_getElem?
  intro i
  simp only [List.getElem?_map, List.getElem?_modify, Option.map_eq_map, Option.map_map]
  refine congrArg (Option.map · items[i]?) (funext fun item => ?_)
  by_cases here : index = i
  · simpa [here] using shows item
  · simp [here]

/-- Editing one item shows in no view that the edit does not touch. -/
theorem map_view_modify {α β : Type} (view : α → β) {edit : α → α}
    (blind : ∀ item, view (edit item) = view item) (items : List α) (index : Nat) :
    (items.modify index edit).map view = items.map view :=
  (@map_modify α β view edit id blind items index).trans (List.modify_id index _)

/-- The input without its place. -/
def Input.detached (input : Input) : Input := { input with place := none }

/-- The output without its place. -/
def Output.detached (output : Output) : Output := { output with place := none }

namespace Transaction

theorem content_stampChildren (tx : Transaction) : tx.stampChildren.content = tx.content := by
  have inputs : tx.stampChildren.inputs.map Input.content = tx.inputs.map Input.content :=
    map_view_mapIdx Input.content (by intros; rfl) tx.inputs
  have outputs : tx.stampChildren.outputs.map Output.content = tx.outputs.map Output.content :=
    map_view_mapIdx Output.content (by intros; rfl) tx.outputs
  simp only [content, inputs, outputs]
  rfl

theorem content_identify (tx : Transaction) (raw : Bytes) :
    (tx.identify raw).content = tx.content :=
  content_stampChildren _

/-- An invalidated transaction keeps the wire form of its fields. -/
theorem raw_invalidate (tx : Transaction) : tx.invalidate.raw = tx.invalidate.serialize :=
  (serialize_congr (content_identify tx tx.serialize)).symm

end Transaction

/-! ## The parts are no longer than the whole -/

/-- Sizes that compact sizes can spell. -/
structure Transaction.Content.Sizes (content : Transaction.Content) : Prop where
  inputs : content.inputs.length < 2 ^ 64
  outputs : content.outputs.length < 2 ^ 64
  slots : ∀ input ∈ content.inputs, input.slot.length < 2 ^ 64
  sources : ∀ output ∈ content.outputs, output.source.length < 2 ^ 64

/-- Inputs and outputs that can be stored one behind the other have such sizes. -/
theorem Transaction.Content.sizes_of_length {content : Transaction.Content}
    (short : (content.inputs.flatMap Input.Content.write).length +
      (content.outputs.flatMap Output.Content.write).length < 2 ^ 64) : content.Sizes := by
  have slot (input : Input.Content) : input.slot.length < input.write.length := by
    simp [Input.Content.write, length_lengthPrefixed]
    omega
  have source (output : Output.Content) : output.source.length < output.write.length := by
    simp [Output.Content.write, length_lengthPrefixed]
    omega
  have inputs := count_le_flatMap fun input (_ : input ∈ content.inputs) =>
    Nat.zero_lt_of_lt (slot input)
  have outputs := count_le_flatMap fun output (_ : output ∈ content.outputs) =>
    Nat.zero_lt_of_lt (source output)
  refine ⟨by omega, by omega, fun input member => ?_, fun output member => ?_⟩
  · have part : input.write.length ≤ (content.inputs.flatMap Input.Content.write).length :=
      length_le_flatMap member
    exact Nat.lt_trans (slot input) (by omega)
  · have part : output.write.length ≤ (content.outputs.flatMap Output.Content.write).length :=
      length_le_flatMap member
    exact Nat.lt_trans (source output) (by omega)

end ClaimLedger
