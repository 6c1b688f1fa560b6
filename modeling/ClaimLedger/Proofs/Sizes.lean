import ClaimLedger.Proofs.Inputless
import ClaimLedger.Transaction.Amounts

/-! Sizes. A transaction is measured on its wire form, which may be the bytes it was read from,
and its inputs and outputs are measured as they are written now. What they leave of the whole is
what the version, the lock time and the two counts take, and whatever the bytes that were read
hold beyond the canonical form. -/
namespace ClaimLedger

open Reader (Reads)

/-- An input takes an outpoint, its slot behind a length, and a sequence number. -/
theorem Input.size_eq (input : Input) :
    input.size = 40 + compactSizeLength input.source.bytes.length + input.source.bytes.length := by
  have outpoint : input.spends.outpoint.wire.toList.length = 36 :=
    input.spends.outpoint.wire.length_toList
  simp only [size, write, writeWith, List.length_append, length_lengthPrefixed, length_leBytes,
    outpoint]
  omega

/-- An output takes an amount and its script behind a length. -/
theorem Output.size_eq (output : Output) :
    output.size = 8 + compactSizeLength output.script.source.length +
      output.script.source.length := by
  simp only [size, write, List.length_append, length_lengthPrefixed, length_leBytes]
  omega

namespace Transaction

variable {tx : Transaction} {kept : Option Bytes}

/-- What inputs and outputs take. -/
def childrenSize (tx : Transaction) : Nat :=
  (tx.inputs.map Input.size).sum + (tx.outputs.map Output.size).sum

/-- What the version, the lock time and the counts take in their shortest forms. -/
def frameSize (tx : Transaction) : Nat :=
  8 + compactSizeLength tx.inputs.length + compactSizeLength tx.outputs.length

/-- The canonical form is nothing but the frame and the children. -/
theorem length_serialize (tx : Transaction) :
    tx.serialize.length = tx.childrenSize + tx.frameSize := by
  simp only [serialize, writeInputs, writeOutputs, List.length_append, length_leBytes,
    length_compactSize, List.length_flatMap, childrenSize, frameSize]
  have inputs : (tx.inputs.map fun input => input.write.length) = tx.inputs.map Input.size := rfl
  have outputs : (tx.outputs.map fun output => output.write.length) =
      tx.outputs.map Output.size := rfl
  rw [inputs, outputs]
  omega

/-- Bytes that were read are no shorter than what is written, and as short only if they are
that. -/
theorem length_write_le {bytes : Bytes} {fields : Transaction}
    (reads : Reads readFields 0 bytes fields) :
    fields.content.write.length ≤ bytes.length ∧
      (fields.content.write.length = bytes.length → fields.content.write = bytes) := by
  have accepted := ofBytes_ok reads
  have content := (content_received fields bytes).1
  by_cases marked : Marked (Cursor.start bytes)
  · have form := (ofBytes_marked_iff marked).mp ⟨_, accepted, content⟩
    have longer := form.length_write
    exact ⟨by omega, fun same => absurd same (by omega)⟩
  · obtain ⟨spelling, rfl, spells⟩ := spelled_ofBytes accepted marked
    rw [← Content.shortest_layout, ← content, ← spells]
    exact ⟨spelling.length_shortest_le, spelling.shortest_eq_iff_length.mpr⟩

/-- The wire form is never shorter than the canonical one, and as short only if it is that. -/
theorem History.length_serialize_le (history : History tx kept) :
    tx.serialize.length ≤ tx.size ∧ (tx.serialize.length = tx.size → tx.raw = tx.serialize) := by
  unfold size
  rw [history.raw]
  cases kept with
  | none => exact ⟨Nat.le_refl _, fun _ => rfl⟩
  | some bytes =>
    obtain ⟨fields, reads, -, content, -⟩ := history.reads bytes rfl
    rw [serialize_content, ← content]
    obtain ⟨shorter, same⟩ := length_write_le reads
    exact ⟨shorter, fun equal => (same equal).symm⟩

/-- Bytes that were dropped do not come back. -/
theorem History.run_none (history : History tx none) (ops : List Operation) :
    History (tx.run ops) none := by
  induction ops generalizing tx with
  | nil => exact history
  | cons op ops ih =>
    have later := history.operated op
    rw [ite_self] at later
    exact ih later

/-- Frame and children account for the whole exactly where the wire form is canonical. -/
theorem baseSize_eq_iff (reached : Reachable tx) :
    tx.childrenSize + tx.frameSize ≤ tx.size ∧
      (tx.baseSize = tx.frameSize ↔ tx.raw = tx.serialize) := by
  obtain ⟨kept, history⟩ := reached.history
  obtain ⟨shorter, same⟩ := history.length_serialize_le
  rw [length_serialize] at shorter same
  have base : tx.baseSize = tx.size - tx.childrenSize := rfl
  refine ⟨shorter, fun framed => same (by omega), fun canonical => ?_⟩
  have whole : tx.size = tx.childrenSize + tx.frameSize := by
    rw [size, canonical, length_serialize]
  omega

/-- The sizes of a transaction and of its parts agree. Each part takes its fixed fields and a
string. The parts and what is left of the whole are the whole, and what is left holds at least
the frame. It is the frame exactly where the wire form is canonical, which it is once an operation
has dropped the bytes that were read, whether or not the operation failed, and remains. -/
theorem sizes_agree (reached : Reachable tx) :
    tx.childrenSize + tx.frameSize ≤ tx.size ∧ tx.baseSize + tx.childrenSize = tx.size ∧
      (tx.baseSize = tx.frameSize ↔ tx.raw = tx.serialize) ∧
      (∀ (op : Operation) (ops : List Operation), op.drops tx = true →
        ((tx.apply op).run ops).childrenSize + ((tx.apply op).run ops).frameSize =
            ((tx.apply op).run ops).size ∧
          ((tx.apply op).run ops).baseSize = ((tx.apply op).run ops).frameSize) ∧
      (∀ input ∈ tx.inputs, input.size =
        40 + compactSizeLength input.source.bytes.length + input.source.bytes.length) ∧
      ∀ output ∈ tx.outputs, output.size =
        8 + compactSizeLength output.script.source.length + output.script.source.length := by
  obtain ⟨kept, history⟩ := reached.history
  obtain ⟨within, framed⟩ := baseSize_eq_iff reached
  have whole {tx : Transaction} (within : tx.childrenSize + tx.frameSize ≤ tx.size) :
      tx.baseSize + tx.childrenSize = tx.size :=
    Nat.sub_add_cancel (Nat.le_trans (Nat.le_add_right _ _) within)
  refine ⟨within, whole within, framed, fun op ops drops => ?_, fun input _ => input.size_eq,
    fun output _ => output.size_eq⟩
  have dropped := history.operated op
  rw [drops, if_pos rfl] at dropped
  have later := dropped.run_none ops
  obtain ⟨inside, canonical⟩ := baseSize_eq_iff later.reachable
  have base := canonical.mpr later.raw
  have all := whole inside
  omega

/-- Two bytes of the input count are more than the frame takes, until the version is set. -/
theorem sizes_agree_padded :
    padded.baseSize + padded.childrenSize = padded.size ∧ padded.raw ≠ padded.serialize ∧
      ((padded.apply (.setVersion 2)).run [.setHeight 7]).baseSize =
        ((padded.apply (.setVersion 2)).run [.setHeight 7]).frameSize := by
  obtain ⟨-, whole, framed, later, -, -⟩ := sizes_agree (.parsed read_padded)
  have more : padded.baseSize ≠ padded.frameSize := by decide
  exact ⟨whole, fun canonical => more (framed.mpr canonical),
    (later (.setVersion 2) [.setHeight 7] rfl).2⟩

end Transaction

end ClaimLedger
