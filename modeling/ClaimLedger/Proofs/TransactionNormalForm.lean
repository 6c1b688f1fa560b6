import ClaimLedger.Proofs.Segwit
import ClaimLedger.Proofs.Spelling

/-! The normal form of a transaction. Without a marker the bytes of a transaction are a
spelling of its content: part by part the canonical form, except that counts and lengths
may take more bytes than they need. A transaction that was read keeps these bytes until
they are dropped. Then it keeps the canonical form, which is no longer and is read as the
same fields, and which is the bytes that were there exactly when nothing in them was longer
than it has to be. -/
namespace ClaimLedger

open Reader (Follows Reads bind_ok_iff)

/-! ## How contents are laid out -/

def Input.Content.layout (content : Input.Content) : List Piece :=
  [.verbatim content.spends.txid.toList, .verbatim (leBytes 4 content.spends.position.toNat)] ++
    Piece.string content.slot ++ [.verbatim (leBytes 4 content.sequence.toNat)]

def Output.Content.layout (content : Output.Content) : List Piece :=
  [.verbatim (leBytes 8 content.amount.toNat)] ++ Piece.string content.source

/-- The canonical form, part by part. -/
def Transaction.Content.layout (content : Transaction.Content) : List Piece :=
  [.verbatim (leBytes 4 content.version.toNat), .count content.inputs.length] ++
    content.inputs.flatMap Input.Content.layout ++ [.count content.outputs.length] ++
    content.outputs.flatMap Output.Content.layout ++
    [.verbatim (leBytes 4 content.locktime.toNat)]

theorem Input.Content.shortest_layout (content : Input.Content) :
    shortest content.layout = content.write := by
  simp [layout, write, Outpoint.wire]

theorem Output.Content.shortest_layout (content : Output.Content) :
    shortest content.layout = content.write := by
  simp [layout, write]

theorem Transaction.Content.shortest_layout (content : Transaction.Content) :
    shortest content.layout = content.write := by
  simp [layout, write, shortest_flatMap Input.Content.shortest_layout,
    shortest_flatMap Output.Content.shortest_layout]

/-! ## Fields without their place -/

/-- The output wherever it and its script stand. -/
def Output.unplaced (output : Output) : Output :=
  { output.detached with script := { output.script with offset := 0 } }

/-- The input that the wire gives for a content. -/
def Input.Content.received (content : Input.Content) : Input :=
  Input.ofBytes (.unresolved ⟨⟨content.spends.txid, -1⟩, content.spends.position⟩) content.slot
    content.sequence

/-- The output that the wire gives for a content. -/
def Output.Content.received (content : Output.Content) : Output :=
  Output.ofScript content.amount (OutputScript.parse content.source 0)

theorem Input.detached_read {before after : Cursor} {input : Input}
    (ran : Input.read before = .ok input after) : input.detached = input.content.received := by
  obtain ⟨txid, c₁, -, ran⟩ := bind_ok_iff.mp ran
  obtain ⟨position, c₂, -, ran⟩ := bind_ok_iff.mp ran
  obtain ⟨slot, c₃, -, ran⟩ := bind_ok_iff.mp ran
  obtain ⟨sequence, c₄, -, ran⟩ := bind_ok_iff.mp ran
  cases ran
  simp only [Content.received, content, bytes_ofBytes]
  rfl

theorem Output.unplaced_read {start : Nat} {before after : Cursor} {output : Output}
    (ran : Output.read start before = .ok output after) :
    output.unplaced = output.content.received := by
  obtain ⟨amount, c₁, length, c₂, source, -, -, -, -, rfl⟩ := read_ok ran
  rfl

namespace Transaction

/-- The fields of a transaction, without what depends on how its bytes are spelled: wire form,
identity, and places. -/
def unplaced (tx : Transaction) : Transaction :=
  { tx with
    inputs := tx.inputs.map Input.detached
    outputs := tx.outputs.map Output.unplaced
    raw := []
    txRef := TxRef.null }

/-- The fields that the wire gives for a content, flag and witnesses. -/
def Content.received (content : Content) (flag : UInt8) (witnesses : List Bytes) : Transaction :=
  ofFields content.version content.locktime (content.inputs.map Input.Content.received)
    (content.outputs.map Output.Content.received) flag witnesses

theorem unplaced_identify (tx : Transaction) (raw : Bytes) :
    (tx.identify raw).unplaced = tx.unplaced := by
  have inputs : (tx.identify raw).inputs.map Input.detached = tx.inputs.map Input.detached :=
    map_view_mapIdx Input.detached (by intros; rfl) tx.inputs
  have outputs : (tx.identify raw).outputs.map Output.unplaced = tx.outputs.map Output.unplaced :=
    map_view_mapIdx Output.unplaced (by intros; rfl) tx.outputs
  simp only [unplaced, inputs, outputs]
  rfl

/-- The fields that are read are decided by content, flag and witnesses. -/
theorem unplaced_readFields {start : Nat} {before after : Cursor} {fields : Transaction}
    (ran : readFields start before = .ok fields after) :
    fields.unplaced = fields.content.received fields.segwitFlag fields.witnesses := by
  obtain ⟨version, c₁, -, ran⟩ := bind_ok_iff.mp ran
  obtain ⟨⟨flag, count⟩, c₂, -, ran⟩ := bind_ok_iff.mp ran
  obtain ⟨inputs, c₃, inputsRan, ran⟩ := bind_ok_iff.mp ran
  obtain ⟨outputCount, c₄, -, ran⟩ := bind_ok_iff.mp ran
  obtain ⟨outputs, c₅, outputsRan, ran⟩ := bind_ok_iff.mp ran
  obtain ⟨witnesses, c₆, -, ran⟩ := bind_ok_iff.mp ran
  obtain ⟨locktime, c₇, -, ran⟩ := bind_ok_iff.mp ran
  cases ran
  have spends : inputs.map Input.detached =
      (inputs.map Input.content).map Input.Content.received := by
    rw [List.map_map]
    exact List.map_congr_left (Reader.replicate_all Input.detached_read inputsRan)
  have pays : outputs.map Output.unplaced =
      (outputs.map Output.content).map Output.Content.received := by
    rw [List.map_map]
    exact List.map_congr_left (Reader.replicate_all Output.unplaced_read outputsRan)
  simp only [unplaced, Content.received, content, ofFields, spends, pays]

end Transaction

/-! ## What is read is spelled -/

theorem Input.follows_read : Follows [] Input.read fun input => input.content.layout := by
  refine (Follows.fixed 32).bind fun txid => Follows.u32.bind fun position =>
    Follows.string.bind fun slot => Follows.u32.map _ fun sequence => ?_
  simp only [content, bytes_ofBytes]
  rfl

/-- An amount and a string are passed, with a look at the cursor between length and script. -/
theorem Output.follows_read (start : Nat) :
    Follows [] (Output.read start) fun output => output.content.layout := by
  intro before output after ran
  obtain ⟨amount, c₁, length, c₂, source, amountRan, -, lengthRan, taken, rfl⟩ := read_ok ran
  have sourceRan : Reader.string c₁ = .ok source after :=
    bind_ok_iff.mpr ⟨length, c₂, lengthRan, Reader.checked_take_ok_iff.mpr taken⟩
  have follows : Follows []
      (Reader.u64 >>= fun amount => Reader.string >>= fun source => pure (amount, source))
      fun (amount, source) => Content.layout ⟨amount, source⟩ :=
    Follows.u64.bind fun amount => Follows.string.map (Prod.mk amount) fun _ => rfl
  exact follows before (amount, source) after
    (bind_ok_iff.mpr ⟨amount, c₁, amountRan, bind_ok_iff.mpr ⟨source, after, sourceRan, rfl⟩⟩)

namespace Transaction

/-- The fields where the first count is the number of inputs. -/
def readUnmarked (start : Nat) : Reader Transaction := do
  let version ← Reader.u32
  let inputCount ← Reader.compactSize
  let inputs ← Reader.replicate Input.read inputCount
  let outputCount ← Reader.compactSize
  let outputs ← Reader.replicate (Output.read start) outputCount
  let locktime ← Reader.u32
  return ofFields version locktime inputs outputs 0 []

theorem follows_readUnmarked (start : Nat) :
    Follows [] (readUnmarked start) fun fields => fields.content.layout := by
  refine Follows.u32.bind fun version => Follows.compactSize.bind fun inputCount =>
    Input.follows_read.items fun inputs spends => Follows.compactSize.bind fun outputCount =>
      (Output.follows_read start).items fun outputs pays => Follows.u32.map _ fun locktime => ?_
  subst spends pays
  simp [content, ofFields, Content.layout, List.flatMap_map]

/-- Without a marker there is neither flag nor witness, but an input. -/
theorem readFields_unmarked {start : Nat} {before after : Cursor} {fields : Transaction}
    (unmarked : ¬ Marked before) (ran : readFields start before = .ok fields after) :
    readUnmarked start before = .ok fields after ∧ fields.segwitFlag = 0 ∧ fields.inputs ≠ [] := by
  obtain ⟨version, c₁, versionRan, ran⟩ := bind_ok_iff.mp ran
  obtain ⟨⟨flag, count⟩, c₂, countRan, ran⟩ := bind_ok_iff.mp ran
  obtain ⟨first, middle, firstRan, countRan⟩ := bind_ok_iff.mp countRan
  split at countRan
  · -- A first count of zero is the marker.
    subst first
    exact absurd ⟨version, c₁, middle, versionRan, firstRan⟩ unmarked
  rename_i spends
  cases countRan
  refine ⟨bind_ok_iff.mpr ⟨version, c₁, versionRan, bind_ok_iff.mpr ⟨count, c₂, firstRan, ran⟩⟩, ?_⟩
  obtain ⟨inputs, c₃, inputsRan, ran⟩ := bind_ok_iff.mp ran
  obtain ⟨outputCount, c₄, -, ran⟩ := bind_ok_iff.mp ran
  obtain ⟨outputs, c₅, -, ran⟩ := bind_ok_iff.mp ran
  obtain ⟨witnesses, c₆, -, ran⟩ := bind_ok_iff.mp ran
  obtain ⟨locktime, c₇, -, ran⟩ := bind_ok_iff.mp ran
  cases ran
  refine ⟨rfl, ?_⟩
  rintro rfl
  exact spends (Reader.replicate_length inputsRan).symm

/-- Fields that were read can be read again: the numbers among them stood in the bytes. -/
theorem readable_read {start : Nat} {before after : Cursor} {fields : Transaction}
    {spelling : Spelling} (ran : readFields start before = .ok fields after)
    (spells : spelling.pieces = fields.content.layout) : fields.Readable := by
  have small (n : Nat) (counted : .count n ∈ fields.content.layout) : n < 2 ^ 64 :=
    spelling.count_lt (spells ▸ counted)
  obtain ⟨_, _, _, _, _, _, _, _, _, _, -, -, -, outputsRan, -⟩ := readFields_ok ran
  refine ⟨small _ ?_, small _ ?_, fun input member => small _ ?_, fun output member => small _ ?_,
    Reader.replicate_all Output.amount_read outputsRan⟩
  · simp [Content.layout, content]
  · simp [Content.layout, content]
  · have slot : .count input.source.bytes.length ∈ input.content.layout := by
      simp [Input.Content.layout, Piece.string, Input.content]
    simp only [Content.layout, content, List.mem_append, List.mem_flatMap, List.mem_map]
    exact .inl (.inl (.inl (.inr ⟨_, ⟨input, member, rfl⟩, slot⟩)))
  · have source : .count output.script.source.length ∈ output.content.layout := by
      simp [Output.Content.layout, Piece.string, Output.content]
    simp only [Content.layout, content, List.mem_append, List.mem_flatMap, List.mem_map]
    exact .inl (.inr ⟨_, ⟨output, member, rfl⟩, source⟩)

/-- Fields without a flag are decided by the content. -/
theorem unplaced_plain {bytes : Bytes} {fields : Transaction}
    (reads : Reads readFields 0 bytes fields) (flag : fields.segwitFlag = 0) :
    (received fields bytes).unplaced = fields.content.received 0 [] := by
  have decided := unplaced_readFields (reads [] [] (Nat.le_refl _))
  rw [flag, witnesses_plain reads flag] at decided
  rw [received, if_pos flag, unplaced_identify, decided]

/-- The canonical form of what was read is read as the same fields. -/
theorem Readable.ofBytes_serialize {bytes : Bytes} {fields : Transaction}
    (readable : fields.Readable) (spending : fields.inputs ≠ [])
    (reads : Reads readFields 0 bytes fields) (flag : fields.segwitFlag = 0) :
    ∃ back, ofBytes fields.serialize = .ok back ∧
      back.unplaced = (received fields bytes).unplaced := by
  obtain ⟨again, readsAgain, content, -, flagAgain⟩ := readable.reads_serialize spending
  refine ⟨_, ofBytes_ok readsAgain, ?_⟩
  rw [unplaced_plain readsAgain flagAgain, content, unplaced_plain reads flag]

/-- What is accepted without a marker: the fields that were read in one go. -/
theorem ofBytes_unmarked {bytes : Bytes} {tx : Transaction} (accepted : ofBytes bytes = .ok tx)
    (unmarked : ¬ Marked (Cursor.start bytes)) :
    ∃ fields, Reads readFields 0 bytes fields ∧ tx = received fields bytes ∧
      readUnmarked 0 (Cursor.start bytes) = .ok fields ⟨bytes.reverse, []⟩ ∧
      fields.segwitFlag = 0 ∧ fields.inputs ≠ [] := by
  obtain ⟨fields, reads, rfl⟩ := ofBytes_ok_iff.mp accepted
  have ran := reads [] [] (Nat.le_refl _)
  rw [List.append_nil, List.append_nil] at ran
  exact ⟨fields, reads, rfl, readFields_unmarked unmarked ran⟩

/-- The bytes spell the content of the transaction. -/
theorem spelled_ofBytes {bytes : Bytes} {tx : Transaction} (accepted : ofBytes bytes = .ok tx)
    (unmarked : ¬ Marked (Cursor.start bytes)) :
    ∃ spelling : Spelling, spelling.bytes = bytes ∧ spelling.pieces = tx.content.layout := by
  obtain ⟨fields, -, rfl, ran, -⟩ := ofBytes_unmarked accepted unmarked
  obtain ⟨spelling, spells, passes⟩ := follows_readUnmarked _ _ _ _ ran
  have all : bytes = spelling.bytes ++ [] := passes.rest
  refine ⟨spelling, (all.trans (List.append_nil _)).symm, spells.trans ?_⟩
  exact congrArg Content.layout (content_received fields bytes).1.symm

/-- They are kept, and identify it. -/
theorem kept_ofBytes {bytes : Bytes} {tx : Transaction} (accepted : ofBytes bytes = .ok tx)
    (unmarked : ¬ Marked (Cursor.start bytes)) : tx.raw = bytes ∧ tx.Coherent := by
  obtain ⟨fields, -, rfl, -, flag, -⟩ := ofBytes_unmarked accepted unmarked
  exact ⟨raw_received_plain flag bytes, coherent_received fields bytes⟩

/-- When they are dropped, the canonical form in their place is read as the same fields. -/
theorem ofBytes_invalidate {bytes : Bytes} {tx : Transaction} (accepted : ofBytes bytes = .ok tx)
    (unmarked : ¬ Marked (Cursor.start bytes)) :
    ∃ back, ofBytes tx.invalidate.raw = .ok back ∧ back.unplaced = tx.unplaced := by
  obtain ⟨spelling, -, spells⟩ := spelled_ofBytes accepted unmarked
  obtain ⟨fields, reads, rfl, -, flag, spending⟩ := ofBytes_unmarked accepted unmarked
  have content := (content_received fields bytes).1
  have readable : fields.Readable := readable_read (reads [] [] (Nat.le_refl _)) (content ▸ spells)
  have canonical : (received fields bytes).invalidate.raw = fields.serialize :=
    serialize_congr content
  rw [canonical]
  exact readable.ofBytes_serialize spending reads flag

/-- The canonical form is the shortest spelling of the content. -/
theorem raw_invalidate_eq (tx : Transaction) : tx.invalidate.raw = shortest tx.content.layout := by
  rw [Content.shortest_layout]
  exact serialize_content tx

/-- Bytes without a marker split into the parts of the transaction that is read from them in
one way, with counts and lengths in some form. The transaction keeps these bytes. When they
are dropped, the canonical form takes their place: it is read as the same fields, and it is
no longer. It is the bytes that were there, and the transaction is as it was with its
identity, exactly when no count or length among them takes more bytes than it needs. -/
theorem raw_invalidate_ofBytes {bytes : Bytes} {tx : Transaction}
    (accepted : ofBytes bytes = .ok tx) (unmarked : ¬ Marked (Cursor.start bytes)) :
    tx.raw = bytes ∧ tx.invalidate.raw.length ≤ bytes.length ∧
      (∃ back, ofBytes tx.invalidate.raw = .ok back ∧ back.unplaced = tx.unplaced) ∧
      ∃ spelling : Spelling, spelling.bytes = bytes ∧ spelling.pieces = tx.content.layout ∧
        (∀ other : Spelling, other.bytes = bytes → other.pieces = tx.content.layout →
          other = spelling) ∧
        (tx.invalidate.raw = bytes ↔ ∀ token ∈ spelling, token.Minimal) ∧
        (tx.invalidate = tx ↔ ∀ token ∈ spelling, token.Minimal) := by
  obtain ⟨kept, coherent⟩ := kept_ofBytes accepted unmarked
  obtain ⟨spelling, rfl, spells⟩ := spelled_ofBytes accepted unmarked
  have written : tx.invalidate.raw = shortest spelling.pieces := by
    rw [spells]
    exact raw_invalidate_eq tx
  have same : tx.invalidate.raw = spelling.bytes ↔ ∀ token ∈ spelling, token.Minimal := by
    rw [written]
    exact spelling.shortest_eq_iff
  refine ⟨kept, ?_, ofBytes_invalidate accepted unmarked, spelling, rfl, spells,
    fun other bytes pieces => Spelling.unique (pieces.trans spells.symm) bytes, same, ?_⟩
  · rw [written]
    exact spelling.length_shortest_le
  · rw [← same]
    constructor
    · intro unchanged
      rw [unchanged]
      exact kept
    · intro canonical
      exact coherent.invalidate_eq (kept.trans canonical.symm)

/-- Two bytes of an input count are gone when the bytes that were read are dropped. -/
theorem raw_invalidate_padded :
    padded.invalidate.raw.length ≤ paddedBytes.length ∧ padded.invalidate.raw ≠ paddedBytes ∧
      ∃ spelling : Spelling, spelling.bytes = paddedBytes ∧
        ¬ ∀ token ∈ spelling, token.Minimal := by
  have accepted : ofBytes paddedBytes = .ok padded := rfl
  have unmarked : ¬ Marked (Cursor.start paddedBytes) := by
    rintro ⟨version, c₁, c₂, versionRan, countRan⟩
    cases versionRan
    cases countRan
  obtain ⟨-, shorter, -, spelling, bytes, -, -, minimal, -⟩ :=
    raw_invalidate_ofBytes accepted unmarked
  have dropped : padded.invalidate.raw ≠ paddedBytes := by decide
  exact ⟨shorter, dropped, spelling, bytes, fun all => dropped (minimal.mpr all)⟩

end Transaction

end ClaimLedger
