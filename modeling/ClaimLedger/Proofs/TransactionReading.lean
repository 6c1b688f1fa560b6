import ClaimLedger.Proofs.Children
import ClaimLedger.Transaction.Parse

/-! Transactions on the wire. Reading is exact: which transaction comes out is
decided by the bytes passed. Version, input count, inputs, outputs, witnesses and
lock time are read one behind the other; the input count is where the marker may
stand, and the witnesses are there only if it did. -/
namespace ClaimLedger.Transaction

open Reader (Reads Exact)

/-! ## Reading is exact -/

theorem exact_readInputCount : Exact fun _ => readInputCount :=
  Exact.compactSize.bind fun _ =>
    .ite _ (Exact.u8.bind fun _ => Exact.compactSize.map _) (.pure _)

theorem exact_readStack : Exact fun _ => readStack :=
  Exact.compactSize.bind fun count => Exact.string.replicate count

theorem exact_readWitnesses (flag : UInt8) (inputs : Nat) :
    Exact fun _ => readWitnesses flag inputs :=
  .ite _ (.pure []) ((exact_readStack.replicate inputs).map List.flatten)

theorem exact_readFields : Exact readFields := by
  refine Exact.u32.bind fun version => exact_readInputCount.bind fun counted => ?_
  obtain ⟨flag, count⟩ := counted
  exact (Input.exact_read.replicate count).bind fun inputs => Exact.compactSize.bind fun outputs =>
    (Output.exact_read.replicate outputs).bind fun outputs =>
      (exact_readWitnesses flag count).bind fun witnesses => Exact.u32.map _

theorem readInputCount_lt {before after : Cursor} {flag : UInt8} {count : Nat}
    (ran : readInputCount before = .ok (flag, count) after) : count < 2 ^ 64 := by
  obtain ⟨first, middle, firstRan, ran⟩ := Reader.bind_ok_iff.mp ran
  split at ran
  · obtain ⟨flag, c₁, -, ran⟩ := Reader.bind_ok_iff.mp ran
    obtain ⟨count, c₂, countRan, ran⟩ := Reader.bind_ok_iff.mp ran
    cases ran
    exact Reader.compactSize_lt countRan
  · cases ran
    exact Reader.compactSize_lt firstRan

/-- What was read in which order. -/
theorem readFields_ok {start : Nat} {before after : Cursor} {fields : Transaction}
    (ran : readFields start before = .ok fields after) :
    ∃ version c₁ flag count c₂ c₃ outputCount c₄ c₅ c₆, Reader.u32 before = .ok version c₁ ∧
      readInputCount c₁ = .ok (flag, count) c₂ ∧
      Reader.replicate Input.read count c₂ = .ok fields.inputs c₃ ∧
      Reader.replicate (Output.read start) outputCount c₄ = .ok fields.outputs c₅ ∧
      readWitnesses flag count c₅ = .ok fields.witnesses c₆ ∧ fields.segwitFlag = flag := by
  obtain ⟨version, c₁, versionRan, ran⟩ := Reader.bind_ok_iff.mp ran
  obtain ⟨⟨flag, count⟩, c₂, countRan, ran⟩ := Reader.bind_ok_iff.mp ran
  obtain ⟨inputs, c₃, inputsRan, ran⟩ := Reader.bind_ok_iff.mp ran
  obtain ⟨outputCount, c₄, -, ran⟩ := Reader.bind_ok_iff.mp ran
  obtain ⟨outputs, c₅, outputsRan, ran⟩ := Reader.bind_ok_iff.mp ran
  obtain ⟨witnesses, c₆, witnessesRan, ran⟩ := Reader.bind_ok_iff.mp ran
  obtain ⟨locktime, last, -, ran⟩ := Reader.bind_ok_iff.mp ran
  cases ran
  exact ⟨version, c₁, flag, count, c₂, c₃, outputCount, c₄, c₅, c₆, versionRan, countRan,
    inputsRan, outputsRan, witnessesRan, rfl⟩

/-- Without a flag there are no witnesses. -/
theorem witnesses_plain {bytes : Bytes} {fields : Transaction}
    (reads : Reads readFields 0 bytes fields) (flag : fields.segwitFlag = 0) :
    fields.witnesses = [] := by
  have ran := reads [] [] (Nat.le_refl _)
  obtain ⟨_, _, _, _, _, _, _, _, _, _, -, -, -, -, witnessesRan, rfl⟩ := readFields_ok ran
  rw [readWitnesses, if_pos flag] at witnessesRan
  injection witnessesRan with none
  exact none.symm

/-- A transaction as it is after its fields were read from these bytes: it keeps
the bytes unless a flag said that witnesses were among them. -/
def received (fields : Transaction) (bytes : Bytes) : Transaction :=
  if fields.segwitFlag = 0 then fields.identify bytes else fields.invalidate

/-- Which transaction is read is decided by the bytes passed. -/
theorem read_ok_iff {before after : Cursor} {tx : Transaction} :
    read before = .ok tx after ↔
      ∃ bytes fields, before.Passes bytes after ∧ Reads readFields 0 bytes fields ∧
        tx = received fields bytes := by
  constructor
  · intro ran
    obtain ⟨c, start, got, ran⟩ := Reader.bind_ok_iff.mp ran
    cases got
    obtain ⟨fields, last, fieldsRan, ran⟩ := Reader.bind_ok_iff.mp ran
    obtain ⟨bytes, passes, reads⟩ := exact_readFields _ _ _ _ (Nat.le_refl _) fieldsRan
    rw [Nat.sub_self] at reads
    refine ⟨bytes, fields, ?_⟩
    unfold received
    split at ran
    · rename_i plain
      obtain ⟨c, middle, got, ran⟩ := Reader.bind_ok_iff.mp ran
      cases got
      cases ran
      rw [if_pos plain, passes.consumed]
      exact ⟨passes, reads, rfl⟩
    · rename_i flagged
      cases ran
      rw [if_neg flagged]
      exact ⟨passes, reads, rfl⟩
  · rintro ⟨bytes, fields, passes, reads, rfl⟩
    have fieldsRan : readFields before.tell before = .ok fields after := by
      have ran := reads before.passed after.rest (Nat.zero_le _)
      rw [← passes.rest, ← passes.passed] at ran
      exact ran
    refine Reader.bind_ok_iff.mpr ⟨before, before, rfl,
      Reader.bind_ok_iff.mpr ⟨fields, after, fieldsRan, ?_⟩⟩
    unfold received
    by_cases plain : fields.segwitFlag = 0
    · rw [if_pos plain, if_pos plain]
      refine Reader.bind_ok_iff.mpr ⟨after, after, rfl, ?_⟩
      rw [passes.consumed]
      rfl
    · rw [if_neg plain, if_neg plain]
      rfl

/-- A byte string holds a transaction when all of it is read. -/
theorem ofBytes_ok {bytes : Bytes} {fields : Transaction}
    (reads : Reads readFields 0 bytes fields) : ofBytes bytes = .ok (received fields bytes) := by
  have ran : read (Cursor.start bytes) = .ok (received fields bytes) ⟨bytes.reverse, []⟩ :=
    read_ok_iff.mpr ⟨bytes, fields, ⟨by simp [Cursor.start], by simp [Cursor.start]⟩, reads, rfl⟩
  simp [ofBytes, Reader.run, ran, Cursor.remaining]

/-- No other byte string holds one. -/
theorem ofBytes_ok_iff {bytes : Bytes} {tx : Transaction} :
    ofBytes bytes = .ok tx ↔
      ∃ fields, Reads readFields 0 bytes fields ∧ tx = received fields bytes := by
  constructor
  · intro accepted
    unfold ofBytes Reader.run at accepted
    cases ran : read (Cursor.start bytes) with
    | error cause after =>
      rw [ran] at accepted
      cases accepted
    | ok found after =>
      simp only [ran] at accepted
      split at accepted
      · rename_i done
        cases accepted
        obtain ⟨passed, fields, passes, reads, rfl⟩ := read_ok_iff.mp ran
        have all : bytes = passed ++ after.rest := passes.rest
        rw [List.eq_nil_of_length_eq_zero done, List.append_nil] at all
        subst all
        exact ⟨fields, reads, rfl⟩
      · cases accepted
  · rintro ⟨fields, reads, rfl⟩
    exact ofBytes_ok reads

/-! ## What was received -/

/-- The flag decides whether the bytes are kept. -/
theorem flag_received (fields : Transaction) (bytes : Bytes) :
    (received fields bytes).segwitFlag = fields.segwitFlag := by
  unfold received
  split <;> rfl

theorem witnesses_received (fields : Transaction) (bytes : Bytes) :
    (received fields bytes).witnesses = fields.witnesses := by
  unfold received
  split <;> rfl

theorem raw_received_plain {fields : Transaction} (flag : fields.segwitFlag = 0) (bytes : Bytes) :
    (received fields bytes).raw = bytes := by
  simp only [received, if_pos flag]
  rfl

theorem raw_received_flagged {fields : Transaction} (flag : fields.segwitFlag ≠ 0)
    (bytes : Bytes) : (received fields bytes).raw = (received fields bytes).serialize := by
  simp only [received, if_neg flag]
  exact raw_invalidate fields

/-- Content and kinds of slots are those of the fields read, with or without the
bytes. -/
theorem content_received (fields : Transaction) (bytes : Bytes) :
    (received fields bytes).content = fields.content ∧
      (received fields bytes).inputs.map (·.source) = fields.inputs.map (·.source) := by
  have identified (raw : Bytes) : (fields.identify raw).content = fields.content ∧
      (fields.identify raw).inputs.map (·.source) = fields.inputs.map (·.source) :=
    ⟨content_identify fields raw, map_view_mapIdx (·.source) (by intros; rfl) fields.inputs⟩
  unfold received
  split
  · exact identified bytes
  · exact identified fields.serialize

/-- A transaction read without a flag comes from the bytes that were passed. -/
theorem read_plain {before after : Cursor} {bytes : Bytes} {tx : Transaction}
    (accepted : read before = .ok tx after) (flag : tx.segwitFlag = 0)
    (passed : before.rest = bytes ++ after.rest) :
    ∃ fields, Reads readFields 0 bytes fields ∧ fields.segwitFlag = 0 ∧
      tx = received fields bytes := by
  obtain ⟨spanned, fields, passes, reads, rfl⟩ := read_ok_iff.mp accepted
  obtain rfl : spanned = bytes := List.append_cancel_right (passes.rest.symm.trans passed)
  exact ⟨fields, reads, (flag_received fields spanned).symm.trans flag, rfl⟩

/-- Scripts of outputs that were read are what their bytes are read as. -/
theorem parsed_received {bytes : Bytes} {fields : Transaction}
    (reads : Reads readFields 0 bytes fields) :
    ∀ output ∈ (received fields bytes).outputs,
      output.script.template = OutputTemplate.parse output.script.source := by
  obtain ⟨_, _, _, _, _, _, _, _, _, _, -, -, -, outputsRan, -⟩ :=
    readFields_ok (reads [] [] (Nat.le_refl _))
  have parsed := Reader.replicate_all Output.parsed_read outputsRan
  have stamped : ∀ tx : Transaction, tx.outputs = fields.outputs →
      ∀ output ∈ tx.stampChildren.outputs,
        output.script.template = OutputTemplate.parse output.script.source := by
    intro tx same output member
    simp only [stampChildren, List.mem_mapIdx, same] at member
    obtain ⟨i, inside, rfl⟩ := member
    exact parsed fields.outputs[i] (List.getElem_mem inside)
  unfold received
  split
  · exact stamped _ rfl
  · exact stamped _ rfl

/-- Counts are read, so there are no more inputs than a count can say. -/
theorem inputs_lt {before after : Cursor} {tx : Transaction}
    (accepted : read before = .ok tx after) : tx.inputs.length < 2 ^ 64 := by
  obtain ⟨bytes, fields, -, reads, rfl⟩ := read_ok_iff.mp accepted
  have ran := reads [] [] (Nat.le_refl _)
  obtain ⟨_, _, _, _, _, _, _, _, _, _, -, countRan, inputsRan, -⟩ := readFields_ok ran
  have same := congrArg List.length (content_received fields bytes).2
  rw [List.length_map, List.length_map, Reader.replicate_length inputsRan] at same
  rw [same]
  exact readInputCount_lt countRan

/-! ## What was written is read back -/

/-- Sizes and amounts with which the children of a transaction can be read back. -/
structure Readable (tx : Transaction) : Prop where
  inputs : tx.inputs.length < 2 ^ 64
  outputs : tx.outputs.length < 2 ^ 64
  slots : ∀ input ∈ tx.inputs, input.source.bytes.length < 2 ^ 64
  scripts : ∀ output ∈ tx.outputs, output.script.source.length < 2 ^ 64
  amounts : ∀ output ∈ tx.outputs, output.amount.toNat ≤ maxAmount

/-- Children that can be stored one behind the other have sizes that can be
read. -/
theorem readable_of_length {tx : Transaction}
    (amounts : ∀ output ∈ tx.outputs, output.amount.toNat ≤ maxAmount)
    (short : (writeInputs tx.inputs ++ writeOutputs tx.outputs).length < 2 ^ 64) :
    tx.Readable := by
  have sizes : tx.content.Sizes := Content.sizes_of_length (by
    have inputs : tx.content.inputs.flatMap Input.Content.write =
        tx.inputs.flatMap Input.write := List.flatMap_map ..
    have outputs : tx.content.outputs.flatMap Output.Content.write =
        tx.outputs.flatMap Output.write := List.flatMap_map ..
    rw [inputs, outputs]
    simp only [writeInputs, writeOutputs, List.length_append] at short
    omega)
  refine ⟨?_, ?_, fun input member => ?_, fun output member => ?_, amounts⟩
  · simpa only [content, List.length_map] using sizes.inputs
  · simpa only [content, List.length_map] using sizes.outputs
  · exact sizes.slots input.content (List.mem_map_of_mem member)
  · exact sizes.sources output.content (List.mem_map_of_mem member)

/-- A count in front of inputs is read as a count when it is not zero. -/
theorem reads_inputCount {count : Nat} (spends : count ≠ 0) (fits : count < 2 ^ 64)
    (skipped : Nat) :
    Reads (fun _ => readInputCount) skipped (compactSize count) (0, count) := by
  have reads : Reads (fun _ => readInputCount) skipped (compactSize count ++ []) (0, count) := by
    refine (Reads.compactSize count skipped fits).bind ?_
    simp only [if_neg spends]
    exact Reads.pure _ _
  rwa [List.append_nil] at reads

/-- Behind a marker stand a flag and the count. -/
theorem reads_markedCount (flag : UInt8) {count : Nat} (fits : count < 2 ^ 64) (skipped : Nat) :
    Reads (fun _ => readInputCount) skipped ([0x00, flag] ++ compactSize count) (flag, count) :=
  (Reads.compactSize 0 skipped (by decide)).bind
    ((Reads.u8 flag _).bind ((Reads.compactSize count _ fits).map _))

/-- The fields that are read where the parts of a transaction were written, with
or without a marker and witnesses. Inputs come back as the wire gives them;
outputs differ at most by where their scripts begin. -/
theorem reads_parts {tx : Transaction} (readable : tx.Readable) {count tail : Bytes} {flag : UInt8}
    {witnesses : List Bytes}
    (counted : ∀ skipped, Reads (fun _ => readInputCount) skipped count (flag, tx.inputs.length))
    (witnessed : ∀ skipped,
      Reads (fun _ => readWitnesses flag tx.inputs.length) skipped tail witnesses) :
    ∃ fields, Reads readFields 0
        (leBytes 4 tx.version.toNat ++ (count ++ (tx.inputs.flatMap Input.write ++
          (compactSize tx.outputs.length ++ (tx.outputs.flatMap Output.write ++
            (tail ++ leBytes 4 tx.locktime.toNat)))))) fields ∧
      fields.content = tx.content ∧ fields.inputs = tx.inputs.map Input.readBack ∧
      fields.segwitFlag = flag ∧ fields.witnesses = witnesses := by
  have inputs := Reads.replicate_map Input.readBack tx.inputs
    fun input member => Input.reads_write input (readable.slots input member)
  obtain ⟨outputs, readsOutputs, same⟩ := Reads.replicate Output.content Output.content tx.outputs
    (fun output member skipped =>
      ⟨_, Output.reads_write output (readable.amounts output member)
        (readable.scripts output member) skipped, Output.content_readBack output _⟩)
    (0 + (leBytes 4 tx.version.toNat).length + count.length +
      (tx.inputs.flatMap Input.write).length + (compactSize tx.outputs.length).length)
  refine ⟨ofFields tx.version tx.locktime (tx.inputs.map Input.readBack) outputs flag witnesses,
    ?_, ?_, rfl, rfl, rfl⟩
  · exact (Reads.u32 _ _).bind ((counted _).bind ((inputs _).bind
      ((Reads.compactSize _ _ readable.outputs).bind (readsOutputs.bind
        ((witnessed _).bind ((Reads.u32 _ _).map _))))))
  · have contents : (tx.inputs.map Input.readBack).map Input.content =
        tx.inputs.map Input.content := by
      rw [List.map_map]
      exact List.map_congr_left fun input _ => Input.content_readBack input
    simp only [content, ofFields, contents, same]

end ClaimLedger.Transaction
