import ClaimLedger.Proofs.RoundTrip

/-! Marker, flag and witnesses. They can be put into the wire form of any
transaction, and are gone when the result is read: content, wire form and
identity are as they were before. That they are gone is decided by the flag; a
marker in front of a flag of zero stays in the wire form and in the identity. -/
namespace ClaimLedger.Transaction

open Reader (Reads)

/-! ## Putting witnesses in -/

/-- A witness stack: the number of items, and each item with its length. -/
def writeStack (stack : List Bytes) : Bytes :=
  compactSize stack.length ++ stack.flatMap lengthPrefixed

/-- A wire form with marker and flag behind the version and with stacks before
the lock time. -/
def withWitnesses (raw : Bytes) (flag : UInt8) (groups : List (List Bytes)) : Bytes :=
  raw.take 4 ++ [0x00, flag] ++ (raw.drop 4).take (raw.length - 8) ++ groups.flatMap writeStack ++
    raw.drop (raw.length - 4)

/-- Where marker and stacks go when the ends of the wire form are known. -/
theorem withWitnesses_append {front middle back : Bytes} (start : front.length = 4)
    (finish : back.length = 4) (flag : UInt8) (groups : List (List Bytes)) :
    withWitnesses (front ++ (middle ++ back)) flag groups =
      front ++ ([0x00, flag] ++ (middle ++ (groups.flatMap writeStack ++ back))) := by
  have taken : (front ++ (middle ++ back)).take 4 = front := by rw [← start, List.take_left]
  have dropped : (front ++ (middle ++ back)).drop 4 = middle ++ back := by
    rw [← start, List.drop_left]
  have between : (front ++ (middle ++ back)).length - 8 = middle.length := by
    simp only [List.length_append]
    omega
  have last : (front ++ (middle ++ back)).drop ((front ++ (middle ++ back)).length - 4) = back := by
    have far : (front ++ (middle ++ back)).length - 4 = (front ++ middle).length := by
      simp only [List.length_append]
      omega
    rw [far, ← List.append_assoc, List.drop_left]
  simp only [withWitnesses, taken, dropped, between, last, List.take_left, List.append_assoc]

theorem withWitnesses_serialize (tx : Transaction) (flag : UInt8) (groups : List (List Bytes)) :
    withWitnesses tx.serialize flag groups =
      leBytes 4 tx.version.toNat ++ (([0x00, flag] ++ compactSize tx.inputs.length) ++
        (tx.inputs.flatMap Input.write ++ (compactSize tx.outputs.length ++
          (tx.outputs.flatMap Output.write ++
            (groups.flatMap writeStack ++ leBytes 4 tx.locktime.toNat))))) := by
  have parts : tx.serialize = leBytes 4 tx.version.toNat ++
      ((writeInputs tx.inputs ++ writeOutputs tx.outputs) ++ leBytes 4 tx.locktime.toNat) := by
    simp only [serialize, List.append_assoc]
  rw [parts, withWitnesses_append (length_leBytes 4 _) (length_leBytes 4 _)]
  simp only [writeInputs, writeOutputs, List.append_assoc]

/-! ## Reading them -/

/-- A stack that can be stored is read back. -/
theorem reads_stack {stack : List Bytes} (fits : (writeStack stack).length < 2 ^ 64)
    (skipped : Nat) : Reads (fun _ => readStack) skipped (writeStack stack) stack := by
  simp only [writeStack, List.length_append] at fits
  have count : stack.length ≤ (stack.flatMap lengthPrefixed).length :=
    count_le_flatMap fun item _ => Nat.zero_lt_of_lt (length_lt_lengthPrefixed item)
  have items (item : Bytes) (member : item ∈ stack) : item.length < 2 ^ 64 := by
    have part : (lengthPrefixed item).length ≤ (stack.flatMap lengthPrefixed).length :=
      length_le_flatMap member
    exact Nat.lt_trans (length_lt_lengthPrefixed item) (by omega)
  exact (Reads.compactSize stack.length skipped (by omega)).bind
    (Reads.replicate_self stack (fun item member skipped =>
      Reads.string item skipped (items item member)) _)

/-- The stacks behind a flag are read into one list, in the order of the
inputs. -/
theorem reads_witnesses {flag : UInt8} (flagged : flag ≠ 0) {groups : List (List Bytes)}
    (fits : (groups.flatMap writeStack).length < 2 ^ 64) (skipped : Nat) :
    Reads (fun _ => readWitnesses flag groups.length) skipped (groups.flatMap writeStack)
      groups.flatten := by
  have each (stack : List Bytes) (member : stack ∈ groups) (skipped : Nat) :
      Reads (fun _ => readStack) skipped (writeStack stack) stack :=
    reads_stack (Nat.lt_of_le_of_lt (length_le_flatMap member) fits) skipped
  simpa only [readWitnesses, if_neg flagged] using
    (Reads.replicate_self groups each skipped).map List.flatten

/-- Witnesses that are put into the wire form of a transaction are read and
leave no trace in what travels. Whatever flag they stand behind and however they
are grouped, the wire form and the identity that come back are those without
them. Kinds of slots come back too where the outpoint tells them. -/
theorem ofBytes_withWitnesses {tx : Transaction} (built : Built tx)
    (canonical : tx.raw = tx.serialize)
    (amounts : ∀ output ∈ tx.outputs, output.amount.toNat ≤ maxAmount) {flag : UInt8}
    (flagged : flag ≠ 0) {groups : List (List Bytes)} (each : groups.length = tx.inputs.length)
    (addressable : (withWitnesses tx.raw flag groups).length < 2 ^ 64) :
    ∃ back, ofBytes (withWitnesses tx.raw flag groups) = .ok back ∧ back.segwitFlag = flag ∧
      back.witnesses = groups.flatten ∧ back.content = tx.content ∧
      (tx.Named → back.inputs.map (·.source) = tx.inputs.map (·.source)) ∧
      back.raw = tx.raw ∧ back.rawSansSegwit = tx.raw ∧ back.id = tx.id := by
  rw [canonical, withWitnesses_serialize] at addressable ⊢
  have readable : tx.Readable := readable_of_length amounts (by
    simp only [writeInputs, writeOutputs, List.length_append] at addressable ⊢
    omega)
  have fits : (groups.flatMap writeStack).length < 2 ^ 64 := by
    simp only [List.length_append] at addressable
    omega
  have witnessed (skipped : Nat) : Reads (fun _ => readWitnesses flag tx.inputs.length) skipped
      (groups.flatMap writeStack) groups.flatten := by
    rw [← each]
    exact reads_witnesses flagged fits skipped
  obtain ⟨fields, reads, content, inputs, rfl, witnesses⟩ :=
    reads_parts readable (reads_markedCount flag readable.inputs) witnessed
  obtain ⟨kept, history⟩ := built.reachable.history
  generalize leBytes 4 tx.version.toNat ++ _ = bytes at reads ⊢
  obtain ⟨sameContent, sameSources⟩ := content_received fields bytes
  have raw : (received fields bytes).raw = tx.serialize := by
    rw [raw_received_flagged flagged bytes]
    exact serialize_congr (sameContent.trans content)
  refine ⟨received fields bytes, ofBytes_ok reads, flag_received fields bytes,
    (witnesses_received fields bytes).trans witnesses, sameContent.trans content, ?_, raw, raw,
    ?_⟩
  · intro named
    rw [sameSources, inputs]
    exact sources_readBack built.made named
  · exact (coherent_received fields bytes).id_congr history.coherent (raw.trans canonical.symm)

/-- An empty stack and one with an empty item, in front of an input each. -/
theorem ofBytes_withWitnesses_sample :
    ∃ back, ofBytes (withWitnesses sample.raw 1 [[], [[], [7, 8]]]) = .ok back ∧
      back.witnesses = [[], [7, 8]] ∧ back.content = sample.content ∧ back.raw = sample.raw ∧
      back.id = sample.id := by
  have canonical : sample.raw = sample.serialize := raw_invalidate _
  have flagged : (1 : UInt8) ≠ 0 := by decide
  have each : ([[], [[], [7, 8]]] : List (List Bytes)).length = sample.inputs.length := rfl
  obtain ⟨back, accepted, -, witnesses, content, -, raw, -, same⟩ :=
    ofBytes_withWitnesses built_sample canonical (by decide) flagged each (by decide +kernel)
  exact ⟨back, accepted, witnesses, content, raw, same⟩

/-! ## A marker in front of a flag of zero -/

/-- The input count that comes first is zero, so that marker and flag are read. -/
def Marked (before : Cursor) : Prop :=
  ∃ version c₁ c₂, Reader.u32 before = .ok version c₁ ∧ Reader.compactSize c₁ = .ok 0 c₂

/-- The canonical form of a transaction that spends something does not begin with
a marker. -/
theorem not_marked_serialize {tx : Transaction} (spending : tx.inputs ≠ [])
    (fits : tx.inputs.length < 2 ^ 64) {before : Cursor} {rest : Bytes}
    (canonical : before.rest = tx.serialize ++ rest) : ¬ Marked before := by
  rintro ⟨version, c₁, c₂, versionRan, countRan⟩
  obtain ⟨passed, bytes⟩ := before
  obtain rfl : bytes = leBytes 4 tx.version.toNat ++ (compactSize tx.inputs.length ++
      (tx.inputs.flatMap Input.write ++ (writeOutputs tx.outputs ++
        (leBytes 4 tx.locktime.toNat ++ rest)))) := by
    simpa only [serialize, writeInputs, List.append_assoc] using canonical
  have version := (Reads.u32 tx.version 0 passed _ (Nat.zero_le _)).symm.trans versionRan
  cases version
  have count := (Reads.compactSize tx.inputs.length 0 fits _ _ (Nat.zero_le _)).symm.trans countRan
  injection count with zero
  exact spending (List.eq_nil_of_length_eq_zero zero)

/-- Where a marker was read, the wire form is the canonical one exactly when the
flag behind it is not zero. Otherwise it is what was read, marker and flag
included, and the hash is made over that. -/
theorem raw_marked {before after : Cursor} {bytes : Bytes} {tx : Transaction}
    (accepted : read before = .ok tx after) (passed : before.rest = bytes ++ after.rest)
    (marked : Marked before) (spending : tx.inputs ≠ []) :
    tx.raw = tx.rawSansSegwit ∧ (tx.rawSansSegwit = tx.serialize ↔ tx.segwitFlag ≠ 0) ∧
      (tx.segwitFlag ≠ 0 → tx.hash = doubleSha256 tx.serialize) ∧
      (tx.segwitFlag = 0 → tx.raw = bytes ∧ tx.hash = doubleSha256 bytes) := by
  obtain ⟨kept, history⟩ := (Reachable.parsed accepted).history
  have hash : tx.hash = doubleSha256 tx.raw := congrArg TxRef.hash history.coherent.ref
  have flagged (flag : tx.segwitFlag ≠ 0) : tx.raw = tx.serialize :=
    (History.flagged accepted flag).raw
  have plain (flag : tx.segwitFlag = 0) : tx.raw = bytes := (History.plain accepted flag passed).raw
  refine ⟨rfl, ⟨?_, flagged⟩, ?_, ?_⟩
  · intro canonical flag
    have unmarked := not_marked_serialize spending (inputs_lt accepted)
      (passed.trans (congrArg (· ++ after.rest) ((plain flag).symm.trans canonical)))
    exact unmarked marked
  · intro flag
    rw [hash, flagged flag]
  · intro flag
    rw [hash, plain flag]
    exact ⟨rfl, rfl⟩

/-- A coinbase behind a marker and a flag of zero. -/
def markedBytes : Bytes :=
  [1, 0, 0, 0, 0, 0, 1] ++ List.replicate 32 0 ++
    [0xFF, 0xFF, 0xFF, 0xFF, 0, 0xFF, 0xFF, 0xFF, 0xFF, 0, 0, 0, 0, 0]

def markedCoinbase : Transaction :=
  (ofFields 1 0 [Input.ofBytes (.unresolved ⟨TxRef.null, 0xFFFFFFFF⟩) [] Input.finalSequence] []
    0 []).identify markedBytes

theorem read_marked :
    read (Cursor.start markedBytes) = .ok markedCoinbase ⟨markedBytes.reverse, []⟩ := by
  rfl

/-- The hash is made over marker and flag. -/
theorem raw_marked_coinbase :
    markedCoinbase.rawSansSegwit = markedBytes ∧ markedCoinbase.hash = doubleSha256 markedBytes ∧
      markedCoinbase.rawSansSegwit ≠ markedCoinbase.serialize := by
  have begins : Marked (Cursor.start markedBytes) := ⟨1, _, _, rfl, rfl⟩
  obtain ⟨same, canonical, -, plain⟩ :=
    raw_marked read_marked (List.append_nil _).symm begins (by decide)
  obtain ⟨raw, hash⟩ := plain rfl
  exact ⟨same.symm.trans raw, hash, fun written => canonical.mp written rfl⟩

/-- A marker does not always leave the wire form. -/
theorem marker_remains :
    ¬ ∀ (before after : Cursor) (tx : Transaction), read before = .ok tx after → Marked before →
      tx.inputs ≠ [] → tx.rawSansSegwit = tx.serialize := by
  intro stripped
  have canonical := stripped _ _ _ read_marked ⟨1, _, _, rfl, rfl⟩ (by decide)
  have kept : markedCoinbase.rawSansSegwit ≠ markedCoinbase.serialize := by decide
  exact kept canonical

end ClaimLedger.Transaction
