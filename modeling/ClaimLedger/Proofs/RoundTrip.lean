import ClaimLedger.Proofs.History

/-! Storing a transaction and reading it again. What travels comes back, and with
it the wire form and the identity. Which bytes are stored depends on the history
of the transaction: bytes that were kept are read once more as they were read at
first, and the canonical form is read as what was written. -/
namespace ClaimLedger.Transaction

open Reader (Reads)

/-! ## Where inputs come from -/

theorem made_stampChildren {tx : Transaction} (made : ∀ input ∈ tx.inputs, input.Made) :
    ∀ input ∈ tx.stampChildren.inputs, input.Made := by
  intro input member
  simp only [stampChildren, List.mem_mapIdx] at member
  obtain ⟨i, inside, rfl⟩ := member
  exact .attached (made _ (List.getElem_mem inside)) _

/-- Reachable transactions all of whose inputs come from functions of this
library. -/
inductive Built : Transaction → Prop where
  | new (version locktime : UInt32) : Built (Transaction.new version locktime)
  | parsed {before after : Cursor} {tx : Transaction}
      (accepted : read before = .ok tx after) : Built tx
  | operated {tx : Transaction} (earlier : Built tx) (op : Operation)
      (made : ∀ input ∈ op.added, input.Made) : Built (tx.apply op)

theorem Built.reachable {tx : Transaction} (built : Built tx) : Reachable tx := by
  induction built with
  | new version locktime => exact .new version locktime
  | parsed accepted => exact .parsed accepted
  | operated earlier op made ih => exact .operated ih op

theorem made_received {bytes : Bytes} {fields : Transaction}
    (reads : Reads readFields 0 bytes fields) :
    ∀ input ∈ (received fields bytes).inputs, input.Made := by
  have ran := reads [] [] (Nat.le_refl _)
  obtain ⟨_, _, _, _, _, _, _, _, _, _, -, -, inputsRan, -⟩ := readFields_ok ran
  have made := Reader.replicate_all Input.made_read inputsRan
  unfold received
  split
  · exact made_stampChildren made
  · exact made_stampChildren made

/-- An operation leaves inputs as they were made. -/
theorem Effect.made {tx later : Transaction} {drops : Bool} {added : List Input}
    (effect : Effect tx drops added later) (made : ∀ input ∈ tx.inputs, input.Made)
    (fresh : ∀ input ∈ added, input.Made) : ∀ input ∈ later.inputs, input.Made := by
  cases effect with
  | @invalidated edited added inputs =>
    have both : ∀ input ∈ edited.inputs, input.Made := by
      rw [inputs]
      exact List.forall_mem_append.mpr ⟨made, fresh⟩
    exact made_stampChildren both
  | moved height => exact made_stampChildren made
  | untouched untouched =>
    rw [untouched.inputs]
    exact made

theorem Built.made {tx : Transaction} (built : Built tx) : ∀ input ∈ tx.inputs, input.Made := by
  induction built with
  | new version locktime =>
    intro input member
    cases member
  | parsed accepted =>
    obtain ⟨bytes, fields, -, reads, rfl⟩ := read_ok_iff.mp accepted
    exact made_received reads
  | operated earlier op added ih => exact (effect_apply _ op).made ih added

/-! ## What the parts are read as -/

/-- The identity is that of the wire form, at any height. -/
theorem Coherent.id_congr {tx other : Transaction} (coherent : tx.Coherent)
    (agreeing : other.Coherent) (same : tx.raw = other.raw) : tx.id = other.id := by
  simp only [id, TxRef.id, coherent.ref, agreeing.ref, refOf, same]

/-- Scripts stand only beside outpoints that name a transaction. Of inputs made
from bytes this is true at once; spending needs an output whose transaction hash
is not zero. -/
def Named (tx : Transaction) : Prop :=
  ∀ input ∈ tx.inputs, input.isCoinbase = false → input.spends.isNull = false

theorem sources_readBack {tx : Transaction} (made : ∀ input ∈ tx.inputs, input.Made)
    (named : tx.Named) :
    (tx.inputs.map Input.readBack).map (·.source) = tx.inputs.map (·.source) := by
  rw [List.map_map]
  exact List.map_congr_left fun input member =>
    (made input member).source_readBack (named input member)

/-- The canonical form is read as what was written. Without an input it would
begin with a marker. -/
theorem Readable.reads_serialize {tx : Transaction} (readable : tx.Readable)
    (spending : tx.inputs ≠ []) :
    ∃ fields, Reads readFields 0 tx.serialize fields ∧ fields.content = tx.content ∧
      fields.inputs = tx.inputs.map Input.readBack ∧ fields.segwitFlag = 0 := by
  have counted (skipped : Nat) : Reads (fun _ => readInputCount) skipped
      (compactSize tx.inputs.length) (0, tx.inputs.length) :=
    reads_inputCount (by simpa using spending) readable.inputs skipped
  have witnessed (skipped : Nat) :
      Reads (fun _ => readWitnesses 0 tx.inputs.length) skipped [] [] :=
    Reads.pure [] skipped
  obtain ⟨fields, reads, content, inputs, flag, -⟩ := reads_parts readable counted witnessed
  refine ⟨fields, ?_, content, inputs, flag⟩
  simpa only [serialize, writeInputs, writeOutputs, List.append_assoc, List.nil_append] using reads

/-- So it is where it can be stored. -/
theorem reads_serialize {tx : Transaction} (spending : tx.inputs ≠ [])
    (amounts : ∀ output ∈ tx.outputs, output.amount.toNat ≤ maxAmount)
    (addressable : tx.serialize.length < 2 ^ 64) :
    ∃ fields, Reads readFields 0 tx.serialize fields ∧ fields.content = tx.content ∧
      fields.inputs = tx.inputs.map Input.readBack ∧ fields.segwitFlag = 0 := by
  have readable : tx.Readable := readable_of_length amounts (by
    simp only [serialize, List.length_append] at addressable ⊢
    omega)
  exact readable.reads_serialize spending

/-- The wire form is read as what the transaction holds, whatever its history. Slots are told
apart by their outpoints, so their kinds are known where scripts stand beside names. -/
theorem Reachable.reads_raw {tx : Transaction} (reached : Reachable tx) (spending : tx.inputs ≠ [])
    (amounts : ∀ output ∈ tx.outputs, output.amount.toNat ≤ maxAmount)
    (addressable : tx.raw.length < 2 ^ 64) :
    ∃ fields, Reads readFields 0 tx.raw fields ∧ fields.segwitFlag = 0 ∧
      fields.content = tx.content ∧
      (Built tx → tx.Named → fields.inputs.map (·.source) = tx.inputs.map (·.source)) := by
  obtain ⟨kept, history⟩ := reached.history
  cases kept with
  | some bytes =>
    have unchanged : tx.raw = bytes := history.raw
    rw [unchanged]
    obtain ⟨fields, reads, flag, content, sources⟩ := history.reads bytes rfl
    exact ⟨fields, reads, flag, content, fun _ _ => sources⟩
  | none =>
    have canonical : tx.raw = tx.serialize := history.raw
    rw [canonical] at addressable ⊢
    obtain ⟨fields, reads, content, inputs, flag⟩ := reads_serialize spending amounts addressable
    refine ⟨fields, reads, flag, content, fun built named => ?_⟩
    rw [inputs]
    exact sources_readBack built.made named

/-- What comes back of a transaction: everything that travels, and the identity. Witnesses do
not travel. -/
structure Returned (tx back : Transaction) : Prop where
  content : back.content = tx.content
  sources : Built tx → tx.Named → back.inputs.map (·.source) = tx.inputs.map (·.source)
  segwitFlag : back.segwitFlag = 0
  witnesses : back.witnesses = []
  raw : back.raw = tx.raw
  id : back.id = tx.id

theorem Reachable.returned {tx : Transaction} (reached : Reachable tx) (spending : tx.inputs ≠ [])
    (amounts : ∀ output ∈ tx.outputs, output.amount.toNat ≤ maxAmount)
    (addressable : tx.raw.length < 2 ^ 64) :
    ∃ fields, Reads readFields 0 tx.raw fields ∧ tx.Returned (received fields tx.raw) := by
  obtain ⟨kept, history⟩ := reached.history
  obtain ⟨fields, reads, flag, content, sources⟩ := reached.reads_raw spending amounts addressable
  have raw : (received fields tx.raw).raw = tx.raw := raw_received_plain flag tx.raw
  refine ⟨fields, reads, ?_, fun built named => ?_, ?_, ?_, raw, ?_⟩
  · exact (content_received fields tx.raw).1.trans content
  · exact (content_received fields tx.raw).2.trans (sources built named)
  · exact (flag_received fields tx.raw).trans flag
  · exact (witnesses_received fields tx.raw).trans (witnesses_plain reads flag)
  · exact (coherent_received fields tx.raw).id_congr history.coherent raw

/-- A transaction that spends something is read back from its wire form, whatever
its history. Content, kinds of slots, wire form and identity come back; witnesses
are gone. A slot is told apart from a coinbase only by the outpoint, so a spent
transaction must have a name, and amounts must be such as can be read. -/
theorem ofBytes_raw {tx : Transaction} (built : Built tx) (spending : tx.inputs ≠ [])
    (amounts : ∀ output ∈ tx.outputs, output.amount.toNat ≤ maxAmount) (named : tx.Named)
    (addressable : tx.raw.length < 2 ^ 64) :
    ∃ back, ofBytes tx.raw = .ok back ∧ back.content = tx.content ∧
      back.inputs.map (·.source) = tx.inputs.map (·.source) ∧ back.segwitFlag = 0 ∧
      back.witnesses = [] ∧ back.raw = tx.raw ∧ back.id = tx.id := by
  obtain ⟨fields, reads, returned⟩ := built.reachable.returned spending amounts addressable
  exact ⟨_, ofBytes_ok reads, returned.content, returned.sources built named,
    returned.segwitFlag, returned.witnesses, returned.raw, returned.id⟩

/-- A coinbase and an input with a script, and a payment. -/
def sample : Transaction :=
  ((new 1 0).apply (.addInputs
    [Input.coinbase,
      Input.ofBytes (.unresolved ⟨⟨⟨List.replicate 32 9, rfl⟩, -1⟩, 3⟩) [0x51] 5])).apply
    (.addOutputs [Output.payPubKeyHash 7 (FixedBytes.zeros 20)])

theorem built_sample : Built sample := by
  refine .operated (.operated (.new 1 0) _ ?_) _ (by simp [Operation.added])
  intro input member
  simp only [Operation.added, List.mem_cons, List.not_mem_nil, or_false] at member
  rcases member with rfl | rfl
  · exact .ofBytes _ _ _
  · exact .ofBytes _ _ _

theorem named_sample : sample.Named := by
  unfold Named
  decide

theorem ofBytes_raw_sample :
    ∃ back, ofBytes sample.raw = .ok back ∧ back.content = sample.content ∧
      back.inputs.map (·.source) = sample.inputs.map (·.source) ∧ back.id = sample.id := by
  obtain ⟨back, accepted, content, sources, -, -, -, same⟩ :=
    ofBytes_raw built_sample (by decide) (by decide) named_sample (by decide +kernel)
  exact ⟨back, accepted, content, sources, same⟩

end ClaimLedger.Transaction
