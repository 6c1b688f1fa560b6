import ClaimLedger.Proofs.Effects
import ClaimLedger.Proofs.TransactionReading

/-! Transactions in the course of their history. A transaction keeps a wire form,
a reference made from it, and copies of the reference in every child; whatever
happens to it, in whatever order and with whatever failures, these stay in
agreement. The wire form itself is canonical, except that a transaction read
without witnesses keeps the bytes it was read from until an operation drops
them. -/
namespace ClaimLedger.Transaction

open Reader (Reads)

/-! ## Histories -/

/-- The transactions that come about, by being made or read and by any operations
afterwards, each with the bytes it keeps from the wire in place of its canonical
form. -/
inductive History : Transaction → Option Bytes → Prop where
  | new (version locktime : UInt32) : History (Transaction.new version locktime) none
  | plain {before after : Cursor} {bytes : Bytes} {tx : Transaction}
      (accepted : read before = .ok tx after) (flag : tx.segwitFlag = 0)
      (passed : before.rest = bytes ++ after.rest) : History tx (some bytes)
  | flagged {before after : Cursor} {tx : Transaction}
      (accepted : read before = .ok tx after) (flag : tx.segwitFlag ≠ 0) : History tx none
  | operated {tx : Transaction} {kept : Option Bytes} (earlier : History tx kept)
      (op : Operation) : History (tx.apply op) (if op.drops tx then none else kept)

/-- Reachable transactions have a history. -/
theorem Reachable.history {tx : Transaction} (reached : Reachable tx) :
    ∃ kept, History tx kept := by
  induction reached with
  | new version locktime => exact ⟨none, .new version locktime⟩
  | @parsed before after tx accepted =>
    by_cases flag : tx.segwitFlag = 0
    · obtain ⟨bytes, fields, passes, -⟩ := read_ok_iff.mp accepted
      exact ⟨some bytes, .plain accepted flag passes.rest⟩
    · exact ⟨none, .flagged accepted flag⟩
  | operated earlier op ih =>
    obtain ⟨kept, history⟩ := ih
    exact ⟨_, .operated history op⟩

/-- No other transactions have one. -/
theorem History.reachable {tx : Transaction} {kept : Option Bytes} (history : History tx kept) :
    Reachable tx := by
  induction history with
  | new version locktime => exact .new version locktime
  | plain accepted flag passed => exact .parsed accepted
  | flagged accepted flag => exact .parsed accepted
  | operated earlier op ih => exact .operated ih op

/-- The reference is that of the wire form and the height, and every child
carries it together with its own position. -/
structure Coherent (tx : Transaction) : Prop where
  ref : tx.txRef = refOf tx.raw tx.height
  inputs : ∀ {i : Nat} {input : Input}, tx.inputs[i]? = some input →
    input.place = some ⟨tx.txRef, UInt32.ofNat i⟩
  outputs : ∀ {i : Nat} {output : Output}, tx.outputs[i]? = some output →
    output.place = some ⟨tx.txRef, UInt32.ofNat i⟩

/-- Stamping makes a transaction with the right reference coherent. -/
theorem coherent_stampChildren {tx : Transaction} (ref : tx.txRef = refOf tx.raw tx.height) :
    tx.stampChildren.Coherent where
  ref := ref
  inputs := by
    intro i input found
    simp only [stampChildren, List.getElem?_mapIdx, Option.map_eq_some_iff] at found
    obtain ⟨bare, -, rfl⟩ := found
    rfl
  outputs := by
    intro i output found
    simp only [stampChildren, List.getElem?_mapIdx, Option.map_eq_some_iff] at found
    obtain ⟨bare, -, rfl⟩ := found
    rfl

theorem coherent_identify (tx : Transaction) (raw : Bytes) : (tx.identify raw).Coherent :=
  coherent_stampChildren rfl

/-- A coherent transaction in its canonical form is not changed by computing form
and identity again. -/
theorem Coherent.invalidate_eq {tx : Transaction} (coherent : tx.Coherent)
    (canonical : tx.raw = tx.serialize) : tx.invalidate = tx := by
  have inputs : (tx.inputs.mapIdx fun i input => input.attach ⟨tx.txRef, UInt32.ofNat i⟩) =
      tx.inputs := by
    refine List.ext_getElem (by simp) fun i _ inside => ?_
    have stands := coherent.inputs (List.getElem?_eq_getElem inside)
    simp only [List.getElem_mapIdx, Input.attach, ← stands]
  have outputs : (tx.outputs.mapIdx fun i output => output.attach ⟨tx.txRef, UInt32.ofNat i⟩) =
      tx.outputs := by
    refine List.ext_getElem (by simp) fun i _ inside => ?_
    have stands := coherent.outputs (List.getElem?_eq_getElem inside)
    simp only [List.getElem_mapIdx, Output.attach, ← stands]
  simp only [invalidate, identify, stampChildren, ← canonical, ← coherent.ref, inputs, outputs]

theorem coherent_received (fields : Transaction) (bytes : Bytes) :
    (received fields bytes).Coherent := by
  unfold received
  split
  · exact coherent_identify fields bytes
  · exact coherent_identify fields fields.serialize

theorem Coherent.untouched {tx later : Transaction} (coherent : tx.Coherent)
    (untouched : tx.Untouched later) : later.Coherent where
  ref := by rw [untouched.txRef, untouched.raw, untouched.height, coherent.ref]
  inputs := by
    intro i input found
    rw [untouched.inputs] at found
    rw [untouched.txRef]
    exact coherent.inputs found
  outputs := by
    intro i output found
    have place := congrArg (·[i]?) untouched.places
    simp only [List.getElem?_map, found, Option.map_some] at place
    obtain ⟨earlier, stood, same⟩ := Option.map_eq_some_iff.mp place.symm
    rw [← same, untouched.txRef]
    exact coherent.outputs stood

/-- No operation loses the agreement. -/
theorem Coherent.effect {tx later : Transaction} {drops : Bool} {added : List Input}
    (coherent : tx.Coherent) (effect : Effect tx drops added later) : later.Coherent := by
  cases effect with
  | invalidated inputs => exact coherent_identify _ _
  | moved height => exact coherent_stampChildren rfl
  | untouched untouched => exact coherent.untouched untouched

theorem History.coherent {tx : Transaction} {kept : Option Bytes} (history : History tx kept) :
    tx.Coherent := by
  induction history with
  | new version locktime => exact coherent_identify _ _
  | plain accepted flag passed =>
    obtain ⟨bytes, fields, -, -, rfl⟩ := read_ok_iff.mp accepted
    exact coherent_received fields bytes
  | flagged accepted flag =>
    obtain ⟨bytes, fields, -, -, rfl⟩ := read_ok_iff.mp accepted
    exact coherent_received fields bytes
  | operated earlier op ih => exact ih.effect (effect_apply _ op)

/-! ## The wire form in the course of a history -/

/-- Without forgetting the bytes, no operation touches the content or the kinds of
the slots. -/
theorem Effect.content {tx later : Transaction} {added : List Input}
    (effect : Effect tx false added later) : later.content = tx.content ∧
      later.inputs.map (·.source) = tx.inputs.map (·.source) := by
  cases effect with
  | moved height =>
    exact ⟨content_stampChildren _, map_view_mapIdx (·.source) (by intros; rfl) tx.inputs⟩
  | untouched untouched => exact ⟨untouched.content, by rw [untouched.inputs]⟩

theorem Effect.raw {tx later : Transaction} {drops : Bool} {added : List Input}
    {kept : Option Bytes} (effect : Effect tx drops added later)
    (raw : tx.raw = kept.getD tx.serialize) :
    later.raw = (if drops then none else kept).getD later.serialize := by
  cases effect with
  | invalidated inputs => exact raw_invalidate _
  | moved height =>
    have same : (tx.setHeight height).serialize = tx.serialize :=
      serialize_congr (content_stampChildren _)
    rw [same]
    exact raw
  | untouched untouched =>
    rw [serialize_congr untouched.content, untouched.raw]
    exact raw

/-- The wire form is what is kept, and canonical where nothing is. -/
theorem History.raw {tx : Transaction} {kept : Option Bytes} (history : History tx kept) :
    tx.raw = kept.getD tx.serialize := by
  induction history with
  | new version locktime => exact raw_invalidate _
  | plain accepted flag passed =>
    obtain ⟨fields, -, plain, rfl⟩ := read_plain accepted flag passed
    exact raw_received_plain plain _
  | flagged accepted flag =>
    obtain ⟨bytes, fields, -, -, rfl⟩ := read_ok_iff.mp accepted
    exact raw_received_flagged (flag_received fields bytes ▸ flag) bytes
  | operated earlier op ih => exact (effect_apply _ op).raw ih

/-- Bytes that are kept are read as what the transaction still holds. -/
theorem History.reads {tx : Transaction} {kept : Option Bytes} (history : History tx kept) :
    ∀ bytes ∈ kept, ∃ fields, Reads readFields 0 bytes fields ∧ fields.segwitFlag = 0 ∧
      fields.content = tx.content ∧ fields.inputs.map (·.source) = tx.inputs.map (·.source) := by
  induction history with
  | new version locktime => intro bytes none; cases none
  | plain accepted flag passed =>
    rintro bytes ⟨⟩
    obtain ⟨fields, reads, plain, rfl⟩ := read_plain accepted flag passed
    exact ⟨fields, reads, plain, (content_received fields _).1.symm,
      (content_received fields _).2.symm⟩
  | flagged accepted flag => intro bytes none; cases none
  | @operated tx kept earlier op ih =>
    have effect := effect_apply tx op
    intro bytes member
    cases drops : op.drops tx with
    | true => simp [drops] at member
    | false =>
      rw [drops] at effect member
      obtain ⟨fields, reads, flag, content, sources⟩ := ih bytes member
      exact ⟨fields, reads, flag, content.trans effect.content.1.symm,
        sources.trans effect.content.2.symm⟩

/-- In every history the identity of a transaction agrees with what it holds. The
reference is the hash of the wire form with the height, every child carries it
together with its position, and new claims are named after both. The wire form
is canonical unless bytes are kept. -/
theorem identity_agrees {tx : Transaction} {kept : Option Bytes} (history : History tx kept)
    (fewInputs : tx.inputs.length < positionLimit)
    (fewOutputs : tx.outputs.length < positionLimit) :
    tx.txRef.hash = doubleSha256 tx.raw ∧ tx.txRef.height = tx.height ∧
      (∀ (i : Nat) (input : Input), tx.inputs[i]? = some input →
        ∃ place, input.place = some place ∧ place.owner = tx.txRef ∧ place.position.toNat = i) ∧
      (∀ (i : Nat) (output : Output), tx.outputs[i]? = some output →
        ∃ place, output.place = some place ∧ place.owner = tx.txRef ∧
          place.position.toNat = i) ∧
      (∀ (i : Nat) (output : Output), tx.outputs[i]? = some output →
        output.script.isClaimName = true →
        output.claimHash = .ok (hash160 (tx.hash.toList ++ beBytes 4 i))) ∧
      tx.raw = kept.getD tx.serialize := by
  have coherent := history.coherent
  have position {i count : Nat} (few : count < positionLimit) (inside : i < count) :
      (UInt32.ofNat i).toNat = i :=
    UInt32.toNat_ofNat_of_lt' (Nat.lt_trans inside few)
  refine ⟨by rw [coherent.ref]; rfl, by rw [coherent.ref]; rfl, ?_, ?_, ?_, history.raw⟩
  · intro i input found
    exact ⟨_, coherent.inputs found, rfl, position fewInputs (List.getElem?_eq_some_iff.mp found).1⟩
  · intro i output found
    exact ⟨_, coherent.outputs found, rfl,
      position fewOutputs (List.getElem?_eq_some_iff.mp found).1⟩
  · intro i output found named
    have place := coherent.outputs found
    have exact := position fewOutputs (List.getElem?_eq_some_iff.mp found).1
    simp only [Output.claimHash, if_pos named, place, Output.claimHashAt, exact]
    rfl

/-- A coinbase whose input count is not in its shortest form. -/
def paddedBytes : Bytes :=
  [1, 0, 0, 0, 0xFD, 1, 0] ++ List.replicate 32 0 ++
    [0xFF, 0xFF, 0xFF, 0xFF, 0, 0xFF, 0xFF, 0xFF, 0xFF, 1, 7, 0, 0, 0, 0, 0, 0, 0, 1, 0x51,
      0, 0, 0, 0]

def padded : Transaction :=
  (ofFields 1 0
    [Input.ofBytes (.unresolved ⟨TxRef.null, 0xFFFFFFFF⟩) [] Input.finalSequence]
    [Output.ofScript 7 (OutputScript.parse [0x51] 58)] 0 []).identify paddedBytes

theorem read_padded :
    read (Cursor.start paddedBytes) = .ok padded ⟨paddedBytes.reverse, []⟩ := by
  rfl

/-- The padding outlives a change of height and not a change of version. -/
theorem identity_agrees_padded :
    (padded.apply (.setHeight 7)).txRef.hash =
        doubleSha256 (padded.apply (.setHeight 7)).raw ∧
      (padded.apply (.setHeight 7)).raw = paddedBytes ∧
      (padded.apply (.setVersion 2)).txRef.hash =
        doubleSha256 (padded.apply (.setVersion 2)).raw ∧
      (padded.apply (.setVersion 2)).raw = (padded.apply (.setVersion 2)).serialize := by
  have history : History padded (some paddedBytes) :=
    .plain read_padded rfl (List.append_nil _).symm
  obtain ⟨moved, -, -, -, -, kept⟩ :=
    identity_agrees (history.operated (.setHeight 7)) (by decide) (by decide)
  obtain ⟨changed, -, -, -, -, canonical⟩ :=
    identity_agrees (history.operated (.setVersion 2)) (by decide) (by decide)
  exact ⟨moved, kept, changed, canonical⟩

end ClaimLedger.Transaction
