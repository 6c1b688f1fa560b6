import ClaimLedger.Proofs.Reading
import ClaimLedger.Proofs.Content
import ClaimLedger.Transaction.Signing

/-! What spending signatures commit to. The bytes signed are the wire form of a
content, with the spent script in the slot of the signed input and nothing in the
other slots, behind which stands a mark. Contents can be told from their wire
forms, so two signatures are made over the same bytes exactly when everything
they cover agrees; what fills the slots is not covered. -/
namespace ClaimLedger

open Reader (Reads)

/-! ## Contents are told from their wire forms -/

/-- Reads what of an input travels. -/
def Input.Content.read : Reader Input.Content := do
  let txid ← Reader.fixed 32
  let position ← Reader.u32
  let slot ← Reader.string
  let sequence ← Reader.u32
  return ⟨⟨txid, position⟩, slot, sequence⟩

/-- Reads what of an output travels, whatever its amount. -/
def Output.Content.read : Reader Output.Content := do
  let amount ← Reader.u64
  let source ← Reader.string
  return ⟨amount, source⟩

/-- Reads what of a transaction travels, without marker and witnesses. -/
def Transaction.Content.read : Reader Transaction.Content := do
  let version ← Reader.u32
  let inputCount ← Reader.compactSize
  let inputs ← Reader.replicate Input.Content.read inputCount
  let outputCount ← Reader.compactSize
  let outputs ← Reader.replicate Output.Content.read outputCount
  let locktime ← Reader.u32
  return ⟨version, locktime, inputs, outputs⟩

theorem Input.Content.reads_write (content : Input.Content) (fits : content.slot.length < 2 ^ 64)
    (skipped : Nat) :
    Reads (fun _ => Input.Content.read) skipped content.write content := by
  have reads : Reads (fun _ => Input.Content.read) skipped
      (content.spends.txid.toList ++ (leBytes 4 content.spends.position.toNat ++
        (lengthPrefixed content.slot ++ leBytes 4 content.sequence.toNat))) content :=
    (Reads.fixed _ _).bind ((Reads.u32 _ _).bind
      ((Reads.string _ _ fits).bind ((Reads.u32 _ _).map _)))
  simpa only [write, Outpoint.wire, List.append_assoc] using reads

theorem Output.Content.reads_write (content : Output.Content)
    (fits : content.source.length < 2 ^ 64) (skipped : Nat) :
    Reads (fun _ => Output.Content.read) skipped content.write content :=
  (Reads.u64 _ _).bind ((Reads.string _ _ fits).map _)

namespace Transaction.Content

theorem reads_write {content : Content} (sizes : content.Sizes) (skipped : Nat) :
    Reads (fun _ => Content.read) skipped content.write content := by
  have inputs := Reads.replicate_self content.inputs fun input member =>
    Input.Content.reads_write input (sizes.slots input member)
  have outputs := Reads.replicate_self content.outputs fun output member =>
    Output.Content.reads_write output (sizes.sources output member)
  have reads : Reads (fun _ => Content.read) skipped
      (leBytes 4 content.version.toNat ++ (compactSize content.inputs.length ++
        (content.inputs.flatMap Input.Content.write ++ (compactSize content.outputs.length ++
          (content.outputs.flatMap Output.Content.write ++ leBytes 4 content.locktime.toNat)))))
      content :=
    (Reads.u32 _ _).bind ((Reads.compactSize _ _ sizes.inputs).bind ((inputs _).bind
      ((Reads.compactSize _ _ sizes.outputs).bind ((outputs _).bind ((Reads.u32 _ _).map _)))))
  simpa only [write, List.append_assoc] using reads

/-- Contents of one wire form are one content. -/
theorem write_inj {content other : Content} (addressable : content.write.length < 2 ^ 64)
    (same : content.write = other.write) : content = other := by
  have sizes {content : Content} (addressable : content.write.length < 2 ^ 64) : content.Sizes :=
    sizes_of_length (by
      simp only [write, List.length_append] at addressable
      omega)
  exact ((reads_write (sizes addressable) 0).unique (reads_write (sizes (same ▸ addressable)) 0)
    (congrArg (· ++ []) same)).1

end Transaction.Content

/-! ## What is signed -/

/-- What signatures cover of every input. -/
structure Input.Reference where
  spends : Outpoint
  sequence : UInt32
  deriving DecidableEq

def Input.reference (input : Input) : Input.Reference :=
  ⟨input.spends.outpoint, input.sequence⟩

/-- The reference with bytes in its script slot. -/
def Input.Reference.filled (reference : Input.Reference) (slot : Bytes) : Input.Content :=
  ⟨reference.spends, slot, reference.sequence⟩

namespace Transaction

/-- The script of the output that an input spends, where there is a copy of it. -/
def spentScript? (tx : Transaction) (index : Nat) : Option Bytes := do
  let input ← tx.inputs[index]?
  let spent ← input.spends.output
  return spent.script.source

/-- The references of inputs with a script in one slot and nothing in the others. -/
def signedInputs (references : List Input.Reference) (index : Nat) (script : Bytes) :
    List Input.Content :=
  references.mapIdx fun i reference => reference.filled (if i = index then script else [])

/-- The content that is signed for an input. -/
def signedContent (tx : Transaction) (index : Nat) (script : Bytes) : Content :=
  ⟨tx.version, tx.locktime, signedInputs (tx.inputs.map Input.reference) index script,
    tx.outputs.map Output.content⟩

theorem writeSigned_eq (inputs : List Input) (index : Nat) (script : Bytes) :
    writeSigned inputs index script =
      compactSize (signedInputs (inputs.map Input.reference) index script).length ++
        (signedInputs (inputs.map Input.reference) index script).flatMap Input.Content.write := by
  have slots : (signedInputs (inputs.map Input.reference) index script).flatMap
      Input.Content.write =
        (inputs.mapIdx fun i input =>
          input.writeWith (if i = index then script else [])).flatten := by
    rw [List.flatMap_def, signedInputs]
    refine congrArg List.flatten (List.ext_getElem (by simp) fun i _ _ => ?_)
    simp only [List.getElem_mapIdx, List.getElem_map]
    rfl
  rw [writeSigned, slots]
  simp [signedInputs]

/-- The bytes signed are the wire form of the content signed, and a mark. There are
none where the spent script is not at hand. -/
theorem signaturePreimage_ok_iff {tx : Transaction} {index : Nat} {bytes : Bytes} :
    tx.signaturePreimage index = .ok bytes ↔
      ∃ script, tx.spentScript? index = some script ∧
        bytes = (tx.signedContent index script).write ++ leBytes 4 sighashAll := by
  have written (script : Bytes) :
      leBytes 4 tx.version.toNat ++ writeSigned tx.inputs index script ++
          writeOutputs tx.outputs ++ leBytes 4 tx.locktime.toNat =
        (tx.signedContent index script).write := by
    simp only [writeSigned_eq, writeOutputs, Content.write, signedContent, List.length_map,
      List.flatMap_map]
    rfl
  unfold signaturePreimage spentScript?
  cases tx.inputs[index]? with
  | none => simp
  | some input =>
    cases resolved : input.spends.output with
    | none => simp [resolved]
    | some spent =>
      simp only [written, resolved, Except.ok.injEq, Option.bind_eq_bind, Option.bind_some,
        Option.pure_def, Option.some.injEq, exists_eq_left']
      exact eq_comm

/-- References are told from what is signed, wherever the script stands. -/
theorem references_signedInputs (references : List Input.Reference) (index : Nat)
    (script : Bytes) :
    (signedInputs references index script).map
        (fun content => Input.Reference.mk content.spends content.sequence) = references := by
  refine List.ext_getElem (by simp [signedInputs]) fun i _ _ => ?_
  simp only [signedInputs, List.getElem_map, List.getElem_mapIdx, Input.Reference.filled]

/-- The slot of an input holds the script if it is the one signed. -/
theorem slot_signedInputs {references : List Input.Reference} {i : Nat}
    (inside : i < references.length) (index : Nat) (script : Bytes) :
    (signedInputs references index script)[i]?.map (·.slot) =
      some (if i = index then script else []) := by
  simp [signedInputs, List.getElem?_mapIdx, List.getElem?_eq_getElem inside,
    Input.Reference.filled]

theorem spentScript?_inside {tx : Transaction} {index : Nat} {script : Bytes}
    (spent : tx.spentScript? index = some script) :
    index < (tx.inputs.map Input.reference).length := by
  rw [List.length_map]
  by_contra beyond
  have missing : tx.inputs[index]? = none := List.getElem?_eq_none (Nat.le_of_not_lt beyond)
  simp [spentScript?, missing] at spent

/-- The transaction with other scripts or coinbase bytes in its slots. -/
def withSources (tx : Transaction) (source : Nat → InputSource) : Transaction :=
  { tx with inputs := tx.inputs.mapIdx fun i input => { input with source := source i } }

/-- What fills the slots is not signed. -/
theorem signaturePreimage_withSources (tx : Transaction) (source : Nat → InputSource)
    (index : Nat) :
    (tx.withSources source).signaturePreimage index = tx.signaturePreimage index := by
  have references : (tx.withSources source).inputs.map Input.reference =
      tx.inputs.map Input.reference :=
    map_view_mapIdx Input.reference (by intros; rfl) tx.inputs
  have written (script : Bytes) : writeSigned (tx.withSources source).inputs index script =
      writeSigned tx.inputs index script := by
    rw [writeSigned_eq, writeSigned_eq, references]
  have found : (tx.withSources source).inputs[index]? =
      tx.inputs[index]?.map fun input => { input with source := source index } :=
    List.getElem?_mapIdx
  have count : (tx.withSources source).inputs.length = tx.inputs.length := List.length_mapIdx
  unfold signaturePreimage
  rw [found]
  cases tx.inputs[index]? with
  | none => simp only [Option.map_none, count]
  | some input =>
    simp only [Option.map_some, written]
    rfl

/-- Everything agrees that signatures cover beside the spent script. -/
structure CoveredAlike (tx other : Transaction) : Prop where
  version : tx.version = other.version
  locktime : tx.locktime = other.locktime
  references : tx.inputs.map Input.reference = other.inputs.map Input.reference
  contents : tx.outputs.map Output.content = other.outputs.map Output.content

/-- Contents signed for inputs that are there are the same when what they cover is, and
the scripts stand in the same slots. -/
theorem signedContent_eq {tx other : Transaction} {i j : Nat} {script otherScript : Bytes}
    (same : tx.signedContent i script = other.signedContent j otherScript)
    (inside : i < (tx.inputs.map Input.reference).length)
    (otherInside : j < (other.inputs.map Input.reference).length) :
    tx.CoveredAlike other ∧ script = (if i = j then otherScript else []) ∧
      (if j = i then script else []) = otherScript := by
  have references : tx.inputs.map Input.reference = other.inputs.map Input.reference := by
    have inputs := congrArg Content.inputs same
    rw [← references_signedInputs (tx.inputs.map Input.reference) i script,
      ← references_signedInputs (other.inputs.map Input.reference) j otherScript]
    exact congrArg _ inputs
  -- A slot holds a script only where its own input is signed, so the two sides are
  -- compared in both slots.
  have slot {k : Nat} (here : k < (tx.inputs.map Input.reference).length) :
      (if k = i then script else []) = if k = j then otherScript else [] := by
    have slots := congrArg (fun content => content.inputs[k]?.map (·.slot)) same
    simpa only [signedContent, slot_signedInputs here, slot_signedInputs (references ▸ here),
      Option.some.injEq] using slots
  have first := slot inside
  have second := slot (references ▸ otherInside)
  rw [if_pos rfl] at first second
  exact ⟨⟨congrArg Content.version same, congrArg Content.locktime same, references,
    congrArg Content.outputs same⟩, first, second⟩

/-- Signatures are made over the same bytes exactly when everything agrees that they
cover: version, lock time, the outpoints and sequence numbers of all inputs, the
contents of all outputs, and the script of the output spent by the input signed.
Signatures of different inputs are made over the same bytes at most where both spend
an empty script. The script slots and coinbase bytes are not covered. Lengths are
told from the bytes as long as these can be stored. -/
theorem signaturePreimage_eq_iff {tx other : Transaction} {i j : Nat} {bytes otherBytes : Bytes}
    (signed : tx.signaturePreimage i = .ok bytes)
    (otherSigned : other.signaturePreimage j = .ok otherBytes)
    (addressable : bytes.length < 2 ^ 64) :
    (i = j → (bytes = otherBytes ↔
        tx.CoveredAlike other ∧ tx.spentScript? i = other.spentScript? j)) ∧
      (i ≠ j → bytes = otherBytes →
        tx.spentScript? i = some [] ∧ other.spentScript? j = some []) ∧
      ∀ source, (tx.withSources source).signaturePreimage i = .ok bytes := by
  obtain ⟨script, spent, rfl⟩ := signaturePreimage_ok_iff.mp signed
  obtain ⟨otherScript, otherSpent, rfl⟩ := signaturePreimage_ok_iff.mp otherSigned
  have agree (same : (tx.signedContent i script).write ++ leBytes 4 sighashAll =
      (other.signedContent j otherScript).write ++ leBytes 4 sighashAll) :
      tx.CoveredAlike other ∧ script = (if i = j then otherScript else []) ∧
        (if j = i then script else []) = otherScript := by
    rw [List.length_append] at addressable
    exact signedContent_eq (Content.write_inj (by omega) (List.append_cancel_right same))
      (spentScript?_inside spent) (spentScript?_inside otherSpent)
  refine ⟨?_, ?_, fun source => (signaturePreimage_withSources tx source i).trans signed⟩
  · rintro rfl
    constructor
    · intro same
      obtain ⟨covered, scripts, -⟩ := agree same
      rw [if_pos rfl] at scripts
      exact ⟨covered, by rw [spent, otherSpent, scripts]⟩
    · rintro ⟨covered, scripts⟩
      have script : script = otherScript :=
        Option.some.inj (spent.symm.trans (scripts.trans otherSpent))
      rw [signedContent, signedContent, covered.version, covered.locktime, covered.references,
        covered.contents, script]
  · intro different same
    obtain ⟨-, here, there⟩ := agree same
    rw [if_neg different] at here
    rw [if_neg (Ne.symm different)] at there
    exact ⟨by rw [spent, here], by rw [otherSpent, ← there]⟩

/-- Spends a payment of which there is a copy. -/
def spender (sequence : UInt32) : Transaction :=
  ofFields 1 0
    [Input.ofBytes ⟨⟨⟨FixedBytes.ofPadded 32 [9], -1⟩, 3⟩,
      some (Output.payPubKeyHash 7 (FixedBytes.zeros 20))⟩ [0x51] sequence]
    [Output.payPubKeyHash 5 (FixedBytes.zeros 20)] 0 []

/-- Another sequence number is other bytes; another slot is not. -/
theorem signaturePreimage_eq_iff_spender :
    ∃ bytes otherBytes, (spender 5).signaturePreimage 0 = .ok bytes ∧
      (spender 6).signaturePreimage 0 = .ok otherBytes ∧ bytes.length < 2 ^ 64 ∧
      bytes ≠ otherBytes ∧
      ((spender 5).withSources fun _ => .coinbase [7]).signaturePreimage 0 = .ok bytes := by
  obtain ⟨bytes, signed, addressable⟩ : ∃ bytes,
      (spender 5).signaturePreimage 0 = .ok bytes ∧ bytes.length < 2 ^ 64 :=
    ⟨_, rfl, by decide⟩
  obtain ⟨otherBytes, otherSigned⟩ : ∃ otherBytes,
      (spender 6).signaturePreimage 0 = .ok otherBytes := ⟨_, rfl⟩
  obtain ⟨covered, -, unfilled⟩ := signaturePreimage_eq_iff signed otherSigned addressable
  refine ⟨bytes, otherBytes, signed, otherSigned, addressable, fun same => ?_, unfilled _⟩
  exact absurd ((covered rfl).mp same).1.references (by decide)

end Transaction

end ClaimLedger
