import ClaimLedger.Proofs.Content
import ClaimLedger.Proofs.Pushes
import ClaimLedger.Proofs.Reading

/-! Inputs and outputs on the wire. What was written is read back with the same
content. Whether a slot holds a script or a coinbase is not written: it is told
by the outpoint, and for inputs that were made by the functions of this library
it is told right, except where one spends an output of a transaction whose hash
is zero. -/
namespace ClaimLedger

namespace Input

/-- Inputs as they come into being: from an outpoint and the bytes of a slot, as
coinbases and inputs that are read do, or by spending an output. Afterwards the
sequence number can be changed, and transactions put the input in its place. -/
inductive Made : Input → Prop where
  | ofBytes (spends : OutputRef) (slot : Bytes) (sequence : UInt32) :
      Made (ofBytes spends slot sequence)
  | spend {output : Output} {input : Input} (spent : Input.spend output = .ok input) : Made input
  | sequenced {input : Input} (made : Made input) (sequence : UInt32) :
      Made { input with sequence := sequence }
  | attached {input : Input} (made : Made input) (place : Attachment) : Made (input.attach place)

/-- The input that the wire gives back. -/
def readBack (input : Input) : Input :=
  ofBytes (.unresolved ⟨⟨input.spends.outpoint.txid, -1⟩, input.spends.outpoint.position⟩)
    input.source.bytes input.sequence

theorem bytes_ofBytes (spends : OutputRef) (slot : Bytes) (sequence : UInt32) :
    (ofBytes spends slot sequence).source.bytes = slot := by
  simp only [ofBytes]
  split
  · rfl
  · exact InputScript.source_parse slot

theorem content_readBack (input : Input) : input.readBack.content = input.content := by
  simp only [content, readBack, bytes_ofBytes]
  rfl

/-- Spending writes a script that reads as what it is. -/
private theorem spend_source {output : Output} {input : Input}
    (spent : Input.spend output = .ok input) :
    ∃ script, input.source = .script script ∧ InputScript.parse script.source = script := by
  unfold Input.spend at spent
  split at spent
  · cases built : InputScript.redeemPubKeyHash placeholderSignature placeholderPubKey with
    | error cause => simp [built, Bind.bind, Except.bind] at spent
    | ok script =>
      cases resolved : OutputRef.resolved output with
      | error cause => simp [built, resolved, Bind.bind, Except.bind] at spent
      | ok spends =>
        simp only [built, resolved, Bind.bind, Except.bind] at spent
        cases spent
        exact ⟨script, rfl, InputScript.parse_redeem built⟩
  · cases spent

/-- The slot of an input that was made is told by its outpoint, where scripts
stand beside the name of a transaction. -/
theorem Made.source_readBack {input : Input} (made : input.Made)
    (named : input.isCoinbase = false → input.spends.isNull = false) :
    input.readBack.source = input.source := by
  induction made with
  | ofBytes spends slot sequence => simp only [readBack, bytes_ofBytes]; rfl
  | spend spent =>
    obtain ⟨script, source, parsed⟩ := spend_source spent
    have kept := named (by simp [isCoinbase, source])
    simp only [readBack, Input.ofBytes, source, InputSource.bytes, parsed]
    exact if_neg (Bool.eq_false_iff.mp kept)
  | sequenced made sequence ih => exact ih named
  | attached made place ih => exact ih named

theorem made_read {before after : Cursor} {input : Input}
    (ran : Input.read before = .ok input after) : input.Made := by
  obtain ⟨txid, c₁, -, ran⟩ := Reader.bind_ok_iff.mp ran
  obtain ⟨position, c₂, -, ran⟩ := Reader.bind_ok_iff.mp ran
  obtain ⟨slot, c₃, -, ran⟩ := Reader.bind_ok_iff.mp ran
  obtain ⟨sequence, c₄, -, ran⟩ := Reader.bind_ok_iff.mp ran
  cases ran
  exact .ofBytes _ slot sequence

theorem exact_read : Reader.Exact fun _ => Input.read :=
  (Reader.Exact.fixed 32).bind fun _ => Reader.Exact.u32.bind fun _ =>
    Reader.Exact.string.bind fun _ => Reader.Exact.u32.map _

theorem reads_write (input : Input) (fits : input.source.bytes.length < 2 ^ 64) (skipped : Nat) :
    Reader.Reads (fun _ => Input.read) skipped input.write input.readBack := by
  have reads : Reader.Reads (fun _ => Input.read) skipped
      (input.spends.outpoint.txid.toList ++ (leBytes 4 input.spends.outpoint.position.toNat ++
        (lengthPrefixed input.source.bytes ++ leBytes 4 input.sequence.toNat)))
      input.readBack :=
    (Reader.Reads.fixed _ _).bind ((Reader.Reads.u32 _ _).bind
      ((Reader.Reads.string _ _ fits).bind ((Reader.Reads.u32 _ _).map _)))
  simpa only [write, writeWith, Outpoint.wire, List.append_assoc] using reads

end Input

namespace Output

/-- The output that the wire gives back, with its script at an offset. -/
def readBack (output : Output) (offset : Nat) : Output :=
  ofScript output.amount (OutputScript.parse output.script.source offset)

theorem content_readBack (output : Output) (offset : Nat) :
    (output.readBack offset).content = output.content :=
  rfl

/-- What follows the length of a script: the script, and where it begins. -/
def readScript (amount : UInt64) (length origin : Nat) : Reader Output := do
  let c ← get
  let source ← Reader.take length
  return ofScript amount (OutputScript.parse source (c.tell - origin))

theorem reads_script (amount : UInt64) (source : Bytes) (skipped : Nat) :
    Reader.Reads (readScript amount source.length) skipped source
      (ofScript amount (OutputScript.parse source skipped)) := by
  intro passed rest far
  refine Reader.bind_ok_iff.mpr ⟨_, _, rfl, Reader.bind_ok_iff.mpr
    ⟨source, _, Reader.Reads.take source skipped passed rest far, ?_⟩⟩
  have distance : passed.length - (passed.length - skipped) = skipped := by omega
  simp only [Cursor.tell, distance]
  rfl

private theorem exact_script (amount : UInt64) (length : Nat) :
    Reader.Exact (readScript amount length) := by
  intro origin before output after far ran
  obtain ⟨c, middle, got, ran⟩ := Reader.bind_ok_iff.mp ran
  cases got
  obtain ⟨source, last, taken, ran⟩ := Reader.bind_ok_iff.mp ran
  cases ran
  obtain ⟨rfl, passes⟩ := Reader.take_ok_iff.mp taken
  exact ⟨source, passes, reads_script amount source _⟩

/-- An amount out of range ends the reading; otherwise a script follows. -/
theorem read_eq (start : Nat) :
    Output.read start = (Reader.u64 >>= fun amount =>
      if maxAmount < amount.toNat then throw (.malformed (.outputAmount amount.toNat))
      else Reader.compactSize >>= fun length => readScript amount length start) := by
  refine congrArg (Reader.u64 >>= ·) (funext fun amount => ?_)
  by_cases excess : maxAmount < amount.toNat
  · simp only [if_pos excess]
    rfl
  · simp only [if_neg excess]
    rfl

theorem exact_read : Reader.Exact Output.read := by
  rw [funext read_eq]
  exact Reader.Exact.u64.bind fun amount => .ite _ (.throw _)
    (Reader.Exact.compactSize.bind fun length => exact_script amount length)

/-- What was read in which order. The amount is one that outputs may have. -/
theorem read_ok {start : Nat} {before after : Cursor} {output : Output}
    (ran : Output.read start before = .ok output after) :
    ∃ amount c₁ length c₂ source, Reader.u64 before = .ok amount c₁ ∧ amount.toNat ≤ maxAmount ∧
      Reader.compactSize c₁ = .ok length c₂ ∧ Reader.take length c₂ = .ok source after ∧
      output = ofScript amount (OutputScript.parse source (c₂.tell - start)) := by
  rw [read_eq] at ran
  obtain ⟨amount, c₁, amountRan, ran⟩ := Reader.bind_ok_iff.mp ran
  split at ran
  · cases ran
  · rename_i inRange
    obtain ⟨length, c₂, lengthRan, ran⟩ := Reader.bind_ok_iff.mp ran
    obtain ⟨c, c₃, got, ran⟩ := Reader.bind_ok_iff.mp ran
    cases got
    obtain ⟨source, c₄, sourceRan, ran⟩ := Reader.bind_ok_iff.mp ran
    cases ran
    exact ⟨amount, c₁, length, c₂, source, amountRan, Nat.le_of_not_lt inRange, lengthRan,
      sourceRan, rfl⟩

/-- The script of an output that was read is what its bytes are read as. -/
theorem parsed_read {start : Nat} {before after : Cursor} {output : Output}
    (ran : Output.read start before = .ok output after) :
    output.script.template = OutputTemplate.parse output.script.source := by
  obtain ⟨amount, c₁, length, c₂, source, -, -, -, -, rfl⟩ := read_ok ran
  rfl

theorem amount_read {start : Nat} {before after : Cursor} {output : Output}
    (ran : Output.read start before = .ok output after) : output.amount.toNat ≤ maxAmount := by
  obtain ⟨amount, c₁, length, c₂, source, -, inRange, -, -, rfl⟩ := read_ok ran
  exact inRange

/-- An output of an amount in range is read back. Its script begins behind the
amount and the length. -/
theorem reads_write (output : Output) (inRange : output.amount.toNat ≤ maxAmount)
    (fits : output.script.source.length < 2 ^ 64) (skipped : Nat) :
    Reader.Reads Output.read skipped output.write
      (output.readBack (skipped + 8 + compactSizeLength output.script.source.length)) := by
  have script : Reader.Reads (fun origin => Reader.compactSize >>= fun length =>
      readScript output.amount length origin) (skipped + (leBytes 8 output.amount.toNat).length)
      (lengthPrefixed output.script.source) _ :=
    (Reader.Reads.compactSize _ _ fits).bind (reads_script output.amount output.script.source _)
  rw [length_leBytes, length_compactSize] at script
  rw [funext read_eq]
  refine (Reader.Reads.u64 output.amount skipped).bind ?_
  simpa only [if_neg (Nat.not_lt.mpr inRange), length_leBytes, readBack] using script

end Output

end ClaimLedger
