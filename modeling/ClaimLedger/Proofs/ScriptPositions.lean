import ClaimLedger.Proofs.Streams

/-! Where the scripts of outputs stand. A script remembers how far from the start of the
transaction it begins. This is a distance between positions that the cursor has passed, so it
never comes out negative, and it finds the script among the bytes that were read, with or without
marker and witnesses. The scripts stand in the order of their outputs, apart from each other and
in front of the lock time. -/
namespace ClaimLedger

open Reader (Exact Reads bind_ok_iff)

/-- The position behind the script. -/
def OutputScript.stop (script : OutputScript) : Nat := script.offset + script.source.length

/-! ## Distances are never negative -/

/-- The distance from a position to the cursor, if the cursor does not stand before it. -/
def Cursor.since? (c : Cursor) (start : Nat) : Option Nat :=
  if start ≤ c.tell then some (c.tell - start) else none

/-- Reads an output, but gives up where the script begins before the transaction does. -/
def Output.readChecked (cause : Error) (start : Nat) : Reader Output := do
  let amount ← Reader.u64
  if maxAmount < amount.toNat then throw (.malformed (.outputAmount amount.toNat))
  let length ← Reader.compactSize
  let c ← get
  match c.since? start with
  | none => throw cause
  | some offset =>
    let source ← Reader.take length
    return ofScript amount (OutputScript.parse source offset)

/-- The fields of a transaction whose outputs are read in a given way. -/
def Transaction.readFieldsWith (readOutput : Reader Output) : Reader Transaction := do
  let version ← Reader.u32
  let (flag, inputCount) ← readInputCount
  let inputs ← Reader.replicate Input.read inputCount
  let outputCount ← Reader.compactSize
  let outputs ← Reader.replicate readOutput outputCount
  let witnesses ← readWitnesses flag inputCount
  let locktime ← Reader.u32
  return ofFields version locktime inputs outputs flag witnesses

/-- Reads a transaction, but gives up where a script begins before the transaction does. -/
def Transaction.readChecked (cause : Error) : Reader Transaction := do
  let start := (← get).tell
  let tx ← readFieldsWith (Output.readChecked cause start)
  if tx.segwitFlag = 0 then return tx.identify ((← get).consumedSince start)
  else return tx.invalidate

namespace Reader

variable {α β : Type} {start : Nat} {reader other : Reader α}

/-- From a position onwards both readers do the same, and what they read lies behind it. -/
def SameFrom (start : Nat) (reader other : Reader α) : Prop :=
  ∀ before : Cursor, start ≤ before.tell → reader before = other before ∧
    ∀ value after, other before = .ok value after → start ≤ after.tell

/-- What an exact reader passes lies ahead of it. -/
theorem Exact.passes {reader : Nat → Reader α} (exact : Exact reader) {origin : Nat}
    {before after : Cursor} {value : α} (far : origin ≤ before.tell)
    (ran : reader origin before = .ok value after) : ∃ bytes, before.Passes bytes after := by
  obtain ⟨bytes, passes, -⟩ := exact origin before value after far ran
  exact ⟨bytes, passes⟩

theorem Exact.sameFrom {reader : Nat → Reader α} (exact : Exact reader) (start : Nat) :
    SameFrom start (reader start) (reader start) := by
  refine fun before far => ⟨rfl, fun value after ran => ?_⟩
  obtain ⟨bytes, passes⟩ := exact.passes far ran
  rw [passes.tell]
  omega

theorem SameFrom.bind {next next' : α → Reader β} (first : SameFrom start reader other)
    (second : ∀ value, SameFrom start (next value) (next' value)) :
    SameFrom start (reader >>= next) (other >>= next') := by
  intro before far
  obtain ⟨same, behind⟩ := first before far
  constructor
  · simp only [Bind.bind, EStateM.bind, same]
    cases ran : other before with
    | error cause middle => rfl
    | ok value middle => exact (second value middle (behind value middle ran)).1
  · intro result after ran
    obtain ⟨value, middle, firstRan, secondRan⟩ := bind_ok_iff.mp ran
    exact (second value middle (behind value middle firstRan)).2 result after secondRan

theorem SameFrom.pure (start : Nat) (value : α) :
    SameFrom start (Pure.pure value) (Pure.pure value) :=
  (Exact.pure value).sameFrom start

theorem SameFrom.replicate (same : SameFrom start reader other) (count : Nat) :
    SameFrom start (Reader.replicate reader count) (Reader.replicate other count) := by
  induction count with
  | zero => exact .pure start []
  | succ count ih => exact same.bind fun first => ih.bind fun rest => .pure start (first :: rest)

end Reader

open Reader (SameFrom)

/-- The cursor has passed the start when a script begins, so there is a distance. -/
theorem Output.sameFrom_readChecked (cause : Error) (start : Nat) :
    SameFrom start (Output.readChecked cause start) (Output.read start) := by
  refine (Exact.u64.sameFrom start).bind fun amount => ?_
  by_cases excess : maxAmount < amount.toNat
  · simp only [if_pos excess]
    exact (Exact.throw _).sameFrom start
  simp only [if_neg excess]
  refine (Exact.compactSize.sameFrom start).bind fun length => ?_
  intro before far
  have distance : before.since? start = some (before.tell - start) := if_pos far
  obtain ⟨-, behind⟩ := ((Exact.take length).map fun source =>
    ofScript amount (OutputScript.parse source (before.tell - start))).sameFrom start before far
  refine ⟨?_, behind⟩
  show (match before.since? start with
    | none => throw cause
    | some offset => do
      let source ← Reader.take length
      return ofScript amount (OutputScript.parse source offset) : Reader Output) before = _
  rw [distance]
  rfl

namespace Transaction

theorem sameFrom_readFieldsWith {start : Nat} {readOutput : Reader Output}
    (same : SameFrom start readOutput (Output.read start)) :
    SameFrom start (readFieldsWith readOutput) (readFields start) := by
  refine (Exact.u32.sameFrom start).bind fun version =>
    (exact_readInputCount.sameFrom start).bind fun counted => ?_
  obtain ⟨flag, count⟩ := counted
  exact ((Input.exact_read.replicate count).sameFrom start).bind fun inputs =>
    (Exact.compactSize.sameFrom start).bind fun outputCount =>
      (same.replicate outputCount).bind fun outputs =>
        ((exact_readWitnesses flag count).sameFrom start).bind fun witnesses =>
          (Exact.u32.sameFrom start).bind fun locktime => .pure start _

/-- No distance is negative, wherever the transaction stands and whether or not it can be read. -/
theorem readChecked_eq (cause : Error) : readChecked cause = read := by
  funext before
  have same : readFieldsWith (Output.readChecked cause before.tell) before =
      readFields before.tell before :=
    (sameFrom_readFieldsWith (Output.sameFrom_readChecked cause before.tell) before
      (Nat.le_refl _)).1
  show (readFieldsWith (Output.readChecked cause before.tell) >>= _) before =
    (readFields before.tell >>= _) before
  simp only [Bind.bind, EStateM.bind, same]

end Transaction

/-! ## What stands at the distances -/

namespace Cursor

theorem drop_tell (c : Cursor) : c.data.drop c.tell = c.rest := by
  rw [data, tell, ← List.length_reverse, List.drop_left]

theorem Passes.data {before after : Cursor} {bytes : Bytes} (passes : before.Passes bytes after) :
    after.data = before.data := by
  simp [Cursor.data, passes.rest, passes.passed]

end Cursor

namespace Output

/-- The script begins behind amount and length, at the distance that it remembers, and the
cursor stops behind it. -/
theorem read_positions {before after : Cursor} {output : Output}
    (ran : Output.read 0 before = .ok output after) :
    before.tell < output.script.offset ∧ after.tell = output.script.stop ∧
      output.script.source <+: before.data.drop output.script.offset ∧
      after.data = before.data := by
  obtain ⟨amount, c₁, length, c₂, source, amountRan, -, lengthRan, taken, rfl⟩ := read_ok ran
  have offset : (ofScript amount (OutputScript.parse source (c₂.tell - 0))).script.offset =
      c₂.tell := Nat.sub_zero _
  obtain ⟨n, c, numbered, ran⟩ := bind_ok_iff.mp amountRan
  cases ran
  have passesAmount := (Reader.number_ok numbered).2
  obtain ⟨form, spells, passesLength⟩ := Reader.compactSize_ok lengthRan
  obtain ⟨rfl, passesScript⟩ := Reader.take_ok_iff.mp taken
  have data : c₂.data = before.data := passesLength.data.trans passesAmount.data
  refine ⟨?_, ?_, ?_, passesScript.data.trans data⟩
  · rw [offset, passesLength.tell, passesAmount.tell, length_leBytes]
    omega
  · rw [OutputScript.stop, offset, passesScript.tell]
    rfl
  · rw [offset, ← data, Cursor.drop_tell, passesScript.rest]
    exact List.prefix_append _ _

/-- The scripts stand in the order of the outputs, between the places where the cursor was
before and after them. -/
theorem replicate_positions {count : Nat} {before after : Cursor} {outputs : List Output}
    (ran : Reader.replicate (Output.read 0) count before = .ok outputs after) :
    (∀ output ∈ outputs, before.tell < output.script.offset ∧ output.script.stop ≤ after.tell ∧
      output.script.source <+: before.data.drop output.script.offset) ∧
      outputs.Pairwise (fun output later => output.script.stop < later.script.offset) ∧
      before.tell ≤ after.tell := by
  induction count generalizing before outputs with
  | zero =>
    cases ran
    exact ⟨by simp, .nil, Nat.le_refl _⟩
  | succ count ih =>
    obtain ⟨first, middle, firstRan, ran⟩ := bind_ok_iff.mp ran
    obtain ⟨rest, last, restRan, ran⟩ := bind_ok_iff.mp ran
    cases ran
    obtain ⟨begins, ends, stands, data⟩ := read_positions firstRan
    obtain ⟨each, apart, further⟩ := ih restRan
    have forward : first.script.offset ≤ middle.tell := by
      rw [ends, OutputScript.stop]
      omega
    refine ⟨List.forall_mem_cons.mpr ⟨⟨begins, ends ▸ further, stands⟩, ?_⟩, ?_, ?_⟩
    · intro output member
      obtain ⟨begins', inside, stands'⟩ := each output member
      exact ⟨by omega, inside, data ▸ stands'⟩
    · exact List.pairwise_cons.mpr ⟨fun output member => ends ▸ (each output member).1, apart⟩
    · omega

end Output

namespace Transaction

/-- The outputs end in front of the lock time. -/
theorem readFields_outputs {start : Nat} {before after : Cursor} {fields : Transaction}
    (ran : readFields start before = .ok fields after) :
    ∃ count c₁ c₂, Reader.replicate (Output.read start) count c₁ = .ok fields.outputs c₂ ∧
      c₁.data = before.data ∧ c₂.tell + 4 ≤ after.tell := by
  obtain ⟨version, c₁, versionRan, ran⟩ := bind_ok_iff.mp ran
  obtain ⟨⟨flag, inputCount⟩, c₂, countRan, ran⟩ := bind_ok_iff.mp ran
  obtain ⟨inputs, c₃, inputsRan, ran⟩ := bind_ok_iff.mp ran
  obtain ⟨outputCount, c₄, outputCountRan, ran⟩ := bind_ok_iff.mp ran
  obtain ⟨outputs, c₅, outputsRan, ran⟩ := bind_ok_iff.mp ran
  obtain ⟨witnesses, c₆, witnessesRan, ran⟩ := bind_ok_iff.mp ran
  obtain ⟨locktime, c₇, locktimeRan, ran⟩ := bind_ok_iff.mp ran
  cases ran
  obtain ⟨_, passesVersion⟩ := Exact.u32.passes (Nat.zero_le _) versionRan
  obtain ⟨_, passesCount⟩ := exact_readInputCount.passes (Nat.zero_le _) countRan
  obtain ⟨_, passesInputs⟩ :=
    (Input.exact_read.replicate inputCount).passes (Nat.zero_le _) inputsRan
  obtain ⟨_, passesOutputCount⟩ := Exact.compactSize.passes (Nat.zero_le _) outputCountRan
  obtain ⟨_, passesWitnesses⟩ :=
    (exact_readWitnesses flag inputCount).passes (Nat.zero_le _) witnessesRan
  obtain ⟨n, c, numbered, ran⟩ := bind_ok_iff.mp locktimeRan
  cases ran
  have passesLocktime := (Reader.number_ok numbered).2
  refine ⟨outputCount, c₄, c₅, outputsRan, ?_, ?_⟩
  · rw [passesOutputCount.data, passesInputs.data, passesCount.data, passesVersion.data]
  · rw [passesLocktime.tell, passesWitnesses.tell, length_leBytes]
    omega

/-- Scripts are not touched by putting outputs in their places. -/
theorem scripts_received (fields : Transaction) (bytes : Bytes) :
    (received fields bytes).outputs.map (·.script) = fields.outputs.map (·.script) := by
  have identified (raw : Bytes) :
      (fields.identify raw).outputs.map (·.script) = fields.outputs.map (·.script) :=
    map_view_mapIdx (·.script) (by intros; rfl) fields.outputs
  unfold received
  split
  · exact identified bytes
  · exact identified fields.serialize

/-- Wherever a transaction is read, and whether or not it can be, no distance of a script from
the start of its transaction comes out negative. When it can be read, the script of every output
stands at the distance that it remembers among the bytes that were read, and at least four bytes
in front of their end; the scripts stand in the order of the outputs, apart from each other. -/
theorem scripts_located :
    (∀ cause, readChecked cause = read) ∧
      ∀ (before after : Cursor) (tx : Transaction), read before = .ok tx after →
        (∀ output ∈ tx.outputs,
          ((after.consumedSince before.tell).drop output.script.offset).take
              output.script.source.length = output.script.source ∧
            output.script.stop + 4 ≤ (after.consumedSince before.tell).length) ∧
        tx.outputs.Pairwise fun output later => output.script.stop < later.script.offset := by
  refine ⟨readChecked_eq, fun before after tx accepted => ?_⟩
  obtain ⟨bytes, fields, passes, reads, rfl⟩ := read_ok_iff.mp accepted
  -- The distances are those from the start of the bytes alone.
  have ran := reads [] [] (Nat.le_refl _)
  obtain ⟨count, c₁, c₂, outputsRan, data, room⟩ := readFields_outputs ran
  obtain ⟨each, apart, -⟩ := Output.replicate_positions outputsRan
  have all : c₁.data = bytes := by rw [data]; simp [Cursor.data]
  have room : c₂.tell + 4 ≤ bytes.length := by simpa [Cursor.tell] using room
  have scripts := scripts_received fields bytes
  rw [passes.consumed]
  constructor
  · intro output member
    obtain ⟨read, member', same⟩ : ∃ read ∈ fields.outputs, read.script = output.script :=
      List.mem_map.mp (scripts ▸ List.mem_map_of_mem (f := (·.script)) member)
    obtain ⟨-, inside, stands⟩ := each read member'
    rw [← same]
    refine ⟨?_, Nat.le_trans (Nat.add_le_add_right inside 4) room⟩
    rw [← all]
    exact (List.prefix_iff_eq_take.mp stands).symm
  · have ordered : ((received fields bytes).outputs.map (·.script)).Pairwise
        fun script later => script.stop < later.offset := by
      rw [scripts]
      exact List.pairwise_map.mpr apart
    exact List.pairwise_map.mp ordered

/-- A coinbase behind a marker, with two outputs, one of them with an empty script, and a witness.
A count and a length take more bytes than they need. -/
def flaggedBytes : Bytes :=
  [1, 0, 0, 0, 0, 1, 0xFD, 1, 0] ++ List.replicate 32 0 ++
    [0xFF, 0xFF, 0xFF, 0xFF, 0, 0xFF, 0xFF, 0xFF, 0xFF, 2, 7, 0, 0, 0, 0, 0, 0, 0, 0xFD, 1, 0, 0x51,
      8, 0, 0, 0, 0, 0, 0, 0, 0, 1, 1, 0xAA, 0, 0, 0, 0]

def flagged : Transaction :=
  (ofFields 1 0 [Input.ofBytes (.unresolved ⟨TxRef.null, 0xFFFFFFFF⟩) [] Input.finalSequence]
    [Output.ofScript 7 (OutputScript.parse [0x51] 62), Output.ofScript 8 (OutputScript.parse [] 72)]
    1 [[0xAA]]).invalidate

theorem read_flagged :
    read (Cursor.within ([9] ++ flaggedBytes ++ [9]) 1) =
      .ok flagged (Cursor.within ([9] ++ flaggedBytes ++ [9]) 80) := by
  rfl

/-- The scripts are found in a stream, behind a marker. -/
theorem scripts_located_flagged :
    (Cursor.within ([9] ++ flaggedBytes ++ [9]) 80).consumedSince 1 = flaggedBytes ∧
      (flaggedBytes.drop 62).take 1 = [0x51] ∧ (flaggedBytes.drop 72).take 0 = [] ∧
      flagged.outputs.Pairwise fun output later => output.script.stop < later.script.offset := by
  obtain ⟨each, apart⟩ := scripts_located.2 _ _ _ read_flagged
  have consumed : (Cursor.within ([9] ++ flaggedBytes ++ [9]) 80).consumedSince 1 = flaggedBytes :=
    by decide
  have start : (Cursor.within ([9] ++ flaggedBytes ++ [9]) 1).tell = 1 := rfl
  rw [start, consumed] at each
  refine ⟨consumed, ?_, ?_, apart⟩
  · exact (each _ List.mem_cons_self).1
  · exact (each _ (List.mem_cons_of_mem _ List.mem_cons_self)).1

end Transaction

end ClaimLedger
