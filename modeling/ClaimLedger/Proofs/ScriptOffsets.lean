import ClaimLedger.Proofs.Inputless
import ClaimLedger.Proofs.ScriptPositions

/-! Script offsets and the wire form. A script remembers where it stood in the bytes that were
read. A transaction without a flag keeps these bytes, so that the script is found there. Behind a
flag they give way to the canonical form, in which marker and flag are missing in front of every
script; the offsets stay what they were and lead at least two bytes too far. -/
namespace ClaimLedger

open Reader (Follows Reads bind_ok_iff)

/-- The bytes between two positions, where there are such positions. -/
def slice? (bytes : Bytes) (start stop : Nat) : Option Bytes :=
  if start ≤ stop ∧ stop ≤ bytes.length then some ((bytes.drop start).take (stop - start))
  else none

/-- As many bytes as are asked for stand at two positions, and they are the same. -/
def Recurs (bytes : Bytes) (length position other : Nat) : Prop :=
  other + length ≤ bytes.length ∧
    (bytes.drop other).take length = (bytes.drop position).take length

instance (bytes : Bytes) (length position other : Nat) :
    Decidable (Recurs bytes length position other) := by unfold Recurs; infer_instance

theorem slice?_eq_some_iff {bytes part : Bytes} {start : Nat} :
    slice? bytes start (start + part.length) = some part ↔
      start + part.length ≤ bytes.length ∧ (bytes.drop start).take part.length = part := by
  unfold slice?
  simp only [Nat.add_sub_cancel_left, Nat.le_add_right, true_and]
  split
  · simp [*]
  · simp [*]

theorem slice?_append (front part behind : Bytes) :
    slice? (front ++ part ++ behind) front.length (front.length + part.length) = some part := by
  simp [slice?_eq_some_iff]

/-- What stands at one position stands at another exactly when it recurs there. -/
theorem slice?_other_iff {bytes part : Bytes} {position other : Nat}
    (stands : slice? bytes position (position + part.length) = some part) :
    slice? bytes other (other + part.length) = some part ↔
      Recurs bytes part.length position other := by
  obtain ⟨-, here⟩ := slice?_eq_some_iff.mp stands
  rw [slice?_eq_some_iff, Recurs, here]

/-! ## Distances from the start -/

/-- What is passed is no shorter than what is written. -/
theorem Reader.Follows.tell_le {α : Type} {reader : Reader α} {layout : α → List Piece}
    (follows : Follows [] reader layout) {before after : Cursor} {value : α}
    (ran : reader before = .ok value after) :
    before.tell + (shortest (layout value)).length ≤ after.tell := by
  obtain ⟨spelling, spells, passes⟩ := follows _ _ _ ran
  have shorter := spelling.length_shortest_le
  rw [passes.tell, ← spells, List.nil_append]
  omega

theorem Reader.compactSize_tell_le {before after : Cursor} {n : Nat}
    (ran : Reader.compactSize before = .ok n after) :
    before.tell + compactSizeLength n ≤ after.tell := by
  simpa [length_compactSize] using Follows.compactSize.tell_le ran

namespace Output

/-- An amount and a length stand in front of the script. -/
theorem read_offset {before after : Cursor} {output : Output}
    (ran : Output.read 0 before = .ok output after) :
    before.tell + 8 + compactSizeLength output.script.source.length ≤ output.script.offset := by
  obtain ⟨amount, c₁, length, c₂, source, amountRan, -, lengthRan, taken, rfl⟩ := read_ok ran
  obtain ⟨rfl, -⟩ := Reader.take_ok_iff.mp taken
  have behindAmount : before.tell + 8 ≤ c₁.tell := by simpa using Follows.u64.tell_le amountRan
  have behindLength := Reader.compactSize_tell_le lengthRan
  show before.tell + 8 + compactSizeLength source.length ≤ c₂.tell - 0
  omega

/-- In front of that stand the outputs before it. -/
theorem replicate_offset {count : Nat} {before after : Cursor} {earlier later : List Output}
    {output : Output}
    (ran : Reader.replicate (Output.read 0) count before = .ok (earlier ++ output :: later) after) :
    before.tell + (earlier.flatMap write).length + 8 +
      compactSizeLength output.script.source.length ≤ output.script.offset := by
  induction earlier generalizing count before with
  | nil =>
    cases count with
    | zero => cases ran
    | succ count =>
      obtain ⟨first, middle, firstRan, ran⟩ := bind_ok_iff.mp ran
      obtain ⟨rest, last, -, ran⟩ := bind_ok_iff.mp ran
      cases ran
      exact read_offset firstRan
  | cons first earlier ih =>
    cases count with
    | zero => cases ran
    | succ count =>
      obtain ⟨_, middle, firstRan, ran⟩ := bind_ok_iff.mp ran
      obtain ⟨rest, last, restRan, ran⟩ := bind_ok_iff.mp ran
      cases ran
      have behind := (follows_read 0).tell_le firstRan
      have further := ih restRan
      rw [Content.shortest_layout] at behind
      have written : first.content.write = first.write := rfl
      rw [List.flatMap_cons, List.length_append, ← written]
      omega

end Output

namespace Transaction

/-- What the canonical form holds in front of the script of an output with others before it. -/
def scriptFront (tx : Transaction) (earlier : List Output) (output : Output) : Bytes :=
  leBytes 4 tx.version.toNat ++ writeInputs tx.inputs ++ compactSize tx.outputs.length ++
    earlier.flatMap Output.write ++ leBytes 8 output.amount.toNat ++
    compactSize output.script.source.length

variable {tx : Transaction} {bytes : Bytes} {earlier later : List Output} {output : Output}

theorem serialize_eq_scriptFront (stands : tx.outputs = earlier ++ output :: later) :
    tx.serialize = tx.scriptFront earlier output ++ output.script.source ++
      (later.flatMap Output.write ++ leBytes 4 tx.locktime.toNat) := by
  simp [serialize, writeOutputs, scriptFront, stands, Output.write, lengthPrefixed]

/-- Behind a flag the fields in front of a script are longer than they are written, by marker and
flag at least. -/
theorem flagged_offset {fields : Transaction} (reads : Reads readFields 0 bytes fields)
    (flagged : fields.segwitFlag ≠ 0) (stands : fields.outputs = earlier ++ output :: later) :
    (fields.scriptFront earlier output).length + 2 ≤ output.script.offset := by
  have ran : readFields 0 (Cursor.start bytes) = .ok fields ⟨bytes.reverse, []⟩ := by
    have ran := reads [] [] (Nat.le_refl _)
    rwa [List.append_nil, List.append_nil] at ran
  have marked : Marked (Cursor.start bytes) := by
    by_contra unmarked
    exact flagged (readFields_unmarked unmarked ran).2.1
  obtain ⟨version, c₁, c₂, groups, versionRan, markerRan, ran, -⟩ := readFields_marked marked ran
  obtain ⟨flag, c₃, flagRan, ran⟩ := bind_ok_iff.mp ran
  obtain ⟨inputCount, c₄, inputCountRan, ran⟩ := bind_ok_iff.mp ran
  obtain ⟨inputs, c₅, inputsRan, ran⟩ := bind_ok_iff.mp ran
  obtain ⟨outputCount, c₆, outputCountRan, ran⟩ := bind_ok_iff.mp ran
  obtain ⟨outputs, c₇, outputsRan, ran⟩ := bind_ok_iff.mp ran
  obtain ⟨groups, c₈, -, ran⟩ := bind_ok_iff.mp ran
  obtain ⟨locktime, c₉, -, ran⟩ := bind_ok_iff.mp ran
  cases ran
  obtain rfl : outputs = earlier ++ output :: later := stands
  obtain rfl := Reader.replicate_length inputsRan
  obtain rfl := Reader.replicate_length outputsRan
  -- Each part takes at least the bytes it is written in; marker and flag are not written at all.
  have behindVersion : 4 ≤ c₁.tell := by
    simpa [Cursor.start, Cursor.tell] using Follows.u32.tell_le versionRan
  have behindMarker : c₁.tell + 1 ≤ c₂.tell := Reader.compactSize_tell_le markerRan
  have behindFlag : c₂.tell + 1 ≤ c₃.tell := by simpa using Follows.u8.tell_le flagRan
  have behindCount := Reader.compactSize_tell_le inputCountRan
  have behindInputs : c₄.tell + (inputs.flatMap Input.write).length ≤ c₅.tell := by
    have passed := (Input.follows_read.replicate inputs.length).tell_le inputsRan
    rwa [shortest_flatMap fun input => input.content.shortest_layout] at passed
  have behindOutputCount := Reader.compactSize_tell_le outputCountRan
  have behindOutputs := Output.replicate_offset outputsRan
  simp only [scriptFront, ofFields, writeInputs, List.length_append, length_leBytes,
    length_compactSize] at behindOutputCount ⊢
  omega

/-- What stands in front of a script is decided by what travels. -/
theorem scriptFront_congr {other : Transaction} {others : List Output} {same : Output}
    (content : tx.content = other.content)
    (before : earlier.map Output.content = others.map Output.content)
    (here : output.content = same.content) :
    tx.scriptFront earlier output = other.scriptFront others same := by
  have contents (tx : Transaction) (earlier : List Output) (output : Output) :
      tx.scriptFront earlier output = leBytes 4 tx.content.version.toNat ++
        (compactSize tx.content.inputs.length ++
          tx.content.inputs.flatMap Input.Content.write) ++
        compactSize tx.content.outputs.length ++
        (earlier.map Output.content).flatMap Output.Content.write ++
        leBytes 8 output.content.amount.toNat ++ compactSize output.content.source.length := by
    simp only [scriptFront, writeInputs, Transaction.content, List.length_map, List.flatMap_map]
    rfl
  rw [contents, contents, content, before, here]

/-- An output that was received was read, with outputs before it that say the same. -/
theorem received_outputs {fields : Transaction}
    (stands : (received fields bytes).outputs = earlier ++ output :: later) :
    ∃ before here behind, fields.outputs = before ++ here :: behind ∧
      here.script = output.script ∧ here.content = output.content ∧
      before.map Output.content = earlier.map Output.content := by
  have identified (raw : Bytes) : (fields.identify raw).outputs.map Output.detached =
      fields.outputs.map Output.detached :=
    map_view_mapIdx Output.detached (by intros; rfl) fields.outputs
  have detached : (received fields bytes).outputs.map Output.detached =
      fields.outputs.map Output.detached := by
    unfold received
    split
    · exact identified bytes
    · exact identified fields.serialize
  rw [stands, List.map_append, List.map_cons] at detached
  obtain ⟨before, rest, split, first, second⟩ := List.map_eq_append_iff.mp detached.symm
  obtain ⟨here, behind, rfl, same, -⟩ := List.map_eq_cons_iff.mp second
  have contents : before.map Output.content = earlier.map Output.content := by
    have detached := congrArg (List.map Output.content) first
    rwa [List.map_map, List.map_map] at detached
  have content : here.detached.content = output.detached.content := congrArg Output.content same
  have script : here.detached.script = output.detached.script := congrArg (·.script) same
  exact ⟨before, here, behind, split, script, content, contents⟩

/-- Among the bytes that were read, scripts are where their offsets say. -/
theorem slice?_read {fields : Transaction} (reads : Reads readFields 0 bytes fields)
    (member : output ∈ fields.outputs) :
    slice? bytes output.script.offset output.script.stop = some output.script.source := by
  have ran := reads [] [] (Nat.le_refl _)
  obtain ⟨count, c₁, c₂, outputsRan, data, room⟩ := readFields_outputs ran
  obtain ⟨-, inside, stands⟩ := (Output.replicate_positions outputsRan).1 output member
  have all : c₁.data = bytes := by rw [data]; simp [Cursor.data]
  have room : c₂.tell + 4 ≤ bytes.length := by simpa [Cursor.tell] using room
  rw [all] at stands
  have fits : output.script.stop ≤ bytes.length := by omega
  exact slice?_eq_some_iff.mpr ⟨fits, (List.prefix_iff_eq_take.mp stands).symm⟩

/-- The offset of a script finds it in the wire form of the transaction exactly when the flag is
zero, or the bytes of the script happen to stand once more where the offset leads. In the
canonical form that a flag calls for, the script stands behind what is written in front of it, and
the offset leads at least two bytes further. -/
theorem scripts_in_raw_iff {before after : Cursor} (accepted : read before = .ok tx after)
    (stands : tx.outputs = earlier ++ output :: later) :
    (slice? tx.raw output.script.offset output.script.stop = some output.script.source ↔
      tx.segwitFlag = 0 ∨ Recurs tx.raw output.script.source.length
        (tx.scriptFront earlier output).length output.script.offset) ∧
    (tx.segwitFlag ≠ 0 →
      slice? tx.raw (tx.scriptFront earlier output).length
          ((tx.scriptFront earlier output).length + output.script.source.length) =
        some output.script.source ∧
      (tx.scriptFront earlier output).length + 2 ≤ output.script.offset) := by
  obtain ⟨bytes, fields, -, reads, rfl⟩ := read_ok_iff.mp accepted
  obtain ⟨others, here, rest, split, script, content, contents⟩ := received_outputs stands
  rw [flag_received]
  by_cases flag : fields.segwitFlag = 0
  · have found := slice?_read reads (split ▸ List.mem_append_right others List.mem_cons_self)
    rw [raw_received_plain flag, ← script, found]
    simp [flag]
  · have canonical := raw_received_flagged flag bytes
    have place := serialize_eq_scriptFront stands
    have offset := flagged_offset reads flag split
    have front := scriptFront_congr (content_received fields bytes).1.symm contents content
    rw [front, script] at offset
    have found := slice?_append ((received fields bytes).scriptFront earlier output)
      output.script.source (later.flatMap Output.write ++
        leBytes 4 (received fields bytes).locktime.toNat)
    rw [← place, ← canonical] at found
    refine ⟨?_, fun _ => ⟨found, offset⟩⟩
    rw [or_iff_right flag]
    exact slice?_other_iff found

/-- The first script stands six bytes before its offset: marker, flag, and two bytes each of the
input count and of its own length. Another byte stands where the offset leads. -/
theorem scripts_in_raw_flagged :
    slice? flagged.raw 56 57 = some [0x51] ∧ ¬slice? flagged.raw 62 63 = some [0x51] := by
  have accepted : read (Cursor.start flaggedBytes) = .ok flagged ⟨flaggedBytes.reverse, []⟩ := rfl
  have stands : flagged.outputs = [] ++ flagged.outputs[0] :: [flagged.outputs[1]] := rfl
  obtain ⟨exactly, behind⟩ := scripts_in_raw_iff accepted stands
  have elsewhere : ¬Recurs flagged.raw 1 56 62 := by decide
  refine ⟨(behind (by decide)).1, fun found => ?_⟩
  exact elsewhere ((exactly.mp found).resolve_left (by decide))

/-- The bytes are accepted. The offset of the first script leads to another byte of the wire form,
that of the second one behind its end. -/
theorem scripts_in_raw_misled :
    ofBytes flaggedBytes = .ok flagged ∧
      flagged.outputs.map (fun output => (output.script.offset, output.script.source)) =
        [(62, [0x51]), (72, [])] ∧
      slice? flagged.raw 62 63 = some [0] ∧ slice? flagged.raw 72 72 = none :=
  ⟨rfl, by decide, by decide, by decide⟩

end Transaction

end ClaimLedger
