import ClaimLedger.Codec.Field
import ClaimLedger.Proofs.Streams

/-! Typed streams. What is written field by field is read back by the shapes of the fields,
wherever it stands in a byte string, and ends where the last field ends. A compact size may be
read in several forms, of which the one that is written is the shortest. -/
namespace ClaimLedger

open Reader (Reads)

namespace Field

/-- Each field is read back by its shape. The length of a string has to fit its compact size. -/
theorem reads_write (field : Field)
    (counted : ∀ content, field = .string content → content.length < 2 ^ 64) (skipped : Nat) :
    Reads (fun _ => field.shape.read) skipped field.write field := by
  cases field with
  | u8 value =>
    have reads := (Reads.number 1 value.toNat skipped value.toNat_lt).map UInt8.ofNat
    rw [UInt8.ofNat_toNat] at reads
    exact reads.map Field.u8
  | u16 value => exact (Reads.u16 value skipped).map Field.u16
  | u32 value => exact (Reads.u32 value skipped).map Field.u32
  | u64 value => exact (Reads.u64 value skipped).map Field.u64
  | compact value =>
    have reads := (Reads.compactSize value.toNat skipped value.toNat_lt).map
      fun n => Field.compact (UInt64.ofNat n)
    rwa [UInt64.ofNat_toNat] at reads
  | string content => exact (Reads.string content skipped (counted content rfl)).map Field.string
  | bytes content => exact (Reads.take content skipped).map Field.bytes

/-- So is a list of fields, one behind the other. -/
theorem reads_writeAll {fields : List Field}
    (counted : ∀ content, .string content ∈ fields → content.length < 2 ^ 64) (skipped : Nat) :
    Reads (fun _ => readAll (fields.map shape)) skipped (writeAll fields) fields := by
  induction fields generalizing skipped with
  | nil => exact Reads.pure [] skipped
  | cons field fields ih =>
    have first := reads_write field (fun content same => counted content (by simp [same])) skipped
    have rest := ih (fun content member => counted content (List.mem_cons_of_mem _ member))
      (skipped + field.write.length)
    exact first.bind (rest.map (field :: ·))

theorem length_writeAll (fields : List Field) :
    (writeAll fields).length = (fields.map width).sum := by
  rw [writeAll, List.length_flatMap]
  exact congrArg List.sum (List.map_congr_left fun field _ => length_write field)

end Field

/-- A byte string that begins with some form of a number is no shorter than the form that is
written, and is that form if it is as short. -/
theorem Reader.compactSize_shortest {bytes : Bytes} {n : Nat} {after : Cursor}
    (ran : Reader.compactSize (Cursor.start bytes) = .ok n after) :
    (ClaimLedger.compactSize n).length ≤ bytes.length ∧
      ((ClaimLedger.compactSize n).length = bytes.length → bytes = ClaimLedger.compactSize n) := by
  obtain ⟨form, spells, passes⟩ := compactSize_ok ran
  obtain ⟨least, only⟩ := spells.shortest
  have whole : bytes = form ++ after.rest := passes.rest
  have length := congrArg List.length whole
  rw [List.length_append] at length
  refine ⟨by omega, fun same => ?_⟩
  have nothing : after.rest = [] := List.length_eq_zero_iff.mp (by omega)
  rw [whole, nothing, List.append_nil, only (by omega)]

namespace Field

/-- Fields that are written one behind the other are read back by their shapes from the place
where they stand, whatever stands around them, and the cursor is left at their end. They take as
many bytes as their widths add up to. What is written for a compact size is read as that number,
and of all byte strings from which the number is read it is the shortest, and the only one so
short. -/
theorem streams_read_back :
    (∀ (fields : List Field) (front back : Bytes),
      (∀ content, .string content ∈ fields → content.length < 2 ^ 64) →
      readAll (fields.map shape)
          (Cursor.within (front ++ (writeAll fields ++ back)) front.length) =
        .ok fields (Cursor.within (front ++ (writeAll fields ++ back))
          (front.length + (writeAll fields).length))) ∧
    (∀ fields : List Field, (writeAll fields).length = (fields.map width).sum) ∧
    ∀ value : UInt64,
      (∃ after, Reader.compactSize (Cursor.start (compactSize value.toNat)) =
        .ok value.toNat after ∧ after.rest = []) ∧
      ∀ (bytes : Bytes) (after : Cursor),
        Reader.compactSize (Cursor.start bytes) = .ok value.toNat after →
        (compactSize value.toNat).length ≤ bytes.length ∧
          ((compactSize value.toNat).length = bytes.length → bytes = compactSize value.toNat) := by
  refine ⟨fun fields front back counted => ?_, length_writeAll, fun value => ⟨?_, fun _ _ ran =>
    Reader.compactSize_shortest ran⟩⟩
  · refine (reads_writeAll counted 0).within ?_
    rw [List.drop_left]
    exact List.prefix_append _ _
  · have read := Reads.compactSize value.toNat 0 value.toNat_lt [] [] (Nat.le_refl _)
    rw [List.append_nil] at read
    exact ⟨_, read, rfl⟩

/-- One field of every shape, with numbers at the limits of compact sizes. -/
def assorted : List Field :=
  [.u8 7, .u16 0x0102, .compact 0xFC, .string [], .u32 0x03040506, .compact 0x10000,
    .u64 0x0708090A0B0C0D0E, .string [1, 2], .bytes [9, 9, 9], .compact 0xFFFFFFFFFFFFFFFF]

/-- They are read between other bytes; and of the forms of five the one of three bytes is not
the shortest. -/
theorem streams_read_back_assorted :
    readAll (assorted.map shape) (Cursor.within ([0xFF] ++ (writeAll assorted ++ [0xFD])) 1) =
        .ok assorted (Cursor.within ([0xFF] ++ (writeAll assorted ++ [0xFD])) 38) ∧
      (writeAll assorted).length = 37 ∧
      (∃ after, Reader.compactSize (Cursor.start [0xFD, 5, 0]) = .ok 5 after ∧
        (compactSize 5).length ≤ 3) := by
  obtain ⟨placed, widths, shortest⟩ := streams_read_back
  have counted : ∀ content, .string content ∈ assorted → content.length < 2 ^ 64 := by
    intro content member
    simp only [assorted, List.mem_cons, reduceCtorEq, Field.string.injEq, List.not_mem_nil,
      or_false, false_or] at member
    rcases member with rfl | rfl <;> decide
  exact ⟨placed assorted [0xFF] [0xFD] counted, widths assorted, _, rfl,
    ((shortest 5).2 [0xFD, 5, 0] _ rfl).1⟩

end Field

end ClaimLedger
