import Mathlib.Data.List.Forall2
import ClaimLedger.Proofs.RoundTrip

/-! Transactions in streams. A transaction is read the same wherever it stands: what comes
out, where its scripts begin, and how far the cursor moves are decided by its own bytes. So
none that is accepted begins with another that is, and transactions that are stored one
behind the other are read one behind the other. -/
namespace ClaimLedger

open Reader (Reads bind_ok_iff)

/-! ## Positions -/

/-- The place at a position of a byte string. -/
def Cursor.within (data : Bytes) (position : Nat) : Cursor :=
  ⟨(data.take position).reverse, data.drop position⟩

/-- Bytes that are passed stand at the position, and end at the next one. -/
theorem Cursor.passes_within_iff {data bytes : Bytes} {position : Nat} {after : Cursor} :
    (within data position).Passes bytes after ↔
      bytes <+: data.drop position ∧ after = within data (position + bytes.length) := by
  constructor
  · intro passes
    have rest : data.drop position = bytes ++ after.rest := passes.rest
    refine ⟨⟨after.rest, rest.symm⟩, ?_⟩
    obtain ⟨passed, remaining⟩ := after
    obtain rfl : passed = bytes.reverse ++ (data.take position).reverse := passes.passed
    simp only [within, List.take_add, ← List.drop_drop, rest, List.take_left, List.drop_left,
      List.reverse_append]
  · rintro ⟨⟨remaining, rest⟩, rfl⟩
    constructor
    · simp only [within, ← List.drop_drop, ← rest, List.drop_left]
    · simp only [within, List.take_add, ← rest, List.take_left, List.reverse_append]

namespace Reader

variable {α : Type}

/-- What is read somewhere is read at every position where the same bytes stand. -/
theorem Reads.within {reader : Reader α} {bytes data : Bytes} {value : α} {position : Nat}
    (reads : Reads (fun _ => reader) 0 bytes value) (stands : bytes <+: data.drop position) :
    reader (Cursor.within data position) =
      .ok value (Cursor.within data (position + bytes.length)) := by
  have passes := Cursor.passes_within_iff.mpr ⟨stands, rfl⟩
  have ran := reads (Cursor.within data position).passed
    (Cursor.within data (position + bytes.length)).rest (Nat.zero_le _)
  rwa [← passes.rest, ← passes.passed] at ran

/-- Items that stand one behind the other are read one behind the other. -/
theorem Reads.replicate_forall₂ {γ : Type} {reader : Reader α} {write : γ → Bytes} {items : List γ}
    {values : List α} (each : List.Forall₂
      (fun item value => ∀ skipped, Reads (fun _ => reader) skipped (write item) value)
      items values)
    (skipped : Nat) :
    Reads (fun _ => Reader.replicate reader items.length) skipped (items.flatMap write) values := by
  induction each generalizing skipped with
  | nil => exact Reads.pure [] skipped
  | cons reads each ih => exact (reads skipped).bind ((ih _).map (_ :: ·))

end Reader

namespace Transaction

/-! ## One transaction in a stream -/

/-- A transaction is read wherever its fields are. -/
theorem reads_received {bytes : Bytes} {fields : Transaction}
    (reads : Reads readFields 0 bytes fields) (skipped : Nat) :
    Reads (fun _ => read) skipped bytes (received fields bytes) :=
  fun _ _ _ => read_ok_iff.mpr ⟨bytes, fields, ⟨rfl, rfl⟩, reads, rfl⟩

/-- No transaction is empty: its version stands there. -/
theorem length_pos_of_reads {bytes : Bytes} {fields : Transaction}
    (reads : Reads readFields 0 bytes fields) : 0 < bytes.length := by
  cases bytes with
  | cons byte bytes => exact Nat.succ_pos _
  | nil =>
    obtain ⟨version, c, versionRan, -⟩ := bind_ok_iff.mp (reads [] [] (Nat.le_refl _))
    cases versionRan

/-- A transaction that is read at a position is read at every position where the same bytes
stand, whatever stands around them. -/
theorem read_within {data : Bytes} {position : Nat} {tx : Transaction} {after : Cursor}
    (accepted : read (Cursor.within data position) = .ok tx after) :
    ∃ length, 0 < length ∧ position + length ≤ data.length ∧
      after = Cursor.within data (position + length) ∧
      ∀ (other : Bytes) (place : Nat),
        (∀ i < length, other[place + i]? = data[position + i]?) →
        read (Cursor.within other place) = .ok tx (Cursor.within other (place + length)) := by
  obtain ⟨bytes, fields, passes, reads, rfl⟩ := read_ok_iff.mp accepted
  obtain ⟨stands, ends⟩ := Cursor.passes_within_iff.mp passes
  have nonempty := length_pos_of_reads reads
  have inside := stands.length_le
  rw [List.length_drop] at inside
  refine ⟨bytes.length, nonempty, by omega, ends, fun other place agrees => ?_⟩
  refine (reads_received reads 0).within (List.prefix_iff_getElem?.mpr fun i below => ?_)
  rw [List.getElem?_drop, agrees i below, ← List.getElem?_drop]
  exact List.prefix_iff_getElem?.mp stands i below

/-- What follows an accepted byte string is refused. -/
theorem ofBytes_append {bytes more : Bytes} {tx : Transaction} (accepted : ofBytes bytes = .ok tx)
    (trailing : more ≠ []) :
    ofBytes (bytes ++ more) = .error (.malformed (.trailingAfterTransaction more.length)) := by
  obtain ⟨fields, reads, rfl⟩ := ofBytes_ok_iff.mp accepted
  have ran : read (Cursor.start (bytes ++ more)) = .ok _ ⟨bytes.reverse ++ [], more⟩ :=
    reads_received reads 0 [] more (Nat.le_refl _)
  simp [ofBytes, Reader.run, ran, Cursor.remaining, trailing]

/-- What is left of an accepted byte string that was cut off is refused. -/
theorem ofBytes_take {bytes : Bytes} {tx : Transaction} (accepted : ofBytes bytes = .ok tx)
    {n : Nat} (cut : n < bytes.length) : ∃ cause, ofBytes (bytes.take n) = .error cause := by
  cases decided : ofBytes (bytes.take n) with
  | error cause => exact ⟨cause, rfl⟩
  | ok short =>
    -- What was cut off would stand behind a transaction, so the whole would not be accepted.
    have rest : bytes.drop n ≠ [] := by simpa using cut
    have refused := ofBytes_append decided rest
    rw [List.take_append_drop, accepted] at refused
    cases refused

/-! ## Transactions one behind the other -/

/-- Transactions that can be stored and read again, with any history. -/
structure Storable (tx : Transaction) : Prop where
  reachable : Reachable tx
  spending : tx.inputs ≠ []
  amounts : ∀ output ∈ tx.outputs, output.amount.toNat ≤ maxAmount
  addressable : tx.raw.length < 2 ^ 64

/-- Each comes back from where it stands. -/
theorem returned_each (txs : List Transaction) (storable : ∀ tx ∈ txs, tx.Storable) :
    ∃ backs, List.Forall₂ (fun tx back => tx.Returned back ∧
      ∀ skipped, Reads (fun _ => read) skipped tx.raw back) txs backs := by
  induction txs with
  | nil => exact ⟨[], .nil⟩
  | cons tx txs ih =>
    obtain ⟨first, rest⟩ := List.forall_mem_cons.mp storable
    obtain ⟨fields, reads, returned⟩ :=
      first.reachable.returned first.spending first.amounts first.addressable
    obtain ⟨backs, each⟩ := ih rest
    exact ⟨received fields tx.raw :: backs, .cons ⟨returned, reads_received reads⟩ each⟩

/-- Transactions stored one behind the other come back in their order, and after each of them
the cursor stands where the next one begins. -/
theorem replicate_read_raw {txs : List Transaction} (storable : ∀ tx ∈ txs, tx.Storable) :
    ∃ backs, List.Forall₂ Returned txs backs ∧ ∀ (front back : Bytes), ∀ count ≤ txs.length,
      Reader.replicate read count
          (Cursor.within (front ++ (txs.flatMap raw ++ back)) front.length) =
        .ok (backs.take count) (Cursor.within (front ++ (txs.flatMap raw ++ back))
          (front.length + ((txs.take count).flatMap raw).length)) := by
  obtain ⟨backs, each⟩ := returned_each txs storable
  refine ⟨backs, each.imp fun _ _ both => both.1, fun front back count few => ?_⟩
  -- The first transactions are read from their own bytes; the others only stand behind these.
  have first := List.forall₂_take count each
  have reads := Reads.replicate_forall₂ (first.imp fun _ _ both => both.2) 0
  rw [List.length_take, Nat.min_eq_left few] at reads
  refine reads.within ?_
  have split : txs.flatMap raw = (txs.take count).flatMap raw ++ (txs.drop count).flatMap raw := by
    rw [← List.flatMap_append, List.take_append_drop]
  rw [List.drop_left, split, List.append_assoc]
  exact List.prefix_append _ _

/-- What is read at a position is decided by the bytes that the cursor passes there: where the
same bytes stand, before and behind whatever others, the same transaction is read, with the
same places of its scripts, and the cursor moves as far. An accepted byte string is therefore
refused when it is cut off anywhere and when anything follows it. Transactions that were
stored one behind the other are read in their order from one reader, which stands after each
of them where the next one begins. -/
theorem read_streams :
    (∀ (data : Bytes) (position : Nat) (tx : Transaction) (after : Cursor),
      read (Cursor.within data position) = .ok tx after →
      ∃ length, 0 < length ∧ position + length ≤ data.length ∧
        after = Cursor.within data (position + length) ∧
        ∀ (other : Bytes) (place : Nat),
          (∀ i < length, other[place + i]? = data[position + i]?) →
          read (Cursor.within other place) = .ok tx (Cursor.within other (place + length))) ∧
      (∀ (bytes : Bytes) (tx : Transaction), ofBytes bytes = .ok tx →
        (∀ n < bytes.length, ∃ cause, ofBytes (bytes.take n) = .error cause) ∧
          ∀ more ≠ [], ofBytes (bytes ++ more) =
            .error (.malformed (.trailingAfterTransaction more.length))) ∧
      ∀ txs : List Transaction, (∀ tx ∈ txs, tx.Storable) →
        ∃ backs, List.Forall₂ Returned txs backs ∧
          ∀ (front back : Bytes), ∀ count ≤ txs.length,
            Reader.replicate read count
                (Cursor.within (front ++ (txs.flatMap raw ++ back)) front.length) =
              .ok (backs.take count) (Cursor.within (front ++ (txs.flatMap raw ++ back))
                (front.length + ((txs.take count).flatMap raw).length)) :=
  ⟨fun _ _ _ _ accepted => read_within accepted,
    fun _ _ accepted => ⟨fun _ cut => ofBytes_take accepted cut,
      fun _ trailing => ofBytes_append accepted trailing⟩,
    fun _ storable => replicate_read_raw storable⟩

theorem storable_padded : padded.Storable :=
  ⟨.parsed read_padded, by decide, by decide, by decide⟩

theorem storable_sample : sample.Storable :=
  ⟨built_sample.reachable, by decide, by decide, by decide +kernel⟩

/-- The padded coinbase is read between other bytes, and in front of another transaction, but
not without its end. -/
theorem read_streams_padded :
    (∃ after, read (Cursor.within ([7] ++ (paddedBytes ++ [8])) 1) = .ok padded after) ∧
      (∃ cause, ofBytes (paddedBytes.take 60) = .error cause) ∧
      ∃ backs, List.Forall₂ Returned [padded, sample] backs ∧
        Reader.replicate read 1 (Cursor.within (padded.raw ++ sample.raw) 0) =
          .ok (backs.take 1) (Cursor.within (padded.raw ++ sample.raw) padded.raw.length) := by
  obtain ⟨placed, refused, stored⟩ := read_streams
  refine ⟨?_, (refused paddedBytes padded rfl).1 60 (by decide), ?_⟩
  · obtain ⟨length, -, inside, -, anywhere⟩ := placed paddedBytes 0 padded _ read_padded
    refine ⟨_, anywhere _ 1 fun i below => ?_⟩
    have here : i < paddedBytes.length := by omega
    rw [List.getElem?_append_right (by simp), Nat.zero_add]
    simp only [List.length_singleton, Nat.add_sub_cancel_left]
    exact List.getElem?_append_left here
  · have storable : ∀ tx ∈ [padded, sample], tx.Storable :=
      List.forall_mem_cons.mpr ⟨storable_padded, List.forall_mem_singleton.mpr storable_sample⟩
    obtain ⟨backs, returned, reads⟩ := stored [padded, sample] storable
    exact ⟨backs, returned, by simpa using reads [] [] 1 (by decide)⟩

end Transaction

end ClaimLedger
