import ClaimLedger.Proofs.TransactionReading

/-! How much readers take. A reader never goes back, and most take some bytes whenever they
succeed. Of a sequence of readers each takes its part, so what a repeated reader takes grows with
the number of times, wherever that number comes from. -/
namespace ClaimLedger

namespace Reader

variable {α β : Type} {least more : Nat} {reader : Reader α}

/-- The reader passes so many bytes at least when it succeeds, and fails no further back than it
began. -/
def Takes (least : Nat) (reader : Reader α) : Prop :=
  ∀ before, match reader before with
    | .ok _ after => after.remaining + least ≤ before.remaining
    | .error _ after => after.remaining ≤ before.remaining

namespace Takes

theorem ok (takes : Takes least reader) {before after : Cursor} {value : α}
    (ran : reader before = .ok value after) : after.remaining + least ≤ before.remaining := by
  simpa only [ran] using takes before

theorem error (takes : Takes least reader) {before after : Cursor} {cause : Error}
    (ran : reader before = .error cause after) : after.remaining ≤ before.remaining := by
  simpa only [ran] using takes before

theorem of_le (takes : Takes more reader) (le : least ≤ more) : Takes least reader := by
  intro before
  cases ran : reader before with
  | ok value after => exact Nat.le_trans (Nat.add_le_add_left le _) (takes.ok ran)
  | error cause after => exact takes.error ran

theorem pure (value : α) : Takes 0 (Pure.pure value : Reader α) :=
  fun _ => Nat.le_refl _

theorem throw (cause : Error) : Takes least (MonadExcept.throw cause : Reader α) :=
  fun _ => Nat.le_refl _

theorem look : Takes 0 (get : Reader Cursor) :=
  fun _ => Nat.le_refl _

theorem bind {next : α → Reader β} (first : Takes least reader)
    (rest : ∀ value, Takes more (next value)) : Takes (least + more) (reader >>= next) := by
  intro before
  cases ran : reader before with
  | error cause middle =>
    simp only [Bind.bind, EStateM.bind, ran]
    exact first.error ran
  | ok value middle =>
    simp only [Bind.bind, EStateM.bind, ran]
    have taken := first.ok ran
    cases again : next value middle with
    | ok result after =>
      have takenBehind := (rest value).ok again
      dsimp only
      omega
    | error cause after =>
      have notBack := (rest value).error again
      dsimp only
      omega

theorem map (takes : Takes least reader) (f : α → β) :
    Takes least (reader >>= fun value => Pure.pure (f value)) :=
  takes.bind fun value => .pure (f value)

theorem ite {other : Reader α} {condition : Prop} [Decidable condition]
    (takes : Takes least reader) (otherwise : Takes least other) :
    Takes least (if condition then reader else other) := by
  split
  · exact takes
  · exact otherwise

/-! ## Bytes, numbers and strings -/

theorem take (n : Nat) : Takes n (Reader.take n) := by
  intro before
  cases ran : Reader.take n before with
  | ok bytes after =>
    obtain ⟨rfl, passes⟩ := take_ok_iff.mp ran
    simp only [Cursor.remaining, passes.rest, List.length_append]
    omega
  | error cause after =>
    unfold Reader.take at ran
    split at ran
    split at ran
    · cases ran
    · cases ran
      exact Nat.le_refl _

theorem number (width : Nat) : Takes width (Reader.number width) := (take width).map leValue

theorem u8 : Takes 1 Reader.u8 := (number 1).map UInt8.ofNat

theorem u32 : Takes 4 Reader.u32 := (number 4).map UInt32.ofNat

theorem u64 : Takes 8 Reader.u64 := (number 8).map UInt64.ofNat

theorem fixed (n : Nat) : Takes n (Reader.fixed n) := (take n).map (FixedBytes.ofPadded n)

/-- A compact size takes the byte that says how long it is. -/
theorem compactSize : Takes 1 Reader.compactSize := by
  have rest (width : Nat) : Takes 0 (Reader.number width) := (number width).of_le (Nat.zero_le _)
  exact u8.bind fun first => .ite (rest 2) (.ite (rest 4) (.ite (rest 8) (.pure first.toNat)))

/-- So does a string, which may be empty. -/
theorem string : Takes 1 Reader.string :=
  compactSize.bind fun length => look.bind fun _ =>
    .ite ((take length).of_le (Nat.zero_le _)) (.throw _)

end Takes

end Reader

open Reader (Takes)

/-! ## Inputs and outputs -/

/-- An input takes an outpoint, the length of its slot and a sequence number. -/
theorem Input.takes_read : Takes 41 Input.read :=
  (Takes.fixed 32).bind fun _ => Takes.u32.bind fun _ => Takes.string.bind fun _ =>
    Takes.u32.map _

/-- An output takes an amount and the length of its script. -/
theorem Output.takes_read (start : Nat) : Takes 9 (Output.read start) := by
  rw [Output.read_eq]
  exact Takes.u64.bind fun _ => .ite (.throw _) (Takes.compactSize.bind fun length =>
    Takes.look.bind fun _ => ((Takes.take length).of_le (Nat.zero_le _)).map _)

namespace Transaction

theorem takes_readInputCount : Takes 1 readInputCount :=
  Takes.compactSize.bind fun _ =>
    .ite ((Takes.u8.bind fun _ => Takes.compactSize.map _).of_le (Nat.zero_le _)) (.pure _)

/-- A flag stands behind a marker and before the count. -/
theorem readInputCount_taken {before after : Cursor} {flag : UInt8} {count : Nat}
    (ran : readInputCount before = .ok (flag, count) after) :
    after.remaining + (if flag = 0 then 1 else 3) ≤ before.remaining := by
  by_cases unflagged : flag = 0
  · rw [if_pos unflagged]
    exact takes_readInputCount.ok ran
  rw [if_neg unflagged]
  obtain ⟨first, middle, firstRan, ran⟩ := Reader.bind_ok_iff.mp ran
  split at ran
  · have marker := Takes.compactSize.ok firstRan
    have behind := (Takes.u8.bind fun flag => Takes.compactSize.map (Prod.mk flag)).ok ran
    omega
  · cases ran
    exact absurd rfl unflagged

end Transaction

end ClaimLedger
