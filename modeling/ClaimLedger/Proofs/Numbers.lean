import ClaimLedger.Codec.Wire
import Mathlib.Algebra.Order.Ring.Nat

/-! Numbers and lengths on the wire: which numbers fit how many bytes, and how
long what spells them is. -/
namespace ClaimLedger

theorem leValue_lt (bytes : Bytes) : leValue bytes < 256 ^ bytes.length := by
  induction bytes with
  | nil => simp [leValue]
  | cons byte rest ih =>
    have small := byte.toNat_lt
    simp only [leValue, List.length_cons, Nat.pow_succ]
    omega

theorem leValue_leBytes (width n : Nat) : leValue (leBytes width n) = n % 256 ^ width := by
  induction width generalizing n with
  | zero => simp [leBytes, leValue, Nat.mod_one]
  | succ width ih =>
    have split : n % 256 ^ (width + 1) = n % 256 + 256 * (n / 256 % 256 ^ width) := by
      rw [Nat.pow_succ, Nat.mul_comm (256 ^ width) 256, Nat.mod_mul]
    simp only [leBytes, leValue, ih, UInt8.toNat_ofNat', split]

/-- Only what fits shows in the bytes. -/
theorem leBytes_mod (width n : Nat) : leBytes width (n % 256 ^ width) = leBytes width n := by
  have spelled := leBytes_leValue (leBytes width n)
  rwa [length_leBytes, leValue_leBytes] at spelled

theorem leValue_append (low high : Bytes) :
    leValue (low ++ high) = leValue low + 256 ^ low.length * leValue high := by
  induction low with
  | nil => simp [leValue]
  | cons byte rest ih =>
    have scaled : 256 ^ (rest.length + 1) * leValue high =
        256 * (256 ^ rest.length * leValue high) := by
      rw [Nat.pow_succ, Nat.mul_comm (256 ^ rest.length) 256, Nat.mul_assoc]
    simp only [List.cons_append, leValue, List.length_cons, ih, scaled]
    omega

/-- A number that fits is spelled by its bytes, most significant first. -/
theorem beValue_beBytes {width n : Nat} (fits : n < 256 ^ width) :
    beValue (beBytes width n) = n := by
  rw [beValue, beBytes, List.reverse_reverse, leValue_leBytes, Nat.mod_eq_of_lt fits]

/-- Bytes are spelled by the number they stand for. -/
theorem beBytes_beValue {bytes : Bytes} {width : Nat} (length : bytes.length = width) :
    beBytes width (beValue bytes) = bytes := by
  have spelled := leBytes_leValue bytes.reverse
  rw [List.length_reverse, length] at spelled
  rw [beBytes, beValue, spelled, List.reverse_reverse]

theorem beValue_cons (byte : UInt8) (rest : Bytes) :
    beValue (byte :: rest) = byte.toNat * 256 ^ rest.length + beValue rest := by
  rw [beValue, beValue, List.reverse_cons, leValue_append, List.length_reverse, Nat.mul_comm,
    Nat.add_comm]
  rfl

/-- Zeros in front do not count. -/
theorem beValue_dropWhile (bytes : Bytes) : beValue (bytes.dropWhile (· == 0)) = beValue bytes := by
  induction bytes with
  | nil => rfl
  | cons byte rest ih =>
    by_cases zero : byte = 0
    · subst byte
      rw [List.dropWhile_cons_of_pos (by simp), ih, beValue_cons]
      simp
    · rw [List.dropWhile_cons_of_neg (by simpa using zero)]

theorem compactSizeLength_pos (n : Nat) : 0 < compactSizeLength n := by
  unfold compactSizeLength
  split
  · decide
  split
  · decide
  split <;> decide

theorem length_lt_lengthPrefixed (bytes : Bytes) :
    bytes.length < (lengthPrefixed bytes).length := by
  have positive := compactSizeLength_pos bytes.length
  rw [length_lengthPrefixed]
  omega

/-! ## Forms of a compact size -/

/-- The forms of a compact size: a small number may be a byte of its own, and every
number may stand behind a marker that says how many bytes it takes, shortest or not. -/
inductive CompactForm (n : Nat) : Bytes → Prop where
  | single (small : n < 0xFD) : CompactForm n [UInt8.ofNat n]
  | marked {marker : UInt8} {width : Nat}
      (announced : (marker, width) ∈ [(0xFD, 2), (0xFE, 4), (0xFF, 8)])
      (fits : n < 256 ^ width) : CompactForm n (marker :: leBytes width n)

theorem CompactForm.lt {n : Nat} {form : Bytes} (spells : CompactForm n form) : n < 2 ^ 64 := by
  cases spells with
  | single small => omega
  | marked announced fits =>
    simp only [List.mem_cons, Prod.mk.injEq, List.not_mem_nil, or_false] at announced
    rcases announced with ⟨-, rfl⟩ | ⟨-, rfl⟩ | ⟨-, rfl⟩ <;> omega

/-- The form that is written is one of them. -/
theorem compactForm_compactSize {n : Nat} (fits : n < 2 ^ 64) : CompactForm n (compactSize n) := by
  unfold compactSize
  split
  · exact .single (by assumption)
  split
  · exact @CompactForm.marked n 0xFD 2 (by simp) (by omega)
  split
  · exact @CompactForm.marked n 0xFE 4 (by simp) (by omega)
  · exact @CompactForm.marked n 0xFF 8 (by simp) (by omega)

/-- No form is shorter than the one that is written, and no other is as short. -/
theorem CompactForm.shortest {n : Nat} {form : Bytes} (spells : CompactForm n form) :
    (compactSize n).length ≤ form.length ∧
      ((compactSize n).length = form.length → compactSize n = form) := by
  cases spells with
  | single small =>
    rw [compactSize, if_pos small]
    exact ⟨Nat.le_refl _, fun _ => rfl⟩
  | marked announced fits =>
    simp only [List.mem_cons, Prod.mk.injEq, List.not_mem_nil, or_false] at announced
    unfold compactSize
    -- Each marker against each form that may be written; a shorter one is not as long.
    rcases announced with ⟨rfl, rfl⟩ | ⟨rfl, rfl⟩ | ⟨rfl, rfl⟩ <;>
      (repeat' split) <;> simp <;> omega

/-! ## The parts are no longer than the whole -/

theorem length_le_flatMap {α : Type} {write : α → Bytes} {items : List α} {item : α}
    (member : item ∈ items) : (write item).length ≤ (items.flatMap write).length := by
  induction items with
  | nil => cases member
  | cons first items ih =>
    rw [List.flatMap_cons, List.length_append]
    rcases List.mem_cons.mp member with rfl | member
    · omega
    · exact Nat.le_trans (ih member) (Nat.le_add_left _ _)

theorem count_le_flatMap {α : Type} {write : α → Bytes} {items : List α}
    (positive : ∀ item ∈ items, 0 < (write item).length) :
    items.length ≤ (items.flatMap write).length := by
  induction items with
  | nil => simp
  | cons first items ih =>
    have one := positive first (by simp)
    have rest := ih fun item member => positive item (by simp [member])
    rw [List.flatMap_cons, List.length_append, List.length_cons]
    omega

end ClaimLedger
