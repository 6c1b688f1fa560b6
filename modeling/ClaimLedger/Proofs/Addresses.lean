import ClaimLedger.Output.Signing
import ClaimLedger.Proofs.Numbers
import Mathlib.Data.Nat.Digits.Lemmas

/-! Addresses. Base 58 text gives back every byte string that it was made from, with its
leading zeros, so whoever decodes an address has the mark, the hash and the guard that it
spells, twenty-five bytes in all. -/
namespace ClaimLedger

/-- The number of some bytes has them as its digits. -/
theorem leValue_eq_ofDigits (bytes : Bytes) :
    leValue bytes = Nat.ofDigits 256 (bytes.map UInt8.toNat) := by
  induction bytes with
  | nil => rfl
  | cons byte rest ih => rw [leValue, ih, List.map_cons, Nat.ofDigits_cons]

theorem beValue_lt (bytes : Bytes) : beValue bytes < 256 ^ bytes.length := by
  have bound := leValue_lt bytes.reverse
  rwa [List.length_reverse] at bound

namespace Base58

/-! ## Numbers with digits and bytes -/

theorem digitValues_eq {fuel n : Nat} (fits : n < 58 ^ fuel) (lower : List Nat) :
    digitValues fuel n lower = (Nat.digits 58 n).reverse ++ lower := by
  induction fuel generalizing n lower with
  | zero =>
    obtain rfl : n = 0 := by omega
    simp [digitValues]
  | succ fuel ih =>
    unfold digitValues
    split
    · next zero => simp [zero]
    · next positive =>
      have quotient : n / 58 < 58 ^ fuel := by
        rw [Nat.pow_succ] at fits
        omega
      rw [ih quotient, Nat.digits_def' (by decide) (Nat.pos_of_ne_zero positive),
        List.reverse_cons, List.append_assoc]
      rfl

theorem byteValues_eq {fuel n : Nat} (fits : n < 256 ^ fuel) (lower : Bytes) :
    byteValues fuel n lower = ((Nat.digits 256 n).map UInt8.ofNat).reverse ++ lower := by
  induction fuel generalizing n lower with
  | zero =>
    obtain rfl : n = 0 := by omega
    simp [byteValues]
  | succ fuel ih =>
    unfold byteValues
    split
    · next zero => simp [zero]
    · next positive =>
      have quotient : n / 256 < 256 ^ fuel := by
        rw [Nat.pow_succ] at fits
        omega
      have low : UInt8.ofNat (n % 256) = UInt8.ofNat n := by
        apply UInt8.toNat_inj.mp
        simp
      rw [ih quotient, Nat.digits_def' (by decide) (Nat.pos_of_ne_zero positive), List.map_cons,
        List.reverse_cons, List.append_assoc, low]
      rfl

/-- What stands in front of the first other item is one item many times. -/
theorem takeWhile_eq_replicate {α : Type} [BEq α] [LawfulBEq α] (item : α) (items : List α) :
    items.takeWhile (· == item) = List.replicate (items.takeWhile (· == item)).length item := by
  refine List.eq_replicate_of_mem fun found member => ?_
  have same := List.all_eq_true.mp (List.all_takeWhile (p := (· == item)) (l := items)) found member
  exact eq_of_beq same

/-- A number with some bytes is written with those of them that are not leading zeros. -/
theorem byteValues_beValue {fuel : Nat} {bytes : Bytes} (fits : beValue bytes < 256 ^ fuel) :
    byteValues fuel (beValue bytes) [] = bytes.dropWhile (· == 0) := by
  have spelled : Nat.digits 256 (beValue bytes) =
      (bytes.dropWhile (· == 0)).reverse.map UInt8.toNat := by
    rw [← beValue_dropWhile, beValue, leValue_eq_ofDigits]
    refine Nat.digits_ofDigits 256 (by decide) _ ?_ ?_
    · intro digit member
      obtain ⟨byte, -, rfl⟩ := List.mem_map.mp member
      exact byte.toNat_lt
    · intro nonempty
      have some : bytes.dropWhile (· == 0) ≠ [] := by simpa using nonempty
      have first := List.head_dropWhile_not (· == 0) some
      simp only [List.getLast_map, List.getLast_reverse]
      intro zero
      have byte : (bytes.dropWhile (· == 0)).head some = 0 := UInt8.toNat_inj.mp zero
      simp [byte] at first
  have undone : UInt8.ofNat ∘ UInt8.toNat = id := funext fun _ => UInt8.ofNat_toNat
  rw [byteValues_eq fits, spelled, List.map_map, undone, List.map_id, List.reverse_reverse,
    List.append_nil]

/-! ## There and back -/

/-- The digit of a value. -/
def letter (value : Nat) : Char := alphabet.getD value '1'

theorem digitValue_letter : ∀ value < 58, digitValue? (letter value) = some value := by
  decide +kernel

/-- Only zero is written as the first digit. -/
theorem eq_zero_of_letter : ∀ value < 58, letter value = '1' → value = 0 := by
  decide

/-- A text of digits spells the number with these values, most significant first. -/
theorem foldl_letters {values : List Nat} (small : ∀ value ∈ values, value < 58) (high : Nat) :
    (values.map letter).foldl (fun n digit => 58 * n + (digitValue? digit).getD 0) high =
      values.foldl (fun n value => 58 * n + value) high := by
  rw [List.foldl_map]
  refine List.foldl_ext _ _ _ fun n value member => ?_
  rw [digitValue_letter value (small value member)]
  rfl

theorem foldl_zeros (zeros : Nat) (values : List Nat) :
    (List.replicate zeros 0 ++ values).foldl (fun n value => 58 * n + value) 0 =
      Nat.ofDigits 58 values.reverse := by
  have none : (List.replicate zeros 0).foldl (fun n value => 58 * n + value) 0 = 0 := by
    induction zeros with
    | zero => rfl
    | succ zeros ih => exact ih
  rw [List.foldl_append, none, Nat.ofDigits_eq_foldr, List.foldr_reverse]
  exact List.foldl_ext _ _ _ fun n value _ => Nat.add_comm _ _

/-- Zeros in front of a number are read as zeros, and the number as its bytes. -/
theorem decode_letters {zeros : Nat} {values : List Nat} (small : ∀ value ∈ values, value < 58)
    (first : ∀ value ∈ values.head?, value ≠ 0) :
    decode ((List.replicate zeros 0 ++ values).map letter) =
      .ok (List.replicate zeros 0 ++
        byteValues (zeros + values.length) (Nat.ofDigits 58 values.reverse) []) := by
  have all : ∀ value ∈ List.replicate zeros 0 ++ values, value < 58 := by
    intro value member
    rcases List.mem_append.mp member with zero | member
    · rw [List.eq_of_mem_replicate zero]
      decide
    · exact small value member
  have known : ((List.replicate zeros 0 ++ values).map letter).find?
      (fun digit => (digitValue? digit).isNone) = none := by
    refine List.find?_eq_none.mpr fun digit member => ?_
    obtain ⟨value, listed, rfl⟩ := List.mem_map.mp member
    simp [digitValue_letter value (all value listed)]
  have front : ((List.replicate zeros 0 ++ values).map letter).takeWhile (· == '1') =
      List.replicate zeros '1' := by
    have zero : letter 0 = '1' := rfl
    rw [List.map_append, List.map_replicate, zero,
      List.takeWhile_append_of_pos fun digit member => by
        rw [List.eq_of_mem_replicate member]
        rfl]
    cases values with
    | nil => simp
    | cons value values =>
      have other : letter value ≠ '1' := fun same =>
        first value rfl (eq_zero_of_letter value (small value List.mem_cons_self) same)
      simp [other]
  simp only [decode, known, front, foldl_letters all, foldl_zeros, List.length_map,
    List.length_append, List.length_replicate]

/-- Every byte string comes back from its text. -/
theorem decode_encode (bytes : Bytes) : decode (encode bytes) = .ok bytes := by
  have fits : beValue bytes < 58 ^ (2 * bytes.length) :=
    Nat.lt_of_lt_of_le (beValue_lt bytes) (by
      rw [Nat.pow_mul]
      exact Nat.pow_le_pow_left (by decide) _)
  have written : encode bytes =
      (List.replicate (bytes.takeWhile (· == 0)).length 0 ++
        (Nat.digits 58 (beValue bytes)).reverse).map letter := by
    rw [encode, digitValues_eq fits, List.append_nil, List.map_append, List.map_replicate]
    rfl
  have small : ∀ value ∈ (Nat.digits 58 (beValue bytes)).reverse, value < 58 :=
    fun value member => Nat.digits_lt_base (by decide) (List.mem_reverse.mp member)
  have first : ∀ value ∈ (Nat.digits 58 (beValue bytes)).reverse.head?, value ≠ 0 := by
    intro value member
    rw [List.head?_reverse] at member
    by_cases zero : beValue bytes = 0
    · simp [zero] at member
    · have last := Nat.getLast_digit_ne_zero 58 zero
      rw [List.getLast?_eq_some_getLast (Nat.digits_ne_nil_iff_ne_zero.mpr zero)] at member
      rwa [← Option.some.inj member]
  have enough : beValue bytes <
      256 ^ ((bytes.takeWhile (· == 0)).length + (Nat.digits 58 (beValue bytes)).reverse.length) :=
    calc
      beValue bytes < 58 ^ (Nat.digits 58 (beValue bytes)).length :=
        Nat.lt_base_pow_length_digits (by decide)
      _ ≤ 256 ^ (Nat.digits 58 (beValue bytes)).length := Nat.pow_le_pow_left (by decide) _
      _ ≤ _ := Nat.pow_le_pow_right (by decide) (by rw [List.length_reverse]; omega)
  rw [written, decode_letters small first, List.reverse_reverse, Nat.ofDigits_digits,
    byteValues_beValue enough, ← takeWhile_eq_replicate, List.takeWhile_append_dropWhile]

end Base58

/-! ## Addresses of outputs -/

theorem Ledger.length_addressBytes (mark : UInt8) (hash : Hash160) :
    (addressBytes mark hash).length = 25 := by
  simp [addressBytes, hash.length_toList, FixedBytes.length_toList]

/-- The address of a key gives the bytes that it spells. -/
theorem Output.decodeAddress_keyAddress (ledger : Ledger) (hash : Hash160) :
    decodeAddress (ledger.keyAddress hash) =
      .ok (Ledger.addressBytes ledger.keyAddressMark hash) := by
  simp only [decodeAddress, Ledger.keyAddress, Ledger.address, String.toList_ofList,
    Base58.decode_encode]

end ClaimLedger
