import ClaimLedger.Bytes.Text

/-! Hexadecimal text, there and back. A text is read as some bytes exactly when it is the text that
is written for them, up to the case of its letters; the other characters take part in no digit,
also where one of them takes several bytes. -/
namespace ClaimLedger.Hex

/-- The digits, with letters of either case. -/
def IsDigit (c : Char) : Prop :=
  '0' ≤ c ∧ c ≤ '9' ∨ 'a' ≤ c ∧ c ≤ 'f' ∨ 'A' ≤ c ∧ c ≤ 'F'

instance (c : Char) : Decidable (IsDigit c) :=
  inferInstanceAs (Decidable ('0' ≤ c ∧ c ≤ '9' ∨ 'a' ≤ c ∧ c ≤ 'f' ∨ 'A' ≤ c ∧ c ≤ 'F'))

/-- The byte of a character that takes only one. -/
def byte (c : Char) : UInt8 := UInt8.ofNat c.toNat

/-! ## Digits -/

theorem IsDigit.toNat_lt {c : Char} (isDigit : IsDigit c) : c.toNat < 128 := by
  simp only [IsDigit, Char.le_def, UInt32.le_iff_toNat_le] at isDigit
  have nine : ('9' : Char).val.toNat = 57 := rfl
  have lower : ('f' : Char).val.toNat = 102 := rfl
  have upper : ('F' : Char).val.toNat = 70 := rfl
  change c.val.toNat < 128
  omega

/-- What holds of all small code points holds of all characters that take one byte. -/
theorem forall_single {P : Char → Prop} (all : ∀ n < 128, P (Char.ofNat n)) {c : Char}
    (single : c.toNat < 128) : P c := by
  have holds := all c.toNat single
  rwa [Char.ofNat_toNat] at holds

/-- Of the characters that take one byte, the digits are those that have a value. -/
theorem isSome_digitValue?_iff {c : Char} (single : c.toNat < 128) :
    (digitValue? (byte c)).isSome ↔ IsDigit c :=
  forall_single (P := fun c => (digitValue? (byte c)).isSome ↔ IsDigit c) (by decide +kernel) single

/-- The value of a digit is written as the digit, in lower case. -/
theorem IsDigit.value {c : Char} (isDigit : IsDigit c) :
    ∃ value < 16, digitValue? (byte c) = some value ∧ digit value = c.toLower :=
  forall_single
    (P := fun c => IsDigit c →
      ∃ value < 16, digitValue? (byte c) = some value ∧ digit value = c.toLower)
    (by decide +kernel) isDigit.toNat_lt isDigit

theorem isDigit_digit : ∀ value < 16, IsDigit (digit value) := by decide

theorem toLower_digit : ∀ value < 16, (digit value).toLower = digit value := by decide

theorem digitValue?_digit : ∀ value < 16, digitValue? (byte (digit value)) = some value := by decide

/-! ## Texts and their bytes -/

theorem utf8EncodeChar_single {c : Char} (single : c.toNat < 128) :
    String.utf8EncodeChar c = [byte c] := by
  have low : c.val.toNat ≤ 127 := Nat.le_of_lt_succ single
  rw [String.utf8EncodeChar]
  simp only [if_pos low]
  rfl

/-- Characters that take more than one byte end with one that is no digit. -/
theorem utf8EncodeChar_wide {c : Char} (wide : ¬c.toNat < 128) :
    ∃ last ∈ String.utf8EncodeChar c, digitValue? last = none := by
  have high : ¬c.val.toNat ≤ 127 := fun low => wide (Nat.lt_succ_of_le low)
  -- However many bytes there are, the last one holds the six low bits behind a set top bit.
  have behind : ∀ low < 64, digitValue? (UInt8.ofNat (low + 128)) = none := by decide +kernel
  refine ⟨UInt8.ofNat (c.val.toNat % 64 + 128), ?_, behind _ (Nat.mod_lt _ (by decide))⟩
  simp only [String.utf8EncodeChar, if_neg high]
  split
  · simp
  split <;> simp

theorem toList_toByteArray (text : String) :
    text.toByteArray.data.toList = text.toList.flatMap String.utf8EncodeChar := by
  rw [← String.utf8Encode_toList, List.utf8Encode, List.toList_data_toByteArray]

theorem toList_toLower (text : String) : text.toLower.toList = text.toList.map Char.toLower :=
  String.toList_map

/-- A text consists of digits exactly when each of its bytes has a value. -/
theorem digits_iff {text : String} :
    (∀ c ∈ text.toList, IsDigit c) ↔
      ∀ last ∈ text.toByteArray.data.toList, (digitValue? last).isSome := by
  simp only [toList_toByteArray, List.mem_flatMap, forall_exists_index, and_imp]
  constructor
  · intro digits last c member found
    have isDigit := digits c member
    rw [utf8EncodeChar_single isDigit.toNat_lt, List.mem_singleton] at found
    rw [found]
    exact (isSome_digitValue?_iff isDigit.toNat_lt).mpr isDigit
  · intro valued c member
    by_cases single : c.toNat < 128
    · refine (isSome_digitValue?_iff single).mp (valued _ c member ?_)
      rw [utf8EncodeChar_single single]
      exact List.mem_singleton.mpr rfl
    · obtain ⟨last, found, none⟩ := utf8EncodeChar_wide single
      have some := valued last c member found
      rw [none] at some
      cases some

/-- Digits take one byte each. -/
theorem toList_toByteArray_digits {text : String} (digits : ∀ c ∈ text.toList, IsDigit c) :
    text.toByteArray.data.toList = text.toList.map byte := by
  rw [toList_toByteArray, List.map_eq_flatMap, List.flatMap_def, List.flatMap_def]
  exact congrArg List.flatten (List.map_congr_left fun c member =>
    utf8EncodeChar_single (digits c member).toNat_lt)

/-! ## Pairs of digits -/

theorem length_encodeChars (bytes : Bytes) : (encodeChars bytes).length = 2 * bytes.length := by
  induction bytes with
  | nil => rfl
  | cons value bytes ih =>
    simp only [encodeChars] at ih
    simp only [encodeChars, List.flatMap_cons, List.length_append, ih, List.length_cons,
      List.length_nil]
    omega

/-- Bytes are written with digits that are in lower case already. -/
theorem mem_encodeChars {bytes : Bytes} {c : Char} (member : c ∈ encodeChars bytes) :
    IsDigit c ∧ c.toLower = c := by
  obtain ⟨value, -, written⟩ := List.mem_flatMap.mp member
  have bound := value.toNat_lt
  have halves : ∃ half < 16, c = digit half := by
    simp only [List.mem_cons, List.not_mem_nil, or_false] at written
    rcases written with high | low
    · exact ⟨_, by omega, high⟩
    · exact ⟨_, by omega, low⟩
  obtain ⟨half, small, rfl⟩ := halves
  exact ⟨isDigit_digit half small, toLower_digit half small⟩

/-- Each byte is joined from its two digits. -/
theorem joinPairs_encodeChars (bytes : Bytes) :
    joinPairs ((encodeChars bytes).map byte) = bytes := by
  induction bytes with
  | nil => rfl
  | cons value bytes ih =>
    have bound := value.toNat_lt
    have high := digitValue?_digit (value.toNat / 16) (by omega)
    have low := digitValue?_digit (value.toNat % 16) (by omega)
    have joined : 16 * (value.toNat / 16) + value.toNat % 16 = value.toNat := Nat.div_add_mod _ _
    simp only [encodeChars] at ih
    simp only [encodeChars, List.flatMap_cons, List.cons_append, List.nil_append, List.map_cons,
      joinPairs, high, low, Option.getD_some, joined, UInt8.ofNat_toNat, ih]

/-- What is joined from digits is written with the same digits, in lower case. -/
theorem encodeChars_joinPairs {chars : List Char} (digits : ∀ c ∈ chars, IsDigit c)
    (even : chars.length % 2 = 0) :
    encodeChars (joinPairs (chars.map byte)) = chars.map Char.toLower := by
  match chars with
  | [] => rfl
  | [_] => simp at even
  | high :: low :: rest =>
    obtain ⟨highDigit, lowDigit, digitsRest⟩ :
        IsDigit high ∧ IsDigit low ∧ ∀ c ∈ rest, IsDigit c := by simpa using digits
    obtain ⟨upper, upperSmall, upperRead, upperWritten⟩ := highDigit.value
    obtain ⟨lower, lowerSmall, lowerRead, lowerWritten⟩ := lowDigit.value
    have evenRest : rest.length % 2 = 0 := by
      simp only [List.length_cons] at even
      omega
    have ih := encodeChars_joinPairs digitsRest evenRest
    have joined : (UInt8.ofNat (16 * upper + lower)).toNat = 16 * upper + lower := by
      rw [UInt8.toNat_ofNat']
      omega
    have first : (16 * upper + lower) / 16 = upper := by omega
    have second : (16 * upper + lower) % 16 = lower := by omega
    simp only [encodeChars] at ih
    simp only [encodeChars, List.map_cons, joinPairs, upperRead, lowerRead, Option.getD_some,
      List.flatMap_cons, joined, first, second, upperWritten, lowerWritten, List.cons_append,
      List.nil_append, ih]

/-! ## There and back -/

theorem encodeChars_injective : Function.Injective encodeChars := by
  intro bytes other same
  rw [← joinPairs_encodeChars bytes, same, joinPairs_encodeChars]

/-- A text of digits is read in pairs, unless one digit is left over. -/
theorem decode_digits {text : String} (digits : ∀ c ∈ text.toList, IsDigit c) :
    decode text = if text.length % 2 = 1 then .error .oddLength
      else .ok (joinPairs (text.toList.map byte)) := by
  have valued : text.toByteArray.data.toList.findIdx? (fun last => (digitValue? last).isNone) =
      none := by
    refine List.findIdx?_eq_none_iff.mpr fun last found => ?_
    simpa using digits_iff.mp digits last found
  rw [decode, decodeBytes, valued, toList_toByteArray_digits digits, List.length_map,
    String.length_toList]

/-- A text is read as some bytes exactly when it is how they are written, with letters of either
case. -/
theorem decode_ok_iff {text : String} {bytes : Bytes} :
    decode text = .ok bytes ↔ (∀ c ∈ text.toList, IsDigit c) ∧ text.toLower = encode bytes := by
  constructor
  · intro read
    -- Bytes without a value are looked for before the length is, so none was found.
    have digits : ∀ c ∈ text.toList, IsDigit c := by
      refine digits_iff.mpr fun last found => ?_
      unfold decode decodeBytes at read
      split at read
      · cases read
      split at read
      · cases read
      · next valued => simpa using List.findIdx?_eq_none_iff.mp valued last found
    rw [decode_digits digits] at read
    split at read
    · cases read
    · next even =>
      cases read
      have pairs : text.toList.length % 2 = 0 := by
        rw [String.length_toList]
        omega
      rw [encode, encodeChars_joinPairs digits pairs, ← toList_toLower, String.ofList_toList]
      exact ⟨digits, rfl⟩
  · rintro ⟨digits, lower⟩
    have same : text.toList.map Char.toLower = encodeChars bytes := by
      rw [← toList_toLower, lower, encode, String.toList_ofList]
    have length : text.toList.length = 2 * bytes.length := by
      rw [← length_encodeChars, ← same, List.length_map]
    have even : ¬text.length % 2 = 1 := by
      rw [← String.length_toList]
      omega
    rw [decode_digits digits, if_neg even]
    have joined := encodeChars_joinPairs digits (by omega)
    exact congrArg Except.ok (encodeChars_injective (joined.trans same))

/-- Bytes come back from their text. -/
theorem decode_encode (bytes : Bytes) : decode (encode bytes) = .ok bytes := by
  refine decode_ok_iff.mpr ⟨fun c member => ?_, ?_⟩
  · rw [encode, String.toList_ofList] at member
    exact (mem_encodeChars member).1
  · refine String.toList_injective ?_
    rw [toList_toLower, encode, String.toList_ofList]
    exact (List.map_congr_left fun c member => (mem_encodeChars member).2).trans (List.map_id _)

end ClaimLedger.Hex
