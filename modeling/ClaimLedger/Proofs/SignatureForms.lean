import ClaimLedger.Claim.Signature
import ClaimLedger.Proofs.Numbers

/-! The two forms of a signature. Numbers in range are read back from the fixed form
and from strict DER, so a signature that verifies as numbers verifies in the form in
which claims carry it and the form in which it is checked. -/
namespace ClaimLedger

open Secp256k1

/-! ## The fixed form -/

theorem groupOrder_lt : groupOrder < 256 ^ 32 := by
  decide

theorem Ecdsa.Signature.ofCompact?_compact {signature : Ecdsa.Signature}
    (first : signature.r < groupOrder) (second : signature.s < groupOrder) :
    ofCompact? signature.compact.toList = some signature := by
  have front : signature.compact.toList.take 32 = beBytes 32 signature.r :=
    List.take_left' (length_beBytes _ _)
  have back : signature.compact.toList.drop 32 = beBytes 32 signature.s :=
    List.drop_left' (length_beBytes _ _)
  have r : beValue (beBytes 32 signature.r) = signature.r :=
    beValue_beBytes (Nat.lt_trans first groupOrder_lt)
  have s : beValue (beBytes 32 signature.s) = signature.s :=
    beValue_beBytes (Nat.lt_trans second groupOrder_lt)
  simp only [ofCompact?, front, back, r, s, signature.compact.length_toList]
  exact if_pos ⟨trivial, first, second⟩

/-- The fixed form of what is read is what it was read from. -/
theorem Ecdsa.Signature.compact_of_ofCompact? {raw : FixedBytes 64}
    {signature : Ecdsa.Signature}
    (read : ofCompact? raw.toList = some signature) :
    signature.compact = raw ∧ signature.r < groupOrder ∧ signature.s < groupOrder := by
  have length := raw.length_toList
  simp only [ofCompact?] at read
  split at read
  · next inRange =>
    cases read
    refine ⟨FixedBytes.ext ?_, inRange.2⟩
    have front : beBytes 32 (beValue (raw.toList.take 32)) = raw.toList.take 32 :=
      beBytes_beValue (by simp [length])
    have back : beBytes 32 (beValue (raw.toList.drop 32)) = raw.toList.drop 32 :=
      beBytes_beValue (by simp [length])
    calc beBytes 32 (beValue (raw.toList.take 32)) ++ beBytes 32 (beValue (raw.toList.drop 32))
        = raw.toList.take 32 ++ raw.toList.drop 32 := by rw [front, back]
      _ = raw.toList := List.take_append_drop 32 raw.toList
  · cases read

/-! ## Strict DER -/

namespace Der

/-- Lengths below 128 are one byte. -/
theorem readLength?_short {length : Nat} (short : length < 0x80) (rest : Bytes) :
    readLength? (UInt8.ofNat length :: rest) = some (length, rest) := by
  have same : (UInt8.ofNat length).toNat = length := by
    rw [UInt8.toNat_ofNat']
    omega
  have low : UInt8.ofNat length < 0x80 := by
    rw [UInt8.lt_iff_toNat_lt, same]
    exact short
  simp only [readLength?, if_pos low, same]

/-- Bytes of an integer as DER wants them: not negative, without a superfluous first
byte, and short. -/
structure Content (bytes : Bytes) : Prop where
  positive : bytes.headD 0 < 0x80
  unpadded : padded bytes = false
  nonempty : 0 < bytes.length
  short : bytes.length ≤ 33

/-- The bytes that are written for an integer are such, and spell it. -/
theorem integerContent_spec {n : Nat} (fits : n < 256 ^ 32) :
    Content (integerContent n) ∧ beValue (integerContent n) = n := by
  have value : beValue ((beBytes 32 n).dropWhile (· == 0)) = n := by
    rw [beValue_dropWhile, beValue_beBytes fits]
  have length : ((beBytes 32 n).dropWhile (· == 0)).length ≤ 32 := by
    have shorter := (List.dropWhile_sublist (· == 0) (l := beBytes 32 n)).length_le
    rwa [length_beBytes] at shorter
  have head : ∀ first rest, (beBytes 32 n).dropWhile (· == 0) = first :: rest → first ≠ 0 := by
    intro first rest significant zero
    have kept := List.head?_dropWhile_not (· == 0) (beBytes 32 n)
    simp [significant, zero] at kept
  unfold integerContent
  cases significant : (beBytes 32 n).dropWhile (· == 0) with
  | nil =>
    rw [significant] at value
    exact ⟨⟨by decide, by decide, by decide, by decide⟩, value⟩
  | cons first rest =>
    rw [significant] at value length
    have nonzero := head first rest significant
    -- A high first byte would spell a negative number, so a zero goes before it.
    by_cases high : 0x80 ≤ first
    · simp only [if_pos high]
      refine ⟨⟨by simp, ?_, by simp, Nat.succ_le_succ length⟩, ?_⟩
      · simpa [padded] using high
      · rw [beValue_cons, value]
        simp
    · simp only [if_neg high]
      refine ⟨⟨by simpa using high, ?_, by simp, Nat.le_succ_of_le length⟩, value⟩
      have small : first ≠ 0xFF := by
        rintro rfl
        exact high (by decide)
      cases rest with
      | nil => rfl
      | cons second rest => simp [padded, nonzero, small]

theorem length_writeInteger {n : Nat} (fits : n < 256 ^ 32) : (writeInteger n).length ≤ 35 := by
  have short := (integerContent_spec fits).1.short
  simp only [writeInteger, List.length_cons]
  omega

/-- An integer below the group order is read back, whatever follows it. -/
theorem readInteger?_writeInteger {n : Nat} (inRange : n < groupOrder) (rest : Bytes) :
    readInteger? (writeInteger n ++ rest) = some (n, rest) := by
  obtain ⟨content, value⟩ := integerContent_spec (Nat.lt_trans inRange groupOrder_lt)
  have length : readLength? (UInt8.ofNat (integerContent n).length :: (integerContent n ++ rest)) =
      some ((integerContent n).length, integerContent n ++ rest) :=
    readLength?_short (Nat.lt_of_le_of_lt content.short (by decide)) _
  have scalar : scalarOfContent (integerContent n) = n := by
    have positive : ¬ 0x80 ≤ (integerContent n).headD 0 := by
      simpa using content.positive
    simp only [scalarOfContent, value]
    exact if_neg (by simp only [positive, false_or]; omega)
  simp only [writeInteger, List.cons_append, readInteger?, length, List.take_left, List.drop_left,
    content.unpadded, scalar]
  simp [Nat.ne_of_gt content.nonempty]

/-- A signature with numbers in range is read back from its strict encoding. -/
theorem readSignature?_writeSignature {signature : Ecdsa.Signature}
    (first : signature.r < groupOrder) (second : signature.s < groupOrder) :
    readSignature? (writeSignature signature) = some signature := by
  have front := length_writeInteger (Nat.lt_trans first groupOrder_lt)
  have back := length_writeInteger (Nat.lt_trans second groupOrder_lt)
  have length : readLength?
      (UInt8.ofNat (writeInteger signature.r ++ writeInteger signature.s).length ::
        (writeInteger signature.r ++ writeInteger signature.s)) =
      some ((writeInteger signature.r ++ writeInteger signature.s).length,
        writeInteger signature.r ++ writeInteger signature.s) :=
    readLength?_short (by rw [List.length_append]; omega) _
  have last := readInteger?_writeInteger second []
  rw [List.append_nil] at last
  simp only [writeSignature, readSignature?, length, readInteger?_writeInteger first, last]
  simp

end Der

/-! ## Signatures that verify -/

/-- Numbers that verify are positive and in range, and the second is the lower of its pair. -/
theorem Ecdsa.range_of_verify {key : Point} {digest : Hash256} {signature : Ecdsa.Signature}
    (verifies : Ecdsa.verify key digest signature = true) :
    0 < signature.r ∧ 0 < signature.s ∧ signature.r < groupOrder ∧
      signature.s ≤ groupOrder / 2 := by
  obtain ⟨r, s⟩ := signature
  by_cases out : r = 0 ∨ s = 0 ∨ groupOrder ≤ r ∨ groupOrder / 2 < s
  · have refused : Ecdsa.verify key digest ⟨r, s⟩ = false := if_pos out
    rw [refused] at verifies
    cases verifies
  · simp only [not_or, Nat.not_le, Nat.not_lt] at out
    exact ⟨Nat.pos_of_ne_zero out.1, Nat.pos_of_ne_zero out.2.1, out.2.2⟩

namespace ClaimSignature

variable {signature : Ecdsa.Signature}

/-- Whatever is in range has a strict encoding. -/
theorem encode_compact (first : signature.r < groupOrder) (second : signature.s < groupOrder) :
    encode signature.compact.toList = .ok (Der.writeSignature signature) := by
  simp only [encode, signature.compact.length_toList,
    Ecdsa.Signature.ofCompact?_compact first second]
  rfl

/-- Nothing else has one. -/
theorem encode_ok {raw : FixedBytes 64} {der : Bytes} (encoded : encode raw.toList = .ok der) :
    ∃ signature : Ecdsa.Signature, signature.compact = raw ∧ signature.r < groupOrder ∧
      signature.s < groupOrder ∧ Der.writeSignature signature = der := by
  simp only [encode, raw.length_toList, ne_eq, not_true_eq_false, if_false] at encoded
  cases read : Ecdsa.Signature.ofCompact? raw.toList with
  | none =>
    rw [read] at encoded
    cases encoded
  | some signature =>
    rw [read] at encoded
    obtain ⟨spells, first, second⟩ := Ecdsa.Signature.compact_of_ofCompact? read
    exact ⟨signature, spells, first, second, Except.ok.inj encoded⟩

/-- What is read back is judged by the lower half of its pair. -/
theorem verify_writeSignature (first : signature.r < groupOrder)
    (second : signature.s < groupOrder) (digest : Hash256) (published : Bytes) :
    verify (Der.writeSignature signature) digest published =
      match decodePublicKey published with
      | .error cause => .error cause
      | .ok key =>
        if Ecdsa.verify key digest signature.normalized then .ok ()
        else .error (.invalidSignature .verification) := by
  unfold verify
  cases decodePublicKey published with
  | error cause => rfl
  | ok key => simp only [Der.readSignature?_writeSignature first second]

theorem verify_writeSignature_ok_iff (first : signature.r < groupOrder)
    (second : signature.s < groupOrder) {digest : Hash256} {published : Bytes} :
    verify (Der.writeSignature signature) digest published = .ok () ↔
      ∃ key, decodePublicKey published = .ok key ∧
        Ecdsa.verify key digest signature.normalized = true := by
  rw [verify_writeSignature first second]
  cases decodePublicKey published with
  | error cause => simp
  | ok key => simp

/-- A signature that verifies under a key as numbers does so in the form in which
claims carry it, under every encoding of the key. -/
theorem verify_compact {key : Point} {digest : Hash256} {published : Bytes}
    (verifies : Ecdsa.verify key digest signature = true)
    (publishes : decodePublicKey published = .ok key) :
    ∃ der, encode signature.compact.toList = .ok der ∧ verify der digest published = .ok () := by
  obtain ⟨-, -, first, low⟩ := Ecdsa.range_of_verify verifies
  have second : signature.s < groupOrder := Nat.lt_of_le_of_lt low (by decide)
  have normal : signature.normalized = signature := if_neg (Nat.not_lt.mpr low)
  exact ⟨_, encode_compact first second,
    (verify_writeSignature_ok_iff first second).mpr ⟨key, publishes, normal.symm ▸ verifies⟩⟩

end ClaimSignature

end ClaimLedger
