import ClaimLedger.Crypto.Secp256k1
import Mathlib.Algebra.BigOperators.Associated
import Mathlib.FieldTheory.Finite.Basic
import Mathlib.Tactic.NormNum.Prime

/-! The prime of the coordinate field. Powers are taken by squaring, so they can be evaluated
for exponents of two hundred and fifty-six bits, and with them the primality of a number is
told from a few primes that divide its predecessor. What follows for the arithmetic of the
curve is that its inverses are inverses. -/
namespace ClaimLedger.Secp256k1

/-! ## Powers by squaring -/

theorem powAux_modEq {modulus fuel exponent : Nat} (fits : exponent < 2 ^ fuel) (base acc : Nat) :
    powAux modulus fuel base exponent acc ≡ acc * base ^ exponent [MOD modulus] := by
  induction fuel generalizing base exponent acc with
  | zero =>
    obtain rfl : exponent = 0 := by omega
    simp [powAux, Nat.ModEq.refl]
  | succ fuel ih =>
    have half : exponent / 2 < 2 ^ fuel := by
      rw [Nat.pow_succ] at fits
      omega
    have first : (if exponent % 2 = 1 then acc * base % modulus else acc) ≡
        acc * base ^ (exponent % 2) [MOD modulus] := by
      split
      · next odd =>
        rw [odd, pow_one]
        exact Nat.mod_modEq _ _
      · next even =>
        rw [Nat.mod_two_ne_one.mp even, pow_zero, Nat.mul_one]
    have square : (base * base % modulus) ^ (exponent / 2) ≡
        base ^ (2 * (exponent / 2)) [MOD modulus] := by
      rw [pow_mul, sq]
      exact (Nat.mod_modEq _ _).pow _
    have split : acc * base ^ exponent =
        acc * base ^ (exponent % 2) * base ^ (2 * (exponent / 2)) := by
      rw [Nat.mul_assoc, ← pow_add, Nat.mod_add_div]
    rw [powAux, split]
    exact (ih half _ _).trans (first.mul square)

theorem powAux_lt {modulus fuel base exponent acc : Nat} (reduced : acc < modulus) :
    powAux modulus fuel base exponent acc < modulus := by
  induction fuel generalizing base exponent acc with
  | zero => exact reduced
  | succ fuel ih =>
    refine ih ?_
    split
    · exact Nat.mod_lt _ (Nat.zero_lt_of_lt reduced)
    · exact reduced

theorem powMod_modEq {modulus exponent : Nat} (fits : exponent < 2 ^ 256) (base : Nat) :
    powMod modulus base exponent ≡ base ^ exponent [MOD modulus] := by
  have reached : powMod modulus base exponent ≡ 1 * (base % modulus) ^ exponent [MOD modulus] :=
    powAux_modEq fits _ _
  rw [Nat.one_mul] at reached
  exact reached.trans ((Nat.mod_modEq _ _).pow _)

/-- Modulo every factor of the modulus the power is that of the base. -/
theorem cast_powMod {modulus factor exponent : Nat} (divides : factor ∣ modulus)
    (fits : exponent < 2 ^ 256) (base : Nat) :
    ((powMod modulus base exponent : Nat) : ZMod factor) = (base : ZMod factor) ^ exponent := by
  rw [← Nat.cast_pow, ZMod.natCast_eq_natCast_iff]
  exact (powMod_modEq fits base).of_dvd divides

theorem powMod_lt {modulus : Nat} (large : 1 < modulus) (base exponent : Nat) :
    powMod modulus base exponent < modulus :=
  powAux_lt large

/-! ## Primality -/

/-- What the powers of a base tell about primes that divide the predecessor of a number. The
power by the whole predecessor is one; that by the predecessor without one of the primes
differs from one modulo every factor of the number. -/
structure Certifies (modulus base : Nat) (primes : Finset Nat) : Prop where
  divide : ∀ q ∈ primes, q ∣ modulus - 1
  whole : powMod modulus base (modulus - 1) = 1
  without : ∀ q ∈ primes,
    (powMod modulus base ((modulus - 1) / q) + (modulus - 1)).Coprime modulus

/-- Each of the primes divides the predecessor of every prime factor as well: it is the order
of a power of the base there. -/
theorem Certifies.dvd_pred {modulus base r q : Nat} {primes : Finset Nat}
    (certifies : Certifies modulus base primes) (positive : 0 < modulus)
    (fits : modulus ≤ 2 ^ 256) (member : q ∈ primes) (prime : q.Prime) (factor : r.Prime)
    (divides : r ∣ modulus) : q ∣ r - 1 := by
  have : Fact r.Prime := ⟨factor⟩
  have : Fact q.Prime := ⟨prime⟩
  have below : modulus - 1 < 2 ^ 256 := by omega
  have whole : (base : ZMod r) ^ (modulus - 1) = 1 := by
    rw [← cast_powMod divides below, certifies.whole, Nat.cast_one]
  have nonzero : (base : ZMod r) ≠ 0 := by
    intro zero
    have empty : modulus - 1 = 0 := by
      by_contra some
      rw [zero, zero_pow some] at whole
      exact zero_ne_one whole
    exact factor.one_lt.not_ge (Nat.le_trans (Nat.le_of_dvd positive divides) (by omega))
  have power : ((base : ZMod r) ^ ((modulus - 1) / q)) ^ q = 1 := by
    rw [← pow_mul, Nat.div_mul_cancel (certifies.divide q member), whole]
  have proper : (base : ZMod r) ^ ((modulus - 1) / q) ≠ 1 := by
    intro one
    have smaller : (modulus - 1) / q < 2 ^ 256 :=
      Nat.lt_of_le_of_lt (Nat.div_le_self _ _) below
    have vanishes : ((powMod modulus base ((modulus - 1) / q) + (modulus - 1) : Nat) : ZMod r) =
        0 := by
      have pred : ((modulus - 1 : Nat) : ZMod r) = -1 := by
        rw [Nat.cast_sub positive, (ZMod.natCast_eq_zero_iff _ _).mpr divides, Nat.cast_one,
          zero_sub]
      rw [Nat.cast_add, cast_powMod divides smaller, one, pred, add_neg_cancel]
    have common := Nat.dvd_gcd ((ZMod.natCast_eq_zero_iff _ _).mp vanishes) divides
    rw [certifies.without q member] at common
    exact factor.one_lt.ne' (Nat.dvd_one.mp common)
  have order : orderOf ((base : ZMod r) ^ ((modulus - 1) / q)) = q :=
    orderOf_eq_prime power proper
  rw [← order]
  exact ZMod.orderOf_dvd_card_sub_one (pow_ne_zero _ nonzero)

/-- Primes whose product is larger than its square root leave a number no proper factor. -/
theorem prime_of_certifies {modulus base : Nat} {primes : Finset Nat}
    (certifies : Certifies modulus base primes) (large : 1 < modulus) (fits : modulus ≤ 2 ^ 256)
    (prime : ∀ q ∈ primes, q.Prime) (enough : modulus < (∏ q ∈ primes, q) ^ 2) :
    modulus.Prime := by
  by_contra composite
  have factor : modulus.minFac.Prime := Nat.minFac_prime (Nat.ne_of_gt large)
  have root : modulus.minFac ^ 2 ≤ modulus :=
    Nat.minFac_sq_le_self (Nat.zero_lt_of_lt large) composite
  have product : ∏ q ∈ primes, q ∣ modulus.minFac - 1 :=
    Finset.prod_primes_dvd _ (fun q member => (prime q member).prime) fun q member =>
      certifies.dvd_pred (Nat.zero_lt_of_lt large) fits member (prime q member) factor
        (Nat.minFac_dvd modulus)
  have below : ∏ q ∈ primes, q ≤ modulus.minFac :=
    Nat.le_trans (Nat.le_of_dvd (Nat.sub_pos_of_lt factor.one_lt) product) (Nat.sub_le _ _)
  exact absurd (Nat.lt_of_lt_of_le enough (Nat.pow_le_pow_left below 2)) (Nat.not_lt.mpr root)

/-- The modulus of the coordinates is a prime. A large prime divides its predecessor, another
one the predecessor of that, and of the small primes that divide the predecessor of the last
three are enough. -/
theorem prime_fieldPrime : fieldPrime.Prime := by
  have first : Nat.Prime 255515944373312847190720520512484175977 := by
    have small : ∀ q ∈ ({96557, 7240687, 107590001} : Finset Nat), q.Prime := by
      simp only [Finset.mem_insert, Finset.mem_singleton, forall_eq_or_imp, forall_eq]
      norm_num
    have certifies : Certifies 255515944373312847190720520512484175977 3
        {96557, 7240687, 107590001} := ⟨by decide, by decide +kernel, by decide +kernel⟩
    exact prime_of_certifies certifies (by decide) (by decide) small (by decide +kernel)
  have second : Nat.Prime
      205115282021455665897114700593932402728804164701536103180137503955397371 := by
    have certifies : Certifies
        205115282021455665897114700593932402728804164701536103180137503955397371 10
        {255515944373312847190720520512484175977} :=
      ⟨by decide, by decide +kernel, by decide +kernel⟩
    exact prime_of_certifies certifies (by decide) (by decide) (by simpa using first)
      (by decide +kernel)
  have certifies : Certifies fieldPrime 3
      {205115282021455665897114700593932402728804164701536103180137503955397371} :=
    ⟨by decide, by decide +kernel, by decide +kernel⟩
  exact prime_of_certifies certifies (by decide) (by decide) (by simpa using second)
    (by decide +kernel)

instance : Fact fieldPrime.Prime := ⟨prime_fieldPrime⟩

/-- Zero has no inverse, all other numbers below the prime have theirs. -/
theorem mul_inverseMod {n : Nat} (positive : 0 < n) (reduced : n < fieldPrime) :
    (n : ZMod fieldPrime) * (inverseMod fieldPrime n : Nat) = 1 := by
  have nonzero : (n : ZMod fieldPrime) ≠ 0 := by
    rw [Ne, ZMod.natCast_eq_zero_iff]
    exact Nat.not_dvd_of_pos_of_lt positive reduced
  have power : ((inverseMod fieldPrime n : Nat) : ZMod fieldPrime) =
      (n : ZMod fieldPrime) ^ (fieldPrime - 2) :=
    cast_powMod (Nat.dvd_refl _) (by decide) n
  have fermat : (n : ZMod fieldPrime) ^ (fieldPrime - 1) = 1 :=
    ZMod.pow_card_sub_one_eq_one nonzero
  rw [power, ← pow_succ']
  exact fermat

end ClaimLedger.Secp256k1
