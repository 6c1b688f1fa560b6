import ClaimLedger.Proofs.FieldPrime
import Mathlib.Tactic.LinearCombination

/-! Points of the curve. Doubling and adding in projective coordinates never leave it, and
neither does the way back to plain coordinates, so the public half of every secret key is a
point of the curve. An abscissa and a parity belong to one point at most, and a square root
finds it. -/
namespace ClaimLedger.Secp256k1

theorem mod_le_fieldPrime (n : Nat) : n % fieldPrime ≤ fieldPrime :=
  Nat.le_of_lt (Nat.mod_lt _ prime_fieldPrime.pos)

theorem subMod_le (a b : Nat) : subMod a b ≤ fieldPrime :=
  mod_le_fieldPrime _

/-- Differences of reduced numbers are those of the field. -/
theorem cast_subMod {a b : Nat} (reduced : b ≤ fieldPrime) :
    ((subMod a b : Nat) : ZMod fieldPrime) = a - b := by
  rw [subMod, ZMod.natCast_mod, Nat.cast_add, Nat.cast_sub reduced, ZMod.natCast_self]
  ring

/-! ## Projective coordinates -/

namespace Jacobian

/-- The coordinates satisfy the equation of the curve, as those of infinity do. The last one is
reduced, so it is zero in the field for infinity only. -/
structure OnCurve (a : Jacobian) : Prop where
  reduced : a.z < fieldPrime
  equation : (a.y : ZMod fieldPrime) ^ 2 = a.x ^ 3 + 7 * a.z ^ 6

theorem onCurve_infinity : infinity.OnCurve where
  reduced := prime_fieldPrime.pos
  equation := by simp [infinity]

theorem OnCurve.double {a : Jacobian} (onCurve : a.OnCurve) : a.double.OnCurve := by
  unfold Jacobian.double
  split
  · exact onCurve_infinity
  · refine ⟨Nat.mod_lt _ prime_fieldPrime.pos, ?_⟩
    simp only [cast_subMod, mod_le_fieldPrime, subMod_le, ZMod.natCast_mod, Nat.cast_mul,
      Nat.cast_ofNat]
    linear_combination 64 * (a.y : ZMod fieldPrime) ^ 6 * onCurve.equation

/-- The chord through two points with different abscissas meets the curve once more. Everything
is scaled to one last coordinate, whose sixth power, times seven, is `c`. -/
theorem chord {F : Type} [CommRing F] {ua ub sa sb c : F} (first : sa ^ 2 = ua ^ 3 + c)
    (second : sb ^ 2 = ub ^ 3 + c) :
    let h := ub - ua
    let r := sb - sa
    let x := r ^ 2 - h ^ 3 - 2 * ua * h ^ 2
    (r * (ua * h ^ 2 - x) - sa * h ^ 3) ^ 2 = x ^ 3 + h ^ 6 * c := by
  intro h r x
  linear_combination (h ^ 6 - (r ^ 2 - h ^ 3 - 3 * ua * h ^ 2) * h ^ 3) * first +
    (r ^ 2 - h ^ 3 - 3 * ua * h ^ 2) * h ^ 3 * second

theorem OnCurve.add {a b : Jacobian} (first : a.OnCurve) (second : b.OnCurve) :
    (a.add b).OnCurve := by
  unfold Jacobian.add
  split
  · exact second
  split
  · exact first
  dsimp only
  split
  · split
    · exact first.double
    · exact onCurve_infinity
  · refine ⟨Nat.mod_lt _ prime_fieldPrime.pos, ?_⟩
    -- Both points, scaled to the product of their last coordinates.
    have scaledFirst : ((a.y : ZMod fieldPrime) * b.z ^ 3) ^ 2 =
        (a.x * b.z ^ 2) ^ 3 + 7 * (a.z * b.z) ^ 6 := by
      linear_combination (b.z : ZMod fieldPrime) ^ 6 * first.equation
    have scaledSecond : ((b.y : ZMod fieldPrime) * a.z ^ 3) ^ 2 =
        (b.x * a.z ^ 2) ^ 3 + 7 * (a.z * b.z) ^ 6 := by
      linear_combination (a.z : ZMod fieldPrime) ^ 6 * second.equation
    simp only [cast_subMod, mod_le_fieldPrime, subMod_le, ZMod.natCast_mod, Nat.cast_mul,
      Nat.cast_ofNat]
    linear_combination chord scaledFirst scaledSecond

theorem OnCurve.mulAux {a acc : Jacobian} (onCurve : a.OnCurve) (started : acc.OnCurve)
    (fuel scalar : Nat) : (mulAux fuel a scalar acc).OnCurve := by
  induction fuel generalizing a acc scalar with
  | zero => exact started
  | succ fuel ih =>
    refine ih onCurve.double ?_ _
    split
    · exact started.add onCurve
    · exact started

end Jacobian

/-! ## Plain coordinates -/

namespace Point

theorem onCurve_iff {a : Point} :
    a.OnCurve ↔ a.x < fieldPrime ∧ a.y < fieldPrime ∧
      (a.y : ZMod fieldPrime) ^ 2 = a.x ^ 3 + 7 := by
  have equation : a.y * a.y % fieldPrime = (a.x * a.x * a.x + 7) % fieldPrime ↔
      (a.y : ZMod fieldPrime) ^ 2 = a.x ^ 3 + 7 := by
    rw [← ZMod.natCast_eq_natCast_iff']
    push_cast
    rw [sq, pow_succ, sq]
  rw [OnCurve, equation]

theorem OnCurve.toJacobian {a : Point} (onCurve : a.OnCurve) : a.toJacobian.OnCurve where
  reduced := prime_fieldPrime.one_lt
  equation := by
    obtain ⟨-, -, equation⟩ := onCurve_iff.mp onCurve
    simpa [Point.toJacobian] using equation

/-- The way back from projective coordinates stays on the curve. -/
theorem onCurve_of_ofJacobian? {a : Jacobian} {point : Point} (onCurve : a.OnCurve)
    (found : ofJacobian? a = some point) : point.OnCurve := by
  unfold ofJacobian? at found
  split at found
  · cases found
  · next finite =>
    obtain rfl := Option.some.inj found
    have inverse := mul_inverseMod (Nat.pos_of_ne_zero finite) onCurve.reduced
    refine onCurve_iff.mpr
      ⟨Nat.mod_lt _ prime_fieldPrime.pos, Nat.mod_lt _ prime_fieldPrime.pos, ?_⟩
    simp only [ZMod.natCast_mod, Nat.cast_mul]
    generalize (inverseMod fieldPrime a.z : ZMod fieldPrime) = w at inverse
    have one : ((a.z : ZMod fieldPrime) * w) ^ 6 = 1 := by rw [inverse, one_pow]
    linear_combination w ^ 6 * onCurve.equation + 7 * one

theorem onCurve_generator : generator.OnCurve := by
  decide

end Point

/-- The public half of a key is a point of the curve. -/
theorem SecretKey.onCurve_publicKey (key : SecretKey) : key.publicKey.OnCurve := by
  have multiple : (Jacobian.mul key.value Point.generator.toJacobian).OnCurve :=
    Point.onCurve_generator.toJacobian.mulAux Jacobian.onCurve_infinity _ _
  unfold publicKey
  cases found : Point.ofJacobian? (Jacobian.mul key.value Point.generator.toJacobian) with
  | none => exact Point.onCurve_generator
  | some point => exact Point.onCurve_of_ofJacobian? multiple found

/-! ## Abscissa and parity -/

namespace Point

/-- The root that is taken for an abscissa. -/
def root (x : Nat) : Nat :=
  powMod fieldPrime ((x * x * x + 7) % fieldPrime) ((fieldPrime + 1) / 4)

theorem root_lt (x : Nat) : root x < fieldPrime :=
  powMod_lt prime_fieldPrime.one_lt _ _

/-- A root or its negative, whichever has the parity. -/
def ordinate (root : Nat) (odd : Bool) : Nat :=
  if (root % 2 == 1) == odd then root else fieldPrime - root

theorem lift?_eq (x : Nat) (odd : Bool) :
    lift? x odd = if OnCurve ⟨x, ordinate (root x) odd⟩ then some ⟨x, ordinate (root x) odd⟩
      else none := rfl

theorem fieldPrime_odd : fieldPrime % 2 = 1 := by
  decide

/-- Of a number below an odd one, the difference has the other parity. -/
theorem parity_ordinate {root : Nat} (below : root < fieldPrime) (odd : Bool) :
    (ordinate root odd % 2 == 1) = odd := by
  unfold ordinate
  split
  · next agrees => exact eq_of_beq agrees
  · next differs =>
    have parity : (fieldPrime - root) % 2 = 1 - root % 2 := by
      have := fieldPrime_odd
      omega
    rcases Nat.mod_two_eq_zero_or_one root with zero | one
    · cases odd with
      | false => simp [zero] at differs
      | true => simp [parity, zero]
    · cases odd with
      | false => simp [parity, one]
      | true => simp [one] at differs

/-- The one of them with the parity of an ordinate is that ordinate. -/
theorem ordinate_eq {root y : Nat} (either : root = y ∨ root + y = fieldPrime) :
    ordinate root (y % 2 == 1) = y := by
  have odd_prime := fieldPrime_odd
  unfold ordinate
  rcases either with rfl | sum
  · rw [if_pos (beq_self_eq_true _)]
  · have other : ¬ ((root % 2 == 1) == (y % 2 == 1)) = true := by
      intro same
      have agree : root % 2 = 1 ↔ y % 2 = 1 := by
        simpa using Bool.eq_iff_iff.mp (eq_of_beq same)
      omega
    rw [if_neg other]
    omega

/-- The root that is taken is the ordinate or its negative: it is a power of the square of the
ordinate whose own square is that of the ordinate again. -/
theorem root_of_onCurve {point : Point} (onCurve : point.OnCurve) :
    root point.x = point.y ∨ root point.x + point.y = fieldPrime := by
  obtain ⟨-, reduced, equation⟩ := onCurve_iff.mp onCurve
  have below := root_lt point.x
  have taken : (root point.x : ZMod fieldPrime) =
      (point.y : ZMod fieldPrime) ^ (2 * ((fieldPrime + 1) / 4)) := by
    rw [root, cast_powMod (Nat.dvd_refl _) (by decide), pow_mul, equation, ZMod.natCast_mod]
    push_cast
    rw [pow_succ, sq]
  have square : (root point.x : ZMod fieldPrime) ^ 2 = (point.y : ZMod fieldPrime) ^ 2 := by
    have exponent : 2 * ((fieldPrime + 1) / 4) * 2 = fieldPrime + 1 := by decide
    rw [taken, ← pow_mul, exponent, pow_succ, ZMod.pow_card, sq]
  rcases sq_eq_sq_iff_eq_or_eq_neg.mp square with same | opposite
  · left
    rwa [ZMod.natCast_eq_natCast_iff', Nat.mod_eq_of_lt below, Nat.mod_eq_of_lt reduced] at same
  · have vanishes : ((root point.x + point.y : Nat) : ZMod fieldPrime) = 0 := by
      rw [Nat.cast_add, opposite, neg_add_cancel]
    obtain ⟨count, sum⟩ := (ZMod.natCast_eq_zero_iff _ _).mp vanishes
    have few : count < 2 := by
      by_contra many
      have double := Nat.mul_le_mul_left fieldPrime (Nat.not_lt.mp many)
      omega
    interval_cases count
    · left
      omega
    · right
      omega

/-- An abscissa and a parity are those of the point that is found for them, if there is one. -/
theorem lift?_eq_some_iff {x : Nat} {odd : Bool} {point : Point} :
    lift? x odd = some point ↔ point.OnCurve ∧ point.x = x ∧ (point.y % 2 == 1) = odd := by
  rw [lift?_eq]
  constructor
  · intro found
    have parity := parity_ordinate (root_lt x) odd
    generalize ordinate (root x) odd = y at found parity
    split at found
    · next onCurve =>
      obtain rfl := Option.some.inj found
      exact ⟨onCurve, rfl, parity⟩
    · cases found
  · rintro ⟨onCurve, rfl, rfl⟩
    rw [ordinate_eq (root_of_onCurve onCurve), if_pos onCurve]

end Point

end ClaimLedger.Secp256k1
