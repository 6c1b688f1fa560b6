import ClaimLedger.Proofs.Sums

/-! The effective input sum. What an input holds beyond the fee for spending it can be negative,
so the running total goes up and down, and it has to fit a signed word after every input. Unlike
the sums that move in one direction, this one is refused in some orders and not in others. -/
namespace ClaimLedger

namespace Input

/-- What an input holds beyond the fee for spending it. -/
def effective (input : Input) (ledger : Ledger) : Int :=
  (match input.spends.output with
    | some output => (output.amount.toNat : Int)
    | none => 0) - input.fee ledger

/-- An input whose amount is known and which can be weighed against its fee in signed words. -/
structure Weighable (input : Input) (ledger : Ledger) : Prop where
  resolved : input.isResolved = true
  amount : ∀ output, input.spends.output = some output → output.amount.toNat ≤ maxAmount
  fee : input.fee ledger ≤ maxAmount

theorem weighable_detached_iff {input : Input} {ledger : Ledger} :
    input.detached.Weighable ledger ↔ input.Weighable ledger :=
  ⟨fun ⟨resolved, amount, fee⟩ => ⟨resolved, amount, fee⟩,
    fun ⟨resolved, amount, fee⟩ => ⟨resolved, amount, fee⟩⟩

/-- The difference of two amounts needs no check of its own. -/
theorem Weighable.effective {input : Input} {ledger : Ledger} (weighable : input.Weighable ledger) :
    InSigned64 (input.effective ledger) := by
  obtain ⟨resolved, amount, fee⟩ := weighable
  obtain ⟨output, spent⟩ := Option.isSome_iff_exists.mp resolved
  have small := amount output spent
  simp only [Input.effective, spent]
  unfold InSigned64
  unfold maxAmount at small fee
  omega

end Input

/-- No running total of the terms, from a start on, leaves the signed word. -/
def StaysSigned (start : Int) (terms : List Int) : Prop :=
  ∀ front, front <+: terms → InSigned64 (start + front.sum)

/-- What the positive terms add up to. -/
def gains (terms : List Int) : Int := (terms.map (max · 0)).sum

/-- What the negative terms add up to. -/
def losses (terms : List Int) : Int := (terms.map (min · 0)).sum

section StaysSigned

variable {start : Int} {terms : List Int}

theorem staysSigned_nil : StaysSigned start [] ↔ InSigned64 start := by
  simp [StaysSigned]

theorem staysSigned_cons {term : Int} :
    StaysSigned start (term :: terms) ↔ InSigned64 start ∧ StaysSigned (start + term) terms := by
  have first (front : List Int) : start + term + front.sum = start + (term :: front).sum := by
    rw [List.sum_cons, Int.add_assoc]
  simp only [StaysSigned, first]
  constructor
  · intro stays
    exact ⟨by simpa using stays [] List.nil_prefix, fun front before =>
      stays (term :: front) (List.prefix_cons_iff.mpr (.inr ⟨front, rfl, before⟩))⟩
  · rintro ⟨fits, stays⟩ front before
    obtain rfl | ⟨behind, rfl, within⟩ := List.prefix_cons_iff.mp before
    · simpa using fits
    · exact stays behind within

theorem StaysSigned.total (stays : StaysSigned start terms) : InSigned64 (start + terms.sum) :=
  stays terms List.prefix_rfl

/-! ## Some order -/

/-- A running total that fits can go on towards a last one that fits: by a term against its sign
where there is one, and otherwise by any, since all of them move it the same way. -/
theorem exists_next (fits : InSigned64 start) (total : InSigned64 (start + terms.sum))
    (each : ∀ term ∈ terms, InSigned64 term) (more : terms ≠ []) :
    ∃ term ∈ terms, InSigned64 (start + term) := by
  by_cases back : ∃ term ∈ terms, (term < 0 ↔ 0 ≤ start)
  · obtain ⟨term, member, turn⟩ := back
    have small := each term member
    refine ⟨term, member, ?_⟩
    unfold InSigned64 at *
    omega
  · obtain ⟨term, rest, rfl⟩ := List.exists_cons_of_ne_nil more
    simp only [List.mem_cons, not_exists, not_and, forall_eq_or_imp] at back
    obtain ⟨first, others⟩ := back
    refine ⟨term, List.mem_cons_self, ?_⟩
    rw [List.sum_cons] at total
    rcases Int.lt_or_le start 0 with below | above
    · have falling : rest.sum ≤ rest.length • 0 := List.sum_le_card_nsmul rest 0
        fun other member => by
          have := others other member
          omega
      rw [nsmul_zero] at falling
      unfold InSigned64 at *
      omega
    · have rising : 0 ≤ rest.sum := List.sum_nonneg fun other member => by
        have := others other member
        omega
      unfold InSigned64 at *
      omega

variable {α : Type} (worth : α → Int)

/-- Items whose worth fits, in total and each alone, can be put into an order in which every
running total fits. -/
theorem exists_perm_staysSigned (items : List α)
    (each : ∀ item ∈ items, InSigned64 (worth item)) (fits : InSigned64 start)
    (total : InSigned64 (start + (items.map worth).sum)) :
    ∃ order : List α, order.Perm items ∧ StaysSigned start (order.map worth) := by
  -- One item is taken out at a time, so the induction is on how many are left.
  induction count : items.length generalizing items start with
  | zero =>
    obtain rfl := List.length_eq_zero_iff.mp count
    exact ⟨[], .nil, staysSigned_nil.mpr fits⟩
  | succ left ih =>
    have terms : ∀ term ∈ items.map worth, InSigned64 term := List.forall_mem_map.mpr each
    have more : items.map worth ≠ [] := by
      intro none
      simp [List.map_eq_nil_iff.mp none] at count
    obtain ⟨term, chosen, inside⟩ := exists_next fits total terms more
    obtain ⟨item, member, rfl⟩ := List.mem_map.mp chosen
    obtain ⟨front, back, rfl⟩ := List.append_of_mem member
    have taken : (front ++ item :: back).Perm (item :: (front ++ back)) := List.perm_middle
    have rest : InSigned64 (start + worth item + ((front ++ back).map worth).sum) := by
      rwa [(taken.map worth).sum_eq, List.map_cons, List.sum_cons, ← Int.add_assoc] at total
    have others : ∀ other ∈ front ++ back, InSigned64 (worth other) := fun other among =>
      each other (taken.mem_iff.mpr (List.mem_cons_of_mem _ among))
    have fewer : (front ++ back).length = left :=
      Nat.succ_inj.mp (taken.length_eq.symm.trans count)
    obtain ⟨order, same, stays⟩ := ih (front ++ back) others inside rest fewer
    exact ⟨item :: order, (same.cons item).trans taken.symm, staysSigned_cons.mpr ⟨fits, stays⟩⟩

/-! ## Every order -/

@[simp] theorem gains_cons (term : Int) : gains (term :: terms) = max term 0 + gains terms :=
  List.sum_cons

@[simp] theorem losses_cons (term : Int) : losses (term :: terms) = min term 0 + losses terms :=
  List.sum_cons

/-- Some of the terms add up to no more than the positive ones and no less than the negative. -/
theorem losses_le_sum_le_gains {some : List Int} (part : some.Sublist terms) :
    losses terms ≤ some.sum ∧ some.sum ≤ gains terms := by
  induction part with
  | slnil => exact ⟨Int.le_refl 0, Int.le_refl 0⟩
  | cons term part ih =>
    rw [gains_cons, losses_cons]
    omega
  | cons_cons term part ih =>
    rw [gains_cons, losses_cons, List.sum_cons]
    omega

/-- Keeping some items is keeping their part of the worth. -/
theorem sum_filter_eq (part : Int → Int) {keep : α → Bool}
    (kept : ∀ item, part (worth item) = if keep item then worth item else 0) (items : List α) :
    ((items.filter keep).map worth).sum = ((items.map worth).map part).sum := by
  induction items with
  | nil => rfl
  | cons item items ih =>
    rw [List.map_cons, List.map_cons, List.sum_cons, kept, List.filter_cons]
    split
    · rw [List.map_cons, List.sum_cons, ih]
    · rw [ih, Int.zero_add]

theorem gains_perm {others : List Int} (same : others.Perm terms) : gains others = gains terms :=
  (same.map _).sum_eq

theorem losses_perm {others : List Int} (same : others.Perm terms) :
    losses others = losses terms :=
  (same.map _).sum_eq

/-- Nothing leaves the word when neither the gains nor the losses do. -/
theorem staysSigned_of_within (high : InSigned64 (gains terms)) (low : InSigned64 (losses terms)) :
    StaysSigned 0 terms := by
  intro front before
  obtain ⟨above, below⟩ := losses_le_sum_le_gains before.sublist
  unfold InSigned64 at *
  omega

/-- Some order begins with all gains, and some with all losses. -/
theorem within_of_forall_perm {items : List α}
    (stays : ∀ order : List α, order.Perm items → StaysSigned 0 (order.map worth)) :
    InSigned64 (gains (items.map worth)) ∧ InSigned64 (losses (items.map worth)) := by
  have split := List.filter_append_perm (fun item => decide (0 ≤ worth item)) items
  have front (first second : List α) (whole : (first ++ second).Perm items) :
      InSigned64 (first.map worth).sum := by
    have before : first.map worth <+: (first ++ second).map worth :=
      List.map_append ▸ List.prefix_append _ _
    simpa using stays _ whole (first.map worth) before
  have gained (item : α) :
      max (worth item) 0 = if decide (0 ≤ worth item) then worth item else 0 := by
    simp only [decide_eq_true_eq]
    split <;> omega
  have lost (item : α) :
      min (worth item) 0 = if !decide (0 ≤ worth item) then worth item else 0 := by
    simp only [Bool.not_eq_true', decide_eq_false_iff_not]
    split <;> omega
  have high := front _ _ split
  have low := front _ _ (List.perm_append_comm.trans split)
  rw [sum_filter_eq worth (max · 0) gained] at high
  rw [sum_filter_eq worth (min · 0) lost] at low
  exact ⟨high, low⟩

end StaysSigned

namespace Transaction

variable {tx other : Transaction} {ledger : Ledger} {sum : Int}

/-! ## What is accepted -/

theorem addEffective_cons_ok_iff {input : Input} {inputs : List Input} {v : Int} :
    addEffective ledger sum (input :: inputs) = .ok v ↔
      input.Weighable ledger ∧ InSigned64 (sum + input.effective ledger) ∧
        addEffective ledger (sum + input.effective ledger) inputs = .ok v := by
  rw [addEffective]
  cases spent : input.spends.output with
  | none =>
    have unresolved : ¬input.Weighable ledger := fun weighable => by
      simpa [Input.isResolved, spent] using weighable.resolved
    simp [Input.amount, spent, unresolved, Bind.bind, Except.bind]
  | some output =>
    have weighable : input.Weighable ledger ↔
        output.amount.toNat ≤ maxAmount ∧ input.fee ledger ≤ maxAmount := by
      constructor
      · exact fun weighable => ⟨weighable.amount output spent, weighable.fee⟩
      · rintro ⟨small, fee⟩
        refine ⟨by simp [Input.isResolved, spent], ?_, fee⟩
        rintro _ same
        obtain rfl := Option.some.inj (spent.symm.trans same)
        exact small
    have effective : input.effective ledger = output.amount.toNat - input.fee ledger := by
      simp only [Input.effective, spent]
    simp only [Input.amount, spent, Error.bind_ok_iff, Except.ok.injEq, exists_eq_left',
      signed_ok_iff, inSigned64_natCast_iff]
    constructor
    · rintro ⟨_, ⟨small, rfl⟩, _, ⟨fee, rfl⟩, _, ⟨-, rfl⟩, _, ⟨inside, rfl⟩, rest⟩
      rw [effective]
      exact ⟨weighable.mpr ⟨small, fee⟩, inside, rest⟩
    · rintro ⟨both, inside, rest⟩
      obtain ⟨small, fee⟩ := weighable.mp both
      have fits := both.effective
      rw [effective] at inside rest fits
      exact ⟨_, ⟨small, rfl⟩, _, ⟨fee, rfl⟩, _, ⟨fits, rfl⟩, _, ⟨inside, rfl⟩, rest⟩

theorem addEffective_ok_iff {inputs : List Input} {v : Int} (fits : InSigned64 sum) :
    addEffective ledger sum inputs = .ok v ↔
      (∀ input ∈ inputs, input.Weighable ledger) ∧
        StaysSigned sum (inputs.map (·.effective ledger)) ∧
        v = sum + (inputs.map (·.effective ledger)).sum := by
  induction inputs generalizing sum with
  | nil =>
    simp [addEffective, staysSigned_nil, fits, eq_comm]
  | cons input inputs ih =>
    rw [addEffective_cons_ok_iff, List.forall_mem_cons, List.map_cons, staysSigned_cons,
      List.sum_cons, ← Int.add_assoc]
    constructor
    · rintro ⟨first, inside, rest⟩
      obtain ⟨others, stays, rfl⟩ := (ih inside).mp rest
      exact ⟨⟨first, others⟩, ⟨fits, stays⟩, rfl⟩
    · rintro ⟨⟨first, others⟩, ⟨-, stays⟩, rfl⟩
      have inside : InSigned64 (sum + input.effective ledger) := by
        simpa using stays [] List.nil_prefix
      exact ⟨first, inside, (ih inside).mpr ⟨others, stays, rfl⟩⟩

/-- The result is not an error other than the overflow of a sum. -/
def OverflowsOnly {α : Type} (result : Except Error α) : Prop :=
  ∀ error, result = .error error → error = .malformed .amountOverflow

theorem OverflowsOnly.bind {α β : Type} {result : Except Error α} {next : α → Except Error β}
    (first : OverflowsOnly result) (rest : ∀ value, OverflowsOnly (next value)) :
    OverflowsOnly (result >>= next) := by
  cases result with
  | error error => rintro _ ⟨⟩; exact first error rfl
  | ok value => exact rest value

theorem overflowsOnly_signed (n : Int) : OverflowsOnly (signed n) := by
  intro error refused
  unfold signed at refused
  split at refused
  · cases refused
  · exact (Except.error.inj refused).symm

theorem overflowsOnly_addEffective {inputs : List Input}
    (resolved : ∀ input ∈ inputs, input.isResolved = true) :
    OverflowsOnly (addEffective ledger sum inputs) := by
  induction inputs generalizing sum with
  | nil => rintro _ ⟨⟩
  | cons input inputs ih =>
    rw [List.forall_mem_cons] at resolved
    obtain ⟨output, spent⟩ := Option.isSome_iff_exists.mp resolved.1
    have known : OverflowsOnly input.amount := by
      rw [Input.amount, spent]
      rintro _ ⟨⟩
    rw [addEffective]
    exact known.bind fun _ => (overflowsOnly_signed _).bind fun _ =>
      (overflowsOnly_signed _).bind fun _ => (overflowsOnly_signed _).bind fun _ =>
        (overflowsOnly_signed _).bind fun _ => ih resolved.2

/-! ## Any order -/

/-- What the inputs hold beyond the fees for spending them, in input order. -/
def effectiveTerms (tx : Transaction) (ledger : Ledger) : List Int :=
  tx.inputs.map (·.effective ledger)

theorem effectiveInputSum_ok_iff {v : Int} :
    tx.effectiveInputSum ledger = .ok v ↔
      (∀ input ∈ tx.inputs, input.Weighable ledger) ∧ StaysSigned 0 (tx.effectiveTerms ledger) ∧
        v = (tx.effectiveTerms ledger).sum := by
  rw [effectiveInputSum, addEffective_ok_iff (by decide), Int.zero_add]
  rfl

namespace Reordered

theorem effectiveTerms (same : tx.Reordered other) :
    (other.effectiveTerms ledger).Perm (tx.effectiveTerms ledger) :=
  same.inputs_map fun _ => rfl

theorem weighable (same : tx.Reordered other) :
    (∀ input ∈ other.inputs, input.Weighable ledger) ↔
      ∀ input ∈ tx.inputs, input.Weighable ledger :=
  same.forall_inputs fun _ => Input.weighable_detached_iff

end Reordered

/-- The inputs put into another order. -/
theorem reordered_inputs {order : List Input} (same : order.Perm tx.inputs) :
    tx.Reordered { tx with inputs := order } :=
  ⟨same.map _, .refl _⟩

/-- The effective input sum is exact where it is accepted, and accepted exactly when every input
can be weighed and every running total fits a signed word. So whether it is accepted depends on the
order of the inputs, its value does not. Some order is accepted exactly when the inputs can be
weighed and the total fits. Every order is accepted exactly when what the inputs gain fits by
itself, and what they lose. Where the inputs are resolved, an order that is not accepted is refused
for an overflow. -/
theorem effectiveInputSum_orders :
    (∀ v, tx.effectiveInputSum ledger = .ok v ↔
      (∀ input ∈ tx.inputs, input.Weighable ledger) ∧ StaysSigned 0 (tx.effectiveTerms ledger) ∧
        v = (tx.effectiveTerms ledger).sum) ∧
    (∀ v, (∃ other, tx.Reordered other ∧ other.effectiveInputSum ledger = .ok v) ↔
      (∀ input ∈ tx.inputs, input.Weighable ledger) ∧ InSigned64 v ∧
        v = (tx.effectiveTerms ledger).sum) ∧
    ((∀ other, tx.Reordered other → ∃ v, other.effectiveInputSum ledger = .ok v) ↔
      (∀ input ∈ tx.inputs, input.Weighable ledger) ∧
        InSigned64 (gains (tx.effectiveTerms ledger)) ∧
        InSigned64 (losses (tx.effectiveTerms ledger))) ∧
    ((∀ input ∈ tx.inputs, input.isResolved = true) → ∀ other, tx.Reordered other →
      other.effectiveInputSum ledger = .ok (tx.effectiveTerms ledger).sum ∨
        other.effectiveInputSum ledger = .error (.malformed .amountOverflow)) := by
  refine ⟨fun v => effectiveInputSum_ok_iff, fun v => ⟨?_, ?_⟩, ⟨fun accepted => ?_, ?_⟩,
    fun resolved other same => ?_⟩
  · rintro ⟨other, same, accepted⟩
    obtain ⟨weighable, stays, rfl⟩ := effectiveInputSum_ok_iff.mp accepted
    have total := stays.total
    rw [Int.zero_add] at total
    exact ⟨same.weighable.mp weighable, total, same.effectiveTerms.sum_eq⟩
  · rintro ⟨weighable, fits, rfl⟩
    obtain ⟨order, same, stays⟩ := exists_perm_staysSigned (·.effective ledger) tx.inputs
      (fun input member => (weighable input member).effective) (by decide : InSigned64 0)
      (by rwa [Int.zero_add])
    have moved := reordered_inputs same
    exact ⟨_, moved, effectiveInputSum_ok_iff.mpr
      ⟨moved.weighable.mpr weighable, stays, moved.effectiveTerms.sum_eq.symm⟩⟩
  · have each (order : List Input) (same : order.Perm tx.inputs) :=
      effectiveInputSum_ok_iff.mp (accepted _ (reordered_inputs same)).choose_spec
    obtain ⟨weighable, -, -⟩ := each tx.inputs (.refl _)
    exact ⟨weighable, within_of_forall_perm _ fun order same => (each order same).2.1⟩
  · rintro ⟨weighable, high, low⟩ other same
    refine ⟨_, effectiveInputSum_ok_iff.mpr ⟨same.weighable.mpr weighable, ?_, rfl⟩⟩
    rw [← gains_perm same.effectiveTerms] at high
    rw [← losses_perm same.effectiveTerms] at low
    exact staysSigned_of_within high low
  · cases result : other.effectiveInputSum ledger with
    | error error =>
      have cause := overflowsOnly_addEffective (same.resolved.mpr resolved) error result
      exact .inr (congrArg Except.error cause)
    | ok v =>
      obtain ⟨-, -, rfl⟩ := effectiveInputSum_ok_iff.mp result
      exact .inl (congrArg Except.ok same.effectiveTerms.sum_eq)

/-- Inputs that spend outputs of ours. -/
def purses (amounts : List UInt64) : Transaction :=
  ofFields 1 0 (amounts.map fun amount => spending (purse amount)) [] 0 []

/-- The two small inputs in front of each other. -/
theorem reordered_purses :
    (purses [0x7FFFFFFFFFFFFFFF, 6150, 0]).Reordered (purses [0x7FFFFFFFFFFFFFFF, 0, 6150]) :=
  ⟨.cons _ (.swap _ _ _), .refl _⟩

/-- Once the last input, worth less than its fee, is paid, there is room for the other. -/
theorem effectiveInputSum_purses :
    (purses [0x7FFFFFFFFFFFFFFF, 0, 6150]).effectiveInputSum .mainNetwork =
      .ok 0x7FFFFFFFFFFFFFFF := by decide

theorem effectiveInputSum_orders_purses :
    0x7FFFFFFFFFFFFFFF =
        ((purses [0x7FFFFFFFFFFFFFFF, 6150, 0]).effectiveTerms .mainNetwork).sum ∧
      (¬∀ other, (purses [0x7FFFFFFFFFFFFFFF, 6150, 0]).Reordered other →
        ∃ v, other.effectiveInputSum .mainNetwork = .ok v) ∧
      ((purses [0x7FFFFFFFFFFFFFFF, 0, 6150]).effectiveInputSum .mainNetwork =
          .ok 0x7FFFFFFFFFFFFFFF ∨
        (purses [0x7FFFFFFFFFFFFFFF, 0, 6150]).effectiveInputSum .mainNetwork =
          .error (.malformed .amountOverflow)) := by
  obtain ⟨-, some, every, refused⟩ :=
    @effectiveInputSum_orders (purses [0x7FFFFFFFFFFFFFFF, 6150, 0]) .mainNetwork
  obtain ⟨-, -, total⟩ := (some _).mp ⟨_, reordered_purses, effectiveInputSum_purses⟩
  have notAll := every.not.mpr fun ⟨_, high, _⟩ => absurd high (by decide)
  exact ⟨total, notAll, refused (by decide) _ reordered_purses⟩

/-- Three inputs whose amounts, fees and total fit. Right behind the large input there is no room
for what the second holds beyond its fee. -/
theorem effectiveInputSum_depends_on_order :
    (∀ input ∈ (purses [0x7FFFFFFFFFFFFFFF, 6150, 0]).inputs, input.Weighable .mainNetwork) ∧
      (purses [0x7FFFFFFFFFFFFFFF, 6150, 0]).Reordered (purses [0x7FFFFFFFFFFFFFFF, 0, 6150]) ∧
      (purses [0x7FFFFFFFFFFFFFFF, 6150, 0]).effectiveInputSum .mainNetwork =
        .error (.malformed .amountOverflow) ∧
      (purses [0x7FFFFFFFFFFFFFFF, 0, 6150]).effectiveInputSum .mainNetwork =
        .ok 0x7FFFFFFFFFFFFFFF := by
  obtain ⟨weighable, -, -⟩ := effectiveInputSum_ok_iff.mp effectiveInputSum_purses
  exact ⟨reordered_purses.weighable.mp weighable, reordered_purses, by decide,
    effectiveInputSum_purses⟩

end Transaction

end ClaimLedger
