import ClaimLedger.Proofs.Content
import ClaimLedger.Transaction.Amounts
import ClaimLedger.Transaction.Filters
import Mathlib.Algebra.Order.BigOperators.Group.List
import Mathlib.Tactic.Ring

/-! Sums of amounts. Amounts are added or taken away one by one, and every number on the way has
to fit its word. As long as a sum moves in one direction only, no number on the way is further
out than the last one, so the checks refuse nothing that the result alone would not refuse. What
is accepted can then be told from the exact sums, and they do not depend on an order. -/
namespace ClaimLedger

/-- The amounts of outputs, added up. -/
def Output.amountSum (outputs : List Output) : Nat := (outputs.map (·.amount.toNat)).sum

/-- Whether a copy of the output spent is at hand. -/
def Input.isResolved (input : Input) : Bool := input.spends.output.isSome

/-- The outputs of a list that are known to be ours. -/
def Output.mine (outputs : List Output) : List Output := outputs.filter (·.isMine)

/-- Whether it is known if the output is ours. -/
def Output.isSettled (output : Output) : Bool := output.annotations.isMyOutput.isSome

/-- The same inputs and outputs in any order, wherever they stand. -/
structure Transaction.Reordered (tx other : Transaction) : Prop where
  inputs : (other.inputs.map Input.detached).Perm (tx.inputs.map Input.detached)
  outputs : (other.outputs.map Output.detached).Perm (tx.outputs.map Output.detached)

namespace Output

@[simp] theorem amountSum_nil : amountSum [] = 0 := rfl

@[simp] theorem amountSum_cons (output : Output) (outputs : List Output) :
    amountSum (output :: outputs) = output.amount.toNat + amountSum outputs :=
  List.sum_cons

theorem amountSum_perm {outputs others : List Output} (same : others.Perm outputs) :
    amountSum others = amountSum outputs :=
  (same.map _).sum_eq

/-- No amount is more than all together. -/
theorem amount_le_amountSum {output : Output} {outputs : List Output} (member : output ∈ outputs) :
    output.amount.toNat ≤ amountSum outputs :=
  List.le_sum_of_mem (List.mem_map_of_mem member)

theorem isSettled_of_isMine {output : Output} (mine : output.isMine = true) :
    output.isSettled = true := by
  simp only [isMine, beq_iff_eq] at mine
  simp [isSettled, mine]

theorem mine_append (outputs others : List Output) :
    mine (outputs ++ others) = mine outputs ++ mine others :=
  List.filter_append outputs others

/-- Nothing is left out when all is ours. -/
theorem mine_eq_self {outputs : List Output} (ours : ∀ output ∈ outputs, output.isMine = true) :
    mine outputs = outputs :=
  List.filter_eq_self.mpr ours

end Output

namespace Transaction

variable {sum amount : Nat} {balance : Int}

/-! ## Single steps -/

theorem checkedAdd_ok_iff {v : Nat} :
    checkedAdd sum amount = .ok v ↔ sum + amount < 2 ^ 64 ∧ v = sum + amount := by
  unfold checkedAdd
  split
  · simp_all [eq_comm]
  · simp_all

theorem signed_ok_iff {n v : Int} : signed n = .ok v ↔ InSigned64 n ∧ v = n := by
  unfold signed
  split
  · simp_all [eq_comm]
  · simp_all

theorem inSigned64_natCast_iff {n : Nat} : InSigned64 n ↔ n ≤ maxAmount := by
  unfold InSigned64 maxAmount
  omega

/-! ## Sums that only grow -/

/-- Steps that add up to what fits all succeed. -/
theorem foldlM_checkedAdd_ok_iff {amounts : List Nat} {v : Nat} (fits : sum < 2 ^ 64) :
    amounts.foldlM checkedAdd sum = .ok v ↔
      sum + amounts.sum < 2 ^ 64 ∧ v = sum + amounts.sum := by
  induction amounts generalizing sum with
  | nil =>
    constructor
    · rintro ⟨⟩
      exact ⟨fits, rfl⟩
    · rintro ⟨-, rfl⟩
      rfl
  | cons amount amounts ih =>
    rw [List.foldlM_cons, Error.bind_ok_iff, List.sum_cons]
    constructor
    · rintro ⟨_, added, rest⟩
      obtain ⟨small, rfl⟩ := checkedAdd_ok_iff.mp added
      obtain ⟨below, rfl⟩ := (ih small).mp rest
      omega
    · rintro ⟨below, rfl⟩
      have small : sum + amount < 2 ^ 64 := by omega
      exact ⟨_, checkedAdd_ok_iff.mpr ⟨small, rfl⟩, (ih small).mpr (by omega)⟩

theorem checkedSum_ok_iff {amounts : List Nat} {v : Nat} :
    checkedSum amounts = .ok v ↔ amounts.sum < 2 ^ 64 ∧ v = amounts.sum := by
  rw [checkedSum, foldlM_checkedAdd_ok_iff (by decide), Nat.zero_add]

/-- Input amounts are added like others, but all of them are needed. -/
theorem addInputAmounts_ok_iff {inputs : List Input} {v : Nat} :
    addInputAmounts sum inputs = .ok v ↔
      (∀ input ∈ inputs, input.isResolved = true) ∧
        ((inputs.filterMap (·.spends.output)).map (·.amount.toNat)).foldlM checkedAdd sum =
          .ok v := by
  induction inputs generalizing sum with
  | nil => simp [addInputAmounts, pure, Except.pure]
  | cons input inputs ih =>
    rw [addInputAmounts, List.forall_mem_cons]
    cases spent : input.spends.output with
    | none => simp [Input.amount, Input.isResolved, spent, Bind.bind, Except.bind]
    | some output =>
      have resolved : input.isResolved = true := by simp [Input.isResolved, spent]
      have amount : input.amount = .ok output.amount := by simp [Input.amount, spent]
      have first : (input :: inputs).filterMap (·.spends.output) =
          output :: inputs.filterMap (·.spends.output) := List.filterMap_cons_some spent
      rw [first, List.map_cons, List.foldlM_cons, and_iff_right resolved]
      simp only [Error.bind_ok_iff, amount, Except.ok.injEq, exists_eq_left', ih]
      constructor
      · rintro ⟨next, added, rest, sums⟩
        exact ⟨rest, next, added, sums⟩
      · rintro ⟨rest, next, added, sums⟩
        exact ⟨next, added, rest, sums⟩

/-! ## Balances -/

/-- An output of ours moves the balance by its amount. -/
theorem settle_mine_ok_iff {direction v : Int} {needed : AnnotationNeed} {output : Output}
    {outputs : List Output} (mine : output.annotations.isMyOutput = some true) :
    settle direction needed balance (output :: outputs) = .ok v ↔
      output.amount.toNat ≤ maxAmount ∧ InSigned64 (balance + direction * output.amount.toNat) ∧
        settle direction needed (balance + direction * output.amount.toNat) outputs = .ok v := by
  simp only [settle, mine, Error.bind_ok_iff, signed_ok_iff, inSigned64_natCast_iff]
  constructor
  · rintro ⟨_, ⟨small, rfl⟩, _, ⟨inside, rfl⟩, rest⟩
    exact ⟨small, inside, rest⟩
  · rintro ⟨small, inside, rest⟩
    exact ⟨_, ⟨small, rfl⟩, _, ⟨inside, rfl⟩, rest⟩

/-- A number between two that fit fits. -/
theorem inSigned64_step {direction : Int} (unit : direction = 1 ∨ direction = -1) {step rest : Nat}
    (fits : InSigned64 balance) (last : InSigned64 (balance + direction * (step + rest))) :
    InSigned64 (balance + direction * step) := by
  unfold InSigned64 at *
  rcases unit with rfl | rfl <;> omega

/-- A balance that moves in one direction only passes every check when the last number does. -/
theorem settle_ok_iff {direction v : Int} (unit : direction = 1 ∨ direction = -1)
    {needed : AnnotationNeed} (fits : InSigned64 balance) {outputs : List Output} :
    settle direction needed balance outputs = .ok v ↔
      (∀ output ∈ outputs, output.isSettled = true) ∧
        (∀ output ∈ Output.mine outputs, output.amount.toNat ≤ maxAmount) ∧ InSigned64 v ∧
          v = balance + direction * Output.amountSum (Output.mine outputs) := by
  induction outputs generalizing balance with
  | nil =>
    have none : settle direction needed balance [] = .ok v ↔ v = balance := by
      simp [settle, eq_comm]
    rw [none]
    constructor
    · rintro rfl
      simp [Output.mine, fits]
    · rintro ⟨-, -, -, rfl⟩
      simp [Output.mine]
  | cons output outputs ih =>
    rw [List.forall_mem_cons]
    cases known : output.annotations.isMyOutput with
    | none => simp [settle, Output.isSettled, known]
    | some ours =>
      have settled : output.isSettled = true := by simp [Output.isSettled, known]
      cases ours with
      | false =>
        have skipped : settle direction needed balance (output :: outputs) =
            settle direction needed balance outputs := by
          simp only [settle, known]
        have other : Output.mine (output :: outputs) = Output.mine outputs :=
          List.filter_cons_of_neg (by simp [Output.isMine, known])
        rw [skipped, other, ih fits, and_iff_right settled]
      | true =>
        have mine : Output.mine (output :: outputs) = output :: Output.mine outputs :=
          List.filter_cons_of_pos (by simp [Output.isMine, known])
        rw [settle_mine_ok_iff known, mine, List.forall_mem_cons, and_iff_right settled,
          Output.amountSum_cons, Nat.cast_add]
        constructor
        · rintro ⟨small, inside, rest⟩
          obtain ⟨others, amounts, within, rfl⟩ := (ih inside).mp rest
          exact ⟨others, ⟨small, amounts⟩, within, by ring⟩
        · rintro ⟨others, ⟨small, amounts⟩, within, rfl⟩
          have inside := inSigned64_step unit fits within
          exact ⟨small, inside, (ih inside).mpr ⟨others, amounts, within, by ring⟩⟩

/-! ## What is accepted -/

variable {tx other : Transaction}

theorem fee_ok_iff {v : Int} :
    tx.fee = .ok v ↔
      (∀ input ∈ tx.inputs, input.isResolved = true) ∧
        Output.amountSum tx.spentOutputs ≤ maxAmount ∧ Output.amountSum tx.outputs ≤ maxAmount ∧
          v = (Output.amountSum tx.spentOutputs : Int) - Output.amountSum tx.outputs := by
  have spent (sum : Nat) : addInputAmounts 0 tx.inputs = .ok sum ↔
      (∀ input ∈ tx.inputs, input.isResolved = true) ∧
        Output.amountSum tx.spentOutputs < 2 ^ 64 ∧ sum = Output.amountSum tx.spentOutputs := by
    rw [addInputAmounts_ok_iff, foldlM_checkedAdd_ok_iff (by decide), Nat.zero_add]
    rfl
  have difference {a b : Nat} (first : a ≤ maxAmount) (second : b ≤ maxAmount) :
      InSigned64 ((a : Int) - b) := by
    unfold InSigned64
    unfold maxAmount at first second
    omega
  simp only [fee, outputSum, Error.bind_ok_iff, spent, checkedSum_ok_iff, signed_ok_iff]
  constructor
  · rintro ⟨_, ⟨resolved, -, rfl⟩, _, ⟨low, rfl⟩, _, ⟨-, rfl⟩, _, ⟨high, rfl⟩, -, rfl⟩
    exact ⟨resolved, inSigned64_natCast_iff.mp low, inSigned64_natCast_iff.mp high, rfl⟩
  · rintro ⟨resolved, low, high, rfl⟩
    have fits {n : Nat} (small : n ≤ maxAmount) : n < 2 ^ 64 :=
      Nat.lt_of_le_of_lt small (by decide)
    exact ⟨_, ⟨resolved, fits low, rfl⟩, _, ⟨inSigned64_natCast_iff.mpr low, rfl⟩, _,
      ⟨fits high, rfl⟩, _, ⟨inSigned64_natCast_iff.mpr high, rfl⟩, difference low high, rfl⟩

theorem netAccountBalance_ok_iff {v : Int} :
    tx.netAccountBalance = .ok v ↔
      (∀ output ∈ tx.spentOutputs ++ tx.outputs, output.isSettled = true) ∧
        (∀ output ∈ Output.mine (tx.spentOutputs ++ tx.outputs),
          output.amount.toNat ≤ maxAmount) ∧
        Output.amountSum (Output.mine tx.spentOutputs) ≤ 2 ^ 63 ∧
        (Output.amountSum (Output.mine tx.outputs) : Int) -
          Output.amountSum (Output.mine tx.spentOutputs) ≤ maxAmount ∧
        v = (Output.amountSum (Output.mine tx.outputs) : Int) -
          Output.amountSum (Output.mine tx.spentOutputs) := by
  have first (middle : Int) : settle (-1) .isMyInput 0 tx.spentOutputs = .ok middle ↔ _ :=
    settle_ok_iff (.inr rfl) (by decide)
  simp only [netAccountBalance, Error.bind_ok_iff, first, Output.mine_append,
    List.forall_mem_append]
  constructor
  · rintro ⟨_, ⟨known, amounts, low, rfl⟩, rest⟩
    obtain ⟨others, more, high, rfl⟩ := (settle_ok_iff (.inl rfl) low).mp rest
    unfold InSigned64 at low high
    unfold maxAmount at amounts more ⊢
    exact ⟨⟨known, others⟩, ⟨amounts, more⟩, by omega, by omega, by omega⟩
  · rintro ⟨⟨known, others⟩, ⟨amounts, more⟩, low, high, rfl⟩
    have down : InSigned64 (0 + -1 * (Output.amountSum (Output.mine tx.spentOutputs) : Int)) := by
      unfold InSigned64
      omega
    refine ⟨_, ⟨known, amounts, down, rfl⟩, (settle_ok_iff (.inl rfl) down).mpr
      ⟨others, more, ?_, by omega⟩⟩
    unfold InSigned64
    unfold maxAmount at high
    omega

theorem inputSum_ok_iff {v : Nat} :
    tx.inputSum = .ok v ↔ Output.amountSum tx.spentOutputs < 2 ^ 64 ∧
      v = Output.amountSum tx.spentOutputs :=
  checkedSum_ok_iff

theorem outputSum_ok_iff {v : Nat} :
    tx.outputSum = .ok v ↔ Output.amountSum tx.outputs < 2 ^ 64 ∧
      v = Output.amountSum tx.outputs :=
  checkedSum_ok_iff

/-! ## Any order -/

theorem settle_detached {direction : Int} {needed : AnnotationNeed} (outputs : List Output) :
    settle direction needed balance (outputs.map Output.detached) =
      settle direction needed balance outputs := by
  induction outputs generalizing balance with
  | nil => rfl
  | cons output outputs ih => simp only [List.map_cons, settle, Output.detached, ih]

/-- Where outputs stand, and in which order, does not matter to a balance. -/
theorem settle_reordered {direction v : Int} (unit : direction = 1 ∨ direction = -1)
    {needed : AnnotationNeed} (fits : InSigned64 balance) {outputs others : List Output}
    (same : (others.map Output.detached).Perm (outputs.map Output.detached)) :
    settle direction needed balance others = .ok v ↔
      settle direction needed balance outputs = .ok v := by
  have mine := same.filter (·.isMine)
  rw [← settle_detached others, ← settle_detached outputs, settle_ok_iff unit fits,
    settle_ok_iff unit fits, Output.mine, Output.mine, Output.amountSum_perm mine]
  simp only [same.mem_iff, mine.mem_iff]

namespace Reordered

/-- What does not depend on where an input stands is the same in another order. -/
theorem inputs_map {β : Type} {view : Input → β}
    (blind : ∀ input : Input, view input.detached = view input) (same : tx.Reordered other) :
    (other.inputs.map view).Perm (tx.inputs.map view) := by
  have erased (inputs : List Input) : (inputs.map Input.detached).map view = inputs.map view := by
    rw [List.map_map]
    exact List.map_congr_left fun input _ => blind input
  have seen := same.inputs.map view
  rwa [erased, erased] at seen

theorem forall_inputs {holds : Input → Prop}
    (blind : ∀ input : Input, holds input.detached ↔ holds input) (same : tx.Reordered other) :
    (∀ input ∈ other.inputs, holds input) ↔ ∀ input ∈ tx.inputs, holds input := by
  have seen : (other.inputs.map holds).Perm (tx.inputs.map holds) :=
    same.inputs_map fun input => propext (blind input)
  have each (inputs : List Input) :
      (∀ holding ∈ inputs.map holds, holding) ↔ ∀ input ∈ inputs, holds input :=
    List.forall_mem_map
  rw [← each other.inputs, ← each tx.inputs]
  simp only [seen.mem_iff]

theorem spentOutputs (same : tx.Reordered other) : other.spentOutputs.Perm tx.spentOutputs := by
  have copies : (other.inputs.map (·.spends.output)).Perm (tx.inputs.map (·.spends.output)) :=
    same.inputs_map fun _ => rfl
  have found := copies.filterMap fun copy => copy
  rwa [List.filterMap_map, List.filterMap_map] at found

theorem resolved (same : tx.Reordered other) :
    (∀ input ∈ other.inputs, input.isResolved = true) ↔
      ∀ input ∈ tx.inputs, input.isResolved = true :=
  same.forall_inputs fun _ => Iff.rfl

theorem amountSum_spentOutputs (same : tx.Reordered other) :
    Output.amountSum other.spentOutputs = Output.amountSum tx.spentOutputs :=
  Output.amountSum_perm same.spentOutputs

theorem amountSum_outputs (same : tx.Reordered other) :
    Output.amountSum other.outputs = Output.amountSum tx.outputs := by
  have erased (outputs : List Output) :
      Output.amountSum (outputs.map Output.detached) = Output.amountSum outputs :=
    congrArg List.sum List.map_map
  rw [← erased other.outputs, ← erased tx.outputs]
  exact Output.amountSum_perm same.outputs

theorem netAccountBalance (same : tx.Reordered other) {v : Int} :
    other.netAccountBalance = .ok v ↔ tx.netAccountBalance = .ok v := by
  have start : InSigned64 0 := by decide
  have spent (middle : Int) : settle (-1) .isMyInput 0 other.spentOutputs = .ok middle ↔
      settle (-1) .isMyInput 0 tx.spentOutputs = .ok middle :=
    settle_reordered (.inr rfl) start (same.spentOutputs.map Output.detached)
  simp only [Transaction.netAccountBalance, Error.bind_ok_iff, spent]
  refine exists_congr fun middle => and_congr_right fun reached => ?_
  obtain ⟨-, -, fits, -⟩ := (settle_ok_iff (.inr rfl) start).mp reached
  exact settle_reordered (.inl rfl) fits same.outputs

end Reordered

/-- The sums are exact, and refused exactly where they must be. The fee is known when every input
is resolved and both sums fit a signed word. The balance is known when it is known of all outputs
whether they are ours, the amounts of ours fit a signed word, and so do what we spent, with its
sign, and the balance itself. The plain sums have to fit an unsigned word. The order of inputs and
outputs does not matter to any of them, and when all is ours we lose the fee. -/
theorem sums_exact :
    (∀ v, tx.fee = .ok v ↔
      (∀ input ∈ tx.inputs, input.isResolved = true) ∧
        Output.amountSum tx.spentOutputs ≤ maxAmount ∧ Output.amountSum tx.outputs ≤ maxAmount ∧
        v = (Output.amountSum tx.spentOutputs : Int) - Output.amountSum tx.outputs) ∧
    (∀ v, tx.netAccountBalance = .ok v ↔
      (∀ output ∈ tx.spentOutputs ++ tx.outputs, output.isSettled = true) ∧
        (∀ output ∈ Output.mine (tx.spentOutputs ++ tx.outputs),
          output.amount.toNat ≤ maxAmount) ∧
        Output.amountSum (Output.mine tx.spentOutputs) ≤ 2 ^ 63 ∧
        (Output.amountSum (Output.mine tx.outputs) : Int) -
          Output.amountSum (Output.mine tx.spentOutputs) ≤ maxAmount ∧
        v = (Output.amountSum (Output.mine tx.outputs) : Int) -
          Output.amountSum (Output.mine tx.spentOutputs)) ∧
    (∀ v, tx.inputSum = .ok v ↔
      Output.amountSum tx.spentOutputs < 2 ^ 64 ∧ v = Output.amountSum tx.spentOutputs) ∧
    (∀ v, tx.outputSum = .ok v ↔
      Output.amountSum tx.outputs < 2 ^ 64 ∧ v = Output.amountSum tx.outputs) ∧
    (∀ other, tx.Reordered other →
      (∀ v, other.fee = .ok v ↔ tx.fee = .ok v) ∧
      (∀ v, other.netAccountBalance = .ok v ↔ tx.netAccountBalance = .ok v) ∧
      (∀ v, other.inputSum = .ok v ↔ tx.inputSum = .ok v) ∧
      (∀ v, other.outputSum = .ok v ↔ tx.outputSum = .ok v)) ∧
    (∀ v, tx.fee = .ok v →
      (∀ output ∈ tx.spentOutputs ++ tx.outputs, output.isMine = true) →
      tx.netAccountBalance = .ok (-v)) := by
  refine ⟨fun _ => fee_ok_iff, fun _ => netAccountBalance_ok_iff, fun _ => inputSum_ok_iff,
    fun _ => outputSum_ok_iff, fun other same => ⟨fun v => ?_, fun v => same.netAccountBalance,
      fun v => ?_, fun v => ?_⟩, fun v known ours => ?_⟩
  · rw [fee_ok_iff, fee_ok_iff, same.resolved, same.amountSum_spentOutputs, same.amountSum_outputs]
  · rw [inputSum_ok_iff, inputSum_ok_iff, same.amountSum_spentOutputs]
  · rw [outputSum_ok_iff, outputSum_ok_iff, same.amountSum_outputs]
  · obtain ⟨-, low, high, rfl⟩ := fee_ok_iff.mp known
    have small : ∀ output ∈ tx.spentOutputs ++ tx.outputs, output.amount.toNat ≤ maxAmount := by
      rw [List.forall_mem_append]
      exact ⟨fun output member => Nat.le_trans (Output.amount_le_amountSum member) low,
        fun output member => Nat.le_trans (Output.amount_le_amountSum member) high⟩
    rw [netAccountBalance_ok_iff, Output.mine_eq_self ours]
    rw [List.forall_mem_append] at ours
    rw [Output.mine_eq_self ours.1, Output.mine_eq_self ours.2]
    refine ⟨fun output member => ?_, small, ?_, ?_, by omega⟩
    · rcases List.mem_append.mp member with spent | paid
      · exact Output.isSettled_of_isMine (ours.1 output spent)
      · exact Output.isSettled_of_isMine (ours.2 output paid)
    · exact Nat.le_trans low (by decide)
    · omega

/-- An output of ours. -/
def purse (amount : UInt64) : Output :=
  { Output.payPubKeyHash amount (FixedBytes.zeros 20) with
    annotations := { isMyOutput := some true } }

/-- An input with an empty slot that spends a copy of an output. -/
def spending (output : Output) : Input :=
  Input.ofBytes ⟨⟨⟨FixedBytes.ofPadded 32 [1], 0⟩, 0⟩, some output⟩ [] Input.finalSequence

/-- Everything is ours, and what is spent is as much as a signed word holds. -/
def household : Transaction :=
  ofFields 1 0 [spending (purse 0x7FFFFFFFFFFFFFFE), spending (purse 1)] [purse 5, purse 7] 0 []

/-- Forwards and backwards. -/
theorem sums_exact_household :
    household.fee = .ok 9223372036854775795 ∧
      household.netAccountBalance = .ok (-9223372036854775795) ∧
      ∃ other, household.Reordered other ∧ other.inputs ≠ household.inputs ∧
        other.fee = .ok 9223372036854775795 ∧
        other.netAccountBalance = .ok (-9223372036854775795) := by
  obtain ⟨fee, -, -, -, orders, ours⟩ := @sums_exact household
  have known : household.fee = .ok 9223372036854775795 :=
    (fee _).mpr ⟨by decide, by decide, by decide, by decide⟩
  have balance := ours _ known (by decide)
  let backwards : Transaction := { household with inputs := household.inputs.reverse }
  have same : household.Reordered backwards := ⟨(List.reverse_perm _).map _, .refl _⟩
  obtain ⟨fees, balances, -, -⟩ := orders backwards same
  exact ⟨known, balance, backwards, same, by decide, (fees _).mpr known, (balances _).mpr balance⟩

end Transaction

end ClaimLedger
