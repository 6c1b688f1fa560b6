import ClaimLedger.Transaction.Basic

/-! Sizes, fees and sums of transactions. Sums are exact: numbers are added one by
one over unbounded integers, and refused where the result, or a number on the way
to it, does not fit the word it has to fit. -/
namespace ClaimLedger.Transaction

def size (tx : Transaction) : Nat :=
  tx.raw.length

/-- The exact sum. -/
def total (numbers : List Nat) : Nat :=
  numbers.foldr (· + ·) 0

/-- The size without inputs and outputs. -/
def baseSize (tx : Transaction) : Nat :=
  tx.size - (total (tx.inputs.map Input.size) + total (tx.outputs.map Output.size))

def baseFee (tx : Transaction) (ledger : Ledger) : Nat :=
  tx.baseSize * ledger.feePerByte.toNat

/-- Adds an amount to a sum that has to fit an unsigned word. -/
def checkedAdd (sum amount : Nat) : Except Error Nat :=
  if sum + amount < 0x10000000000000000 then .ok (sum + amount)
  else .error (.malformed .amountOverflow)

/-- Adds amounts one by one. -/
def checkedSum (amounts : List Nat) : Except Error Nat :=
  amounts.foldlM checkedAdd 0

/-- A number that fits a signed word. -/
def signed (n : Int) : Except Error Int :=
  if InSigned64 n then .ok n else .error (.malformed .amountOverflow)

/-- The copies of the outputs spent, in input order, where they are resolved. -/
def spentOutputs (tx : Transaction) : List Output :=
  tx.inputs.filterMap (·.spends.output)

/-- The sum of the amounts of resolved inputs. -/
def inputSum (tx : Transaction) : Except Error Nat :=
  checkedSum (tx.spentOutputs.map (·.amount.toNat))

def outputSum (tx : Transaction) : Except Error Nat :=
  checkedSum (tx.outputs.map (·.amount.toNat))

/-- Adds the amounts of inputs one by one; all of them must be resolved. -/
def addInputAmounts : (sum : Nat) → List Input → Except Error Nat
  | sum, [] => .ok sum
  | sum, input :: inputs => do
    let amount ← input.amount
    let sum ← checkedAdd sum amount.toNat
    addInputAmounts sum inputs

/-- What the inputs hold beyond the outputs. -/
def fee (tx : Transaction) : Except Error Int := do
  let spent ← addInputAmounts 0 tx.inputs
  let spent ← signed spent
  let paid ← tx.outputSum
  let paid ← signed paid
  signed (spent - paid)

/-- Adds what inputs hold beyond the fee for spending them. -/
def addEffective (ledger : Ledger) : (sum : Int) → List Input → Except Error Int
  | sum, [] => .ok sum
  | sum, input :: inputs => do
    let amount ← input.amount
    let amount ← signed amount.toNat
    let fee ← signed (input.fee ledger)
    let effective ← signed (amount - fee)
    let sum ← signed (sum + effective)
    addEffective ledger sum inputs

/-- The input amounts less the fees for spending them. -/
def effectiveInputSum (tx : Transaction) (ledger : Ledger) : Except Error Int :=
  addEffective ledger 0 tx.inputs

/-- The output amounts and the fees for creating them. -/
def totalOutputSum (tx : Transaction) (ledger : Ledger) : Except Error Nat :=
  checkedSum (tx.outputs.flatMap fun output => [output.amount.toNat, output.fee ledger])

/-- Takes the amounts of our own outputs from a balance, or adds them; whether
an output is ours must be known. -/
def settle (direction : Int) (needed : AnnotationNeed) :
    (balance : Int) → List Output → Except Error Int
  | balance, [] => .ok balance
  | balance, output :: outputs =>
    match output.annotations.isMyOutput with
    | some true => do
      let amount ← signed output.amount.toNat
      let balance ← signed (balance + direction * amount)
      settle direction needed balance outputs
    | some false => settle direction needed balance outputs
    | none => .error (.annotationMissing needed)

/-- What the transaction adds to our balance. -/
def netAccountBalance (tx : Transaction) : Except Error Int := do
  let balance ← settle (-1) .isMyInput 0 tx.spentOutputs
  settle 1 .isMyOutput balance tx.outputs

end ClaimLedger.Transaction
