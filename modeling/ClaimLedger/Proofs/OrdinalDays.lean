import ClaimLedger.Proofs.Effects
import ClaimLedger.Proofs.TransactionReading

/-! The day that a transaction remembers. The first day that a ledger estimates is kept until the
transaction moves to a height, and is the answer to every ledger until then. So the answer always
belongs to the height at which the transaction stands, and it belongs to the ledger that asks
unless another one that asked before it has another calendar. -/
namespace ClaimLedger.Transaction

/-! ## Asking -/

/-- The day of the block at a height, as a ledger estimates it. -/
def dayAt (height : Int) (ledger : Ledger) : Option Int :=
  if heightMempool < height then (ledger.estimatedDate? height).map Date.ordinal else none

/-- A ledger is told the day remembered, or else its own, which is remembered from then on. -/
theorem ordinalDay_eq (tx : Transaction) (ledger : Ledger) :
    tx.ordinalDay ledger =
      (tx.day.or (dayAt tx.height ledger),
        { tx with day := tx.day.or (dayAt tx.height ledger) }) := by
  obtain ⟨version, locktime, inputs, outputs, segwitFlag, witnesses, height, position, isVerified,
    raw, txRef, day⟩ := tx
  cases day with
  | some day => rfl
  | none =>
    by_cases confirmed : heightMempool < height
    · simp only [ordinalDay, isConfirmed, dayAt, confirmed, decide_true, if_true, Option.none_or]
      cases ledger.estimatedDate? height <;> rfl
    · simp only [ordinalDay, isConfirmed, dayAt, confirmed, decide_false, if_false, Option.none_or]
      rfl

/-! ## Remembering -/

/-- The ledgers that have asked since the last move, after one more operation. -/
def Operation.asks (ledgers : List Ledger) : Operation → List Ledger
  | setHeight _ => []
  | ordinalDay ledger => ledgers ++ [ledger]
  | _ => ledgers

/-- The ledgers that ask in a run of operations behind its last move. -/
def asked (ops : List Operation) : List Ledger :=
  ops.foldl Operation.asks []

/-- The day remembered is the first that one of the ledgers estimates. -/
def Remembers (tx : Transaction) (ledgers : List Ledger) : Prop :=
  tx.day = ledgers.findSome? (dayAt tx.height)

section
variable {tx later : Transaction} {ledgers : List Ledger}

theorem Remembers.kept (remembers : tx.Remembers ledgers) (day : later.day = tx.day)
    (height : later.height = tx.height) : later.Remembers ledgers := by
  rw [Remembers, day, height]
  exact remembers

theorem Remembers.editOutput {α : Type} (remembers : tx.Remembers ledgers) (index : Nat)
    (edit : EStateM Error Output α) :
    (stateAfter (editOutput index edit tx)).Remembers ledgers := by
  rw [stateAfter_editOutput]
  cases tx.outputs[index]? with
  | none => exact remembers
  | some output => exact remembers.kept rfl rfl

theorem Remembers.answer (remembers : tx.Remembers ledgers) (ledger : Ledger) :
    (tx.ordinalDay ledger).1 = (ledgers ++ [ledger]).findSome? (dayAt tx.height) := by
  rw [ordinalDay_eq, remembers, List.findSome?_append, List.findSome?_singleton]

/-- Only a move forgets the day, and only a ledger that asks sets it. -/
theorem Remembers.apply (remembers : tx.Remembers ledgers) (op : Operation) :
    (tx.apply op).Remembers (op.asks ledgers) := by
  rw [apply_stateAfter]
  cases op with
  | setHeight height => rfl
  | ordinalDay ledger =>
    have answer := remembers.answer ledger
    rw [ordinalDay_eq] at answer
    show ((tx.ordinalDay ledger).2).Remembers (ledgers ++ [ledger])
    rw [ordinalDay_eq]
    exact answer
  | sign index channel supplied =>
    simp only [Operation.perform, signOutput]
    cases tx.signingAnchor supplied with
    | error cause => exact remembers
    | ok anchor => exact remembers.editOutput index (Output.sign channel anchor)
  | modify index edit => exact remembers.editOutput index (thenRegenerate edit)
  | clear index => exact remembers.editOutput index Output.clearSignature
  | installKey index fresh =>
    rw [stateAfter_installKey]
    exact remembers.editOutput index (Output.installChannelKey fresh)
  | _ => exact remembers.kept rfl rfl

theorem Remembers.run (remembers : tx.Remembers ledgers) (ops : List Operation) :
    (tx.run ops).Remembers (ops.foldl Operation.asks ledgers) := by
  induction ops generalizing tx ledgers with
  | nil => exact remembers
  | cons op ops ih => exact ih (remembers.apply op)

end

/-! ## Where transactions begin -/

/-- Transactions that nothing has happened to since they were made or read. -/
inductive Begins : Transaction → Prop where
  | new (version locktime : UInt32) : Begins (Transaction.new version locktime)
  | parsed {before after : Cursor} {tx : Transaction} (accepted : read before = .ok tx after) :
      Begins tx

theorem day_readFields {start : Nat} {before after : Cursor} {fields : Transaction}
    (ran : readFields start before = .ok fields after) : fields.day = none := by
  obtain ⟨version, c₁, -, ran⟩ := Reader.bind_ok_iff.mp ran
  obtain ⟨⟨flag, count⟩, c₂, -, ran⟩ := Reader.bind_ok_iff.mp ran
  obtain ⟨inputs, c₃, -, ran⟩ := Reader.bind_ok_iff.mp ran
  obtain ⟨outputCount, c₄, -, ran⟩ := Reader.bind_ok_iff.mp ran
  obtain ⟨outputs, c₅, -, ran⟩ := Reader.bind_ok_iff.mp ran
  obtain ⟨witnesses, c₆, -, ran⟩ := Reader.bind_ok_iff.mp ran
  obtain ⟨locktime, last, -, ran⟩ := Reader.bind_ok_iff.mp ran
  cases ran
  rfl

/-- They remember nothing. -/
theorem Begins.remembers {tx : Transaction} (begins : tx.Begins) : tx.Remembers [] := by
  cases begins with
  | new version locktime => rfl
  | parsed accepted =>
    obtain ⟨bytes, fields, -, reads, rfl⟩ := read_ok_iff.mp accepted
    have fresh : fields.day = none := day_readFields (reads [] [] (Nat.le_refl _))
    unfold received
    split
    · exact fresh
    · exact fresh

/-! ## Answers -/

/-- After any operations a ledger that asks is told the first day that is estimated for the
height at which the transaction stands, by the ledgers that have asked since it moved there or by
itself. That is what it estimates itself exactly when it agrees with the first of them that
estimated a day, so always where nobody else has asked. -/
theorem ordinalDay_run_iff {start : Transaction} (begins : start.Begins) (ops : List Operation)
    (ledger : Ledger) :
    let tx := start.run ops
    (tx.ordinalDay ledger).1 = (asked ops ++ [ledger]).findSome? (dayAt tx.height) ∧
    ((tx.ordinalDay ledger).1 = dayAt tx.height ledger ↔
      ∀ day, (asked ops).findSome? (dayAt tx.height) = some day →
        dayAt tx.height ledger = some day) ∧
    ((∀ other ∈ asked ops, other = ledger) →
      (tx.ordinalDay ledger).1 = dayAt tx.height ledger) := by
  intro tx
  have answer : (tx.ordinalDay ledger).1 = (asked ops ++ [ledger]).findSome? (dayAt tx.height) :=
    (begins.remembers.run ops).answer ledger
  have agrees : (tx.ordinalDay ledger).1 = dayAt tx.height ledger ↔
      ∀ day, (asked ops).findSome? (dayAt tx.height) = some day →
        dayAt tx.height ledger = some day := by
    rw [answer, List.findSome?_append, List.findSome?_singleton]
    cases (asked ops).findSome? (dayAt tx.height) with
    | none => simp
    | some first => simp [eq_comm]
  refine ⟨answer, agrees, fun alone => agrees.mpr fun day first => ?_⟩
  obtain ⟨other, member, estimates⟩ := List.exists_of_findSome?_eq_some first
  rw [← alone other member, estimates]

/-- The main network begun in 1970. -/
def early : Ledger :=
  { Ledger.mainNetwork with genesisTimestamp := 0 }

/-- A move makes the transaction forget what the main network estimated. -/
theorem ordinalDay_run_moved :
    (((new 1 0).run [.setHeight 1, .ordinalDay Ledger.mainNetwork, .setHeight 2]).ordinalDay
      early).1 = some 719163 := by
  obtain ⟨-, -, alone⟩ := ordinalDay_run_iff (.new 1 0)
    [.setHeight 1, .ordinalDay Ledger.mainNetwork, .setHeight 2] early
  exact alone nofun

/-- Without one it is told to whoever asks next. -/
theorem ordinalDay_stale :
    let tx := (new 1 0).run [.setHeight 1, .ordinalDay Ledger.mainNetwork]
    (tx.ordinalDay early).1 = some 735899 ∧ dayAt tx.height early = some 719163 := by
  decide +kernel

end ClaimLedger.Transaction
