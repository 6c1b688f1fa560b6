import ClaimLedger.Proofs.ClaimNormalForm
import ClaimLedger.Proofs.Consumption

/-! The work of reading. How often a reader is repeated is said by counts on the wire, and they may
say anything. Transactions and claims are read here together with a journal of their loops, which
has every round that was begun and every item that was read. The journal changes nothing about
the reading, and is there also when the reading fails. Main statement: what it has was paid for
with bytes, so that no loop outlasts the data, whatever its count says. -/
namespace ClaimLedger

/-! ## Journals -/

/-- What is read in the rounds of loops. The round of a witness stack reads the count of the items
that have rounds of their own. -/
inductive Item where
  | input
  | output
  | stack
  | witness
  | hash
  deriving DecidableEq

/-- The bytes that an item takes at least. -/
def Item.least : Item → Nat
  | input => 41
  | output => 9
  | stack => 1
  | witness => 1
  | hash => 20

/-- The rounds that were begun, and what was read in them. -/
structure Journal where
  rounds : Nat
  items : List Item
  deriving DecidableEq

namespace Journal

/-- Nothing was done yet. -/
def blank : Journal := ⟨0, []⟩

/-- The bytes that the items take at least. -/
def cost (journal : Journal) : Nat :=
  (journal.items.map Item.least).sum

theorem cost_eq (journal : Journal) :
    journal.cost = 41 * journal.items.count .input + 9 * journal.items.count .output +
      journal.items.count .stack + journal.items.count .witness +
      20 * journal.items.count .hash := by
  obtain ⟨rounds, items⟩ := journal
  induction items with
  | nil => rfl
  | cons item items ih =>
    simp only [cost] at ih ⊢
    rw [List.map_cons, List.sum_cons, ih]
    cases item <;> simp only [Item.least, List.count_cons_self, List.count_cons_of_ne, ne_eq,
      reduceCtorEq, not_false_eq_true] <;> omega

theorem length_items_le_cost (journal : Journal) : journal.items.length ≤ journal.cost := by
  obtain ⟨rounds, items⟩ := journal
  induction items with
  | nil => exact Nat.le_refl _
  | cons item items ih =>
    have positive : 1 ≤ item.least := by cases item <;> decide
    simp only [cost] at ih ⊢
    rw [List.length_cons, List.map_cons, List.sum_cons]
    omega

/-- What was read was paid for, and no more rounds were begun than there were bytes. -/
structure Within (journal : Journal) (available : Nat) : Prop where
  paid : 41 * journal.items.count .input + 9 * journal.items.count .output +
    journal.items.count .stack + journal.items.count .witness +
    20 * journal.items.count .hash ≤ available
  rounds : journal.rounds ≤ available

end Journal

/-- A reader that keeps a journal. -/
abbrev Journaled := EStateM Error (Cursor × Journal)

namespace Journaled

variable {α β : Type}

/-- A reader that has no loops. -/
def plain (reader : Reader α) : Journaled α := fun (c, journal) =>
  match reader c with
  | .ok value c => .ok value (c, journal)
  | .error cause c => .error cause (c, journal)

/-- One round of a loop. It was begun also when it fails, but then nothing was read in it. -/
def round (item : Item) (reader : Reader α) : Journaled α := fun (c, journal) =>
  match reader c with
  | .ok value c => .ok value (c, ⟨journal.rounds + 1, journal.items ++ [item]⟩)
  | .error cause c => .error cause (c, ⟨journal.rounds + 1, journal.items⟩)

/-- The same reader `count` times. -/
def replicate (journaled : Journaled α) : (count : Nat) → Journaled (List α)
  | 0 => return []
  | count + 1 => do
    let first ← journaled
    let rest ← replicate journaled count
    return first :: rest

/-- What comes of a reading, with its journal. -/
def run (journaled : Journaled α) (before : Cursor) : EStateM.Result Error Cursor α × Journal :=
  match journaled (before, .blank) with
  | .ok value (after, journal) => (.ok value after, journal)
  | .error cause (after, journal) => (.error cause after, journal)

end Journaled

open Journaled (plain round)

namespace Transaction

/-- One witness stack with a journal. -/
def journalStack : Journaled (List Bytes) := do
  let count ← round .stack Reader.compactSize
  Journaled.replicate (round .witness Reader.string) count

def journalWitnesses (flag : UInt8) (inputs : Nat) : Journaled (List Bytes) :=
  if flag = 0 then return []
  else return (← Journaled.replicate journalStack inputs).flatten

def journalFields (start : Nat) : Journaled Transaction := do
  let version ← plain Reader.u32
  let (flag, inputCount) ← plain readInputCount
  let inputs ← Journaled.replicate (round .input Input.read) inputCount
  let outputCount ← plain Reader.compactSize
  let outputs ← Journaled.replicate (round .output (Output.read start)) outputCount
  let witnesses ← journalWitnesses flag inputCount
  let locktime ← plain Reader.u32
  return ofFields version locktime inputs outputs flag witnesses

/-- A transaction is read with a journal. -/
def journaled : Journaled Transaction := do
  let c ← plain get
  let tx ← journalFields c.tell
  if tx.segwitFlag = 0 then return tx.identify ((← plain get).consumedSince c.tell)
  else return tx.invalidate

end Transaction

/-- The message of a claim is read with a journal. -/
def ClaimMessage.journaled : Journaled ClaimMessage := do
  let kind ← plain Reader.u8
  if kind = 1 then plain do
    let title ← readText .streamTitle
    let description ← readText .streamDescription
    let fee ← readFee
    return .stream ⟨title, description, fee⟩
  else if kind = 2 then plain do
    let publicKey ← Reader.string
    let title ← readText .channelTitle
    return .channel ⟨publicKey, title⟩
  else if kind = 3 then plain do
    return .repost (← Reader.fixed 20)
  else if kind = 4 then
    let count ← plain Reader.compactSize
    return .collection (← Journaled.replicate (round .hash (Reader.fixed 20)) count)
  else throw (.malformed (.claimKind kind))

/-- A claim is read with a journal. -/
def Claim.journaled : Journaled Claim := do
  let envelope ← plain Reader.u8
  if envelope = 0 then return ofMessage (← ClaimMessage.journaled)
  else if envelope = 1 then
    let channel ← plain (Reader.fixed 20)
    let signature ← plain (Reader.fixed 64)
    let message ← ClaimMessage.journaled
    return ⟨message, some channel, some signature, none⟩
  else if envelope = 2 then
    let channel ← plain (Reader.fixed 20)
    let signature ← plain (Reader.fixed 64)
    let payload ← plain Reader.string
    let message ← ClaimMessage.journaled
    return ⟨message, some channel, some signature, some payload⟩
  else throw (.malformed (.claimEnvelope envelope))

/-! ## Keeping a journal -/

open Reader (Takes)

/-- From one moment of a reading to a later one: what was read in between took its bytes and
`least` bytes more, and so many rounds at most are not finished. -/
structure Advance (least unfinished : Nat) (before after : Cursor × Journal) : Prop where
  paid : after.1.remaining + after.2.cost + least ≤ before.1.remaining + before.2.cost
  rounds : after.2.rounds + before.2.items.length ≤
    before.2.rounds + after.2.items.length + unfinished

theorem Advance.forget {least unfinished : Nat} {before after : Cursor × Journal}
    (advance : Advance least unfinished before after) : Advance 0 unfinished before after :=
  ⟨Nat.le_trans (Nat.le_add_right _ _) advance.paid, advance.rounds⟩

theorem Advance.trans {least more unfinished : Nat} {before middle after : Cursor × Journal}
    (first : Advance least 0 before middle) (second : Advance more unfinished middle after) :
    Advance (least + more) unfinished before after where
  paid := by
    have paidFirst := first.paid
    have paidSecond := second.paid
    omega
  rounds := by
    have roundsFirst := first.rounds
    have roundsSecond := second.rounds
    omega

/-- The journal is kept beside a reading that is the same without it. At least `ahead` bytes are
taken before the first round, so that a round which fails was paid for as well. -/
def Journals (ahead : Nat) (journaled : Journaled α) (reader : Reader α) : Prop :=
  ∀ before, match journaled before with
    | .ok value after => reader before.1 = .ok value after.1 ∧ Advance ahead 0 before after
    | .error cause after => reader before.1 = .error cause after.1 ∧
        (Advance 0 0 before after ∨ Advance ahead 1 before after)

namespace Journals

variable {α β : Type} {journaled : Journaled α} {reader : Reader α} {ahead least : Nat}

theorem ok (journals : Journals ahead journaled reader) {before after : Cursor × Journal}
    {value : α} (ran : journaled before = .ok value after) :
    reader before.1 = .ok value after.1 ∧ Advance ahead 0 before after := by
  simpa only [ran] using journals before

theorem error (journals : Journals ahead journaled reader) {before after : Cursor × Journal}
    {cause : Error} (ran : journaled before = .error cause after) :
    reader before.1 = .error cause after.1 ∧
      (Advance 0 0 before after ∨ Advance ahead 1 before after) := by
  simpa only [ran] using journals before

theorem forget (journals : Journals ahead journaled reader) : Journals 0 journaled reader := by
  intro before
  cases ran : journaled before with
  | ok value after =>
    obtain ⟨same, advance⟩ := journals.ok ran
    exact ⟨same, advance.forget⟩
  | error cause after =>
    obtain ⟨same, advance⟩ := journals.error ran
    exact ⟨same, advance.imp_right Advance.forget⟩

theorem pure (value : α) : Journals 0 (Pure.pure value) (Pure.pure value) :=
  fun _ => ⟨rfl, Nat.le_refl _, Nat.le_refl _⟩

theorem throw (cause : Error) :
    Journals ahead (MonadExcept.throw cause : Journaled α) (MonadExcept.throw cause) :=
  fun _ => ⟨rfl, .inl ⟨Nat.le_refl _, Nat.le_refl _⟩⟩

theorem plain (takes : Takes least reader) : Journals least (Journaled.plain reader) reader := by
  rintro ⟨before, journal⟩
  cases ran : reader before with
  | ok value after =>
    have taken := takes.ok ran
    simp only [Journaled.plain, ran, true_and]
    exact ⟨by dsimp only; omega, Nat.le_refl _⟩
  | error cause after =>
    simp only [Journaled.plain, ran, true_and]
    exact .inl ⟨Nat.add_le_add_right (takes.error ran) _, Nat.le_refl _⟩

/-- A reader without loops of whose bytes nothing has to be known. -/
theorem middle (takes : Takes least reader) : Journals 0 (Journaled.plain reader) reader :=
  plain (takes.of_le (Nat.zero_le _))

/-- A round whose item takes its bytes. -/
theorem round (item : Item) (takes : Takes item.least reader) :
    Journals 0 (Journaled.round item reader) reader := by
  rintro ⟨before, journal⟩
  cases ran : reader before with
  | ok value after =>
    have taken := takes.ok ran
    simp only [Journaled.round, ran, true_and]
    constructor
    · simp only [Journal.cost, List.map_append, List.sum_append, List.map_cons, List.map_nil,
        List.sum_cons, List.sum_nil]
      omega
    · simp only [List.length_append, List.length_cons, List.length_nil]
      omega
  | error cause after =>
    simp only [Journaled.round, ran, true_and]
    exact .inr ⟨Nat.add_le_add_right (takes.error ran) _, by dsimp only; omega⟩

theorem bind {next : α → Journaled β} {rest : α → Reader β}
    (first : Journals ahead journaled reader)
    (second : ∀ value, Journals 0 (next value) (rest value)) :
    Journals ahead (journaled >>= next) (reader >>= rest) := by
  intro before
  cases ran : journaled before with
  | error cause middle =>
    obtain ⟨same, advance⟩ := first.error ran
    simp only [Bind.bind, EStateM.bind, ran, same, true_and]
    exact advance
  | ok value middle =>
    obtain ⟨same, advance⟩ := first.ok ran
    simp only [Bind.bind, EStateM.bind, ran, same]
    cases again : next value middle with
    | ok result after =>
      obtain ⟨sameBehind, advanceBehind⟩ := (second value).ok again
      exact ⟨sameBehind, advance.trans advanceBehind⟩
    | error cause after =>
      obtain ⟨sameBehind, balanced | advanceBehind⟩ := (second value).error again
      · exact ⟨sameBehind, .inl (advance.trans balanced).forget⟩
      · exact ⟨sameBehind, .inr (advance.trans advanceBehind)⟩

theorem map (journals : Journals ahead journaled reader) (f : α → β) :
    Journals ahead (journaled >>= fun value => Pure.pure (f value))
      (reader >>= fun value => Pure.pure (f value)) :=
  journals.bind fun value => pure (f value)

/-- Looking at the cursor comes before everything that is taken. -/
theorem look {next : Cursor → Journaled β} {rest : Cursor → Reader β}
    (journals : ∀ c, Journals ahead (next c) (rest c)) :
    Journals ahead (Journaled.plain get >>= next) (get >>= rest) :=
  fun before => journals before.1 before

theorem ite {other : Journaled α} {otherReader : Reader α} {condition : Prop}
    [Decidable condition] (journals : Journals ahead journaled reader)
    (otherwise : Journals ahead other otherReader) :
    Journals ahead (if condition then journaled else other)
      (if condition then reader else otherReader) := by
  split
  · exact journals
  · exact otherwise

theorem replicate (journals : Journals 0 journaled reader) (count : Nat) :
    Journals 0 (journaled.replicate count) (Reader.replicate reader count) := by
  induction count with
  | zero => exact pure []
  | succ count ih => exact journals.bind fun first => ih.map (first :: ·)

/-- What comes of a reading, and that its journal stays within the bytes there were. -/
theorem run (journals : Journals ahead journaled reader) (positive : 0 < ahead)
    (before : Cursor) :
    (journaled.run before).1 = reader before ∧
      (journaled.run before).2.Within before.remaining := by
  have within {least unfinished : Nat} {after : Cursor} {journal : Journal}
      (paying : unfinished ≤ least)
      (advance : Advance least unfinished (before, .blank) (after, journal)) :
      journal.Within before.remaining := by
    obtain ⟨paid, rounds⟩ := advance
    have items := journal.length_items_le_cost
    have blank : Journal.blank.cost = 0 := rfl
    simp only [blank] at paid
    simp only [Journal.blank, List.length_nil] at rounds
    exact ⟨by rw [← journal.cost_eq]; omega, by omega⟩
  cases ran : journaled (before, .blank) with
  | ok value state =>
    obtain ⟨same, advance⟩ := journals.ok ran
    simp only [Journaled.run, ran]
    exact ⟨same.symm, within (Nat.zero_le _) advance⟩
  | error cause state =>
    obtain ⟨same, advance⟩ := journals.error ran
    simp only [Journaled.run, ran]
    exact ⟨same.symm, advance.elim (within (Nat.le_refl _)) (within positive)⟩

end Journals

namespace Transaction

theorem journals_stack : Journals 0 journalStack readStack :=
  (Journals.round .stack Takes.compactSize).bind fun count =>
    (Journals.round .witness Takes.string).replicate count

theorem journals_witnesses (flag : UInt8) (inputs : Nat) :
    Journals 0 (journalWitnesses flag inputs) (readWitnesses flag inputs) :=
  .ite (.pure []) ((journals_stack.replicate inputs).map List.flatten)

theorem journals_fields (start : Nat) : Journals 4 (journalFields start) (readFields start) := by
  refine (Journals.plain Takes.u32).bind fun version =>
    (Journals.middle takes_readInputCount).bind fun counted => ?_
  obtain ⟨flag, count⟩ := counted
  exact ((Journals.round .input Input.takes_read).replicate count).bind fun inputs =>
    (Journals.middle Takes.compactSize).bind fun outputCount =>
      ((Journals.round .output (Output.takes_read start)).replicate outputCount).bind fun outputs =>
        (journals_witnesses flag count).bind fun witnesses => (Journals.middle Takes.u32).map _

theorem journals_read : Journals 4 journaled read :=
  .look fun c => (journals_fields c.tell).bind fun _ =>
    .ite ((Journals.plain Takes.look).map _) (.pure _)

end Transaction

namespace ClaimMessage

theorem takes_readText (field : TextField) : Takes 0 (readText field) := by
  change Takes (0 + 0) (readText field)
  refine (Takes.string.of_le (Nat.zero_le _)).bind fun bytes => ?_
  cases Utf8.decode bytes with
  | ok text => exact .pure text
  | error fault => exact .throw _

theorem takes_readFee : Takes 0 readFee :=
  (Takes.u8.of_le (Nat.zero_le _)).bind fun _ => .ite (.pure none) (.ite
    ((takes_readText .feeCurrency).bind fun _ => (Takes.u64.of_le (Nat.zero_le _)).map _)
    (.throw _))

theorem journals_read : Journals 1 journaled read := by
  have stream : Takes 0 (readText .streamTitle >>= fun title =>
      readText .streamDescription >>= fun description => readFee >>= fun fee =>
        pure (ClaimMessage.stream ⟨title, description, fee⟩)) :=
    (takes_readText _).bind fun _ => (takes_readText _).bind fun _ => takes_readFee.map _
  have channel : Takes 1 (Reader.string >>= fun publicKey =>
      readText .channelTitle >>= fun title => pure (ClaimMessage.channel ⟨publicKey, title⟩)) :=
    Takes.string.bind fun _ => (takes_readText _).map _
  exact (Journals.plain Takes.u8).bind fun kind => .ite (.middle stream) (.ite (.middle channel)
    (.ite (.middle ((Takes.fixed 20).map _)) (.ite
      ((Journals.middle Takes.compactSize).bind fun count =>
        ((Journals.round .hash (Takes.fixed 20)).replicate count).map _) (.throw _))))

end ClaimMessage

theorem Claim.journals_read : Journals 1 journaled read := by
  have signed (next : ClaimHash → FixedBytes 64 → Journaled Claim)
      (rest : ClaimHash → FixedBytes 64 → Reader Claim)
      (behind : ∀ channel signature,
        Journals 0 (next channel signature) (rest channel signature)) :
      Journals 0
        (plain (Reader.fixed 20) >>= fun channel => plain (Reader.fixed 64) >>= next channel)
        (Reader.fixed 20 >>= fun channel => Reader.fixed 64 >>= rest channel) :=
    (Journals.middle (Takes.fixed 20)).bind fun channel =>
      (Journals.middle (Takes.fixed 64)).bind (behind channel)
  have message := ClaimMessage.journals_read.forget
  exact (Journals.plain Takes.u8).bind fun envelope => .ite (message.map _)
    (.ite (signed _ _ fun _ _ => message.map _)
      (.ite (signed _ _ fun _ _ => (Journals.middle Takes.string).bind fun _ => message.map _)
        (.throw _)))

/-! ## What a journal has after a success -/

/-- A success has these items recorded. -/
def Records (journaled : Journaled α) (record : α → List Item) : Prop :=
  ∀ before value after, journaled before = .ok value after →
    after.2.items = before.2.items ++ record value

namespace Journaled

variable {α β : Type} {journaled : Journaled α} {reader : Reader α}
  {before after : Cursor × Journal}

/-- A sequence that succeeded has succeeded in its parts. -/
theorem bind_ok {next : α → Journaled β} {result : β}
    (ran : (journaled >>= next) before = .ok result after) :
    ∃ value middle, journaled before = .ok value middle ∧ next value middle = .ok result after := by
  cases found : journaled before with
  | ok value middle =>
    exact ⟨value, middle, rfl, by simpa only [Bind.bind, EStateM.bind, found] using ran⟩
  | error cause middle => simp [Bind.bind, EStateM.bind, found] at ran

theorem plain_ok {value : α} (ran : plain reader before = .ok value after) :
    reader before.1 = .ok value after.1 ∧ after.2 = before.2 := by
  obtain ⟨c, journal⟩ := before
  cases found : reader c with
  | ok value last =>
    simp only [plain, found, EStateM.Result.ok.injEq] at ran
    obtain ⟨rfl, rfl⟩ := ran
    exact ⟨rfl, rfl⟩
  | error cause last => simp [plain, found] at ran

theorem records_plain : Records (plain reader) fun _ => [] := by
  intro before value after ran
  rw [(plain_ok ran).2, List.append_nil]

theorem records_round (item : Item) : Records (round item reader) fun _ => [item] := by
  rintro ⟨c, journal⟩ value after ran
  cases found : reader c with
  | ok value last =>
    simp only [round, found, EStateM.Result.ok.injEq] at ran
    obtain ⟨rfl, rfl⟩ := ran
    rfl
  | error cause last => simp [round, found] at ran

theorem records_replicate {record : α → List Item} (records : Records journaled record)
    (count : Nat) : Records (journaled.replicate count) fun values => values.flatMap record := by
  induction count with
  | zero =>
    intro before values after ran
    cases ran
    exact (List.append_nil _).symm
  | succ count ih =>
    intro before values after ran
    obtain ⟨first, middle, firstRan, ran⟩ := bind_ok ran
    obtain ⟨rest, last, restRan, ran⟩ := bind_ok ran
    cases ran
    rw [ih _ _ _ restRan, records _ _ _ firstRan, List.append_assoc]
    rfl

theorem records_rounds (item : Item) (count : Nat) :
    Records ((round item reader).replicate count) fun values => .replicate values.length item := by
  intro before values after ran
  have appended := records_replicate (records_round item) count _ _ _ ran
  dsimp only at appended ⊢
  rw [appended, ← List.map_eq_flatMap, List.map_const']

theorem length_replicate {count : Nat} {values : List α}
    (ran : journaled.replicate count before = .ok values after) : values.length = count := by
  induction count generalizing before values with
  | zero =>
    cases ran
    rfl
  | succ count ih =>
    obtain ⟨first, middle, -, ran⟩ := bind_ok ran
    obtain ⟨rest, last, restRan, ran⟩ := bind_ok ran
    cases ran
    rw [List.length_cons, ih restRan]

/-- What a run ends with is what the reading came to. -/
theorem run_ok {value : α} {c last : Cursor} (ran : (journaled.run c).1 = .ok value last) :
    journaled (c, .blank) = .ok value (last, (journaled.run c).2) := by
  cases found : journaled (c, .blank) with
  | ok value state =>
    simp only [run, found] at ran ⊢
    cases ran
    rfl
  | error cause state =>
    simp only [run, found] at ran
    cases ran

end Journaled

open Journaled (bind_ok plain_ok records_plain records_round records_replicate records_rounds
  length_replicate)

namespace Transaction

/-- The items of a stack with the stack itself in front. -/
def recordStack (stack : List Bytes) : List Item :=
  .stack :: .replicate stack.length .witness

/-- A stack each, and their items together. -/
theorem count_stacks (groups : List (List Bytes)) (item : Item) :
    (groups.flatMap recordStack).count item =
      groups.length * [Item.stack].count item +
        groups.flatten.length * [Item.witness].count item := by
  induction groups with
  | nil => simp
  | cons stack groups ih =>
    rw [List.flatMap_cons, List.count_append, ih, recordStack, List.count_cons,
      List.count_replicate, List.length_cons, List.flatten_cons, List.length_append]
    cases item with
    | stack => simp [Nat.add_comm]
    | input | output | witness | hash => simp

theorem records_stack : Records journalStack recordStack := by
  intro before stack after ran
  obtain ⟨count, middle, countRan, ran⟩ := bind_ok ran
  rw [records_rounds .witness count _ _ _ ran, records_round .stack _ _ _ countRan,
    List.append_assoc]
  rfl

theorem journalWitnesses_ok {flag : UInt8} {inputs : Nat} {before after : Cursor × Journal}
    {witnesses : List Bytes} (ran : journalWitnesses flag inputs before = .ok witnesses after) :
    ∃ groups : List (List Bytes), witnesses = groups.flatten ∧
      groups.length = (if flag = 0 then 0 else inputs) ∧
      after.2.items = before.2.items ++ groups.flatMap recordStack := by
  unfold journalWitnesses at ran
  split at ran
  · rename_i unflagged
    cases ran
    exact ⟨[], rfl, (if_pos unflagged).symm, (List.append_nil _).symm⟩
  · rename_i flagged
    obtain ⟨groups, last, groupsRan, ran⟩ := bind_ok ran
    cases ran
    exact ⟨groups, rfl, (length_replicate groupsRan).trans (if_neg flagged).symm,
      records_replicate records_stack inputs _ _ _ groupsRan⟩

/-- What was read is what there is, and it was paid for on top of version, counts and lock time. -/
theorem journalFields_ok {start : Nat} {before after : Cursor × Journal} {fields : Transaction}
    (ran : journalFields start before = .ok fields after) :
    ∃ groups : List (List Bytes), fields.witnesses = groups.flatten ∧
      groups.length = (if fields.segwitFlag = 0 then 0 else fields.inputs.length) ∧
      after.2.items = before.2.items ++ (List.replicate fields.inputs.length Item.input ++
        (List.replicate fields.outputs.length Item.output ++ groups.flatMap recordStack)) ∧
      after.1.remaining + after.2.cost + (if fields.segwitFlag = 0 then 10 else 12) ≤
        before.1.remaining + before.2.cost := by
  obtain ⟨version, s₁, versionRan, ran⟩ := bind_ok ran
  obtain ⟨⟨flag, count⟩, s₂, countRan, ran⟩ := bind_ok ran
  obtain ⟨inputs, s₃, inputsRan, ran⟩ := bind_ok ran
  obtain ⟨outputCount, s₄, outputCountRan, ran⟩ := bind_ok ran
  obtain ⟨outputs, s₅, outputsRan, ran⟩ := bind_ok ran
  obtain ⟨witnesses, s₆, witnessesRan, ran⟩ := bind_ok ran
  obtain ⟨locktime, s₇, locktimeRan, ran⟩ := bind_ok ran
  cases ran
  obtain ⟨groups, rfl, each, recorded⟩ := journalWitnesses_ok witnessesRan
  refine ⟨groups, rfl, ?_, ?_, ?_⟩
  · rw [each, ← length_replicate inputsRan]
    rfl
  · rw [records_plain _ _ _ locktimeRan, recorded,
      records_rounds .output _ _ _ _ outputsRan, records_plain _ _ _ outputCountRan,
      records_rounds .input _ _ _ _ inputsRan, records_plain _ _ _ countRan,
      records_plain _ _ _ versionRan]
    simp only [List.append_nil, List.append_assoc]
    rfl
  · obtain ⟨counting, unchanged⟩ := plain_ok countRan
    have counted := readInputCount_taken counting
    have version := ((Journals.plain Takes.u32).ok versionRan).2.paid
    have inputs := (((Journals.round .input Input.takes_read).replicate _).ok inputsRan).2.paid
    have outputCount := ((Journals.plain Takes.compactSize).ok outputCountRan).2.paid
    have outputs :=
      (((Journals.round .output (Output.takes_read start)).replicate _).ok outputsRan).2.paid
    have witnesses := ((journals_witnesses flag count).ok witnessesRan).2.paid
    have locktime := ((Journals.plain Takes.u32).ok locktimeRan).2.paid
    have extra : (if flag = 0 then 10 else 12) = (if flag = 0 then 1 else 3) + 9 := by
      split <;> rfl
    rw [unchanged] at inputs
    change _ + (if flag = 0 then 10 else 12) ≤ _
    omega

/-- The same of the transaction that comes out, and no other item was read. -/
theorem journaled_ok {before after : Cursor} {journal : Journal} {tx : Transaction}
    (ran : journaled (before, .blank) = .ok tx (after, journal)) :
    journal.items.count .input = tx.inputs.length ∧
      journal.items.count .output = tx.outputs.length ∧
      journal.items.count .stack = (if tx.segwitFlag = 0 then 0 else tx.inputs.length) ∧
      journal.items.count .witness = tx.witnesses.length ∧
      after.remaining + journal.cost + (if tx.segwitFlag = 0 then 10 else 12) ≤
        before.remaining := by
  obtain ⟨c, start, looked, ran⟩ := bind_ok ran
  cases looked
  obtain ⟨fields, last, fieldsRan, ran⟩ := bind_ok ran
  obtain ⟨groups, witnesses, each, recorded, paid⟩ := journalFields_ok fieldsRan
  have same : last = (after, journal) ∧ tx.inputs.length = fields.inputs.length ∧
      tx.outputs.length = fields.outputs.length ∧ tx.witnesses = fields.witnesses ∧
      tx.segwitFlag = fields.segwitFlag := by
    split at ran
    · obtain ⟨c, middle, looked, ran⟩ := bind_ok ran
      cases looked
      cases ran
      exact ⟨rfl, List.length_mapIdx, List.length_mapIdx, rfl, rfl⟩
    · cases ran
      exact ⟨rfl, List.length_mapIdx, List.length_mapIdx, rfl, rfl⟩
  obtain ⟨rfl, inputs, outputs, sameWitnesses, flag⟩ := same
  dsimp only at recorded paid
  rw [inputs, outputs, sameWitnesses, flag, recorded, ← each, witnesses]
  refine ⟨?_, ?_, ?_, ?_, paid⟩ <;>
    simp [Journal.blank, count_stacks, List.count_replicate]

end Transaction

/-- A collection has its hashes recorded. -/
def ClaimMessage.record : ClaimMessage → List Item
  | .collection hashes => .replicate hashes.length .hash
  | _ => []

theorem ClaimMessage.records_journaled : Records journaled record := by
  intro before message after ran
  obtain ⟨kind, middle, kindRan, ran⟩ := bind_ok ran
  rw [← List.append_nil before.2.items, ← records_plain _ _ _ kindRan]
  have loopless {reader : Reader ClaimMessage} (ran : plain reader middle = .ok message after)
      (other : reader middle.1 = .ok message after.1 → message.record = []) :
      after.2.items = middle.2.items ++ message.record := by
    obtain ⟨reading, unchanged⟩ := plain_ok ran
    rw [other reading, unchanged, List.append_nil]
  split at ran
  · refine loopless ran fun reading => ?_
    obtain ⟨title, c₁, -, reading⟩ := Reader.bind_ok_iff.mp reading
    obtain ⟨description, c₂, -, reading⟩ := Reader.bind_ok_iff.mp reading
    obtain ⟨fee, c₃, -, reading⟩ := Reader.bind_ok_iff.mp reading
    cases reading
    rfl
  split at ran
  · refine loopless ran fun reading => ?_
    obtain ⟨publicKey, c₁, -, reading⟩ := Reader.bind_ok_iff.mp reading
    obtain ⟨title, c₂, -, reading⟩ := Reader.bind_ok_iff.mp reading
    cases reading
    rfl
  split at ran
  · refine loopless ran fun reading => ?_
    obtain ⟨claim, c₁, -, reading⟩ := Reader.bind_ok_iff.mp reading
    cases reading
    rfl
  split at ran
  · obtain ⟨count, s₁, countRan, ran⟩ := bind_ok ran
    obtain ⟨hashes, s₂, hashesRan, ran⟩ := bind_ok ran
    cases ran
    rw [records_rounds .hash _ _ _ _ hashesRan, records_plain _ _ _ countRan, List.append_nil]
    rfl
  · cases ran

theorem Claim.records_journaled : Records journaled fun claim => claim.message.record := by
  intro before claim after ran
  obtain ⟨envelope, middle, envelopeRan, ran⟩ := bind_ok ran
  rw [← List.append_nil before.2.items, ← records_plain _ _ _ envelopeRan]
  split at ran
  · obtain ⟨message, last, messageRan, ran⟩ := bind_ok ran
    cases ran
    exact ClaimMessage.records_journaled _ _ _ messageRan
  split at ran
  · obtain ⟨channel, s₁, channelRan, ran⟩ := bind_ok ran
    obtain ⟨signature, s₂, signatureRan, ran⟩ := bind_ok ran
    obtain ⟨message, last, messageRan, ran⟩ := bind_ok ran
    cases ran
    rw [ClaimMessage.records_journaled _ _ _ messageRan, records_plain _ _ _ signatureRan,
      records_plain _ _ _ channelRan, List.append_nil, List.append_nil]
  split at ran
  · obtain ⟨channel, s₁, channelRan, ran⟩ := bind_ok ran
    obtain ⟨signature, s₂, signatureRan, ran⟩ := bind_ok ran
    obtain ⟨payload, s₃, payloadRan, ran⟩ := bind_ok ran
    obtain ⟨message, last, messageRan, ran⟩ := bind_ok ran
    cases ran
    rw [ClaimMessage.records_journaled _ _ _ messageRan, records_plain _ _ _ payloadRan,
      records_plain _ _ _ signatureRan, records_plain _ _ _ channelRan, List.append_nil,
      List.append_nil, List.append_nil]
  · cases ran

/-! ## Reading is within the data -/

namespace Transaction

/-- A success has every child and every witness in the journal, and is paid for by the bytes that
were taken. -/
theorem run_ok {before after : Cursor} {tx : Transaction} (ran : read before = .ok tx after) :
    (journaled.run before).2.items.count .input = tx.inputs.length ∧
      (journaled.run before).2.items.count .output = tx.outputs.length ∧
      (journaled.run before).2.items.count .witness = tx.witnesses.length ∧
      after.remaining + (10 + 41 * tx.inputs.length + 9 * tx.outputs.length) ≤ before.remaining ∧
      (tx.segwitFlag ≠ 0 → after.remaining + (10 + 41 * tx.inputs.length + 9 * tx.outputs.length) +
        (2 + tx.inputs.length + tx.witnesses.length) ≤ before.remaining) := by
  have same := (journals_read.run (by decide) before).1
  have whole := Journaled.run_ok (same.trans ran)
  obtain ⟨inputs, outputs, each, witnesses, paid⟩ := journaled_ok whole
  rw [Journal.cost_eq, inputs, outputs, each, witnesses] at paid
  refine ⟨inputs, outputs, witnesses, ?_, fun flagged => ?_⟩
  · split at paid <;> omega
  · rw [if_neg flagged, if_neg flagged] at paid
    omega

end Transaction

namespace Claim

/-- So has a collection every hash. -/
theorem run_ok {before after : Cursor} {claim : Claim} {hashes : List ClaimHash}
    (ran : read before = .ok claim after) (collection : claim.message = .collection hashes) :
    (journaled.run before).2.items.count .hash = hashes.length ∧
      20 * hashes.length ≤ before.remaining := by
  obtain ⟨same, within⟩ := journals_read.run (by decide) before
  have recorded := records_journaled _ _ _ (Journaled.run_ok (same.trans ran))
  have counted : (journaled.run before).2.items.count .hash = hashes.length := by
    rw [recorded]
    simp [Journal.blank, collection, ClaimMessage.record]
  have paid := within.paid
  exact ⟨counted, by omega⟩

end Claim

/-- Reading is paid for with bytes, whatever the counts say that are read. A transaction that is
read takes so many bytes, an accepted collection has them. Where a reading fails, too, what was
read until then and the rounds that were begun stay within the bytes there were; where it does
not, the journal has as many items as there are in the result. -/
theorem reading_within_data :
    (∀ (before after : Cursor) (tx : Transaction), Transaction.read before = .ok tx after →
      after.remaining + (10 + 41 * tx.inputs.length + 9 * tx.outputs.length) ≤ before.remaining ∧
      (tx.segwitFlag ≠ 0 → after.remaining + (10 + 41 * tx.inputs.length + 9 * tx.outputs.length) +
        (2 + tx.inputs.length + tx.witnesses.length) ≤ before.remaining)) ∧
    (∀ (bytes : Bytes) (claim : Claim) (hashes : List ClaimHash), Claim.decode bytes = .ok claim →
      claim.message = .collection hashes → 20 * hashes.length ≤ bytes.length) ∧
    (∀ before : Cursor, (Transaction.journaled.run before).1 = Transaction.read before ∧
      (Transaction.journaled.run before).2.Within before.remaining ∧
      ∀ (after : Cursor) (tx : Transaction), Transaction.read before = .ok tx after →
        (Transaction.journaled.run before).2.items.count .input = tx.inputs.length ∧
        (Transaction.journaled.run before).2.items.count .output = tx.outputs.length ∧
        (Transaction.journaled.run before).2.items.count .witness = tx.witnesses.length) ∧
    (∀ before : Cursor, (Claim.journaled.run before).1 = Claim.read before ∧
      (Claim.journaled.run before).2.Within before.remaining ∧
      ∀ (after : Cursor) (claim : Claim) (hashes : List ClaimHash),
        Claim.read before = .ok claim after → claim.message = .collection hashes →
        (Claim.journaled.run before).2.items.count .hash = hashes.length) := by
  refine ⟨fun before after tx ran => ?_, fun bytes claim hashes accepted collection => ?_,
    fun before => ?_, fun before => ?_⟩
  · obtain ⟨-, -, -, taken, flagged⟩ := Transaction.run_ok ran
    exact ⟨taken, flagged⟩
  · obtain ⟨after, ran, -⟩ := Claim.decode_ok accepted
    exact (Claim.run_ok ran collection).2
  · obtain ⟨same, within⟩ := Transaction.journals_read.run (by decide) before
    refine ⟨same, within, fun after tx ran => ?_⟩
    obtain ⟨inputs, outputs, witnesses, -, -⟩ := Transaction.run_ok ran
    exact ⟨inputs, outputs, witnesses⟩
  · obtain ⟨same, within⟩ := Claim.journals_read.run (by decide) before
    exact ⟨same, within, fun after claim hashes ran collection => (Claim.run_ok ran collection).1⟩

/-- A coinbase with a flag, an empty witness and one of one byte. -/
def flaggedCoinbase : Bytes :=
  [1, 0, 0, 0, 0, 1, 1] ++ List.replicate 32 0 ++
    [0xFF, 0xFF, 0xFF, 0xFF, 0, 0xFF, 0xFF, 0xFF, 0xFF, 0, 2, 0, 1, 7, 0, 0, 0, 0]

/-- A count of `2 ^ 64 - 1` behind these bytes, and nothing behind it. -/
def declaring (front : Bytes) : Bytes := front ++ List.replicate 9 0xFF

/-- The coinbase with all its bytes but one paid for, a collection of one hash, and two counts
as large as counts can be: one round is begun for each. -/
theorem reading_within_data_declared :
    (∃ tx after, Transaction.read (Cursor.start flaggedCoinbase) = .ok tx after ∧
      tx.segwitFlag = 1 ∧ after.remaining + (10 + 41 * 1 + 9 * 0) + (2 + 1 + 2) ≤ 57) ∧
    (∃ claim, Claim.decode ([0, 4, 1] ++ List.replicate 20 8) = .ok claim ∧
      claim.message = .collection [FixedBytes.ofPadded 20 (List.replicate 20 8)] ∧
      20 * 1 ≤ 23) ∧
    (Transaction.journaled.run (Cursor.start (declaring [1, 0, 0, 0]))).2 = ⟨1, []⟩ ∧
    (Transaction.journaled.run (Cursor.start (declaring [1, 0, 0, 0]))).2.Within 13 ∧
    (Claim.journaled.run (Cursor.start (declaring [0, 4]))).2 = ⟨1, []⟩ ∧
    (Claim.journaled.run (Cursor.start (declaring [0, 4]))).2.Within 11 := by
  obtain ⟨taken, hashes, transactions, claims⟩ := reading_within_data
  refine ⟨⟨_, _, rfl, rfl, ?_⟩, ⟨_, rfl, rfl, ?_⟩, rfl, ?_, rfl, ?_⟩
  · exact (taken (Cursor.start flaggedCoinbase) _ _ rfl).2 (by decide)
  · exact hashes ([0, 4, 1] ++ List.replicate 20 8) _ _ rfl rfl
  · exact (transactions _).2.1
  · exact (claims _).2.1

end ClaimLedger
