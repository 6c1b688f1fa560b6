import ClaimLedger.Proofs.TransactionNormalForm

/-! Transactions without inputs. Their canonical form begins with an input count of zero,
and that is the marker: what was written as the number of outputs is read as the flag
behind it, and amounts and scripts are read as counts. Mostly this comes to nothing. Where
it does not, the wire form of one transaction is the marked form of another, and that one
is read. The marked form is laid out here, spellings of it are shown to be what is accepted
behind a marker, and a draft is shown to be read as itself or refused exactly when no
marked form is spelled like it. -/
namespace ClaimLedger

open Reader (Accepts AcceptsSome Follows Reads bind_ok_iff)

/-! ## The marked form -/

namespace Transaction

/-- A witness stack, part by part. -/
def stackLayout (stack : List Bytes) : List Piece :=
  .count stack.length :: stack.flatMap Piece.string

/-- A content behind a marker and a flag, with witness stacks before the lock time. -/
def Content.markedLayout (content : Content) (flag : UInt8) (groups : List (List Bytes)) :
    List Piece :=
  [.verbatim (leBytes 4 content.version.toNat), .count 0, .verbatim [flag],
      .count content.inputs.length] ++
    content.inputs.flatMap Input.Content.layout ++ [.count content.outputs.length] ++
    content.outputs.flatMap Output.Content.layout ++ groups.flatMap stackLayout ++
    [.verbatim (leBytes 4 content.locktime.toNat)]

/-- The bytes are a marked form of the content: they spell it behind a marker and some flag,
with one witness stack for each input if the flag is not zero and none if it is, and with
amounts that outputs may be read with. -/
structure Content.MarkedForm (content : Content) (bytes : Bytes) : Prop where
  spelled : ∃ (flag : UInt8) (groups : List (List Bytes)) (spelling : Spelling),
    spelling.pieces = content.markedLayout flag groups ∧ spelling.bytes = bytes ∧
      groups.length = if flag = 0 then 0 else content.inputs.length
  amounts : ∀ output ∈ content.outputs, output.amount.toNat ≤ maxAmount

end Transaction

/-! ## Marked forms are read -/

theorem Input.accepts_read (content : Input.Content) :
    Accepts Input.read content.layout content.received :=
  (Accepts.fixed content.spends.txid).bind ((Accepts.u32 content.spends.position).bind
    ((Accepts.string content.slot).bind ((Accepts.u32 content.sequence).map _)))

theorem Input.Content.content_received (content : Input.Content) :
    content.received.content = content := by
  simp only [received, Input.content, bytes_ofBytes]
  rfl

/-- An output is read wherever it stands; only its script knows where that is. -/
theorem Output.accepts_read {content : Output.Content}
    (inRange : content.amount.toNat ≤ maxAmount) :
    AcceptsSome Output.read content.layout fun output => output.content = content := by
  have amount := Reader.accepts_iff.mp (Accepts.u64 content.amount)
  have length := Reader.accepts_iff.mp (Accepts.compactSize content.source.length)
  rw [funext read_eq]
  refine amount.bind ?_
  rintro _ rfl
  simp only [if_neg (Nat.not_lt.mpr inRange)]
  refine length.bind ?_
  rintro _ rfl
  exact .verbatim fun skipped =>
    ⟨_, reads_script content.amount content.source skipped, rfl⟩

namespace Transaction

theorem accepts_readInputCount (flag : UInt8) (count : Nat) :
    Accepts readInputCount [.count 0, .verbatim [flag], .count count] (flag, count) :=
  (Accepts.compactSize 0).bind ((Accepts.u8 flag).bind ((Accepts.compactSize count).map _))

theorem accepts_readStack (stack : List Bytes) : Accepts readStack (stackLayout stack) stack :=
  (Accepts.compactSize stack.length).bind
    (Accepts.replicate stack fun item _ => Accepts.string item)

theorem accepts_readWitnesses {flag : UInt8} {inputs : Nat} {groups : List (List Bytes)}
    (each : groups.length = if flag = 0 then 0 else inputs) :
    Accepts (readWitnesses flag inputs) (groups.flatMap stackLayout) groups.flatten := by
  by_cases plain : flag = 0
  · rw [if_pos plain, List.length_eq_zero_iff] at each
    rw [readWitnesses, if_pos plain, each]
    exact Accepts.pure []
  · rw [if_neg plain] at each
    rw [readWitnesses, if_neg plain, ← each]
    exact (Accepts.replicate groups fun stack _ => accepts_readStack stack).map List.flatten

/-- What is spelled behind a marker is read. -/
theorem acceptsSome_readFields {content : Content} {flag : UInt8} {groups : List (List Bytes)}
    (each : groups.length = if flag = 0 then 0 else content.inputs.length)
    (amounts : ∀ output ∈ content.outputs, output.amount.toNat ≤ maxAmount) :
    AcceptsSome readFields (content.markedLayout flag groups)
      fun fields => fields.content = content := by
  have version := Reader.accepts_iff.mp (Accepts.u32 content.version)
  have counted := Reader.accepts_iff.mp (accepts_readInputCount flag content.inputs.length)
  have inputs : AcceptsSome (fun _ => Reader.replicate Input.read content.inputs.length)
      (content.inputs.flatMap Input.Content.layout)
      fun inputs => inputs.map Input.content = content.inputs := by
    refine AcceptsSome.replicate Input.content content.inputs fun input _ => ?_
    intro spelling spells skipped
    exact ⟨_, Input.accepts_read input spelling spells skipped, input.content_received⟩
  have outputCount := Reader.accepts_iff.mp (Accepts.compactSize content.outputs.length)
  have outputs := AcceptsSome.replicate Output.content content.outputs fun output member =>
    Output.accepts_read (amounts output member)
  have witnesses := Reader.accepts_iff.mp (accepts_readWitnesses each)
  have locktime := Reader.accepts_iff.mp (Accepts.u32 content.locktime)
  have all : AcceptsSome readFields
      ([.verbatim (leBytes 4 content.version.toNat)] ++
        ([.count 0, .verbatim [flag], .count content.inputs.length] ++
          (content.inputs.flatMap Input.Content.layout ++ ([.count content.outputs.length] ++
            (content.outputs.flatMap Output.Content.layout ++ (groups.flatMap stackLayout ++
              [.verbatim (leBytes 4 content.locktime.toNat)]))))))
      fun fields => fields.content = content := by
    refine version.bind ?_
    rintro _ rfl
    refine counted.bind ?_
    rintro _ rfl
    refine inputs.bind fun spends spent => outputCount.bind ?_
    rintro _ rfl
    refine outputs.bind fun pays paid => witnesses.bind ?_
    rintro _ rfl
    refine locktime.map _ ?_
    rintro _ rfl
    simp only [Transaction.content, ofFields, spent, paid]
  simpa only [Content.markedLayout, List.append_assoc, List.cons_append, List.nil_append] using all

/-! ## What is read is a marked form -/

/-- The witness stacks of the inputs, each by itself, when the flag asks for them. -/
def readGroups (flag : UInt8) (inputs : Nat) : Reader (List (List Bytes)) :=
  if flag = 0 then return [] else Reader.replicate readStack inputs

/-- The fields behind version and marker, and the witness stacks. -/
def readBehindMarker (start : Nat) (version : UInt32) :
    Reader (Transaction × List (List Bytes)) := do
  let flag ← Reader.u8
  let inputCount ← Reader.compactSize
  let inputs ← Reader.replicate Input.read inputCount
  let outputCount ← Reader.compactSize
  let outputs ← Reader.replicate (Output.read start) outputCount
  let groups ← readGroups flag inputCount
  let locktime ← Reader.u32
  return (ofFields version locktime inputs outputs flag groups.flatten, groups)

theorem follows_readStack : Follows [] readStack stackLayout := by
  refine Follows.compactSize.bind fun count => ?_
  intro before items after ran
  obtain ⟨spelling, spells, passes⟩ := Follows.string.replicate count before items after ran
  have pieces : spelling.pieces = items.flatMap Piece.string := spells
  refine ⟨spelling, ?_, passes⟩
  rw [← Reader.replicate_length ran, pieces]
  rfl

theorem follows_readGroups (flag : UInt8) (inputs : Nat) :
    Follows [] (readGroups flag inputs) (·.flatMap stackLayout) :=
  .ite _ (fun _ => .pure rfl) fun _ => follows_readStack.replicate inputs

theorem follows_readBehindMarker (start : Nat) (version : UInt32) :
    Follows [.verbatim (leBytes 4 version.toNat), .count 0] (readBehindMarker start version)
      fun (fields, groups) => fields.content.markedLayout fields.segwitFlag groups := by
  refine Follows.u8.bind fun flag => Follows.compactSize.bind fun inputCount =>
    Input.follows_read.items fun inputs spends => Follows.compactSize.bind fun outputCount =>
      (Output.follows_read start).items fun outputs pays =>
        (follows_readGroups flag inputCount).bind fun groups => Follows.u32.map _ fun locktime => ?_
  subst spends pays
  simp [content, ofFields, Content.markedLayout, List.flatMap_map]

/-- There is one group for each input when the flag asks for them. -/
theorem length_readGroups {flag : UInt8} {inputs : Nat} {before after : Cursor}
    {groups : List (List Bytes)} (ran : readGroups flag inputs before = .ok groups after) :
    groups.length = if flag = 0 then 0 else inputs := by
  unfold readGroups at ran
  split at ran
  · cases ran
    simp [*]
  · rename_i flagged
    rw [if_neg flagged]
    exact Reader.replicate_length ran

theorem readWitnesses_ok {flag : UInt8} {inputs : Nat} {before after : Cursor}
    {witnesses : List Bytes} (ran : readWitnesses flag inputs before = .ok witnesses after) :
    ∃ groups, readGroups flag inputs before = .ok groups after ∧ witnesses = groups.flatten := by
  unfold readWitnesses at ran
  unfold readGroups
  split at ran
  · rename_i plain
    cases ran
    rw [if_pos plain]
    exact ⟨[], rfl, rfl⟩
  · rename_i flagged
    obtain ⟨groups, c, groupsRan, ran⟩ := bind_ok_iff.mp ran
    cases ran
    rw [if_neg flagged]
    exact ⟨groups, groupsRan, rfl⟩

/-- Behind a marker the fields are those that stand there. -/
theorem readFields_marked {start : Nat} {before after : Cursor} {fields : Transaction}
    (marked : Marked before) (ran : readFields start before = .ok fields after) :
    ∃ version c₁ c₂ groups, Reader.u32 before = .ok version c₁ ∧
      Reader.compactSize c₁ = .ok 0 c₂ ∧
      readBehindMarker start version c₂ = .ok (fields, groups) after ∧
      (groups.length = if fields.segwitFlag = 0 then 0 else fields.inputs.length) ∧
      ∀ output ∈ fields.outputs, output.amount.toNat ≤ maxAmount := by
  obtain ⟨version, c₁, c₂, versionRan, markerRan⟩ := marked
  obtain ⟨again, _, versionAgain, ran⟩ := bind_ok_iff.mp ran
  cases versionRan.symm.trans versionAgain
  obtain ⟨⟨flag, inputCount⟩, c₄, countRan, ran⟩ := bind_ok_iff.mp ran
  obtain ⟨first, _, markerAgain, countRan⟩ := bind_ok_iff.mp countRan
  cases markerRan.symm.trans markerAgain
  rw [if_pos rfl] at countRan
  obtain ⟨flag, c₃, flagRan, countRan⟩ := bind_ok_iff.mp countRan
  obtain ⟨inputCount, _, inputCountRan, countRan⟩ := bind_ok_iff.mp countRan
  cases countRan
  obtain ⟨inputs, c₅, inputsRan, ran⟩ := bind_ok_iff.mp ran
  obtain ⟨outputCount, c₆, outputCountRan, ran⟩ := bind_ok_iff.mp ran
  obtain ⟨outputs, c₇, outputsRan, ran⟩ := bind_ok_iff.mp ran
  obtain ⟨witnesses, c₈, witnessesRan, ran⟩ := bind_ok_iff.mp ran
  obtain ⟨locktime, _, locktimeRan, ran⟩ := bind_ok_iff.mp ran
  cases ran
  obtain ⟨groups, groupsRan, rfl⟩ := readWitnesses_ok witnessesRan
  refine ⟨version, c₁, c₂, groups, versionRan, markerRan, ?_, ?_,
    Reader.replicate_all Output.amount_read outputsRan⟩
  · exact bind_ok_iff.mpr ⟨flag, c₃, flagRan, bind_ok_iff.mpr ⟨inputCount, c₄, inputCountRan,
      bind_ok_iff.mpr ⟨inputs, c₅, inputsRan, bind_ok_iff.mpr ⟨outputCount, c₆, outputCountRan,
        bind_ok_iff.mpr ⟨outputs, c₇, outputsRan, bind_ok_iff.mpr ⟨groups, c₈, groupsRan,
          bind_ok_iff.mpr ⟨locktime, _, locktimeRan, rfl⟩⟩⟩⟩⟩⟩⟩
  · have each := length_readGroups groupsRan
    rwa [← Reader.replicate_length inputsRan] at each

/-- What is accepted behind a marker, and as what: the contents whose marked form the bytes
are. -/
theorem ofBytes_marked_iff {bytes : Bytes} (marked : Marked (Cursor.start bytes))
    {content : Content} :
    (∃ back, ofBytes bytes = .ok back ∧ back.content = content) ↔ content.MarkedForm bytes := by
  constructor
  · rintro ⟨back, accepted, rfl⟩
    obtain ⟨fields, reads, rfl⟩ := ofBytes_ok_iff.mp accepted
    have ran := reads [] [] (Nat.le_refl _)
    rw [List.append_nil, List.append_nil] at ran
    obtain ⟨version, c₁, c₂, groups, versionRan, markerRan, ran, each, amounts⟩ :=
      readFields_marked marked ran
    obtain ⟨one, spellsOne, passesOne⟩ := Follows.u32 _ _ _ versionRan
    obtain ⟨two, spellsTwo, passesTwo⟩ := Follows.compactSize _ _ _ markerRan
    obtain ⟨rest, spellsRest, passesRest⟩ := follows_readBehindMarker 0 version _ _ _ ran
    have all : bytes = one.bytes ++ two.bytes ++ rest.bytes ++ [] :=
      ((passesOne.trans passesTwo).trans passesRest).rest
    have pieces : one.pieces ++ two.pieces ++ rest.pieces =
        fields.content.markedLayout fields.segwitFlag groups := by
      rw [← List.nil_append one.pieces, spellsOne, ← List.nil_append two.pieces, spellsTwo]
      exact spellsRest
    rw [(content_received fields bytes).1]
    refine ⟨⟨fields.segwitFlag, groups, one ++ two ++ rest, ?_, ?_, ?_⟩, ?_⟩
    · rw [Spelling.pieces_append, Spelling.pieces_append, pieces]
    · rw [Spelling.bytes_append, Spelling.bytes_append, all, List.append_nil]
    · simpa [Transaction.content] using each
    · simpa [Transaction.content, Output.content] using amounts
  · rintro ⟨⟨flag, groups, spelling, spells, rfl, each⟩, amounts⟩
    obtain ⟨fields, reads, rfl⟩ := acceptsSome_readFields each amounts spelling spells 0
    exact ⟨_, ofBytes_ok reads, (content_received fields _).1⟩

/-! ## Drafts -/

/-- Marker and flag take two bytes. -/
theorem Content.MarkedForm.length_write {content : Content} {bytes : Bytes}
    (form : content.MarkedForm bytes) : content.write.length + 2 ≤ bytes.length := by
  obtain ⟨flag, groups, spelling, spells, rfl, -⟩ := form.spelled
  have marker : compactSizeLength 0 = 1 := rfl
  have shorter := spelling.length_shortest_le
  rw [spells] at shorter
  simp only [markedLayout, write, shortest_append, shortest_cons, shortest_nil, Piece.shortest,
    shortest_flatMap Input.Content.shortest_layout,
    shortest_flatMap Output.Content.shortest_layout, List.length_append, List.length_cons,
    List.length_nil, length_compactSize, marker] at shorter ⊢
  omega

/-- What the canonical form of a transaction is a marked form of is not the transaction. -/
theorem Content.MarkedForm.ne {tx : Transaction} {content : Content}
    (form : content.MarkedForm tx.serialize) : content ≠ tx.content := by
  rintro rfl
  have longer := form.length_write
  rw [serialize_content] at longer
  omega

variable {tx : Transaction} {kept : Option Bytes}

/-- The count of no inputs is a marker. -/
theorem marked_serialize (inputless : tx.inputs = []) : Marked (Cursor.start tx.serialize) := by
  have begins : tx.serialize = leBytes 4 tx.version.toNat ++
      (compactSize 0 ++ (writeOutputs tx.outputs ++ leBytes 4 tx.locktime.toNat)) := by
    simp [serialize, writeInputs, inputless]
  rw [begins]
  exact ⟨_, _, _, Reads.u32 tx.version 0 [] _ (Nat.le_refl _),
    Reads.compactSize 0 0 (by decide) _ _ (Nat.zero_le _)⟩

/-- A transaction without inputs is read back from its wire form as what it is, or refused,
exactly when it still keeps the bytes it was read from, or its canonical form is not the
marked form of anything. Where it is, what it is the marked form of is read, and that is
never the transaction. -/
theorem inputless_reread_iff (history : History tx kept) (inputless : tx.inputs = []) :
    ((∀ back, ofBytes tx.raw = .ok back → back.content = tx.content) ↔
      kept.isSome ∨ ∀ content : Content, ¬ content.MarkedForm tx.serialize) ∧
      (kept = none → ∀ content : Content, content.MarkedForm tx.serialize →
        content ≠ tx.content ∧ ∃ back, ofBytes tx.raw = .ok back ∧ back.content = content) := by
  cases kept with
  | some bytes =>
    obtain ⟨fields, reads, -, content, -⟩ := history.reads bytes rfl
    have raw : tx.raw = bytes := history.raw
    rw [raw, ofBytes_ok reads]
    refine ⟨⟨fun _ => .inl rfl, fun _ back accepted => ?_⟩, nofun⟩
    cases accepted
    exact (content_received fields bytes).1.trans content
  | none =>
    have raw : tx.raw = tx.serialize := history.raw
    have accepts (content : Content) := @ofBytes_marked_iff _ (marked_serialize inputless) content
    rw [raw]
    refine ⟨⟨fun same => .inr fun content form => ?_, ?_⟩,
      fun _ content form => ⟨form.ne, (accepts content).mpr form⟩⟩
    · obtain ⟨back, accepted, rfl⟩ := (accepts content).mpr form
      exact form.ne (same back accepted)
    · rintro (kept | unmarked) back accepted
      · cases kept
      · exact absurd ((accepts back.content).mp ⟨back, accepted, rfl⟩) (unmarked _)

/-- Without outputs there is not enough for a marked form. -/
theorem refuses_empty (history : History tx none) (inputless : tx.inputs = [])
    (outputless : tx.outputs = []) : ∃ cause, ofBytes tx.raw = .error cause := by
  have raw : tx.raw = tx.serialize := history.raw
  rw [raw]
  cases answer : ofBytes tx.serialize with
  | error cause => exact ⟨cause, rfl⟩
  | ok back =>
    have form := (ofBytes_marked_iff (marked_serialize inputless)).mp ⟨back, answer, rfl⟩
    have longer := form.length_write
    have zero : compactSizeLength 0 = 1 := rfl
    have inputs := compactSizeLength_pos back.content.inputs.length
    have outputs := compactSizeLength_pos back.content.outputs.length
    simp only [serialize, writeInputs, writeOutputs, inputless, outputless, Content.write,
      List.length_append, length_leBytes, length_compactSize, List.flatMap_nil, List.length_nil,
      zero] at longer
    omega

/-- A draft that pays 256 to a script of two zeros. Behind the marker it says: flag one, no
inputs, and one output of 2 ^ 49 with an empty script. -/
def doubtful : Transaction :=
  (new 1 0).apply (.addOutputs [Output.ofScript 256 (OutputScript.parse [0, 0] 0)])

theorem misread_doubtful :
    ∃ back, ofBytes doubtful.raw = .ok back ∧ back.content ≠ doubtful.content := by
  refine ⟨_, rfl, ?_⟩
  decide

/-- So the canonical form of the draft is the marked form of something else. -/
theorem inputless_reread_doubtful :
    (¬ ∀ back, ofBytes doubtful.raw = .ok back → back.content = doubtful.content) ∧
      ∃ content : Content, content.MarkedForm doubtful.serialize ∧ content ≠ doubtful.content := by
  have history : History doubtful none := (History.new 1 0).operated (.addOutputs _)
  obtain ⟨back, accepted, differs⟩ := misread_doubtful
  have misread : ¬ ∀ back, ofBytes doubtful.raw = .ok back → back.content = doubtful.content :=
    fun same => differs (same back accepted)
  obtain ⟨unchanged, changed⟩ := inputless_reread_iff history rfl
  refine ⟨misread, ?_⟩
  by_contra none
  refine misread (unchanged.mpr (.inr fun content form => none ⟨content, form, ?_⟩))
  exact (changed rfl content form).1

/-- Drafts are not always read back as what they are or refused. -/
theorem inputless_misread :
    ¬ ∀ tx : Transaction, Reachable tx → tx.inputs = [] →
      (∀ output ∈ tx.outputs, output.amount.toNat ≤ maxAmount) →
      ∀ back, ofBytes tx.raw = .ok back → back.content = tx.content := by
  intro same
  obtain ⟨back, accepted, differs⟩ := misread_doubtful
  exact differs (same doubtful (.operated (.new 1 0) _) rfl (by decide) back accepted)

end Transaction

end ClaimLedger
