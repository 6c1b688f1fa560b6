import ClaimLedger.Proofs.BlindEdits

/-! Looks that nobody notices. Whoever rebuilds the script of an output, or edits an output
of a transaction, gets the same bytes and the same identity whether or not somebody has
looked before, unless the look decoded a claim that is not in its normal form. Such a claim
is written in its normal form once it was looked at, and says the same. -/
namespace ClaimLedger

namespace Output

/-- Looks show in the rebuilt bytes exactly when they decoded something that cost. -/
theorem rebuiltSource_looks_iff {output : Output} (faithful : output.script.Faithful)
    (looks : List Read) :
    (looks.foldl after output).script.rebuiltSource = output.script.rebuiltSource ↔
      (looks.foldl after output).script.template = output.script.template ∨
        output.script.template.Settled := by
  rcases output.looked_cases looks with same | looked
  · rw [same]
    exact ⟨fun _ => .inl rfl, fun _ => rfl⟩
  · rw [looked]
    exact faithful.rebuiltSource_looked_iff

/-- Whoever has the script after looks learns what there was to learn before. -/
theorem meaning_looks (output : Output) (looks : List Read) (host : Output) :
    meaning { host with script := (looks.foldl after output).script } =
      meaning { host with script := output.script } := by
  rcases output.looked_cases looks with same | looked
  · rw [same]
  · rw [looked]
    exact meaning_looked { host with script := output.script }

/-- Rebuilding after looks gives the bytes that rebuilding gives without them exactly when
the looks decoded nothing or cost nothing. The bytes say the same in any case. -/
theorem regenerate_looks {read unread : Output} {source : Bytes} {offset other : Nat}
    (looks : List Read) (reads : read.script = OutputScript.parse source offset)
    (waits : unread.script = OutputScript.parse source other) :
    ∃ rebuilt plain, regenerate (looks.foldl after read) = .ok () rebuilt ∧
      regenerate unread = .ok () plain ∧
      (rebuilt.script.source = plain.script.source ↔
        (looks.foldl after read).script.template = unread.script.template ∨
          unread.script.template.Settled) ∧
      ∀ (host : Output) (start : Nat),
        meaning { host with script := OutputScript.parse rebuilt.script.source start } =
          meaning { host with script := OutputScript.parse plain.script.source start } := by
  have faithful : read.script.Faithful := reads ▸ OutputScript.faithful_parse source offset
  have seen : (looks.foldl after read).script.Faithful := faithful_looked faithful looks
  have template : unread.script.template = read.script.template := by
    rw [reads, waits]
    rfl
  have plain : unread.script.rebuiltSource = read.script.rebuiltSource := by
    rw [reads, waits]
    rfl
  have reread (host : Output) (start : Nat) {script : OutputScript} (faithful : script.Faithful) :
      meaning { host with script := OutputScript.parse script.rebuiltSource start } =
        meaning { host with script := script } :=
    @meaning_reread { host with script := script } faithful start
  refine ⟨(looks.foldl after read).regenerated, unread.regenerated, regenerate_faithful seen,
    regenerate_faithful (waits ▸ OutputScript.faithful_parse source other), ?_, ?_⟩
  · show (looks.foldl after read).script.rebuiltSource = unread.script.rebuiltSource ↔ _
    rw [plain, template]
    exact rebuiltSource_looks_iff faithful looks
  · intro host start
    show meaning { host with
        script := OutputScript.parse (looks.foldl after read).script.rebuiltSource start } =
      meaning { host with script := OutputScript.parse unread.script.rebuiltSource start }
    rw [plain, reread host start seen, reread host start faithful]
    exact meaning_looks read looks host

end Output

namespace Transaction

/-- The transaction after somebody looked at outputs of it, one after the other. -/
def afterLooks (tx : Transaction) (looks : List (Nat × Output.Read)) : Transaction :=
  looks.foldl (fun tx look => tx.afterRead look.1 look.2) tx

theorem Untouched.trans {tx later last : Transaction} (first : tx.Untouched later)
    (second : later.Untouched last) : tx.Untouched last where
  version := second.version.trans first.version
  locktime := second.locktime.trans first.locktime
  height := second.height.trans first.height
  raw := second.raw.trans first.raw
  txRef := second.txRef.trans first.txRef
  inputs := second.inputs.trans first.inputs
  contents := second.contents.trans first.contents
  places := second.places.trans first.places

theorem untouched_afterRead (tx : Transaction) (index : Nat) (how : Output.Read) :
    tx.Untouched (tx.afterRead index how) :=
  untouched_modify tx index (fun output => (after_untouched output how).1)
    fun output => (after_untouched output how).2

theorem untouched_afterLooks (tx : Transaction) (looks : List (Nat × Output.Read)) :
    tx.Untouched (tx.afterLooks looks) := by
  induction looks generalizing tx with
  | nil => exact .refl tx
  | cons look looks ih => exact (untouched_afterRead tx look.1 look.2).trans (ih _)

theorem length_outputs_afterLooks (tx : Transaction) (looks : List (Nat × Output.Read)) :
    (tx.afterLooks looks).outputs.length = tx.outputs.length := by
  have contents := congrArg List.length (untouched_afterLooks tx looks).contents
  simpa only [List.length_map] using contents

theorem output_afterRead {tx : Transaction} {index : Nat} {output : Output}
    (stands : tx.outputs[index]? = some output) (place : Nat) (how : Output.Read) :
    (tx.afterRead place how).outputs[index]? = some output ∨
      (tx.afterRead place how).outputs[index]? = some output.looked := by
  simp only [afterRead, List.getElem?_modify, stands, Option.map_eq_map, Option.map_some]
  by_cases here : place = index
  · rw [if_pos here]
    exact (output.after_cases how).imp (congrArg some) (congrArg some)
  · rw [if_neg here]
    exact .inl rfl

/-- Each output is as before, or looked at once. -/
theorem output_afterLooks {tx : Transaction} {index : Nat} {output : Output}
    (stands : tx.outputs[index]? = some output) (looks : List (Nat × Output.Read)) :
    (tx.afterLooks looks).outputs[index]? = some output ∨
      (tx.afterLooks looks).outputs[index]? = some output.looked := by
  induction looks generalizing tx output with
  | nil => exact .inl stands
  | cons look looks ih =>
    rcases output_afterRead stands look.1 look.2 with same | looked
    · exact ih same
    · rcases ih looked with again | again
      · exact .inr again
      · rw [output.looked_looked] at again
        exact .inr again

/-- Outputs that differ by looks that cost nothing stand at the index, or none does. -/
theorem glanced_afterLooks {tx : Transaction} {index : Nat} {looks : List (Nat × Output.Read)}
    {output : Output} (stands : tx.outputs[index]? = some output)
    (harmless : (tx.afterLooks looks).outputs[index]? = tx.outputs[index]? ∨
      output.script.template.Settled) :
    ∃ seen, (tx.afterLooks looks).outputs[index]? = some seen ∧ output.Glanced seen := by
  rcases harmless with same | settled
  · exact ⟨output, same.trans stands, .refl output⟩
  · rcases output_afterLooks stands looks with same | looked
    · exact ⟨output, same, .refl output⟩
    · exact ⟨output.looked, looked, .looked settled⟩

/-- What is identified anew depends on what travels and on how many outputs there are. -/
theorem untouched_invalidate {tx later : Transaction} (version : later.version = tx.version)
    (locktime : later.locktime = tx.locktime) (height : later.height = tx.height)
    (inputs : later.inputs = tx.inputs)
    (contents : later.outputs.map Output.content = tx.outputs.map Output.content) :
    tx.invalidate.Untouched later.invalidate := by
  have same : later.content = tx.content := by
    simp only [content, version, locktime, inputs, contents]
  have raw : later.serialize = tx.serialize := serialize_congr same
  have length : later.outputs.length = tx.outputs.length := by
    simpa only [List.length_map] using congrArg List.length contents
  have txRef : later.invalidate.txRef = tx.invalidate.txRef := by
    show refOf later.serialize later.height = refOf tx.serialize tx.height
    rw [raw, height]
  constructor
  case version => exact version
  case locktime => exact locktime
  case height => exact height
  case raw => exact raw
  case txRef => exact txRef
  case inputs =>
    show later.inputs.mapIdx (fun i input => input.attach ⟨later.invalidate.txRef, .ofNat i⟩) =
      tx.inputs.mapIdx (fun i input => input.attach ⟨tx.invalidate.txRef, .ofNat i⟩)
    rw [inputs, txRef]
  case contents =>
    have stamped (tx : Transaction) : tx.invalidate.outputs.map Output.content =
        tx.outputs.map Output.content :=
      congrArg Content.outputs (content_identify tx tx.serialize)
    rw [stamped, stamped, contents]
  case places =>
    have stamped (tx : Transaction) : tx.invalidate.outputs.map (·.place) =
        (List.range tx.outputs.length).map
          fun i => some ⟨tx.invalidate.txRef, UInt32.ofNat i⟩ := by
      refine List.ext_getElem (by simp [invalidate, identify, stampChildren]) fun i _ _ => ?_
      simp [invalidate, identify, stampChildren, Output.attach]
    rw [stamped, stamped, length, txRef]

/-- Outputs that the edit leaves alike leave the transactions alike. -/
theorem editOutput_afterLooks {α : Type} {edit : EStateM Error Output α} {tx : Transaction}
    {index : Nat} {looks : List (Nat × Output.Read)} {output seen : Output}
    (stands : tx.outputs[index]? = some output)
    (seenStands : (tx.afterLooks looks).outputs[index]? = some seen)
    (same : SameOutcome Output.Glanced (edit output) (edit seen)) :
    SameOutcome Untouched (editOutput index edit tx)
      (editOutput index edit (tx.afterLooks looks)) := by
  have untouched := untouched_afterLooks tx looks
  have replaced {changed changed' : Output} (same : changed.Glanced changed') :
      (tx.replaceOutput index changed).invalidate.Untouched
        ((tx.afterLooks looks).replaceOutput index changed').invalidate := by
    refine untouched_invalidate untouched.version untouched.locktime untouched.height
      untouched.inputs ?_
    simp only [replaceOutput, List.map_set, untouched.contents, same.content]
  simp only [editOutput, Transaction.output, stands, seenStands]
  rcases same.cases_of with
    ⟨result, changed, changed', ran, ran', same⟩ | ⟨cause, changed, changed', ran, ran', same⟩
  · rw [ran, ran']
    exact .ok result (replaced same)
  · rw [ran, ran']
    exact .error cause (replaced same)

/-- An edit that does not ask leaves the same transaction after a look, as far as it
travels or is identified, unless the look was at what is edited and cost something. -/
theorem modifyOutput_afterLooks {α : Type} {edit : EStateM Error Output α}
    (blind : Output.Blind edit) {tx : Transaction} {index : Nat} {looks : List (Nat × Output.Read)}
    (harmless : (tx.afterLooks looks).outputs[index]? = tx.outputs[index]? ∨
      ∀ output, tx.outputs[index]? = some output → output.script.template.Settled) :
    SameOutcome Untouched (modifyOutput index edit tx)
      (modifyOutput index edit (tx.afterLooks looks)) := by
  cases stands : tx.outputs[index]? with
  | none =>
    have beyond := List.getElem?_eq_none_iff.mp stands
    have none : (tx.afterLooks looks).outputs[index]? = none := by
      rw [List.getElem?_eq_none_iff, length_outputs_afterLooks]
      exact beyond
    simp only [modifyOutput, editOutput, Transaction.output, stands, none,
      length_outputs_afterLooks]
    exact .error _ (untouched_afterLooks tx looks)
  | some output =>
    obtain ⟨seen, seenStands, glanced⟩ :=
      glanced_afterLooks stands (harmless.imp_right fun settled => settled output stands)
    exact editOutput_afterLooks stands seenStands (blind.thenRegenerate output seen glanced)

/-- An edit that begins by changing the claim decodes it itself, whatever it does next. -/
theorem modifyOutput_editClaim_afterLooks {α : Type} (change : Claim → Claim)
    (next : Unit → EStateM Error Output α) {tx : Transaction} {index : Nat}
    {looks : List (Nat × Output.Read)} {output : Output} {claim : Claim}
    (stands : tx.outputs[index]? = some output) (decodes : output.claim = .ok claim) :
    SameOutcome Untouched (modifyOutput index (Output.editClaim change >>= next) tx)
      (modifyOutput index (Output.editClaim change >>= next) (tx.afterLooks looks)) := by
  rcases output_afterLooks stands looks with same | looked
  · exact editOutput_afterLooks stands same (.refl .refl _)
  · refine editOutput_afterLooks stands looked ?_
    simp only [thenRegenerate, Bind.bind, EStateM.bind, Output.editClaim_looked decodes]
    exact .refl .refl _

/-- A look at a script that was read is noticed by whoever rebuilds the script exactly when
it decoded a claim that is not in its normal form, and even then the bytes say the same.
So an edit that does not itself ask whether the payload is decoded has the same result,
and leaves the same bytes and the same identity, whether or not somebody looked at the
outputs of the transaction before, unless it edits the output of such a claim. Even there
an edit that begins by changing the claim, whatever it does next, leaves the same. The
edits of this library do not ask. -/
theorem looks_unnoticed :
    (∀ {read unread : Output} {source : Bytes} {offset other : Nat} (looks : List Output.Read),
      read.script = OutputScript.parse source offset →
      unread.script = OutputScript.parse source other →
      ∃ rebuilt plain, Output.regenerate (looks.foldl Output.after read) = .ok () rebuilt ∧
        Output.regenerate unread = .ok () plain ∧
        (rebuilt.script.source = plain.script.source ↔
          (looks.foldl Output.after read).script.template = unread.script.template ∨
            unread.script.template.Settled) ∧
        ∀ (host : Output) (start : Nat),
          { host with script := OutputScript.parse rebuilt.script.source start }.meaning =
            { host with script := OutputScript.parse plain.script.source start }.meaning) ∧
      (∀ {α : Type} {edit : EStateM Error Output α}, Output.Blind edit →
        ∀ {tx : Transaction} {index : Nat} {looks : List (Nat × Output.Read)},
          ((tx.afterLooks looks).outputs[index]? = tx.outputs[index]? ∨
            ∀ output, tx.outputs[index]? = some output → output.script.template.Settled) →
          SameOutcome Untouched (modifyOutput index edit tx)
            (modifyOutput index edit (tx.afterLooks looks))) ∧
      (∀ {α : Type} (change : Claim → Claim) (next : Unit → EStateM Error Output α)
        {tx : Transaction} {index : Nat} {looks : List (Nat × Output.Read)} {output : Output}
        {claim : Claim}, tx.outputs[index]? = some output → output.claim = .ok claim →
          SameOutcome Untouched (modifyOutput index (Output.editClaim change >>= next) tx)
            (modifyOutput index (Output.editClaim change >>= next) (tx.afterLooks looks))) ∧
      ∀ edits, Output.Blind (Output.Edit.applyAll edits) :=
  ⟨Output.regenerate_looks, modifyOutput_afterLooks, modifyOutput_editClaim_afterLooks,
    Output.blind_applyAll⟩

/-- A script that names the claim "a" with a payload of less than 76 bytes. -/
def namingScript (payload : Bytes) : Bytes :=
  OutputTemplate.opClaimName :: 1 :: 0x61 :: UInt8.ofNat payload.length :: payload ++
    [OutputTemplate.opTwoDrop, OutputTemplate.opDrop] ++
    (Payee.pubKeyHash (FixedBytes.zeros 20)).script

/-- An output with such a script, as it is read. -/
def naming (payload : Bytes) : Output :=
  .ofScript 1 (OutputScript.parse (namingScript payload) 0)

/-- A stream that says nothing. -/
def silent : Bytes := [0, 1, 0, 0, 0]

/-- The same stream, with three bytes for the length of its title. -/
def longSilent : Bytes := [0, 1, 0xFD, 0, 0, 0, 0]

theorem looks_unnoticed_silent :
    (∃ rebuilt plain,
      Output.regenerate ([.price, .claim].foldl Output.after (naming silent)) = .ok () rebuilt ∧
        Output.regenerate (naming silent) = .ok () plain ∧
        rebuilt.script.source = plain.script.source) ∧
      SameOutcome Untouched
        (modifyOutput 0 (Output.Edit.applyAll [.amount 2, .title "a"])
          (Transaction.empty.addOutputs [naming silent]))
        (modifyOutput 0 (Output.Edit.applyAll [.amount 2, .title "a"])
          ((Transaction.empty.addOutputs [naming silent]).afterLooks [(0, .hasPrice)])) ∧
      SameOutcome Untouched
        (modifyOutput 0 (Output.editClaim Claim.clearSignature >>= pure)
          (Transaction.empty.addOutputs [naming longSilent]))
        (modifyOutput 0 (Output.editClaim Claim.clearSignature >>= pure)
          ((Transaction.empty.addOutputs [naming longSilent]).afterLooks [(0, .claim)])) := by
  obtain ⟨rebuilding, editing, changing, blind⟩ := looks_unnoticed
  have settled : (naming silent).script.template.Settled := by
    intro claim _ decodes
    have written : Claim.decode silent = .ok (Claim.ofMessage (.stream ⟨"", "", none⟩)) := rfl
    obtain rfl := Except.ok.inj (written.symm.trans decodes)
    rfl
  refine ⟨?_, ?_, changing Claim.clearSignature pure rfl rfl⟩
  · obtain ⟨rebuilt, plain, rebuilds, plainly, unnoticed, -⟩ :=
      @rebuilding (naming silent) (naming silent) _ _ _ [.price, .claim] rfl rfl
    exact ⟨rebuilt, plain, rebuilds, plainly, unnoticed.mpr (.inr settled)⟩
  · refine editing (blind _) (.inr fun output stands => ?_)
    obtain rfl : (naming silent).attach _ = output := Option.some.inj stands
    exact settled

/-- The two bytes that the length takes too many are gone after a look, from the script
and from the transaction that holds it. -/
theorem looks_noticed :
    (∃ rebuilt plain, Output.regenerate ((naming longSilent).after .claim) = .ok () rebuilt ∧
      Output.regenerate (naming longSilent) = .ok () plain ∧
      rebuilt.script.source ≠ plain.script.source) ∧
    ∃ seen unseen,
      modifyOutput 0 (pure ())
        ((Transaction.empty.addOutputs [naming longSilent]).afterLooks [(0, .claim)]) =
          .ok () seen ∧
      modifyOutput 0 (pure ()) (Transaction.empty.addOutputs [naming longSilent]) =
          .ok () unseen ∧
      seen.raw ≠ unseen.raw :=
  ⟨⟨_, _, rfl, rfl, by decide⟩, ⟨_, _, rfl, rfl, by decide⟩⟩

end Transaction

end ClaimLedger
