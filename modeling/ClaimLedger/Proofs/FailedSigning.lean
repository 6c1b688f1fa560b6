import ClaimLedger.Proofs.ClaimEditing
import ClaimLedger.Proofs.RoundTrip

/-! Signing and clearing that fail. Whatever the reason, nothing that travels is
changed. A transaction that still keeps the bytes it was read from forgets them
all the same once there was an output to edit: its wire form becomes the
canonical one, and the identity follows. Where the wire form was canonical the
transaction is exactly as it was, unless the claim was changed in memory and
then turned out to be too large for a script. -/
namespace ClaimLedger

namespace Output

/-- The edit changes nothing of the output when it fails, or only what does not
travel because a field is too large for a script. -/
def FailsCleanly (edit : EStateM Error Output Unit) : Prop :=
  ∀ {output later : Output} {cause : Error}, edit output = .error cause later →
    later = output ∨ later.content = output.content ∧
      ∃ length, Script.pushLimit ≤ length ∧ cause = .malformed (.pushTooLarge length)

theorem failsCleanly_rewriteClaim (edit : Claim → Claim) (channel : Option ClaimHash) :
    FailsCleanly (rewriteClaim edit channel) := by
  intro output later cause failed
  cases decodes : output.claim with
  | error fault =>
    rw [rewriteClaim_undecoded decodes] at failed
    cases failed
    exact .inl rfl
  | ok claim =>
    by_cases pushable : (output.holding (edit claim) channel).script.template.Pushable
    · rw [rewriteClaim_ok decodes pushable] at failed
      cases failed
    · obtain ⟨length, large, refused⟩ := rewriteClaim_oversized decodes pushable
      rw [refused] at failed
      cases failed
      exact .inr ⟨rfl, length, large, rfl⟩

theorem failsCleanly_clearSignature : FailsCleanly clearSignature := by
  rw [clearSignature_eq]
  exact failsCleanly_rewriteClaim Claim.clearSignature none

theorem failsCleanly_sign (channel : Output) (anchor : Bytes) :
    FailsCleanly (sign channel anchor) := by
  intro output later cause failed
  by_cases able : ∃ key hash, channel.annotations.privateKey = some key ∧
      channel.claimHash = .ok hash
  · obtain ⟨key, hash, keeps, identity⟩ := able
    rw [sign_eq keeps identity] at failed
    exact failsCleanly_rewriteClaim _ _ failed
  · obtain ⟨fault, refuses⟩ : ∃ cause, ∀ output, sign channel anchor output = .error cause output :=
      sign_refuses fun key hash keeps identity => able ⟨key, hash, keeps, identity⟩
    rw [refuses] at failed
    cases failed
    exact .inl rfl

end Output

namespace Transaction

/-- Signing and clearing. -/
def Operation.signs : Operation → Bool
  | sign .. => true
  | clear _ => true
  | _ => false

/-- All fields are as they were, except for what does not travel of the outputs
and for what follows from the wire form. -/
structure SameFields (tx later : Transaction) : Prop where
  version : later.version = tx.version
  locktime : later.locktime = tx.locktime
  segwitFlag : later.segwitFlag = tx.segwitFlag
  witnesses : later.witnesses = tx.witnesses
  height : later.height = tx.height
  position : later.position = tx.position
  isVerified : later.isVerified = tx.isVerified
  day : later.day = tx.day
  inputs : later.inputs.map Input.detached = tx.inputs.map Input.detached
  contents : later.outputs.map Output.content = tx.outputs.map Output.content

theorem detached_invalidate (tx : Transaction) :
    tx.invalidate.inputs.map Input.detached = tx.inputs.map Input.detached ∧
      tx.invalidate.outputs.map Output.detached = tx.outputs.map Output.detached :=
  ⟨map_view_mapIdx Input.detached (by intros; rfl) tx.inputs,
    map_view_mapIdx Output.detached (by intros; rfl) tx.outputs⟩

theorem replaceOutput_self {tx : Transaction} {index : Nat} {output : Output}
    (stands : tx.outputs[index]? = some output) : tx.replaceOutput index output = tx := by
  obtain ⟨inside, rfl⟩ := List.getElem?_eq_some_iff.mp stands
  simp only [replaceOutput, List.set_getElem_self]

/-- Replacing an output by one of the same content changes no content. -/
theorem contents_replaceOutput {tx : Transaction} {index : Nat} {output other : Output}
    (stands : tx.outputs[index]? = some output) (same : other.content = output.content) :
    (tx.replaceOutput index other).outputs.map Output.content = tx.outputs.map Output.content := by
  have view : (tx.outputs.map Output.content)[index]? = some other.content := by
    rw [List.getElem?_map, stands, same, Option.map_some]
  obtain ⟨inside, item⟩ := List.getElem?_eq_some_iff.mp view
  rw [replaceOutput, List.map_set, ← item, List.set_getElem_self]

/-- The ways for an edit of an output to fail: there is no such output, or the
edit fails and the transaction is identified anew. -/
theorem editOutput_error {index : Nat} {edit : EStateM Error Output Unit} {tx later : Transaction}
    {cause : Error} (failed : editOutput index edit tx = .error cause later) :
    (later = tx ∧ tx.outputs.length ≤ index) ∨
      ∃ output changed, tx.outputs[index]? = some output ∧ edit output = .error cause changed ∧
        later = (tx.replaceOutput index changed).invalidate := by
  unfold editOutput Transaction.output at failed
  cases stands : tx.outputs[index]? with
  | none =>
    simp only [stands] at failed
    cases failed
    exact .inl ⟨rfl, List.getElem?_eq_none_iff.mp stands⟩
  | some output =>
    simp only [stands] at failed
    cases ran : edit output with
    | ok result changed =>
      simp only [ran] at failed
      cases failed
    | error fault changed =>
      simp only [ran] at failed
      cases failed
      exact .inr ⟨output, changed, rfl, ran, rfl⟩

/-- The ways to fail for signing and clearing: nothing happens, or one output is
edited cleanly and the transaction is identified anew. -/
theorem signs_error {op : Operation} {tx later : Transaction} {cause : Error}
    (signing : op.signs = true) (failed : op.perform tx = .error cause later) :
    (later = tx ∧ op.drops tx = false) ∨
      op.drops tx = true ∧ ∃ index output changed, tx.outputs[index]? = some output ∧
        later = (tx.replaceOutput index changed).invalidate ∧
        (changed = output ∨ changed.content = output.content ∧
          ∃ length, Script.pushLimit ≤ length ∧ cause = .malformed (.pushTooLarge length)) := by
  cases op with
  | sign index channel supplied =>
    have anchored := isOk_signingAnchor tx supplied
    simp only [Operation.drops, ← anchored]
    simp only [Operation.perform, signOutput] at failed
    cases found : tx.signingAnchor supplied with
    | error fault =>
      rw [found] at failed
      cases failed
      exact .inl ⟨rfl, rfl⟩
    | ok anchor =>
      rw [found] at failed
      rcases editOutput_error failed with ⟨rfl, beyond⟩ | ⟨output, changed, stands, ran, rfl⟩
      · exact .inl ⟨rfl, by simpa [Except.isOk, Except.toBool] using beyond⟩
      · have inside := (List.getElem?_eq_some_iff.mp stands).1
        exact .inr ⟨by simpa [Except.isOk, Except.toBool] using inside, index, output, changed,
          stands, rfl, Output.failsCleanly_sign channel anchor ran⟩
  | clear index =>
    rcases editOutput_error failed with ⟨rfl, beyond⟩ | ⟨output, changed, stands, ran, rfl⟩
    · exact .inl ⟨rfl, by simpa [Operation.drops] using beyond⟩
    · have inside := (List.getElem?_eq_some_iff.mp stands).1
      exact .inr ⟨by simpa [Operation.drops] using inside, index, output, changed, stands, rfl,
        Output.failsCleanly_clearSignature ran⟩
  | _ => cases signing

/-- Replacing an output by one of the same content and identifying the transaction
anew changes no field. -/
theorem sameFields_replaceOutput {tx : Transaction} {index : Nat} {output other : Output}
    (stands : tx.outputs[index]? = some output) (same : other.content = output.content) :
    tx.SameFields (tx.replaceOutput index other).invalidate where
  version := rfl
  locktime := rfl
  segwitFlag := rfl
  witnesses := rfl
  height := rfl
  position := rfl
  isVerified := rfl
  day := rfl
  inputs := (detached_invalidate _).1
  contents := (congrArg Content.outputs (content_identify _ _)).trans
    (contents_replaceOutput stands same)

theorem serialize_replaceOutput {tx : Transaction} {index : Nat} {output other : Output}
    (stands : tx.outputs[index]? = some output) (same : other.content = output.content) :
    (tx.replaceOutput index other).serialize = tx.serialize := by
  refine serialize_congr ?_
  simp only [content, contents_replaceOutput stands same]
  rfl

/-- A signing operation that fails changes no field that travels, no input and
nothing of the status. The wire form becomes the canonical one where there was an
output to edit and stays where there was none; so a canonical form stays with its
identity. Claims and annotations of the outputs stay too, and then nothing at all
is changed where the form was canonical; only a claim that turns out to be too
large for a script may stay behind in memory. -/
theorem failed_signing {tx later : Transaction} {op : Operation} {cause : Error}
    (reached : Reachable tx) (signing : op.signs = true)
    (failed : op.perform tx = .error cause later) :
    tx.SameFields later ∧
      later.raw = (if op.drops tx then tx.serialize else tx.raw) ∧
      (tx.raw = tx.serialize → later.raw = tx.raw ∧ later.id = tx.id) ∧
      (later.outputs.map Output.detached = tx.outputs.map Output.detached ∧
          (tx.raw = tx.serialize → later = tx) ∨
        ∃ length, Script.pushLimit ≤ length ∧ cause = .malformed (.pushTooLarge length)) := by
  obtain ⟨kept, history⟩ := reached.history
  have coherent := history.coherent
  -- Either nothing ran, or one output was replaced by one of the same content.
  rcases signs_error signing failed with ⟨rfl, stays⟩ |
    ⟨drops, index, output, changed, stands, rfl, cleanly⟩
  · refine ⟨⟨rfl, rfl, rfl, rfl, rfl, rfl, rfl, rfl, rfl, rfl⟩, ?_, fun _ => ⟨rfl, rfl⟩,
      .inl ⟨rfl, fun _ => rfl⟩⟩
    simp [stays]
  · have same : changed.content = output.content := by
      rcases cleanly with rfl | ⟨same, -⟩
      · rfl
      · exact same
    have raw : (tx.replaceOutput index changed).invalidate.raw = tx.serialize :=
      serialize_replaceOutput stands same
    refine ⟨sameFields_replaceOutput stands same, by rw [raw, if_pos drops], ?_, ?_⟩
    · intro canonical
      have kept := raw.trans canonical.symm
      exact ⟨kept, (coherent_identify _ _).id_congr coherent kept⟩
    · rcases cleanly with rfl | ⟨-, oversized⟩
      · rw [replaceOutput_self stands]
        exact .inl ⟨(detached_invalidate tx).2, coherent.invalidate_eq⟩
      · exact .inr oversized

/-- There is no claim to clear in a payment; its padded count is gone afterwards. -/
theorem failed_signing_padded :
    ∃ later, (Operation.clear 0).perform padded = .error (.noClaim .payload) later ∧
      padded.SameFields later ∧ later.raw = padded.serialize ∧
      later.outputs.map Output.detached = padded.outputs.map Output.detached := by
  obtain ⟨later, failed⟩ : ∃ later,
      (Operation.clear 0).perform padded = .error (.noClaim .payload) later := ⟨_, rfl⟩
  obtain ⟨fields, raw, -, kept⟩ := failed_signing (.parsed read_padded) rfl failed
  refine ⟨later, failed, fields, raw, ?_⟩
  rcases kept with ⟨outputs, -⟩ | ⟨length, -, oversized⟩
  · exact outputs
  · cases oversized

/-- The wire form need not stay: it was not canonical. -/
theorem failed_signing_recodes :
    Reachable padded ∧ (Operation.clear 0).signs = true ∧
      ∃ later, (Operation.clear 0).perform padded = .error (.noClaim .payload) later ∧
        later.raw ≠ padded.raw :=
  ⟨.parsed read_padded, rfl, _, rfl, by decide⟩

end Transaction

end ClaimLedger
