import ClaimLedger.Proofs.ClaimEditing
import ClaimLedger.Proofs.Effects
import ClaimLedger.Proofs.Looking

/-! Edits after a look. Two outputs that differ by nothing but a look are told apart by
asking whether the payload is decoded, and by rebuilding the script where the look cost
something. An edit that does not ask does not see a look that cost nothing: it gives the
same answer or fails in the same way, and leaves outputs that again differ by such a look.
All edits of this library are of this kind. -/
namespace ClaimLedger

/-- The same result or the same error, and states that are alike. -/
inductive SameOutcome {σ α : Type} (alike : σ → σ → Prop) :
    EStateM.Result Error σ α → EStateM.Result Error σ α → Prop where
  | ok (result : α) {state other : σ} (same : alike state other) :
      SameOutcome alike (.ok result state) (.ok result other)
  | error (cause : Error) {state other : σ} (same : alike state other) :
      SameOutcome alike (.error cause state) (.error cause other)

theorem SameOutcome.refl {σ α : Type} {alike : σ → σ → Prop} (same : ∀ state, alike state state)
    (outcome : EStateM.Result Error σ α) : SameOutcome alike outcome outcome := by
  cases outcome with
  | ok result state => exact .ok result (same state)
  | error cause state => exact .error cause (same state)

theorem SameOutcome.cases_of {σ α : Type} {alike : σ → σ → Prop}
    {outcome outcome' : EStateM.Result Error σ α} (same : SameOutcome alike outcome outcome') :
    (∃ result state other, outcome = .ok result state ∧ outcome' = .ok result other ∧
        alike state other) ∨
      ∃ cause state other, outcome = .error cause state ∧ outcome' = .error cause other ∧
        alike state other := by
  cases same with
  | ok result same => exact .inl ⟨result, _, _, rfl, rfl, same⟩
  | error cause same => exact .inr ⟨cause, _, _, rfl, rfl, same⟩

theorem SameOutcome.stateAfter {σ α : Type} {alike : σ → σ → Prop}
    {outcome outcome' : EStateM.Result Error σ α} (same : SameOutcome alike outcome outcome') :
    alike (Transaction.stateAfter outcome) (Transaction.stateAfter outcome') := by
  cases same with
  | ok result same => exact same
  | error cause same => exact same

/-- Bytes depend on what the payload is, not on whether it is decoded. -/
theorem OutputTemplate.encode?_looked (template : OutputTemplate) :
    template.looked.encode? = template.encode? := by
  have undecoded (template : OutputTemplate) : template.undecoded.encode? = template.encode? := by
    cases template <;> rfl
  rw [← undecoded, undecoded_looked, undecoded]

namespace OutputScript

theorem claim?_looked (script : OutputScript) :
    script.looked.claim? = script.claim?.map Payload.decoded := by
  obtain ⟨source, offset, template⟩ := script
  cases template <;> rfl

/-- A claim takes the place of the payload, decoded or not. -/
theorem setClaim_looked {script : OutputScript} {payload : Payload Claim}
    (carries : script.claim? = some payload) (other : Payload Claim) :
    script.looked.setClaim other = script.setClaim other := by
  obtain ⟨source, offset, template⟩ := script
  cases template with
  | claimName name claim payee => rfl
  | updateClaim name claimHash claim payee => rfl
  | _ => cases carries

end OutputScript

namespace Output

/-! ## Edits that do not see a difference -/

section Differences
variable {α β : Type} {alike : Output → Output → Prop}

/-- The edit has the same answer on outputs that are alike, or fails on them in the same
way, and leaves outputs that are alike. -/
def Respects (alike : Output → Output → Prop) (edit : EStateM Error Output α) : Prop :=
  ∀ output other : Output, alike output other → SameOutcome alike (edit output) (edit other)

theorem respects_pure (result : α) : Respects alike (pure result) :=
  fun _ _ same => .ok result same

theorem respects_throw (cause : Error) :
    Respects alike (throw cause : EStateM Error Output α) :=
  fun _ _ same => .error cause same

theorem respects_ofExcept (answer : Except Error α) :
    Respects alike (MonadExcept.ofExcept answer : EStateM Error Output α) := by
  cases answer with
  | ok result => exact respects_pure result
  | error cause => exact respects_throw cause

theorem Respects.bind {edit : EStateM Error Output α} {next : α → EStateM Error Output β}
    (first : Respects alike edit) (second : ∀ result, Respects alike (next result)) :
    Respects alike (edit >>= next) := by
  intro output other same
  simp only [Bind.bind, EStateM.bind]
  rcases (first output other same).cases_of with
    ⟨result, changed, changed', ran, ran', same⟩ | ⟨cause, changed, changed', ran, ran', same⟩
  · rw [ran, ran']
    exact second result changed changed' same
  · rw [ran, ran']
    exact .error cause same

/-- What follows may depend on the output where it is the same on alike outputs. -/
theorem Respects.ask {next : Output → EStateM Error Output α}
    (agrees : ∀ {output other}, alike output other → next other = next output)
    (respects : ∀ output, Respects alike (next output)) : Respects alike (get >>= next) := by
  intro output other same
  have ran := respects output output other same
  show SameOutcome alike (next output output) (next other other)
  rw [agrees same]
  exact ran

theorem respects_modify {change : Output → Output}
    (keeps : ∀ {output other}, alike output other → alike (change output) (change other)) :
    Respects alike (modify change : EStateM Error Output Unit) :=
  fun _ _ same => .ok () (keeps same)

/-- Installing a key stops where the claim does not decode, and goes on with the output
decoded. -/
theorem installChannelKey_eq (fresh : ChannelKey) (output : Output) :
    installChannelKey fresh output =
      match output.claim with
      | .error cause => .error cause output
      | .ok claim =>
        (if claim.isChannel then setChannelKey fresh >>= fun _ => pure fresh
          else throw (.noClaim .notChannel) : EStateM Error Output ChannelKey)
            output.claimDecoded := by
  show (MonadExcept.ofExcept output.claim >>= fun claim =>
    (set output.claimDecoded >>= fun _ =>
      if claim.isChannel then setChannelKey fresh >>= fun _ => pure fresh
      else throw (.noClaim .notChannel) : EStateM Error Output ChannelKey)) output = _
  cases output.claim <;> rfl

/-- A difference that shows neither in the claim nor to the steps of which the edits of this
library are made. -/
structure Unseen (alike : Output → Output → Prop) : Prop where
  claim : ∀ {output other}, alike output other → other.claim = output.claim
  claimDecoded : ∀ {output other}, alike output other →
    alike output.claimDecoded other.claimDecoded
  editClaim : ∀ edit, Respects alike (Output.editClaim edit)
  annotate : ∀ change : Annotations → Annotations,
    Respects alike (modify fun output => { output with annotations := change output.annotations })
  regenerate : Respects alike Output.regenerate

namespace Unseen

theorem rewriteClaim (unseen : Unseen alike) (edit : Claim → Claim) (channel : Option ClaimHash) :
    Respects alike (Output.rewriteClaim edit channel) :=
  (unseen.editClaim edit).bind fun _ =>
    (unseen.annotate fun annotations => { annotations with channel := channel }).bind fun _ =>
      unseen.regenerate

theorem sign (unseen : Unseen alike) (channel : Output) (anchor : Bytes) :
    Respects alike (Output.sign channel anchor) := by
  by_cases able : ∃ key hash, channel.annotations.privateKey = some key ∧
      channel.claimHash = .ok hash
  · obtain ⟨key, hash, keeps, identity⟩ := able
    rw [sign_eq keeps identity]
    exact unseen.rewriteClaim _ _
  · obtain ⟨cause, refuses⟩ : ∃ cause, ∀ output,
        Output.sign channel anchor output = .error cause output :=
      sign_refuses fun key hash keeps identity => able ⟨key, hash, keeps, identity⟩
    rw [funext refuses]
    exact respects_throw cause

/-- The claim is asked for, but only after it was decoded. -/
theorem setChannelKey (unseen : Unseen alike) (key : ChannelKey) :
    Respects alike (Output.setChannelKey key) := by
  refine (unseen.editClaim id).bind fun _ => ?_
  refine Respects.ask (fun same => ?_) fun output => ?_
  · rw [unseen.claim same]
  refine (respects_ofExcept output.claim).bind fun claim => ?_
  cases claim.message with
  | channel channel =>
    exact (unseen.editClaim _).bind fun _ => unseen.regenerate.bind fun _ =>
      unseen.annotate fun annotations => { annotations with privateKey := some key }
  | _ => exact respects_throw _

/-- What is put back after the claim was asked for is the output itself, decoded. -/
theorem installChannelKey (unseen : Unseen alike) (fresh : ChannelKey) :
    Respects alike (Output.installChannelKey fresh) := by
  intro output other same
  rw [installChannelKey_eq, installChannelKey_eq, unseen.claim same]
  cases output.claim with
  | error cause => exact .error cause same
  | ok claim =>
    have rest : Respects alike (if claim.isChannel then
        Output.setChannelKey fresh >>= fun _ => pure fresh else throw (.noClaim .notChannel)) := by
      split
      · exact (unseen.setChannelKey fresh).bind fun _ => respects_pure fresh
      · exact respects_throw _
    exact rest _ _ (unseen.claimDecoded same)

end Unseen

end Differences

/-! ## A look that cost nothing -/

/-- The same output twice, but for a look at the second that cost nothing. -/
inductive Glanced : Output → Output → Prop where
  | refl (output : Output) : Glanced output output
  | looked {output : Output} (settled : output.script.template.Settled) :
      Glanced output output.looked

variable {output other : Output}

theorem Glanced.meaning (glanced : Glanced output other) : other.meaning = output.meaning := by
  cases glanced with
  | refl => rfl
  | looked settled => exact output.meaning_looked

theorem Glanced.claim (glanced : Glanced output other) : other.claim = output.claim :=
  congrArg Meaning.claim glanced.meaning

theorem Glanced.signingState (glanced : Glanced output other) :
    other.signingState = output.signingState :=
  congrArg Meaning.signingState glanced.meaning

theorem Glanced.content (glanced : Glanced output other) : other.content = output.content := by
  cases glanced <;> rfl

/-- A second look is no different. -/
theorem Glanced.claimDecoded (glanced : Glanced output other) :
    Glanced output.claimDecoded other.claimDecoded := by
  cases glanced with
  | refl => exact .refl _
  | looked settled =>
    have again : output.looked.claimDecoded = output.looked := by
      rcases output.looked.after_cases .claim with same | looked
      · exact same
      · exact looked.trans output.looked_looked
    rw [again]
    rcases output.after_cases .claim with same | looked
    · have unchanged : output.claimDecoded = output := same
      rw [unchanged]
      exact .looked settled
    · have everything : output.claimDecoded = output.looked := looked
      rw [everything]
      exact .refl _

/-! ## Edits that do not ask -/

/-- The edit does not ask whether a payload is decoded. -/
def Blind {α : Type} (edit : EStateM Error Output α) : Prop :=
  ∀ output other : Output, Glanced output other → SameOutcome Glanced (edit output) (edit other)

/-! ## The edits of this library -/

/-- Changing a claim that decodes decodes it, so a look before makes no difference at all. -/
theorem editClaim_looked {output : Output} {claim : Claim} (decodes : output.claim = .ok claim)
    (edit : Claim → Claim) : editClaim edit output.looked = editClaim edit output := by
  obtain ⟨payload, carries, value⟩ := claim_ok decodes
  have seen : output.looked.script.claim? = some payload.decoded := by
    rw [looked, OutputScript.claim?_looked, carries, Option.map_some]
  have same : output.looked.script.setClaim (payload.decoded.withValue (edit claim)) =
      output.script.setClaim (payload.withValue (edit claim)) := by
    rw [looked, OutputScript.setClaim_looked carries, Payload.withValue, Payload.withValue,
      payload.raw_decoded]
  rw [editClaim_ok carries value, editClaim_ok seen (payload.value_decoded.trans value), same]
  rfl

theorem blind_editClaim (edit : Claim → Claim) : Blind (editClaim edit) := by
  intro output other glanced
  cases glanced with
  | refl => exact .refl .refl _
  | looked settled =>
    cases decodes : output.claim with
    | error cause =>
      have undecoded : output.looked.claim = .error cause :=
        (Glanced.looked settled).claim.trans decodes
      rw [editClaim_undecoded decodes, editClaim_undecoded undecoded]
      exact .error cause (.looked settled)
    | ok claim =>
      rw [editClaim_looked decodes]
      exact .refl .refl _

/-- The payload is encoded anew or not, which makes no difference to settled bytes. -/
theorem blind_regenerate : Blind regenerate := by
  intro output other glanced
  cases glanced with
  | refl => exact .refl .refl _
  | looked settled =>
    have synced : output.looked.script.template.synced = output.script.template.synced.looked :=
      settled.synced_looked
    simp only [regenerate, OutputScript.generate, synced, OutputTemplate.encode?_looked]
    cases output.script.template.synced.encode? with
    | error cause => exact .error cause (.looked settled.synced)
    | ok rebuilt =>
      cases rebuilt with
      | none => exact .ok () (.looked settled)
      | some source => exact .ok () (.looked settled.synced)

/-- Changes beside the script do not touch what a look leaves. -/
theorem Glanced.beside (glanced : Glanced output other) (change : Output → Output)
    (script : ∀ output, (change output).script = output.script)
    (apart : ∀ output, change output.looked = (change output).looked) :
    Glanced (change output) (change other) := by
  cases glanced with
  | refl => exact .refl _
  | looked settled =>
    rw [apart]
    refine .looked ?_
    rw [script]
    exact settled

theorem blind_annotate (change : Annotations → Annotations) :
    Blind (modify fun output => { output with annotations := change output.annotations }) :=
  respects_modify fun glanced =>
    glanced.beside (fun output => { output with annotations := change output.annotations })
      (fun _ => rfl) fun _ => rfl

/-- A look that cost nothing is such a difference. -/
theorem unseen_glanced : Unseen Glanced where
  claim := Glanced.claim
  claimDecoded := Glanced.claimDecoded
  editClaim := blind_editClaim
  annotate := blind_annotate
  regenerate := blind_regenerate

theorem blind_apply (edit : Edit) : Blind edit.apply := by
  cases edit with
  | amount value =>
    exact respects_modify fun glanced =>
      glanced.beside (fun output => { output with amount := value }) (fun _ => rfl) fun _ => rfl
  | script source =>
    refine respects_modify fun glanced => ?_
    cases glanced <;> exact .refl _
  | claim value => exact blind_editClaim _
  | title value => exact blind_editClaim _
  | fee value => exact blind_editClaim _
  | channelKey secret =>
    exact (respects_ofExcept (ChannelKey.ofBytes secret)).bind unseen_glanced.setChannelKey
  | sign channel anchor => exact unseen_glanced.sign channel anchor
  | clear => exact unseen_glanced.rewriteClaim _ _
  | regenerate => exact blind_regenerate
  | refuse reason => exact respects_throw _

/-- The reports between the edits are about what the outputs say. -/
theorem blind_applyAll (edits : List Edit) : Blind (Edit.applyAll edits) := by
  induction edits with
  | nil => exact respects_pure []
  | cons edit edits ih =>
    refine Respects.bind (blind_apply edit) fun _ => ?_
    intro output other glanced
    have source : other.script.source = output.script.source :=
      congrArg Content.source glanced.content
    have rest : Blind (Edit.applyAll edits >>= fun reports =>
        pure ((output.script.source, output.signingState) :: reports)) :=
      Respects.bind ih fun reports => respects_pure _
    have ran := rest _ _ glanced.claimDecoded
    show SameOutcome Glanced
      ((Edit.applyAll edits >>= fun reports =>
        pure ((output.script.source, output.signingState) :: reports)) output.claimDecoded)
      ((Edit.applyAll edits >>= fun reports =>
        pure ((other.script.source, other.signingState) :: reports)) other.claimDecoded)
    rw [source, glanced.signingState]
    exact ran

theorem Blind.thenRegenerate {α : Type} {edit : EStateM Error Output α} (blind : Blind edit) :
    Blind (Transaction.thenRegenerate edit) := by
  intro output other glanced
  rcases (blind output other glanced).cases_of with
    ⟨result, changed, changed', ran, ran', same⟩ | ⟨cause, changed, changed', ran, ran', same⟩
  · simp only [Transaction.thenRegenerate, ran, ran']
    rcases (blind_regenerate changed changed' same).cases_of with
      ⟨_, rebuilt, rebuilt', ran, ran', same⟩ | ⟨cause, rebuilt, rebuilt', ran, ran', same⟩
    · rw [ran, ran']
      exact .ok result same
    · rw [ran, ran']
      exact .error cause same
  · simp only [Transaction.thenRegenerate, ran, ran']
    rcases (blind_regenerate changed changed' same).cases_of with
      ⟨_, rebuilt, rebuilt', ran, ran', same⟩ | ⟨_, rebuilt, rebuilt', ran, ran', same⟩
    · rw [ran, ran']
      exact .error cause same
    · rw [ran, ran']
      exact .error cause same

end Output

end ClaimLedger
