import ClaimLedger.Proofs.Effects
import ClaimLedger.Proofs.SignedOutputs
import ClaimLedger.Proofs.Unnoticed

/-! Rewriting claims. An output holds its claim twice, as bytes inside its script and as a
value in memory, and there are four ways to change it: to sign it, to clear its signature,
to publish a key in it, and to edit it and regenerate the script. Each of them takes a claim
to another one and writes that out, or is refused and writes nothing. So after every change
that succeeds the script gives the claim in memory back, as far as the wire can hold it, and
nothing else that the script says of the claim ever changes. -/
namespace ClaimLedger

open Transaction (stateAfter)

namespace OutputScript

/-- What a script says of a claim beside its payload. -/
structure Heading where
  kind : OutputTemplate.Kind
  claimName : Option Bytes
  /-- The claim hash that the script carries. -/
  carried : Option ClaimHash
  payee : Option Payee
  deriving DecidableEq

def heading (script : OutputScript) : Heading :=
  ⟨script.template.kind, script.claimName?, script.claimHash?, script.template.payee?⟩

/-- Scripts that name or update a claim, as they are made or read. -/
inductive ClaimSource : OutputScript → Prop where
  | named {name : Bytes} {claim : Claim} {hash : Hash160} {script : OutputScript}
      (made : payClaimName name claim hash = .ok script) : ClaimSource script
  | updating {name : Bytes} {claimHash : ClaimHash} {claim : Claim} {hash : Hash160}
      {script : OutputScript} (made : payUpdateClaim name claimHash claim hash = .ok script) :
      ClaimSource script
  | read {source : Bytes} {offset : Nat}
      (claims : (parse source offset).isClaimName || (parse source offset).isUpdateClaim) :
      ClaimSource (parse source offset)

/-- Another payload is no part of the heading. -/
theorem heading_setClaim (script : OutputScript) (payload : Payload Claim) :
    (script.setClaim payload).heading = script.heading := by
  obtain ⟨source, offset, template⟩ := script
  cases template <;> rfl

theorem heading_claimDecoded (script : OutputScript) :
    script.claimDecoded.heading = script.heading := by
  obtain ⟨source, offset, template⟩ := script
  cases template <;> rfl

/-- The heading stands in the script. -/
theorem heading_parse {script : OutputScript} (known : script.template ≠ .other)
    (pushable : script.template.Pushable) (start : Nat) :
    (parse script.template.script start).heading = script.heading := by
  have parsed : (parse script.template.script start).template = script.template.undecoded :=
    OutputTemplate.parse_script known pushable
  obtain ⟨source, offset, template⟩ := script
  simp only [heading, claimName?, claimHash?, parsed]
  cases template <;> rfl

end OutputScript

namespace Output

/-- The ways to change the claim of an output together with its script. -/
inductive Rewrite where
  | sign (channel : Output) (anchor : Bytes)
  | clear
  | publish (key : ChannelKey)
  | edit (change : Claim → Claim)

namespace Rewrite

def perform : Rewrite → EStateM Error Output Unit
  | sign channel anchor => Output.sign channel anchor
  | clear => clearSignature
  | publish key => setChannelKey key
  | edit change => do
    editClaim change
    regenerate

/-- The claim and the annotations that are asked for, given those that are there. Only
channels with a key and an identity sign, and only channels publish a key. -/
def asks (notes : Annotations) (claim : Claim) : Rewrite → Except Error (Claim × Annotations)
  | sign channel anchor =>
    match channel.annotations.privateKey with
    | none => .error .missingPrivateKey
    | some key =>
      match channel.claimHash with
      | .error cause => .error cause
      | .ok hash => .ok (signedClaim claim key hash anchor, { notes with channel := some hash })
  | clear => .ok (claim.clearSignature, { notes with channel := none })
  | publish key =>
    match claim.message with
    | .channel channel =>
      .ok
        ({ claim with
            message := .channel { channel with publicKey := ChannelKey.publicKeyDer key } },
          { notes with privateKey := some key })
    | _ => .error (.noClaim .notChannel)
  | edit change => .ok (change claim, notes)

end Rewrite

/-- The output after some rewrites, each of which may have failed. -/
def rewritten (output : Output) (rewrites : List Rewrite) : Output :=
  rewrites.foldl (fun output rewrite => stateAfter (rewrite.perform output)) output

/-- The script says what the output has in memory: the same heading, and the claim up to
signing fields that the wire cannot hold. -/
structure InSync (output : Output) (heading : OutputScript.Heading) : Prop where
  held : output.script.heading = heading
  spelled : ∀ start, (OutputScript.parse output.script.source start).heading = heading
  claim : ∀ start, (output.reread start).claim = Claim.onWire <$> output.claim

/-- Script bytes, claim and annotations are what they were. -/
structure Kept (output later : Output) : Prop where
  source : later.script.source = output.script.source
  claim : later.claim = output.claim
  annotations : later.annotations = output.annotations

/-- What a rewrite can come to: the claim asked for is written; it is too large for a
script; or nothing can be asked for and nothing happens, except that somebody may have
looked at the claim. -/
inductive Rewrite.Outcome (rewrite : Rewrite) (output : Output) :
    EStateM.Result Error Output Unit → Prop where
  | written {claim asked : Claim} {notes : Annotations} (decodes : output.claim = .ok claim)
      (asks : rewrite.asks output.annotations claim = .ok (asked, notes))
      (pushable : (output.script.setClaim (Payload.ofValue asked)).template.Pushable) :
      Outcome rewrite output (.ok () (output.written asked notes))
  | oversized {claim asked : Claim} {notes left : Annotations} {length : Nat}
      (decodes : output.claim = .ok claim)
      (asks : rewrite.asks output.annotations claim = .ok (asked, notes))
      (oversized : ¬ (output.script.setClaim (Payload.ofValue asked)).template.Pushable)
      (large : Script.pushLimit ≤ length) :
      Outcome rewrite output (.error (.malformed (.pushTooLarge length))
        { output with
          script := output.script.setClaim (Payload.ofValue asked)
          annotations := left })
  | refused {cause : Error} {later : Output}
      (nothing : ∀ claim, output.claim = .ok claim → ∀ asked,
        rewrite.asks output.annotations claim ≠ .ok asked)
      (left : later = output ∨ later = output.claimDecoded) :
      Outcome rewrite output (.error cause later)

/-! ## What each rewrite does -/

theorem claimDecoded_eq {output : Output} {payload : Payload Claim} {claim : Claim}
    (carries : output.script.claim? = some payload) (value : payload.value = .ok claim) :
    { output with script := output.script.setClaim (payload.withValue claim) } =
      output.claimDecoded := by
  have decoded : payload.withValue claim = payload.decoded := by
    simp only [Payload.decoded, value, Payload.withValue]
  obtain ⟨amount, ⟨source, offset, template⟩, notes, place⟩ := output
  cases template with
  | claimName name held payee =>
    obtain rfl : held = payload := Option.some.inj carries
    rw [decoded]
    rfl
  | updateClaim name hash held payee =>
    obtain rfl : held = payload := Option.some.inj carries
    rw [decoded]
    rfl
  | _ => cases carries

/-- A look at the claim does not change it. -/
theorem claim_claimDecoded (output : Output) : output.claimDecoded.claim = output.claim := by
  obtain ⟨amount, ⟨source, offset, template⟩, notes, place⟩ := output
  cases template with
  | claimName name payload payee => exact payload.value_decoded
  | updateClaim name hash payload payee => exact payload.value_decoded
  | _ => rfl

/-- Editing and regenerating. -/
theorem outcome_edit (output : Output) (change : Claim → Claim) :
    (Rewrite.edit change).Outcome output ((Rewrite.edit change).perform output) := by
  cases decodes : output.claim with
  | error cause =>
    have ran : (Rewrite.edit change).perform output = .error cause output := by
      simp only [Rewrite.perform, Bind.bind, EStateM.bind, editClaim_undecoded decodes]
    rw [ran]
    exact .refused (fun claim found => by rw [decodes] at found; cases found) (.inl rfl)
  | ok claim =>
    obtain ⟨payload, carries, value⟩ := claim_ok decodes
    have ran : (Rewrite.edit change).perform output =
        regenerate { output with
          script := output.script.setClaim (payload.withValue (change claim)) } := by
      simp only [Rewrite.perform, Bind.bind, EStateM.bind, editClaim_ok carries value]
    by_cases pushable :
        (output.script.setClaim (Payload.ofValue (change claim))).template.Pushable
    · rw [ran, regenerate_ok carries output.annotations pushable]
      exact .written decodes rfl pushable
    · obtain ⟨length, large, refused⟩ :=
        regenerate_oversized carries output.annotations pushable
      rw [ran, refused]
      exact .oversized decodes rfl pushable large

/-- Signing and clearing. -/
theorem outcome_rewriteClaim {rewrite : Rewrite} {change : Claim → Claim}
    {channel : Option ClaimHash} (output : Output)
    (runs : rewrite.perform output = rewriteClaim change channel output)
    (asks : ∀ claim, rewrite.asks output.annotations claim =
      .ok (change claim, { output.annotations with channel := channel })) :
    rewrite.Outcome output (rewrite.perform output) := by
  rw [runs]
  cases decodes : output.claim with
  | error cause =>
    rw [rewriteClaim_undecoded decodes]
    exact .refused (fun claim found => by rw [decodes] at found; cases found) (.inl rfl)
  | ok claim =>
    by_cases pushable : (output.holding (change claim) channel).script.template.Pushable
    · rw [rewriteClaim_ok decodes pushable]
      exact .written decodes (asks claim) pushable
    · obtain ⟨length, large, refused⟩ := rewriteClaim_oversized decodes pushable
      rw [refused]
      exact .oversized decodes (asks claim) pushable large

theorem outcome_sign (output channel : Output) (anchor : Bytes) :
    (Rewrite.sign channel anchor).Outcome output
      ((Rewrite.sign channel anchor).perform output) := by
  by_cases able : ∃ key hash, channel.annotations.privateKey = some key ∧
      channel.claimHash = .ok hash
  · obtain ⟨key, hash, keeps, identity⟩ := able
    refine outcome_rewriteClaim output (congrFun (sign_eq keeps identity anchor) output) ?_
    intro claim
    simp only [Rewrite.asks, keeps, identity]
  · obtain ⟨cause, refuses⟩ : ∃ cause, ∀ output, sign channel anchor output = .error cause output :=
      sign_refuses fun key hash keeps identity => able ⟨key, hash, keeps, identity⟩
    have ran : (Rewrite.sign channel anchor).perform output = .error cause output := refuses output
    rw [ran]
    refine .refused (fun claim _ asked asks => ?_) (.inl rfl)
    simp only [Rewrite.asks] at asks
    split at asks
    · cases asks
    · split at asks
      · cases asks
      · rename_i key keeps _ hash identity
        exact able ⟨key, hash, keeps, identity⟩

theorem outcome_clear (output : Output) :
    Rewrite.clear.Outcome output (Rewrite.clear.perform output) :=
  outcome_rewriteClaim output rfl fun _ => rfl

/-- An edit decodes the claim by itself, so it does not matter whether somebody looked. -/
theorem editClaim_claimDecoded {output : Output} {claim : Claim}
    (decodes : output.claim = .ok claim) (change : Claim → Claim) :
    editClaim change output.claimDecoded = editClaim change output := by
  obtain ⟨payload, carries, value⟩ := claim_ok decodes
  have held := claim?_setClaim carries (payload.withValue claim)
  rw [editClaim_ok carries value, ← claimDecoded_eq carries value, editClaim_ok held rfl]
  obtain ⟨amount, ⟨source, offset, template⟩, notes, place⟩ := output
  cases template <;> rfl

/-- A channel claim that publishes another key. -/
def publishing (key : ChannelKey) (channel : ChannelClaim) (claim : Claim) : Claim :=
  { claim with message := .channel { channel with publicKey := ChannelKey.publicKeyDer key } }

/-- Publishing a key looks at the claim, edits it, and notes the key at the end. -/
theorem setChannelKey_eq {output : Output} {claim : Claim} (key : ChannelKey)
    (decodes : output.claim = .ok claim) :
    setChannelKey key output =
      match claim.message with
      | .channel channel =>
        match (Rewrite.edit (publishing key channel)).perform output with
        | .ok _ later =>
          .ok () { later with annotations := { later.annotations with privateKey := some key } }
        | .error cause later => .error cause later
      | _ => .error (.noClaim .notChannel) output.claimDecoded := by
  obtain ⟨payload, carries, value⟩ := claim_ok decodes
  have looked : editClaim id output = .ok () output.claimDecoded :=
    (editClaim_ok carries value id).trans
      (congrArg (EStateM.Result.ok ()) (claimDecoded_eq carries value))
  have seen : output.claimDecoded.claim = .ok claim := output.claim_claimDecoded.trans decodes
  have read : (get : EStateM Error Output Output) output.claimDecoded =
      .ok output.claimDecoded output.claimDecoded := rfl
  simp only [setChannelKey, Rewrite.perform, Bind.bind, EStateM.bind, looked, read, seen,
    ← editClaim_claimDecoded decodes]
  obtain ⟨message, channelHash, signature, unsignedPayload⟩ := claim
  cases message with
  | channel channel =>
    show EStateM.bind (editClaim (publishing key channel)) _ output.claimDecoded = _
    simp only [EStateM.bind]
    cases editClaim (publishing key channel) output.claimDecoded with
    | error cause later => rfl
    | ok result later =>
      dsimp only
      cases later.regenerate <;> rfl
  | _ => rfl

theorem outcome_publish (output : Output) (key : ChannelKey) :
    (Rewrite.publish key).Outcome output ((Rewrite.publish key).perform output) := by
  cases decodes : output.claim with
  | error cause =>
    have ran : (Rewrite.publish key).perform output = .error cause output := by
      simp only [Rewrite.perform, setChannelKey, Bind.bind, EStateM.bind,
        editClaim_undecoded decodes]
    rw [ran]
    exact .refused (fun claim found => by rw [decodes] at found; cases found) (.inl rfl)
  | ok claim =>
    rw [Rewrite.perform, setChannelKey_eq key decodes]
    split
    · rename_i channel said
      have asks (claim : Claim) (found : output.claim = .ok claim) :
          (Rewrite.publish key).asks output.annotations claim =
            .ok (publishing key channel claim,
              { output.annotations with privateKey := some key }) := by
        obtain rfl := Except.ok.inj (found.symm.trans decodes)
        simp only [Rewrite.asks, said]
        rfl
      have outcome := outcome_edit output (publishing key channel)
      generalize (Rewrite.edit (publishing key channel)).perform output = result at outcome
      cases outcome with
      | written found edited pushable =>
        cases edited
        exact .written found (asks _ found) pushable
      | oversized found edited oversized large =>
        cases edited
        exact .oversized found (asks _ found) oversized large
      | refused nothing left => exact absurd rfl (nothing claim decodes _)
    · rename_i other
      refine .refused (fun same found asked asks => ?_) (.inr rfl)
      obtain rfl : claim = same := Except.ok.inj (decodes.symm.trans found)
      simp only [Rewrite.asks] at asks
      cases asks

/-- Every rewrite comes to one of the three. -/
theorem Rewrite.outcome (rewrite : Rewrite) (output : Output) :
    rewrite.Outcome output (rewrite.perform output) := by
  cases rewrite with
  | sign channel anchor => exact outcome_sign output channel anchor
  | clear => exact outcome_clear output
  | publish key => exact outcome_publish output key
  | edit change => exact outcome_edit output change

/-! ## In sync -/

/-- What is written for a claim is in sync with it. -/
theorem inSync_written {output : Output} {claim asked : Claim}
    (decodes : output.claim = .ok claim) (notes : Annotations)
    (pushable : (output.script.setClaim (Payload.ofValue asked)).template.Pushable) :
    (output.written asked notes).InSync output.script.heading := by
  obtain ⟨payload, carries, -⟩ := claim_ok decodes
  have held : (output.written asked notes).script.heading = output.script.heading :=
    output.script.heading_setClaim (Payload.ofValue asked)
  refine ⟨held, fun start => ?_, fun start => ?_⟩
  · exact (OutputScript.heading_parse (known_setClaim carries (Payload.ofValue asked)) pushable
      start).trans held
  · have value : (output.written asked notes).claim = .ok asked :=
      claim_holding decodes asked none
    rw [value]
    exact claim_reread_written decodes notes pushable start

/-- The bytes of a claim that was just put into a template are its own. -/
theorem synced_ofValue {script : OutputScript} {payload : Payload Claim}
    (carries : script.claim? = some payload) (claim : Claim) :
    (script.setClaim (Payload.ofValue claim)).template.synced =
      (script.setClaim (Payload.ofValue claim)).template := by
  obtain ⟨source, offset, template⟩ := script
  cases template with
  | claimName name held payee => rfl
  | updateClaim name hash held payee => rfl
  | _ => cases carries

/-- A script that was made is the one written for its claim. -/
theorem inSync_made {template : OutputTemplate} {script : OutputScript} {claim : Claim}
    (made : OutputScript.ofTemplate template = .ok script)
    (carries : (OutputScript.mk [] 0 template).claim? = some (Payload.ofValue claim))
    (amount : UInt64) (notes : Annotations) (place : Option Attachment) :
    (Output.mk amount script notes place).InSync script.heading := by
  have self : (OutputScript.mk [] 0 template).setClaim (Payload.ofValue claim) =
      ⟨[], 0, template⟩ := by
    cases template with
    | claimName name held payee =>
      obtain rfl : held = Payload.ofValue claim := Option.some.inj carries
      rfl
    | updateClaim name hash held payee =>
      obtain rfl : held = Payload.ofValue claim := Option.some.inj carries
      rfl
    | _ => cases carries
  have synced : template.synced = template := by
    have kept := synced_ofValue carries claim
    rwa [self] at kept
  have known : template ≠ .other := by
    have known := known_setClaim carries (Payload.ofValue claim)
    rwa [self] at known
  by_cases pushable : template.Pushable
  · have generated := @OutputScript.generate_pushable ⟨[], 0, template⟩
      (synced.symm ▸ known) (synced.symm ▸ pushable)
    simp only [OutputScript.ofTemplate, generated] at made
    cases made
    have decodes : (Output.mk amount ⟨[], 0, template⟩ notes place).claim = .ok claim := by
      simp only [Output.claim, carries]
      rfl
    have pushes : ((OutputScript.mk [] 0 template).setClaim
        (Payload.ofValue claim)).template.Pushable := self.symm ▸ pushable
    have written := inSync_written decodes notes pushes
    simp only [Output.written, self] at written
    simp only [synced]
    exact written
  · obtain ⟨length, -, refused⟩ := @OutputScript.generate_oversized ⟨[], 0, template⟩
      (synced.symm ▸ pushable)
    simp only [OutputScript.ofTemplate, refused] at made
    cases made

/-- The wire can hold the claims that are read from it. -/
theorem onWire_faithful {script : OutputScript} (faithful : script.Faithful)
    {payload : Payload Claim} {claim : Claim} (carries : script.claim? = some payload)
    (value : payload.value = .ok claim) : claim.onWire = claim := by
  have payloads : payload.Faithful := by
    obtain ⟨source, offset, template⟩ := script
    cases template with
    | claimName name held payee =>
      obtain rfl : held = payload := Option.some.inj carries
      exact faithful.template.2
    | updateClaim name hash held payee =>
      obtain rfl : held = payload := Option.some.inj carries
      exact faithful.template.2
    | _ => cases carries
  exact (Claim.decode_eq_ok_iff.mp (payloads.value_eq.symm.trans value)).1

theorem inSync_read (amount : UInt64) (source : Bytes) (offset : Nat) (notes : Annotations)
    (place : Option Attachment) :
    (Output.mk amount (OutputScript.parse source offset) notes place).InSync
      (OutputScript.parse source offset).heading := by
  refine ⟨rfl, fun start => rfl, fun start => ?_⟩
  have same :
      ((Output.mk amount (OutputScript.parse source offset) notes place).reread start).claim =
        (Output.mk amount (OutputScript.parse source offset) notes place).claim := claim_congr rfl
  rw [same]
  cases decodes : (Output.mk amount (OutputScript.parse source offset) notes place).claim with
  | error cause => rfl
  | ok claim =>
    obtain ⟨payload, carries, value⟩ := claim_ok decodes
    exact congrArg Except.ok
      (onWire_faithful (OutputScript.faithful_parse source offset) carries value).symm

/-- Whatever a script about a claim was made from or read from, it is in sync. -/
theorem inSync_of_source {output : Output} (source : output.script.ClaimSource) :
    output.InSync output.script.heading := by
  obtain ⟨amount, script, notes, place⟩ := output
  cases source with
  | named made => exact inSync_made made rfl amount notes place
  | updating made => exact inSync_made made rfl amount notes place
  | read claims => exact inSync_read amount _ _ notes place

/-! ## Runs of rewrites -/

/-- No rewrite changes the heading, not even one that fails. -/
theorem heading_perform (output : Output) (rewrite : Rewrite) :
    (stateAfter (rewrite.perform output)).script.heading = output.script.heading := by
  have outcome := rewrite.outcome output
  generalize rewrite.perform output = result at outcome
  cases outcome with
  | written decodes asks pushable => exact output.script.heading_setClaim _
  | oversized decodes asks oversized large => exact output.script.heading_setClaim _
  | refused nothing left =>
    rcases left with rfl | rfl
    · rfl
    · exact output.script.heading_claimDecoded

theorem heading_rewritten (output : Output) (rewrites : List Rewrite) :
    (output.rewritten rewrites).script.heading = output.script.heading := by
  induction rewrites generalizing output with
  | nil => rfl
  | cons rewrite rewrites ih => exact (ih _).trans (output.heading_perform rewrite)

/-- What was written is not changed by regenerating it. -/
theorem regenerate_written {output : Output} {claim asked : Claim}
    (decodes : output.claim = .ok claim) (notes : Annotations)
    (pushable : (output.script.setClaim (Payload.ofValue asked)).template.Pushable) :
    regenerate (output.written asked notes) = .ok () (output.written asked notes) := by
  obtain ⟨payload, carries, -⟩ := claim_ok decodes
  have synced := synced_ofValue carries asked
  have generated : OutputScript.generate (output.written asked notes).script =
      .ok () (output.written asked notes).script := by
    have generated := @OutputScript.generate_pushable
      (output.written asked notes).script
      (synced.symm ▸ known_setClaim carries (Payload.ofValue asked)) (synced.symm ▸ pushable)
    simp only [Output.written, synced] at generated ⊢
    exact generated
  simp only [regenerate, generated]

/-- A rewrite that is small enough for a script is made. -/
theorem Rewrite.Outcome.ok {rewrite : Rewrite} {output : Output} {claim asked : Claim}
    {notes : Annotations} {result : EStateM.Result Error Output Unit}
    (outcome : rewrite.Outcome output result) (decodes : output.claim = .ok claim)
    (asks : rewrite.asks output.annotations claim = .ok (asked, notes))
    (pushable : (output.script.setClaim (Payload.ofValue asked)).template.Pushable) :
    ∃ later, result = .ok () later := by
  cases outcome with
  | written => exact ⟨_, rfl⟩
  | oversized found wanted oversized =>
    obtain rfl := Except.ok.inj (found.symm.trans decodes)
    obtain ⟨rfl, rfl⟩ := Prod.mk.inj (Except.ok.inj (wanted.symm.trans asks))
    exact absurd pushable oversized
  | refused nothing => exact absurd asks (nothing claim decodes _)

/-- Scripts that name or update a claim say what their output holds, whether they were made
or read from arbitrary bytes, and stay so. However the output was rewritten before, and even
if some of that failed, a rewrite that succeeds leaves the output in sync, with the claim and
the annotations that were asked for, and nothing more to regenerate. A rewrite that fails
leaves bytes, claim and annotations, unless a script cannot push what was asked for. Whatever
can be asked for and pushed is written. -/
theorem rewrites_in_sync {output : Output} (source : output.script.ClaimSource)
    (rewrites : List Rewrite) (rewrite : Rewrite) :
    output.InSync output.script.heading ∧
      (∀ later, rewrite.perform (output.rewritten rewrites) = .ok () later →
        later.InSync output.script.heading ∧ regenerate later = .ok () later ∧
          ∃ claim asked, (output.rewritten rewrites).claim = .ok claim ∧
            rewrite.asks (output.rewritten rewrites).annotations claim =
              .ok (asked, later.annotations) ∧ later.claim = .ok asked) ∧
      (∀ cause later, rewrite.perform (output.rewritten rewrites) = .error cause later →
        (output.rewritten rewrites).Kept later ∨
          ∃ length, Script.pushLimit ≤ length ∧ cause = .malformed (.pushTooLarge length)) ∧
      ∀ claim asked notes, (output.rewritten rewrites).claim = .ok claim →
        rewrite.asks (output.rewritten rewrites).annotations claim = .ok (asked, notes) →
        (∀ name ∈ output.script.claimName?, name.length < Script.pushLimit) →
        asked.encode.length < Script.pushLimit →
        ∃ later, rewrite.perform (output.rewritten rewrites) = .ok () later := by
  have heading := output.heading_rewritten rewrites
  have outcome := rewrite.outcome (output.rewritten rewrites)
  refine ⟨inSync_of_source source, fun later ran => ?_, fun cause later ran => ?_,
    fun claim asked notes decodes asks named small => ?_⟩
  · rw [ran] at outcome
    cases outcome with
    | @written claim asked notes decodes asks pushable =>
      exact ⟨heading ▸ inSync_written decodes notes pushable,
        regenerate_written decodes notes pushable, claim, asked, decodes, asks,
        claim_holding decodes asked none⟩
  · rw [ran] at outcome
    cases outcome with
    | oversized decodes asks oversized large => exact .inr ⟨_, large, rfl⟩
    | refused nothing left =>
      rcases left with rfl | rfl
      · exact .inl ⟨rfl, rfl, rfl⟩
      · exact .inl ⟨rfl, claim_claimDecoded _, rfl⟩
  · refine outcome.ok decodes asks ((pushable_holding decodes asked none).mpr ⟨?_, small⟩)
    have names : (output.rewritten rewrites).script.claimName? = output.script.claimName? :=
      congrArg OutputScript.Heading.claimName heading
    rwa [names]

/-- A stream spelled with a length too long cannot publish a key; clearing it next leaves it
in sync and spelled shorter. -/
theorem rewrites_in_sync_padded :
    let padded := Transaction.naming Transaction.longSilent
    ∃ later, Rewrite.clear.perform (padded.rewritten [.publish ⟨1, by decide, by decide⟩]) =
        .ok () later ∧
      later.InSync padded.script.heading ∧ regenerate later = .ok () later ∧
      later.script.source.length < padded.script.source.length := by
  intro padded
  have claims : (padded.script.isClaimName || padded.script.isUpdateClaim) = true := by decide
  obtain ⟨-, succeeds, -, -⟩ := @rewrites_in_sync padded (.read claims)
    [.publish ⟨1, by decide, by decide⟩] .clear
  refine ⟨_, rfl, (succeeds _ rfl).1, (succeeds _ rfl).2.1, by decide⟩

end Output

end ClaimLedger
