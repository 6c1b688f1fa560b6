import ClaimLedger.Proofs.ClaimRewriting
import ClaimLedger.Proofs.SignThenVerify
import ClaimLedger.Proofs.SignatureSchemes

/-! Signing anew. Signing and clearing look at nothing of a claim but its message, and they write
all of its signing fields and the note of its channel. So what they leave does not depend on what
was signed before them, by whom and under which scheme, and message, name, identity, payee and
amount stay through any run of them. A claim too large for a script is no exception: then every
signing leaves the bytes alone. -/
namespace ClaimLedger

open Transaction (stateAfter)

/-- Regenerating brings payload and value together first. -/
theorem OutputScript.generate_synced (script : OutputScript) :
    generate { script with template := script.template.synced } = generate script := by
  have again := OutputTemplate.synced_synced script.template
  by_cases unknown : script.template = .other
  · obtain ⟨source, offset, template⟩ := script
    cases unknown
    rfl
  · have known : script.template.synced ≠ .other := fun same =>
      unknown (synced_eq_other_iff.mp same)
    by_cases pushable : script.template.synced.Pushable
    · rw [generate_pushable known pushable,
        generate_pushable (by rwa [again]) (by rwa [again])]
      simp only [again]
    · obtain ⟨length, -, refused⟩ := OutputTemplate.encode?_oversized pushable
      simp only [generate, again, refused]

namespace Output

/-- The output with other bytes in its script. -/
def withSource (output : Output) (source : Bytes) : Output :=
  { output with script := { output.script with source := source } }

/-- A name and a claim of so many bytes fit a script. -/
def Room (output : Output) (size : Nat) : Prop :=
  (∀ name ∈ output.script.claimName?, name.length < Script.pushLimit) ∧ size < Script.pushLimit

/-- A claim in a transaction for which the wallet keeps a key. -/
structure HoldsKey (channel : Output) (key : ChannelKey) : Prop where
  attached : channel.place.isSome = true
  isClaim : channel.isClaim = true
  keeps : channel.annotations.privateKey = some key

/-- Signing. -/
def Rewrite.signs : Rewrite → Bool
  | sign _ _ => true
  | _ => false

/-- Signing and clearing. -/
def Rewrite.stamps : Rewrite → Bool
  | clear => true
  | rewrite => rewrite.signs

/-- The bytes that signing and clearing put in front of the message. -/
def Rewrite.envelope : Rewrite → Nat
  | sign _ _ => 85
  | _ => 1

/-- A change of a claim that looks at nothing but its message and keeps that. -/
structure Stamp (edit : Claim → Claim) (envelope : Nat) : Prop where
  message : ∀ claim, (edit claim).message = claim.message
  blind : ∀ claim other : Claim, other.message = claim.message → edit other = edit claim
  length : ∀ claim, (edit claim).encode.length = envelope + claim.messageBytes.length

/-- Nothing differs but the signing fields of the claim, the channel noted, and bytes. -/
structure Restamped (output later : Output) : Prop where
  message : Claim.message <$> later.claim = Claim.message <$> output.claim
  rest : ∀ claim channel source, (later.holding claim channel).withSource source =
    (output.holding claim channel).withSource source

/-- What the claim of an output is about: all of it but the signing fields. -/
structure SameSubject (output later : Output) : Prop where
  message : Claim.message <$> later.claim = Claim.message <$> output.claim
  messageBytes : Claim.messageBytes <$> later.claim = Claim.messageBytes <$> output.claim
  claimName : later.claimName = output.claimName
  claimHash : later.claimHash = output.claimHash
  claimId : later.claimId = output.claimId
  payee : later.script.template.payee? = output.script.template.payee?
  amount : later.amount = output.amount

/-! ## What signing and clearing look at -/

theorem stamp_signedClaim (key : ChannelKey) (hash : ClaimHash) (anchor : Bytes) :
    Stamp (signedClaim · key hash anchor) 85 where
  message _ := rfl
  blind claim other same := by simp only [signedClaim, Claim.messageBytes, same]
  length claim := length_encode_signedClaim claim key hash anchor

theorem stamp_clearSignature : Stamp Claim.clearSignature 1 where
  message _ := rfl
  blind claim other same := by simp only [Claim.clearSignature, same]
  length claim := by
    simp only [Claim.encode, Claim.writeEnvelope, Claim.clearSignature, Claim.ofMessage,
      Claim.messageBytes, List.length_append, List.length_singleton]

theorem HoldsKey.identity {channel : Output} {key : ChannelKey} (holds : channel.HoldsKey key) :
    ∃ hash, channel.claimHash = .ok hash :=
  claimHash_of_attached holds.isClaim holds.attached

/-- Signing and clearing stamp the claim, or refuse every output alike. -/
theorem Rewrite.stamp {rewrite : Rewrite} (stamps : rewrite.stamps = true) :
    (∃ cause, ∀ output, rewrite.perform output = .error cause output) ∨
      ∃ edit channel, rewrite.perform = rewriteClaim edit channel ∧
        Stamp edit rewrite.envelope := by
  cases rewrite with
  | sign channel anchor =>
    by_cases able : ∃ key hash, channel.annotations.privateKey = some key ∧
        channel.claimHash = .ok hash
    · obtain ⟨key, hash, keeps, identity⟩ := able
      exact .inr ⟨_, _, sign_eq keeps identity anchor, stamp_signedClaim key hash anchor⟩
    · exact .inl (sign_refuses fun key hash keeps identity => able ⟨key, hash, keeps, identity⟩)
  | clear => exact .inr ⟨_, _, rfl, stamp_clearSignature⟩
  | _ => cases stamps

/-! ## What they leave alone -/

theorem holding_holding (output : Output) (claim other : Claim)
    (channel otherChannel : Option ClaimHash) :
    (output.holding claim channel).holding other otherChannel =
      output.holding other otherChannel := by
  obtain ⟨amount, ⟨source, offset, template⟩, notes, place⟩ := output
  cases template <;> rfl

theorem Restamped.refl (output : Output) : output.Restamped output := ⟨rfl, fun _ _ _ => rfl⟩

theorem Restamped.trans {output middle later : Output} (first : output.Restamped middle)
    (second : middle.Restamped later) : output.Restamped later :=
  ⟨second.message.trans first.message,
    fun claim channel source => (second.rest claim channel source).trans
      (first.rest claim channel source)⟩

/-- Holding another claim that says the same is such a difference, whatever the bytes. -/
theorem restamped_holding {output : Output} {claim other : Claim}
    (decodes : output.claim = .ok claim) (said : other.message = claim.message)
    (channel : Option ClaimHash) (source : Bytes) :
    output.Restamped ((output.holding other channel).withSource source) where
  message := by
    have held : ((output.holding other channel).withSource source).claim = .ok other :=
      claim_holding decodes other channel
    rw [held, decodes]
    exact congrArg Except.ok said
  rest claim channel' source' := by
    have same := congrArg (withSource · source')
      (output.holding_holding other claim channel channel')
    exact same

theorem restamped_rewriteClaim {edit : Claim → Claim} {envelope : Nat} (stamp : Stamp edit envelope)
    (channel : Option ClaimHash) (output : Output) :
    output.Restamped (stateAfter (rewriteClaim edit channel output)) := by
  cases decodes : output.claim with
  | error cause =>
    rw [rewriteClaim_undecoded decodes]
    exact .refl output
  | ok claim =>
    by_cases pushable : (output.holding (edit claim) channel).script.template.Pushable
    · rw [rewriteClaim_ok decodes pushable]
      exact restamped_holding decodes (stamp.message claim) channel _
    · obtain ⟨length, -, refused⟩ := rewriteClaim_oversized decodes pushable
      rw [refused]
      exact restamped_holding decodes (stamp.message claim) channel output.script.source

theorem restamped_perform {rewrite : Rewrite} (stamps : rewrite.stamps = true) (output : Output) :
    output.Restamped (stateAfter (rewrite.perform output)) := by
  rcases Rewrite.stamp stamps with ⟨cause, refuses⟩ | ⟨edit, channel, runs, stamp⟩
  · rw [refuses]
    exact .refl output
  · rw [runs]
    exact restamped_rewriteClaim stamp channel output

theorem restamped_rewritten {rewrites : List Rewrite}
    (stamps : ∀ rewrite ∈ rewrites, rewrite.stamps = true) (output : Output) :
    output.Restamped (output.rewritten rewrites) := by
  induction rewrites generalizing output with
  | nil => exact .refl output
  | cons rewrite rewrites ih =>
    rw [List.forall_mem_cons] at stamps
    exact (restamped_perform stamps.1 output).trans (ih stamps.2 _)

theorem Restamped.claim {output later : Output} (restamped : output.Restamped later) {claim : Claim}
    (decodes : output.claim = .ok claim) :
    ∃ other, later.claim = .ok other ∧ other.message = claim.message := by
  have message := restamped.message
  rw [decodes] at message
  cases found : later.claim with
  | error cause =>
    rw [found] at message
    cases message
  | ok other =>
    rw [found] at message
    exact ⟨other, rfl, Except.ok.inj message⟩

/-- What is not seen of claims held and bytes is not seen of the difference. -/
theorem Restamped.view {output later : Output} {β : Type}
    (restamped : output.Restamped later) (view : Output → β)
    (unseen : ∀ (output : Output) claim channel source,
      view ((output.holding claim channel).withSource source) = view output) :
    view later = view output := by
  have same := congrArg view (restamped.rest (Claim.ofMessage (.collection [])) none [])
  rwa [unseen, unseen] at same

theorem Restamped.sameSubject {output later : Output} (restamped : output.Restamped later) :
    output.SameSubject later where
  message := restamped.message
  messageBytes := by
    have bytes := congrArg (ClaimMessage.write <$> ·) restamped.message
    rw [Functor.map_map, Functor.map_map] at bytes
    exact bytes
  claimName := restamped.view Output.claimName fun ⟨_, ⟨_, _, template⟩, _, _⟩ _ _ _ => by
    cases template <;> rfl
  claimHash := restamped.view Output.claimHash fun ⟨_, ⟨_, _, template⟩, _, _⟩ _ _ _ => by
    cases template <;> rfl
  claimId := restamped.view Output.claimId fun ⟨_, ⟨_, _, template⟩, _, _⟩ _ _ _ => by
    cases template <;> rfl
  payee := restamped.view (·.script.template.payee?) fun ⟨_, ⟨_, _, template⟩, _, _⟩ _ _ _ => by
    cases template <;> rfl
  amount := restamped.view Output.amount fun _ _ _ _ => rfl

theorem Restamped.room_iff {output later : Output} (restamped : output.Restamped later)
    (size : Nat) : later.Room size ↔ output.Room size := by
  have named : later.script.claimName? = output.script.claimName? :=
    restamped.view (·.script.claimName?) fun ⟨_, ⟨_, _, template⟩, _, _⟩ _ _ _ => by
      cases template <;> rfl
  rw [Room, Room, named]

/-! ## What they come to -/

theorem rewriteClaim_eq_regenerate {output : Output} {claim : Claim}
    (decodes : output.claim = .ok claim) (edit : Claim → Claim) (channel : Option ClaimHash) :
    rewriteClaim edit channel output = regenerate (output.holding (edit claim) channel) := by
  obtain ⟨payload, carries, value⟩ := claim_ok decodes
  -- In memory the payload keeps the bytes it had; regenerating replaces them either way.
  have synced := (synced_setClaim carries (edit claim)).trans
    (synced_ofValue carries (edit claim)).symm
  have generated :
      OutputScript.generate (output.script.setClaim (payload.withValue (edit claim))) =
        OutputScript.generate (output.script.setClaim (Payload.ofValue (edit claim))) := by
    rw [← OutputScript.generate_synced, synced]
    exact OutputScript.generate_synced (output.script.setClaim (Payload.ofValue (edit claim)))
  rw [rewriteClaim_run carries value]
  simp only [regenerate, holding, generated]

theorem Stamp.pushable_iff {edit : Claim → Claim} {envelope : Nat} (stamp : Stamp edit envelope)
    {output : Output} {claim : Claim} (decodes : output.claim = .ok claim)
    (channel : Option ClaimHash) :
    (output.holding (edit claim) channel).script.template.Pushable ↔
      output.Room (envelope + claim.messageBytes.length) := by
  rw [pushable_holding decodes, stamp.length claim, Room]

section Stamped
variable {edit : Claim → Claim} {envelope : Nat} {output later : Output} {claim : Claim}

/-- Where there is room the claim is written, whatever was there before. -/
theorem Stamp.written (stamp : Stamp edit envelope) (decodes : output.claim = .ok claim)
    (restamped : output.Restamped later)
    (room : output.Room (envelope + claim.messageBytes.length)) (channel : Option ClaimHash) :
    rewriteClaim edit channel later =
      .ok () (output.written (edit claim) { output.annotations with channel := channel }) := by
  obtain ⟨other, found, said⟩ := restamped.claim decodes
  have fits := (stamp.pushable_iff decodes channel).mpr room
  have same (source : Bytes) := restamped.rest (edit claim) channel source
  have templates : (later.holding (edit claim) channel).script.template =
      (output.holding (edit claim) channel).script.template :=
    congrArg (·.script.template) (same [])
  rw [← templates] at fits
  rw [rewriteClaim_ok found (by rwa [stamp.blind claim other said]), stamp.blind claim other said]
  refine congrArg (EStateM.Result.ok ()) ?_
  calc (later.holding (edit claim) channel).rebuilt
      = (later.holding (edit claim) channel).withSource
          (later.holding (edit claim) channel).script.template.script := rfl
    _ = (output.holding (edit claim) channel).withSource
          (output.holding (edit claim) channel).script.template.script := by
        rw [templates, same]
    _ = output.written (edit claim) { output.annotations with channel := channel } := rfl

/-- Where there is none it is refused and stays in memory. -/
theorem Stamp.refused (stamp : Stamp edit envelope) (decodes : output.claim = .ok claim)
    (restamped : output.Restamped later)
    (crowded : ¬ output.Room (envelope + claim.messageBytes.length))
    (channel : Option ClaimHash) :
    ∃ cause, rewriteClaim edit channel later =
      .error cause (later.holding (edit claim) channel) := by
  obtain ⟨other, found, said⟩ := restamped.claim decodes
  have oversized : ¬ (later.holding (edit other) channel).script.template.Pushable := by
    rwa [stamp.pushable_iff found, Claim.messageBytes, said, restamped.room_iff]
  obtain ⟨length, -, refused⟩ := rewriteClaim_oversized found oversized
  exact ⟨_, stamp.blind claim other said ▸ refused⟩

/-- With the same bytes to start from, the result is the same, fitting or not. -/
theorem Stamp.congr (stamp : Stamp edit envelope) (decodes : output.claim = .ok claim)
    (restamped : output.Restamped later) (source : later.script.source = output.script.source)
    (channel : Option ClaimHash) :
    rewriteClaim edit channel later = rewriteClaim edit channel output := by
  obtain ⟨other, found, said⟩ := restamped.claim decodes
  have same : later.holding (edit claim) channel = output.holding (edit claim) channel :=
    calc later.holding (edit claim) channel
        = (later.holding (edit claim) channel).withSource later.script.source := rfl
      _ = (output.holding (edit claim) channel).withSource output.script.source := by
          rw [restamped.rest, source]
      _ = output.holding (edit claim) channel := rfl
  rw [rewriteClaim_eq_regenerate found, rewriteClaim_eq_regenerate decodes,
    stamp.blind claim other said, same]

end Stamped

/-- Rewrites that find no room leave the bytes through a whole run. -/
theorem source_rewritten {rewrites : List Rewrite} {envelope : Nat} {output : Output}
    {claim : Claim} (stamps : ∀ rewrite ∈ rewrites, rewrite.stamps = true)
    (larger : ∀ rewrite ∈ rewrites, envelope ≤ rewrite.envelope)
    (decodes : output.claim = .ok claim)
    (crowded : ¬ output.Room (envelope + claim.messageBytes.length)) :
    (output.rewritten rewrites).script.source = output.script.source := by
  induction rewrites generalizing output claim with
  | nil => rfl
  | cons rewrite rewrites ih =>
    rw [List.forall_mem_cons] at stamps larger
    have restamped := restamped_perform stamps.1 output
    obtain ⟨other, found, said⟩ := restamped.claim decodes
    have next : ¬ (stateAfter (rewrite.perform output)).Room
        (envelope + other.messageBytes.length) := by
      rwa [Claim.messageBytes, said, restamped.room_iff]
    refine (ih stamps.2 larger.2 found next).trans ?_
    rcases Rewrite.stamp stamps.1 with ⟨cause, refuses⟩ | ⟨edit, channel, runs, stamp⟩
    · rw [refuses]
      rfl
    · rw [runs]
      have without : ¬ output.Room (rewrite.envelope + claim.messageBytes.length) := fun room =>
        crowded ⟨room.1, Nat.lt_of_le_of_lt (Nat.add_le_add_right larger.1 _) room.2⟩
      obtain ⟨cause, refused⟩ := stamp.refused decodes (.refl output) without channel
      rw [refused]
      rfl

/-- A rewrite that is no larger than those before it comes to the same without them. -/
theorem Stamp.perform_rewritten {edit : Claim → Claim} {envelope : Nat}
    (stamp : Stamp edit envelope) {rewrites : List Rewrite} {output : Output} {claim : Claim}
    (stamps : ∀ rewrite ∈ rewrites, rewrite.stamps = true)
    (larger : ∀ rewrite ∈ rewrites, envelope ≤ rewrite.envelope)
    (decodes : output.claim = .ok claim) (channel : Option ClaimHash) :
    rewriteClaim edit channel (output.rewritten rewrites) = rewriteClaim edit channel output := by
  have restamped := restamped_rewritten stamps output
  -- Where it finds no room, nothing before it found any, so the bytes are still the first ones.
  by_cases room : output.Room (envelope + claim.messageBytes.length)
  · rw [stamp.written decodes restamped room, stamp.written decodes (.refl output) room]
  · exact stamp.congr decodes restamped (source_rewritten stamps larger decodes room) channel

theorem Rewrite.stamps_of_signs {rewrite : Rewrite} (signs : rewrite.signs = true) :
    rewrite.stamps = true ∧ rewrite.envelope = 85 := by
  cases rewrite with
  | sign channel anchor => exact ⟨rfl, rfl⟩
  | _ => cases signs

theorem Rewrite.envelope_pos (rewrite : Rewrite) : 1 ≤ rewrite.envelope := by
  cases rewrite <;> simp [Rewrite.envelope]

/-- The last signing stands alone: it comes to the same output, script, claim and annotations,
without those before it, and so does clearing. What the claim is about stays through any run of
signings and clearings. Where there is room for it the last of such a run is made, and then all
that was signed is replaced; where there is none it is refused. All this holds however the claim
was signed at first. -/
theorem last_signing_stands {output : Output} {claim : Claim}
    (decodes : output.claim = .ok claim) :
    (∀ rewrites : List Rewrite, (∀ rewrite ∈ rewrites, rewrite.signs = true) →
      ∀ (channel : Output) (key : ChannelKey) (anchor : Bytes), channel.HoldsKey key →
        sign channel anchor (output.rewritten rewrites) = sign channel anchor output) ∧
    ∀ rewrites : List Rewrite, (∀ rewrite ∈ rewrites, rewrite.stamps = true) →
      clearSignature (output.rewritten rewrites) = clearSignature output ∧
      output.SameSubject (output.rewritten rewrites) ∧
      (output.Room (1 + claim.messageBytes.length) →
        clearSignature (output.rewritten rewrites) =
          .ok () (output.written claim.clearSignature { output.annotations with channel := none })) ∧
      ∀ (channel : Output) (key : ChannelKey) (anchor : Bytes), channel.HoldsKey key →
        ∃ hash, channel.claimHash = .ok hash ∧
          (output.Room (85 + claim.messageBytes.length) →
            sign channel anchor (output.rewritten rewrites) =
              .ok () (output.written (signedClaim claim key hash anchor)
                { output.annotations with channel := some hash })) ∧
          (¬ output.Room (85 + claim.messageBytes.length) →
            ∃ cause later,
              sign channel anchor (output.rewritten rewrites) = .error cause later) := by
  refine ⟨fun rewrites signs channel key anchor holds => ?_, fun rewrites stamps => ?_⟩
  · obtain ⟨hash, identity⟩ := holds.identity
    have stamped (rewrite : Rewrite) (within : rewrite ∈ rewrites) :=
      Rewrite.stamps_of_signs (signs rewrite within)
    rw [sign_eq holds.keeps identity]
    exact (stamp_signedClaim key hash anchor).perform_rewritten
      (fun rewrite within => (stamped rewrite within).1)
      (fun rewrite within => (stamped rewrite within).2.ge) decodes (some hash)
  · have restamped := restamped_rewritten stamps output
    refine ⟨?_, restamped.sameSubject, fun room => ?_, fun channel key anchor holds => ?_⟩
    · exact stamp_clearSignature.perform_rewritten stamps
        (fun rewrite _ => rewrite.envelope_pos) decodes none
    · exact stamp_clearSignature.written decodes restamped room none
    · obtain ⟨hash, identity⟩ := holds.identity
      have stamp := stamp_signedClaim key hash anchor
      rw [sign_eq holds.keeps identity]
      refine ⟨hash, identity, fun room => stamp.written decodes restamped room (some hash),
        fun crowded => ?_⟩
      obtain ⟨cause, refused⟩ := stamp.refused decodes restamped crowded (some hash)
      exact ⟨cause, _, refused⟩

/-- A channel that keeps the key one. -/
def keyOneChannel (identity : ClaimHash) : Output :=
  { unitChannel identity with annotations := { privateKey := some Transaction.unitKey } }

theorem holdsKey_keyOneChannel (identity : ClaimHash) :
    (keyOneChannel identity).HoldsKey Transaction.unitKey := ⟨rfl, rfl, rfl⟩

/-- A stream of the older scheme that one channel signs and then another is signed as by the
other alone, and cleared after both as if nobody had signed it. -/
theorem last_signing_stands_borrowedStream :
    borrowedStream.signingState = .legacySigned ∧
      ∃ signed cleared,
        sign (keyOneChannel (evenHash 0x22)) unitAnchor
            (borrowedStream.rewritten [.sign (keyOneChannel (evenHash 0x11)) []]) =
          .ok () signed ∧
        sign (keyOneChannel (evenHash 0x22)) unitAnchor borrowedStream = .ok () signed ∧
        signed.annotations.channel = some (evenHash 0x22) ∧
        clearSignature (borrowedStream.rewritten [.sign (keyOneChannel (evenHash 0x11)) [],
          .sign (keyOneChannel (evenHash 0x22)) unitAnchor]) = .ok () cleared ∧
        clearSignature borrowedStream = .ok () cleared ∧
        cleared.signingState = .unsigned := by
  have decodes : borrowedStream.claim = .ok _ := rfl
  obtain ⟨alone, runs⟩ := last_signing_stands decodes
  have second := holdsKey_keyOneChannel (evenHash 0x22)
  have once := alone [.sign (keyOneChannel (evenHash 0x11)) []] (by simp [Rewrite.signs])
    _ _ unitAnchor second
  obtain ⟨-, -, -, made⟩ := runs [.sign (keyOneChannel (evenHash 0x11)) []]
    (by simp [Rewrite.stamps, Rewrite.signs])
  obtain ⟨hash, identity, written, -⟩ := made _ _ unitAnchor second
  obtain rfl : evenHash 0x22 = hash := Except.ok.inj identity
  obtain ⟨unsigned, -, clears, -⟩ := runs [.sign (keyOneChannel (evenHash 0x11)) [],
    .sign (keyOneChannel (evenHash 0x22)) unitAnchor] (by simp [Rewrite.stamps, Rewrite.signs])
  have signs := written ⟨by decide, by decide⟩
  have cleared := clears ⟨by decide, by decide⟩
  exact ⟨rfl, _, _, signs, once ▸ signs, rfl, cleared, unsigned ▸ cleared, rfl⟩

end Output

end ClaimLedger
