import ClaimLedger.Output.Edit
import ClaimLedger.Proofs.Payloads

/-! Rebuilding scripts. A script that was read may be spelled in many ways: with long
pushes, with lengths inside its payload that are not the shortest. Rebuilding it takes
the shortest pushes, and the normal form of the payload where somebody has looked. None
of this shows in what the output says: kind, fields, claim, and whatever is asked about
its signature are answered as before, by the output itself and by whoever reads the new
bytes. What was rebuilt once is not changed by rebuilding it again. -/
namespace ClaimLedger

namespace OutputTemplate

/-- The kinds of scripts. -/
inductive Kind where
  | payPubKeyHash
  | payScriptHash
  | claimName
  | updateClaim
  | supportClaim
  | returnData
  | other
  deriving DecidableEq

def kind : OutputTemplate → Kind
  | payPubKeyHash _ => .payPubKeyHash
  | payScriptHash _ => .payScriptHash
  | claimName .. => .claimName
  | updateClaim .. => .updateClaim
  | supportClaim .. => .supportClaim
  | returnData _ => .returnData
  | other => .other

end OutputTemplate

/-! ## What an output says -/

/-- Everything that can be learnt from the script of an output by asking, errors
included. How the script spells it is not part of it. -/
@[ext] structure Output.Meaning where
  kind : OutputTemplate.Kind
  claimName : Option Bytes
  /-- The claim hash that the script carries. -/
  carried : Option ClaimHash
  identity : Except Error ClaimHash
  payee : Option Payee
  claim : Except Error Claim
  purchase : Except Error Purchase
  signingState : SigningState
  encodedSignature : Except Error Bytes
  digest : Option Bytes → Ledger → Except Error Hash256
  /-- Whether a channel has signed it. -/
  signedBy : Output → Option Bytes → Ledger → Except Error Bool
  /-- Whether it has, as a channel, signed another output. -/
  signs : Output → Option Bytes → Ledger → Except Error Bool

namespace Output

def meaning (output : Output) : Meaning where
  kind := output.script.template.kind
  claimName := output.script.claimName?
  carried := output.script.claimHash?
  identity := output.claimHash
  payee := output.script.template.payee?
  claim := output.claim
  purchase := output.purchaseData
  signingState := output.signingState
  encodedSignature := output.encodedSignature
  digest := output.signatureDigest
  signedBy := output.isSignedBy
  signs := fun signed anchor ledger => signed.isSignedBy output anchor ledger

/-- Answers about signatures follow from the claim and the payee. -/
theorem meaning_ext {output other : Output}
    (kind : output.script.template.kind = other.script.template.kind)
    (name : output.script.claimName? = other.script.claimName?)
    (carried : output.script.claimHash? = other.script.claimHash?)
    (identity : output.claimHash = other.claimHash)
    (payee : output.script.template.payee? = other.script.template.payee?)
    (claim : output.claim = other.claim) (purchase : output.purchaseData = other.purchaseData) :
    output.meaning = other.meaning := by
  have address (ledger : Ledger) : output.address? ledger = other.address? ledger := by
    simp only [address?, pubKeyHash?, OutputScript.pubKeyHash?, payee]
  have digest (anchor : Option Bytes) (ledger : Ledger) :
      output.signatureDigest anchor ledger = other.signatureDigest anchor ledger := by
    simp only [signatureDigest, claim, address]
  have signature : output.encodedSignature = other.encodedSignature := by
    simp only [Output.encodedSignature, claim]
  have published : output.publishedKey = other.publishedKey := by
    simp only [publishedKey, claim]
  apply Meaning.ext
  case kind => exact kind
  case claimName => exact name
  case carried => exact carried
  case identity => exact identity
  case payee => exact payee
  case claim => exact claim
  case purchase => exact purchase
  case signingState => simp only [meaning, Output.signingState, claim]
  case encodedSignature => exact signature
  case digest =>
    funext anchor ledger
    exact digest anchor ledger
  case signedBy =>
    funext channel anchor ledger
    simp only [meaning, isSignedBy, claim, digest, signature]
  case signs =>
    funext signed anchor ledger
    simp only [meaning, isSignedBy, published]

/-- Outputs in one place with templates that agree say the same. -/
theorem meaning_congr {output other : Output}
    (agrees : output.script.template.Agrees other.script.template)
    (place : output.place = other.place) : output.meaning = other.meaning := by
  obtain ⟨amount, ⟨source, offset, template⟩, annotations, position⟩ := output
  obtain ⟨otherAmount, ⟨otherSource, otherOffset, otherTemplate⟩, otherAnnotations,
    otherPosition⟩ := other
  cases place
  cases agrees with
  | claimName name payee same => exact meaning_ext rfl rfl rfl rfl rfl same rfl
  | updateClaim name claimHash payee same => exact meaning_ext rfl rfl rfl rfl rfl same rfl
  | returnData same => exact meaning_ext rfl rfl rfl rfl rfl rfl same
  | refl => rfl

end Output

/-! ## Scripts that were read -/

namespace OutputScript

/-- The bytes of the script once it is rebuilt; those of no known kind stay. -/
def rebuiltSource (script : OutputScript) : Bytes :=
  match script.template with
  | .other => script.source
  | template => template.synced.script

/-- The script once it is rebuilt. -/
def rebuilt (script : OutputScript) : OutputScript :=
  ⟨script.rebuiltSource, script.offset, script.template.synced⟩

/-- The template came out of a script, and where it is of no known kind out of these
bytes. -/
structure Faithful (script : OutputScript) : Prop where
  template : script.template.Faithful
  unknown : script.template = .other → OutputTemplate.parse script.source = .other

theorem faithful_parse (source : Bytes) (offset : Nat) : (parse source offset).Faithful :=
  ⟨OutputTemplate.faithful_parse source, id⟩

theorem rebuiltSource_known {script : OutputScript} (known : script.template ≠ .other) :
    script.rebuiltSource = script.template.synced.script := by
  unfold rebuiltSource
  split
  · rename_i unknown
    exact absurd unknown known
  · rfl

theorem rebuiltSource_other {script : OutputScript} (unknown : script.template = .other) :
    script.rebuiltSource = script.source := by
  simp only [rebuiltSource, unknown]

theorem synced_eq_other_iff {template : OutputTemplate} :
    template.synced = .other ↔ template = .other := by
  cases template with
  | other => exact Iff.rfl
  | _ => exact ⟨nofun, nofun⟩

/-- A script that was read can always be rebuilt. -/
theorem Faithful.generate {script : OutputScript} (faithful : script.Faithful) :
    OutputScript.generate script = .ok () script.rebuilt := by
  by_cases unknown : script.template = .other
  · obtain ⟨source, offset, template⟩ := script
    cases unknown
    rfl
  · have known : script.template.synced ≠ .other := fun same =>
      unknown (synced_eq_other_iff.mp same)
    rw [generate_pushable known faithful.template.synced.pushable, rebuilt,
      rebuiltSource_known unknown]

/-- The rebuilt bytes are read as the same template, with its payload not yet decoded. -/
theorem Faithful.parse_rebuiltSource {script : OutputScript} (faithful : script.Faithful) :
    OutputTemplate.parse script.rebuiltSource = script.template.synced.undecoded := by
  by_cases unknown : script.template = .other
  · rw [rebuiltSource_other unknown, faithful.unknown unknown, unknown]
    rfl
  · rw [rebuiltSource_known unknown]
    exact OutputTemplate.parse_script (fun same => unknown (synced_eq_other_iff.mp same))
      faithful.template.synced.pushable

theorem Faithful.rebuilt {script : OutputScript} (faithful : script.Faithful) :
    script.rebuilt.Faithful where
  template := faithful.template.synced
  unknown same := by
    have parsed := faithful.parse_rebuiltSource
    have other : script.template.synced = .other := same
    rw [other] at parsed
    exact parsed

/-- Rebuilding takes nothing from the bytes that were there, so it settles at once. -/
theorem rebuiltSource_rebuilt (script : OutputScript) :
    script.rebuilt.rebuiltSource = script.rebuiltSource := by
  by_cases unknown : script.template = .other
  · have still : script.rebuilt.template = .other := synced_eq_other_iff.mpr unknown
    rw [rebuiltSource_other still]
    rfl
  · have known : script.rebuilt.template ≠ .other := fun same =>
      unknown (synced_eq_other_iff.mp same)
    rw [rebuiltSource_known known, rebuiltSource_known unknown]
    exact congrArg OutputTemplate.script (OutputTemplate.synced_synced script.template)

/-- The same holds of whoever reads the rebuilt bytes and rebuilds them. -/
theorem Faithful.rebuiltSource_parse {script : OutputScript} (faithful : script.Faithful)
    (start : Nat) : (parse script.rebuiltSource start).rebuiltSource = script.rebuiltSource := by
  have parsed : (parse script.rebuiltSource start).template = script.template.synced.undecoded :=
    faithful.parse_rebuiltSource
  by_cases unknown : script.template = .other
  · rw [unknown] at parsed
    rw [rebuiltSource_other parsed]
    rfl
  · have known : (parse script.rebuiltSource start).template ≠ .other := by
      rw [parsed]
      intro same
      cases shape : script.template with
      | other => exact unknown shape
      | _ =>
        rw [shape] at same
        cases same
    rw [rebuiltSource_known known, parsed, rebuiltSource_known unknown,
      OutputTemplate.synced_undecoded, OutputTemplate.script_undecoded]

end OutputScript

namespace Output

/-- The output with its script rebuilt. -/
def regenerated (output : Output) : Output :=
  { output with script := output.script.rebuilt }

/-- The output as whoever reads the bytes of its script has it. -/
def reread (output : Output) (start : Nat) : Output :=
  { output with script := OutputScript.parse output.script.source start }

theorem regenerate_faithful {output : Output} (faithful : output.script.Faithful) :
    regenerate output = .ok () output.regenerated := by
  simp only [regenerate, faithful.generate]
  rfl

theorem meaning_regenerated (output : Output) : output.regenerated.meaning = output.meaning := by
  have agrees : output.script.template.Agrees output.regenerated.script.template :=
    OutputTemplate.agrees_synced output.script.template
  exact (meaning_congr agrees rfl).symm

theorem meaning_reread {output : Output} (faithful : output.script.Faithful) (start : Nat) :
    (output.regenerated.reread start).meaning = output.meaning := by
  have agrees : output.regenerated.script.template.Agrees
      (output.regenerated.reread start).script.template := by
    have read : (output.regenerated.reread start).script.template =
        output.script.template.synced.undecoded := faithful.parse_rebuiltSource
    rw [read]
    exact faithful.template.synced.agrees_undecoded
  exact (meaning_congr agrees rfl).symm.trans (meaning_regenerated output)

/-! ## Looking -/

theorem faithful_claimDecoded {script : OutputScript} (faithful : script.Faithful) :
    script.claimDecoded.Faithful where
  template := faithful.template.claimDecoded
  unknown same := by
    obtain ⟨source, offset, template⟩ := script
    cases template with
    | other => exact faithful.unknown rfl
    | _ => cases same

theorem faithful_purchaseDecoded {script : OutputScript} (faithful : script.Faithful) :
    script.purchaseDecoded.Faithful where
  template := faithful.template.purchaseDecoded
  unknown same := by
    obtain ⟨source, offset, template⟩ := script
    cases template with
    | other => exact faithful.unknown rfl
    | _ => cases same

/-- A look changes neither what is looked at nor where it came from. -/
theorem faithful_after {output : Output} (faithful : output.script.Faithful) (how : Read) :
    (output.after how).script.Faithful := by
  cases how with
  | signedBy channel =>
    rw [after]
    split
    · exact faithful_claimDecoded faithful
    · exact faithful
  | purchaseData => exact faithful_purchaseDecoded faithful
  | canDecodePurchaseData => exact faithful_purchaseDecoded faithful
  | everything => exact faithful_purchaseDecoded (faithful_claimDecoded faithful)
  | _ => exact faithful_claimDecoded faithful

theorem faithful_looked {output : Output} (faithful : output.script.Faithful) (looks : List Read) :
    (looks.foldl after output).script.Faithful := by
  induction looks generalizing output with
  | nil => exact faithful
  | cons how looks ih => exact ih (faithful_after faithful how)

/-- An output whose script was read, and whose payload anybody may have looked at, can be
regenerated. It says the same afterwards, and so do its new bytes to whoever reads them;
regenerating it again, or what was read, gives the same bytes. -/
theorem regenerate_meaning (amount : UInt64) (source : Bytes) (offset : Nat)
    (annotations : Annotations) (place : Option Attachment) (looks : List Read) :
    let output := looks.foldl after ⟨amount, OutputScript.parse source offset, annotations, place⟩
    ∃ regenerated, regenerate output = .ok () regenerated ∧
      regenerated.meaning = output.meaning ∧
      (∀ start, (regenerated.reread start).meaning = output.meaning) ∧
      (∃ again, regenerate regenerated = .ok () again ∧
        again.script.source = regenerated.script.source) ∧
      ∀ start, ∃ again, regenerate (regenerated.reread start) = .ok () again ∧
        again.script.source = regenerated.script.source := by
  intro output
  have read : (Output.mk amount (OutputScript.parse source offset) annotations
      place).script.Faithful := OutputScript.faithful_parse source offset
  have faithful : output.script.Faithful := faithful_looked read looks
  refine ⟨output.regenerated, regenerate_faithful faithful, meaning_regenerated output,
    meaning_reread faithful, ?_, fun start => ?_⟩
  · exact ⟨_, regenerate_faithful faithful.rebuilt, output.script.rebuiltSource_rebuilt⟩
  · exact ⟨_, regenerate_faithful (OutputScript.faithful_parse _ start),
      faithful.rebuiltSource_parse start⟩

end Output

end ClaimLedger
