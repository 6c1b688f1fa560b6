import ClaimLedger.Proofs.Pushes
import ClaimLedger.Script.Output

/-! Output scripts of templates. A template whose fields are small enough for a
push has one script of its own, which depends on the bytes of a payload and not on
what was decoded of it. A script is rebuilt exactly when its fields are small
enough; otherwise the first that is too large is reported. -/
namespace ClaimLedger

/-- What follows the bytes of a fixed length does not matter for them. -/
theorem FixedBytes.ofPadded_append {n : Nat} (bytes : FixedBytes n) (rest : Bytes) :
    ofPadded n (bytes.toList ++ rest) = bytes := by
  apply ext
  simp only [ofPadded, List.append_assoc]
  exact List.take_left' bytes.length_toList

namespace Script

theorem writePush_small {data : Bytes} (small : data.length < pushLimit) :
    writePush data = .ok (pushOf data) := by
  rw [writePush, if_pos small]

theorem writePush_large {data : Bytes} (large : ¬ data.length < pushLimit) :
    writePush data = .error (.malformed (.pushTooLarge data.length)) := by
  rw [writePush, if_neg large]

end Script

namespace Payee

theorem ofScript?_script (payee : Payee) : ofScript? payee.script = some payee := by
  cases payee with
  | pubKeyHash hash =>
    have read : FixedBytes.ofPadded 20 ((pubKeyHash hash).script.drop 3) = hash :=
      hash.ofPadded_append [0x88, 0xac]
    simp only [ofScript?, read, ↓reduceIte]
  | scriptHash hash =>
    have read : FixedBytes.ofPadded 20 ((scriptHash hash).script.drop 2) = hash :=
      hash.ofPadded_append [0x87]
    have other (key : Hash160) : (scriptHash hash).script ≠ (pubKeyHash key).script := by
      simp [script]
    simp only [ofScript?, read, if_neg (other _), ↓reduceIte]

/-- Payments begin with one of two opcodes. -/
theorem ofScript?_cons {opcode : UInt8} (noKey : opcode ≠ 0x76) (noScript : opcode ≠ 0xa9)
    (rest : Bytes) : ofScript? (opcode :: rest) = none := by
  have key (hash : Hash160) : opcode :: rest ≠ (pubKeyHash hash).script := by simp [script, noKey]
  have other (hash : Hash160) : opcode :: rest ≠ (scriptHash hash).script := by
    simp [script, noScript]
  simp only [ofScript?, if_neg (key _), if_neg (other _)]

end Payee

namespace OutputTemplate

/-- All fields that the script pushes are small enough for it. -/
def Pushable : OutputTemplate → Prop
  | claimName name claim _ =>
    name.length < Script.pushLimit ∧ claim.raw.length < Script.pushLimit
  | updateClaim name _ claim _ =>
    name.length < Script.pushLimit ∧ claim.raw.length < Script.pushLimit
  | supportClaim name _ _ => name.length < Script.pushLimit
  | returnData data => data.raw.length < Script.pushLimit
  | _ => True

/-- The script of a template whose fields are small enough. -/
def script : OutputTemplate → Bytes
  | payPubKeyHash hash => (Payee.pubKeyHash hash).script
  | payScriptHash hash => (Payee.scriptHash hash).script
  | claimName name claim payee =>
    opClaimName :: (Script.pushOf name ++ (Script.pushOf claim.raw ++
      ([opTwoDrop, opDrop] ++ payee.script)))
  | updateClaim name claimHash claim payee =>
    opUpdateClaim :: (Script.pushOf name ++ (Script.pushOf claimHash.toList ++
      (Script.pushOf claim.raw ++ ([opTwoDrop, opTwoDrop] ++ payee.script))))
  | supportClaim name claimHash payee =>
    opSupportClaim :: (Script.pushOf name ++ (Script.pushOf claimHash.toList ++
      ([opTwoDrop, opDrop] ++ payee.script)))
  | returnData data => opReturn :: Script.pushOf data.raw
  | other => []

/-- The template as a script gives it: payloads are bytes that nobody has decoded. -/
def undecoded : OutputTemplate → OutputTemplate
  | claimName name claim payee => claimName name (Payload.ofRaw claim.raw) payee
  | updateClaim name claimHash claim payee =>
    updateClaim name claimHash (Payload.ofRaw claim.raw) payee
  | returnData data => returnData (Payload.ofRaw data.raw)
  | template => template

theorem small_claimHash (claimHash : ClaimHash) :
    claimHash.toList.length < Script.pushLimit := by
  rw [claimHash.length_toList]
  decide

theorem encode?_pushable {template : OutputTemplate} (known : template ≠ other)
    (pushable : template.Pushable) : template.encode? = .ok (some template.script) := by
  cases template with
  | payPubKeyHash hash => rfl
  | payScriptHash hash => rfl
  | claimName name claim payee =>
    simp [encode?, script, Script.writePush_small pushable.1, Script.writePush_small pushable.2,
      Bind.bind, Except.bind, Pure.pure, Except.pure]
  | updateClaim name claimHash claim payee =>
    simp [encode?, script, Script.writePush_small pushable.1, Script.writePush_small pushable.2,
      Script.writePush_small (small_claimHash claimHash), Bind.bind, Except.bind, Pure.pure,
      Except.pure]
  | supportClaim name claimHash payee =>
    have named : name.length < Script.pushLimit := pushable
    simp [encode?, script, Script.writePush_small named,
      Script.writePush_small (small_claimHash claimHash), Bind.bind, Except.bind, Pure.pure,
      Except.pure]
  | returnData data =>
    have returned : data.raw.length < Script.pushLimit := pushable
    simp only [encode?, Script.writePush_small returned]
    rfl
  | other => exact absurd rfl known

/-- The first field that is too large is reported. -/
theorem encode?_oversized {template : OutputTemplate} (oversized : ¬ template.Pushable) :
    ∃ length, Script.pushLimit ≤ length ∧
      template.encode? = .error (.malformed (.pushTooLarge length)) := by
  cases template with
  | payPubKeyHash hash => exact absurd trivial oversized
  | payScriptHash hash => exact absurd trivial oversized
  | claimName name claim payee =>
    by_cases small : name.length < Script.pushLimit
    · have large : ¬ claim.raw.length < Script.pushLimit := fun fits => oversized ⟨small, fits⟩
      refine ⟨claim.raw.length, Nat.le_of_not_lt large, ?_⟩
      simp only [encode?, Script.writePush_small small, Script.writePush_large large]
      rfl
    · refine ⟨name.length, Nat.le_of_not_lt small, ?_⟩
      simp only [encode?, Script.writePush_large small]
      rfl
  | updateClaim name claimHash claim payee =>
    by_cases small : name.length < Script.pushLimit
    · have large : ¬ claim.raw.length < Script.pushLimit := fun fits => oversized ⟨small, fits⟩
      refine ⟨claim.raw.length, Nat.le_of_not_lt large, ?_⟩
      simp only [encode?, Script.writePush_small small, Script.writePush_large large,
        Script.writePush_small (small_claimHash claimHash)]
      rfl
    · refine ⟨name.length, Nat.le_of_not_lt small, ?_⟩
      simp only [encode?, Script.writePush_large small]
      rfl
  | supportClaim name claimHash payee =>
    have large : ¬ name.length < Script.pushLimit := oversized
    refine ⟨name.length, Nat.le_of_not_lt large, ?_⟩
    simp only [encode?, Script.writePush_large large]
    rfl
  | returnData data =>
    have large : ¬ data.raw.length < Script.pushLimit := oversized
    refine ⟨data.raw.length, Nat.le_of_not_lt large, ?_⟩
    simp only [encode?, Script.writePush_large large]
    rfl
  | other => exact absurd trivial oversized

end OutputTemplate

namespace OutputScript

theorem generate_pushable {script : OutputScript} (known : script.template.synced ≠ .other)
    (pushable : script.template.synced.Pushable) :
    generate script =
      .ok () ⟨script.template.synced.script, script.offset, script.template.synced⟩ := by
  simp only [generate, OutputTemplate.encode?_pushable known pushable]

theorem generate_oversized {script : OutputScript}
    (oversized : ¬ script.template.synced.Pushable) :
    ∃ length, Script.pushLimit ≤ length ∧ generate script =
      .error (.malformed (.pushTooLarge length))
        ⟨script.source, script.offset, script.template.synced⟩ := by
  obtain ⟨length, large, refused⟩ := OutputTemplate.encode?_oversized oversized
  exact ⟨length, large, by simp only [generate, refused]⟩

end OutputScript

end ClaimLedger
