import ClaimLedger.Proofs.ClaimNormalForm
import ClaimLedger.Proofs.ScriptGrammar

/-! Payloads that came out of a script. Such a payload holds nothing but what its bytes
decode to, and its bytes once fitted a push; looking at it and encoding it anew keep
both. What decodes is encoded in its normal form, which decodes to the same and is no
longer, so a script that was read can always be rebuilt and says the same afterwards. -/
namespace ClaimLedger

/-! ## Formats -/

/-- What decodes has a normal form: the value is written as bytes that decode to it, and
these are no more than the bytes it came from. -/
class LawfulFormat (α : Type) [PayloadFormat α] : Prop where
  decode_normal : ∀ {bytes : Bytes} {value : α}, PayloadFormat.decode bytes = .ok value →
    bytes.length < Script.pushLimit →
    PayloadFormat.decode (PayloadFormat.encode value) = .ok value ∧
      (PayloadFormat.encode value).length ≤ bytes.length

instance : LawfulFormat Claim where
  decode_normal decoded _ := Claim.decode_normal decoded

/-- The bytes of a purchase are all in use, so they are its normal form already. -/
theorem Purchase.encode_of_decode {bytes : Bytes} {purchase : Purchase}
    (decoded : decode bytes = .ok purchase) : encode purchase = bytes := by
  cases bytes with
  | nil => cases decoded
  | cons first rest =>
    rw [decode] at decoded
    split at decoded
    · rename_i start
      unfold ClaimHash.ofBytes at decoded
      split at decoded
      · rename_i hash found
        cases decoded
        rw [encode, start, FixedBytes.ofList?_eq_some_iff.mp found]
      · cases decoded
    · cases decoded

instance : LawfulFormat Purchase where
  decode_normal decoded _ := by
    have same := Purchase.encode_of_decode decoded
    exact ⟨(congrArg PayloadFormat.decode same).trans decoded, Nat.le_of_eq (congrArg _ same)⟩

/-! ## Payloads -/

namespace Payload

variable {α : Type} [PayloadFormat α]

/-- The payload holds nothing but what its bytes decode to, and they fit a push. -/
structure Faithful (payload : Payload α) : Prop where
  small : payload.raw.length < Script.pushLimit
  held : ∀ value, payload.parsed = some value → PayloadFormat.decode payload.raw = .ok value

theorem faithful_ofRaw {raw : Bytes} (small : raw.length < Script.pushLimit) :
    (ofRaw raw : Payload α).Faithful :=
  ⟨small, nofun⟩

theorem Faithful.value_eq {payload : Payload α} (faithful : payload.Faithful) :
    payload.value = PayloadFormat.decode payload.raw := by
  unfold value
  split
  · rename_i value held
    exact (faithful.held value held).symm
  · rfl

theorem Faithful.decoded {payload : Payload α} (faithful : payload.Faithful) :
    payload.decoded.Faithful where
  small := by
    rw [raw_decoded]
    exact faithful.small
  held value held := by
    rw [raw_decoded]
    unfold Payload.decoded at held
    split at held
    · rename_i found
      cases held
      rw [← faithful.value_eq, found]
    · exact faithful.held value held

theorem decoded_decoded (payload : Payload α) : payload.decoded.decoded = payload.decoded := by
  have same := payload.value_decoded
  cases found : payload.value with
  | ok value =>
    rw [found] at same
    have held : payload.decoded = ⟨payload.raw, some value⟩ := by simp only [decoded, found]
    rw [held] at same ⊢
    simp only [decoded, same]
  | error cause =>
    have untouched : payload.decoded = payload := by simp only [decoded, found]
    rw [untouched, untouched]

theorem value_synced (payload : Payload α) : payload.synced.value = payload.value := by
  obtain ⟨raw, parsed⟩ := payload
  cases parsed with
  | none => rfl
  | some value => rfl

theorem synced_synced (payload : Payload α) : payload.synced.synced = payload.synced := by
  obtain ⟨raw, parsed⟩ := payload
  cases parsed with
  | none => rfl
  | some value => rfl

theorem Faithful.synced [LawfulFormat α] {payload : Payload α} (faithful : payload.Faithful) :
    payload.synced.Faithful := by
  obtain ⟨raw, parsed⟩ := payload
  cases parsed with
  | none => exact faithful
  | some value =>
    have normal := LawfulFormat.decode_normal (faithful.held value rfl) faithful.small
    exact ⟨Nat.lt_of_le_of_lt normal.2 faithful.small, fun other held => by
      cases held
      exact normal.1⟩

end Payload

/-! ## Templates -/

namespace OutputTemplate

/-- The payload is faithful, and the name fits a push. -/
def Faithful : OutputTemplate → Prop
  | claimName name claim _ => name.length < Script.pushLimit ∧ claim.Faithful
  | updateClaim name _ claim _ => name.length < Script.pushLimit ∧ claim.Faithful
  | supportClaim name _ _ => name.length < Script.pushLimit
  | returnData data => data.Faithful
  | _ => True

theorem Spelled.faithful {source : Bytes} {template : OutputTemplate}
    (spelled : Spelled template source) : template.Faithful := by
  cases spelled with
  | payPubKeyHash hash => trivial
  | payScriptHash hash => trivial
  | claimName payee named claimed =>
    exact ⟨named.length_lt, Payload.faithful_ofRaw claimed.length_lt⟩
  | supportClaim claimHash payee named identified => exact named.length_lt
  | updateClaim claimHash payee named identified claimed =>
    exact ⟨named.length_lt, Payload.faithful_ofRaw claimed.length_lt⟩
  | returnData pushed => exact Payload.faithful_ofRaw pushed.length_lt
  | returnNothing => exact Payload.faithful_ofRaw (by decide)

/-- What comes out of a script is faithful. -/
theorem faithful_parse (source : Bytes) : (parse source).Faithful := by
  by_cases known : parse source = other
  · rw [known]
    trivial
  · exact (spelled_parse known rfl).faithful

theorem Faithful.claimDecoded {template : OutputTemplate} (faithful : template.Faithful) :
    template.claimDecoded.Faithful := by
  cases template with
  | claimName name claim payee => exact ⟨faithful.1, faithful.2.decoded⟩
  | updateClaim name claimHash claim payee => exact ⟨faithful.1, faithful.2.decoded⟩
  | _ => exact faithful

theorem Faithful.purchaseDecoded {template : OutputTemplate} (faithful : template.Faithful) :
    template.purchaseDecoded.Faithful := by
  cases template with
  | returnData data => exact Payload.Faithful.decoded faithful
  | _ => exact faithful

theorem Faithful.synced {template : OutputTemplate} (faithful : template.Faithful) :
    template.synced.Faithful := by
  cases template with
  | claimName name claim payee => exact ⟨faithful.1, faithful.2.synced⟩
  | updateClaim name claimHash claim payee => exact ⟨faithful.1, faithful.2.synced⟩
  | returnData data => exact Payload.Faithful.synced faithful
  | _ => exact faithful

/-- The fields of a faithful template fit their pushes. -/
theorem Faithful.pushable {template : OutputTemplate} (faithful : template.Faithful) :
    template.Pushable := by
  cases template with
  | claimName name claim payee => exact ⟨faithful.1, faithful.2.small⟩
  | updateClaim name claimHash claim payee => exact ⟨faithful.1, faithful.2.small⟩
  | supportClaim name claimHash payee => exact faithful
  | returnData data => exact Payload.Faithful.small faithful
  | _ => trivial

/-! ## What a template says -/

/-- Templates of one kind with the same fields, whose payloads hold the same value or
fail to decode for the same reason. -/
inductive Agrees : OutputTemplate → OutputTemplate → Prop where
  | claimName {claim other : Payload Claim} (name : Bytes) (payee : Payee)
      (same : claim.value = other.value) :
      Agrees (claimName name claim payee) (claimName name other payee)
  | updateClaim {claim other : Payload Claim} (name : Bytes) (claimHash : ClaimHash)
      (payee : Payee) (same : claim.value = other.value) :
      Agrees (updateClaim name claimHash claim payee) (updateClaim name claimHash other payee)
  | returnData {data other : Payload Purchase} (same : data.value = other.value) :
      Agrees (returnData data) (returnData other)
  | refl (template : OutputTemplate) : Agrees template template

theorem agrees_claimDecoded (template : OutputTemplate) :
    Agrees template template.claimDecoded := by
  cases template with
  | claimName name claim payee => exact .claimName name payee claim.value_decoded.symm
  | updateClaim name claimHash claim payee =>
    exact .updateClaim name claimHash payee claim.value_decoded.symm
  | _ => exact .refl _

theorem agrees_purchaseDecoded (template : OutputTemplate) :
    Agrees template template.purchaseDecoded := by
  cases template with
  | returnData data => exact .returnData data.value_decoded.symm
  | _ => exact .refl _

theorem agrees_synced (template : OutputTemplate) : Agrees template template.synced := by
  cases template with
  | claimName name claim payee => exact .claimName name payee claim.value_synced.symm
  | updateClaim name claimHash claim payee =>
    exact .updateClaim name claimHash payee claim.value_synced.symm
  | returnData data => exact .returnData data.value_synced.symm
  | _ => exact .refl _

/-- A faithful template says what its bytes say. -/
theorem Faithful.agrees_undecoded {template : OutputTemplate} (faithful : template.Faithful) :
    Agrees template template.undecoded := by
  cases template with
  | claimName name claim payee => exact .claimName name payee faithful.2.value_eq
  | updateClaim name claimHash claim payee =>
    exact .updateClaim name claimHash payee faithful.2.value_eq
  | returnData data => exact .returnData (Payload.Faithful.value_eq faithful)
  | _ => exact .refl _

theorem synced_synced (template : OutputTemplate) : template.synced.synced = template.synced := by
  cases template with
  | claimName name claim payee => simp only [synced, Payload.synced_synced]
  | updateClaim name claimHash claim payee => simp only [synced, Payload.synced_synced]
  | returnData data => simp only [synced, Payload.synced_synced]
  | _ => rfl

/-- Bytes that nobody has decoded stay as they are. -/
theorem synced_undecoded (template : OutputTemplate) :
    template.undecoded.synced = template.undecoded := by
  cases template with
  | _ => rfl

theorem script_undecoded (template : OutputTemplate) :
    template.undecoded.script = template.script := by
  cases template with
  | _ => rfl

end OutputTemplate

end ClaimLedger
