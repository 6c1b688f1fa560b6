import ClaimLedger.Proofs.Regeneration

/-! Looking at outputs. A look leaves the payload held in decoded form and nothing else
behind; but a script is rebuilt from the values that are held, so a look shows in the
rebuilt bytes where the payload was not in its normal form. Purchases always are; claims
are unless a length inside them takes more bytes than it needs. -/
namespace ClaimLedger

namespace Payload

variable {α : Type} [PayloadFormat α]

/-- Looking costs nothing: a value is held already, or the bytes are how what they decode
to is written. -/
def Settled (payload : Payload α) : Prop :=
  ∀ value : α, payload.parsed = none → PayloadFormat.decode payload.raw = .ok value →
    PayloadFormat.encode value = payload.raw

/-- A look decodes what is not held and can be decoded. -/
theorem decoded_cases (payload : Payload α) :
    payload.decoded = payload ∨ payload.parsed = none ∧ ∃ value,
      PayloadFormat.decode payload.raw = .ok value ∧
      payload.decoded = ⟨payload.raw, some value⟩ := by
  obtain ⟨raw, parsed⟩ := payload
  cases parsed with
  | some value => exact .inl rfl
  | none =>
    cases decodes : (PayloadFormat.decode raw : Except Error α) with
    | error cause =>
      have found : (Payload.mk raw none : Payload α).value = .error cause := decodes
      exact .inl (by simp only [decoded, found])
    | ok value =>
      have found : (Payload.mk raw none : Payload α).value = .ok value := decodes
      exact .inr ⟨rfl, value, rfl, by simp only [decoded, found]⟩

/-- The bytes follow a look exactly when it cost something. -/
theorem raw_synced_decoded_iff (payload : Payload α) :
    payload.decoded.synced.raw = payload.synced.raw ↔
      payload.decoded = payload ∨ payload.Settled := by
  rcases payload.decoded_cases with same | ⟨unheld, value, decodes, looked⟩
  · rw [same]
    exact ⟨fun _ => .inl rfl, fun _ => rfl⟩
  · have kept : payload.synced = payload := by simp only [synced, unheld]
    rw [looked, kept]
    constructor
    · intro written
      refine .inr fun other _ decoded => ?_
      obtain rfl : value = other := Except.ok.inj (decodes.symm.trans decoded)
      exact written
    · rintro (same | settled)
      · have parsed := congrArg Payload.parsed same
        rw [unheld] at parsed
        cases parsed
      · exact settled value unheld decodes

theorem Settled.synced {payload : Payload α} (settled : payload.Settled) :
    payload.synced.Settled := by
  obtain ⟨raw, parsed⟩ := payload
  cases parsed with
  | none => exact settled
  | some value => exact nofun

/-- Where looking costs nothing, it does not matter whether it comes before or after the
payload is encoded anew. -/
theorem Settled.synced_decoded {payload : Payload α} (settled : payload.Settled) :
    payload.decoded.synced = payload.synced.decoded := by
  obtain ⟨raw, parsed⟩ := payload
  cases parsed with
  | some value => rfl
  | none =>
    have kept : (Payload.mk raw none : Payload α).synced = ⟨raw, none⟩ := rfl
    rw [kept]
    rcases (Payload.mk raw none : Payload α).decoded_cases with same | ⟨-, value, decodes, looked⟩
    · rw [same]
      rfl
    · have written : PayloadFormat.encode value = raw := settled value rfl decodes
      rw [looked]
      simp only [Payload.synced, written]

end Payload

/-- The bytes of a purchase are always in normal form. -/
theorem settled_purchase (payload : Payload Purchase) : payload.Settled :=
  fun _ _ decoded => Purchase.encode_of_decode decoded

/-! ## Templates and scripts -/

namespace OutputTemplate

/-- The template after somebody looked at whatever it has to decode. -/
def looked (template : OutputTemplate) : OutputTemplate :=
  template.claimDecoded.purchaseDecoded

/-- Looking at the claim costs nothing. -/
def Settled : OutputTemplate → Prop
  | claimName _ claim _ => claim.Settled
  | updateClaim _ _ claim _ => claim.Settled
  | _ => True

/-- A look for the claim finds nothing or everything there is to decode. -/
theorem claimDecoded_cases (template : OutputTemplate) :
    template.claimDecoded = template ∨ template.claimDecoded = template.looked := by
  cases template with
  | claimName name claim payee => exact .inr rfl
  | updateClaim name claimHash claim payee => exact .inr rfl
  | _ => exact .inl rfl

/-- So does a look for the purchase. -/
theorem purchaseDecoded_cases (template : OutputTemplate) :
    template.purchaseDecoded = template ∨ template.purchaseDecoded = template.looked := by
  cases template with
  | returnData data => exact .inr rfl
  | _ => exact .inl rfl

theorem looked_looked (template : OutputTemplate) : template.looked.looked = template.looked := by
  cases template with
  | claimName name claim payee => exact congrArg (claimName name · payee) claim.decoded_decoded
  | updateClaim name claimHash claim payee =>
    exact congrArg (updateClaim name claimHash · payee) claim.decoded_decoded
  | returnData data => exact congrArg returnData data.decoded_decoded
  | _ => rfl

theorem Settled.synced {template : OutputTemplate} (settled : template.Settled) :
    template.synced.Settled := by
  cases template with
  | claimName name claim payee => exact Payload.Settled.synced settled
  | updateClaim name claimHash claim payee => exact Payload.Settled.synced settled
  | _ => trivial

theorem Settled.synced_looked {template : OutputTemplate} (settled : template.Settled) :
    template.looked.synced = template.synced.looked := by
  cases template with
  | claimName name claim payee =>
    exact congrArg (claimName name · payee) (Payload.Settled.synced_decoded settled)
  | updateClaim name claimHash claim payee =>
    exact congrArg (updateClaim name claimHash · payee) (Payload.Settled.synced_decoded settled)
  | returnData data => exact congrArg returnData (settled_purchase data).synced_decoded
  | _ => rfl

theorem agrees_looked (template : OutputTemplate) : Agrees template template.looked := by
  cases template with
  | returnData data => exact agrees_purchaseDecoded (returnData data)
  | _ => exact agrees_claimDecoded _

theorem undecoded_looked (template : OutputTemplate) :
    template.looked.undecoded = template.undecoded := by
  cases template with
  | claimName name claim payee =>
    exact congrArg (fun raw => claimName name (Payload.ofRaw raw) payee) claim.raw_decoded
  | updateClaim name claimHash claim payee =>
    exact congrArg (fun raw => updateClaim name claimHash (Payload.ofRaw raw) payee)
      claim.raw_decoded
  | returnData data => exact congrArg (fun raw => returnData (Payload.ofRaw raw)) data.raw_decoded
  | _ => rfl

theorem Faithful.looked {template : OutputTemplate} (faithful : template.Faithful) :
    template.looked.Faithful :=
  faithful.claimDecoded.purchaseDecoded

/-- The fields that are written follow a look exactly when it cost something. -/
theorem undecoded_synced_looked_iff (template : OutputTemplate) :
    template.looked.synced.undecoded = template.synced.undecoded ↔
      template.looked = template ∨ template.Settled := by
  constructor
  · intro same
    cases template with
    | claimName name claim payee =>
      injection same with _ payloads _
      injection payloads with raw _
      exact (claim.raw_synced_decoded_iff.mp raw).imp_left (congrArg (claimName name · payee))
    | updateClaim name claimHash claim payee =>
      injection same with _ _ payloads _
      injection payloads with raw _
      exact (claim.raw_synced_decoded_iff.mp raw).imp_left
        (congrArg (updateClaim name claimHash · payee))
    | _ => exact .inr trivial
  · rintro (same | settled)
    · rw [same]
    · rw [settled.synced_looked, undecoded_looked]

/-- Bytes of a known kind are told apart by the fields they spell. -/
theorem script_eq_iff {template later : OutputTemplate} (known : template ≠ other)
    (pushable : template.Pushable) (laterKnown : later ≠ other) (laterPushable : later.Pushable) :
    later.script = template.script ↔ later.undecoded = template.undecoded := by
  constructor
  · intro same
    rw [← parse_script laterKnown laterPushable, same, parse_script known pushable]
  · intro same
    rw [← script_undecoded, same, script_undecoded]

/-- The rebuilt bytes follow a look exactly when it cost something. -/
theorem Faithful.script_looked_iff {template : OutputTemplate} (faithful : template.Faithful)
    (known : template.synced ≠ other) (lookedKnown : template.looked.synced ≠ other) :
    template.looked.synced.script = template.synced.script ↔
      template.looked = template ∨ template.Settled := by
  rw [script_eq_iff known faithful.synced.pushable lookedKnown faithful.looked.synced.pushable]
  exact template.undecoded_synced_looked_iff

end OutputTemplate

namespace OutputScript

/-- The script after somebody looked at whatever it has to decode. -/
def looked (script : OutputScript) : OutputScript :=
  { script with template := script.template.looked }

theorem looked_looked (script : OutputScript) : script.looked.looked = script.looked :=
  congrArg (OutputScript.mk script.source script.offset) script.template.looked_looked

theorem claimDecoded_cases (script : OutputScript) :
    script.claimDecoded = script ∨ script.claimDecoded = script.looked :=
  script.template.claimDecoded_cases.imp (congrArg (OutputScript.mk script.source script.offset))
    (congrArg (OutputScript.mk script.source script.offset))

theorem purchaseDecoded_cases (script : OutputScript) :
    script.purchaseDecoded = script ∨ script.purchaseDecoded = script.looked :=
  script.template.purchaseDecoded_cases.imp
    (congrArg (OutputScript.mk script.source script.offset))
    (congrArg (OutputScript.mk script.source script.offset))

/-- A look shows in the rebuilt bytes exactly when it cost something. -/
theorem Faithful.rebuiltSource_looked_iff {script : OutputScript} (faithful : script.Faithful) :
    script.looked.rebuiltSource = script.rebuiltSource ↔
      script.template.looked = script.template ∨ script.template.Settled := by
  obtain ⟨source, offset, template⟩ := script
  cases template with
  | other => exact ⟨fun _ => .inl rfl, fun _ => rfl⟩
  | _ => exact faithful.template.script_looked_iff nofun nofun

end OutputScript

/-! ## Outputs -/

namespace Output

/-- The output after somebody looked at whatever it has to decode. -/
def looked (output : Output) : Output :=
  { output with script := output.script.looked }

theorem looked_looked (output : Output) : output.looked.looked = output.looked := by
  simp only [looked, OutputScript.looked_looked]

/-- Every way to look changes nothing or decodes all there is. -/
theorem after_cases (output : Output) (how : Read) :
    output.after how = output ∨ output.after how = output.looked := by
  have claim : output.claimDecoded = output ∨ output.claimDecoded = output.looked :=
    output.script.claimDecoded_cases.imp (congrArg ({ output with script := · }))
      (congrArg ({ output with script := · }))
  have purchase : output.purchaseDecoded = output ∨ output.purchaseDecoded = output.looked :=
    output.script.purchaseDecoded_cases.imp (congrArg ({ output with script := · }))
      (congrArg ({ output with script := · }))
  cases how with
  | signedBy channel =>
    rw [after]
    split
    · exact claim
    · exact .inl rfl
  | purchaseData => exact purchase
  | canDecodePurchaseData => exact purchase
  | everything => exact .inr rfl
  | _ => exact claim

/-- After any number of looks the output is as before, or looked at once. -/
theorem looked_cases (output : Output) (looks : List Read) :
    looks.foldl after output = output ∨ looks.foldl after output = output.looked := by
  induction looks generalizing output with
  | nil => exact .inl rfl
  | cons how looks ih =>
    rw [List.foldl_cons]
    rcases output.after_cases how with same | looked
    · rw [same]
      exact ih output
    · rw [looked]
      rcases ih output.looked with again | again
      · exact .inr again
      · exact .inr (again.trans output.looked_looked)

/-- Looking changes nothing of what the output says. -/
theorem meaning_looked (output : Output) : output.looked.meaning = output.meaning := by
  have agrees : output.script.template.Agrees output.looked.script.template :=
    output.script.template.agrees_looked
  exact (meaning_congr agrees rfl).symm

end Output

end ClaimLedger
