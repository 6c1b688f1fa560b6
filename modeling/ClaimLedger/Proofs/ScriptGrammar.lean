import ClaimLedger.Proofs.Templates

/-! The grammar of output scripts. Each known kind of script is an opcode, pushes in
any of their forms, two dropping opcodes and the standard script of a payee; payments
are that standard script alone, and a returning script is one push or nothing. Scripts
are told apart exactly by this grammar, so whatever it does not derive is of no known
kind, and the scripts that are built belong to the kind they were built from. -/
namespace ClaimLedger

/-- Only the standard script of a payee pays that payee. -/
theorem Payee.ofScript?_eq_some_iff {source : Bytes} {payee : Payee} :
    ofScript? source = some payee ↔ source = payee.script := by
  constructor
  · intro found
    simp only [ofScript?] at found
    split at found
    · rename_i standard
      cases found
      exact standard
    split at found
    · rename_i standard
      cases found
      exact standard
    · cases found
  · rintro rfl
    exact ofScript?_script payee

namespace OutputTemplate

open Script (Pushes)

/-- The scripts of the known kinds, with the fields of each. Payloads are bytes that
nobody has decoded. -/
inductive Spelled : OutputTemplate → Bytes → Prop where
  | payPubKeyHash (hash : Hash160) :
      Spelled (payPubKeyHash hash) ([0x76, 0xa9, 0x14] ++ hash.toList ++ [0x88, 0xac])
  | payScriptHash (hash : Hash160) :
      Spelled (payScriptHash hash) ([0xa9, 0x14] ++ hash.toList ++ [0x87])
  | claimName {name claim first second : Bytes} (payee : Payee) (named : Pushes name first)
      (claimed : Pushes claim second) :
      Spelled (claimName name (Payload.ofRaw claim) payee)
        (0xb5 :: (first ++ (second ++ (0x6d :: 0x75 :: payee.script))))
  | supportClaim {name first second : Bytes} (claimHash : ClaimHash) (payee : Payee)
      (named : Pushes name first) (identified : Pushes claimHash.toList second) :
      Spelled (supportClaim name claimHash payee)
        (0xb6 :: (first ++ (second ++ (0x6d :: 0x75 :: payee.script))))
  | updateClaim {name claim first second third : Bytes} (claimHash : ClaimHash) (payee : Payee)
      (named : Pushes name first) (identified : Pushes claimHash.toList second)
      (claimed : Pushes claim third) :
      Spelled (updateClaim name claimHash (Payload.ofRaw claim) payee)
        (0xb7 :: (first ++ (second ++ (third ++ (0x6d :: 0x6d :: payee.script)))))
  | returnData {data push : Bytes} (pushed : Pushes data push) :
      Spelled (returnData (Payload.ofRaw data)) (0x6a :: push)
  | returnNothing : Spelled (returnData (Payload.ofRaw [])) [0x6a]

/-! ## The fields behind each opcode -/

theorem readPayee?_eq_some_iff {firstDrop secondDrop : UInt8} {bytes : Bytes} {payee : Payee} :
    readPayee? firstDrop secondDrop bytes = some payee ↔
      bytes = firstDrop :: secondDrop :: payee.script := by
  constructor
  · intro read
    unfold readPayee? at read
    split at read
    · split at read
      · rename_i drops
        obtain ⟨rfl, rfl⟩ := drops
        rw [Payee.ofScript?_eq_some_iff.mp read]
      · cases read
    · cases read
  · rintro rfl
    simp [readPayee?, Payee.ofScript?_script]

theorem readClaimName?_eq_some_iff {fields : Bytes} {template : OutputTemplate} :
    readClaimName? fields = some template ↔
      ∃ name claim first second payee, Pushes name first ∧ Pushes claim second ∧
        fields = first ++ (second ++ (0x6d :: 0x75 :: payee.script)) ∧
        template = claimName name (Payload.ofRaw claim) payee := by
  simp only [readClaimName?, Option.bind_eq_bind, Option.bind_eq_some_iff, Prod.exists,
    Script.readPush?_eq_some_iff, readPayee?_eq_some_iff, Option.pure_def, Option.some.injEq]
  constructor
  · rintro ⟨name, rest, ⟨first, named, rfl⟩, claim, tail, ⟨second, claimed, rfl⟩, payee, rfl, rfl⟩
    exact ⟨name, claim, first, second, payee, named, claimed, rfl, rfl⟩
  · rintro ⟨name, claim, first, second, payee, named, claimed, rfl, rfl⟩
    exact ⟨name, _, ⟨first, named, rfl⟩, claim, _, ⟨second, claimed, rfl⟩, payee, rfl, rfl⟩

theorem readSupport?_eq_some_iff {fields : Bytes} {template : OutputTemplate} :
    readSupport? fields = some template ↔
      ∃ name claimHash first second payee, Pushes name first ∧
        Pushes (claimHash : ClaimHash).toList second ∧
        fields = first ++ (second ++ (0x6d :: 0x75 :: payee.script)) ∧
        template = supportClaim name claimHash payee := by
  simp only [readSupport?, Option.bind_eq_bind, Option.bind_eq_some_iff, Prod.exists,
    Script.readPush?_eq_some_iff, readPayee?_eq_some_iff, FixedBytes.ofList?_eq_some_iff,
    Option.pure_def, Option.some.injEq]
  constructor
  · rintro ⟨name, rest, ⟨first, named, rfl⟩, hash, tail, ⟨second, identified, rfl⟩, payee, rfl,
      claimHash, rfl, rfl⟩
    exact ⟨name, claimHash, first, second, payee, named, identified, rfl, rfl⟩
  · rintro ⟨name, claimHash, first, second, payee, named, identified, rfl, rfl⟩
    exact ⟨name, _, ⟨first, named, rfl⟩, _, _, ⟨second, identified, rfl⟩, payee, rfl, claimHash,
      rfl, rfl⟩

theorem readUpdate?_eq_some_iff {fields : Bytes} {template : OutputTemplate} :
    readUpdate? fields = some template ↔
      ∃ name claimHash claim first second third payee, Pushes name first ∧
        Pushes (claimHash : ClaimHash).toList second ∧ Pushes claim third ∧
        fields = first ++ (second ++ (third ++ (0x6d :: 0x6d :: payee.script))) ∧
        template = updateClaim name claimHash (Payload.ofRaw claim) payee := by
  simp only [readUpdate?, Option.bind_eq_bind, Option.bind_eq_some_iff, Prod.exists,
    Script.readPush?_eq_some_iff, readPayee?_eq_some_iff, FixedBytes.ofList?_eq_some_iff,
    Option.pure_def, Option.some.injEq]
  constructor
  · rintro ⟨name, rest, ⟨first, named, rfl⟩, hash, behind, ⟨second, identified, rfl⟩, claim, tail,
      ⟨third, claimed, rfl⟩, payee, rfl, claimHash, rfl, rfl⟩
    exact ⟨name, claimHash, claim, first, second, third, payee, named, identified, claimed, rfl, rfl⟩
  · rintro ⟨name, claimHash, claim, first, second, third, payee, named, identified, claimed, rfl,
      rfl⟩
    exact ⟨name, _, ⟨first, named, rfl⟩, _, _, ⟨second, identified, rfl⟩, claim, _,
      ⟨third, claimed, rfl⟩, payee, rfl, claimHash, rfl, rfl⟩

theorem readReturn?_eq_some_iff {fields : Bytes} {template : OutputTemplate} :
    readReturn? fields = some template ↔
      ∃ data, (Pushes data fields ∨ fields = [] ∧ data = []) ∧
        template = returnData (Payload.ofRaw data) := by
  constructor
  · intro read
    unfold readReturn? at read
    split at read
    · cases read
      exact ⟨[], .inr ⟨rfl, rfl⟩, rfl⟩
    split at read
    · rename_i data pushed
      cases read
      obtain ⟨push, pushes, rfl⟩ := Script.readPush?_eq_some_iff.mp pushed
      rw [List.append_nil]
      exact ⟨data, .inl pushes, rfl⟩
    · cases read
  · rintro ⟨data, pushes | ⟨rfl, rfl⟩, rfl⟩
    · have read := pushes.read []
      rw [List.append_nil] at read
      cases fields with
      | nil => cases read
      | cons opcode behind => simp only [readReturn?, read]
    · rfl

/-! ## Scripts and their kinds -/

theorem parse_pubKeyHash (hash : Hash160) :
    parse (Payee.pubKeyHash hash).script = payPubKeyHash hash := by
  simp only [parse, Payee.ofScript?_script]

theorem parse_scriptHash (hash : Hash160) :
    parse (Payee.scriptHash hash).script = payScriptHash hash := by
  simp only [parse, Payee.ofScript?_script]

/-- What opens no payment is told apart by its opcode. -/
theorem parse_cons {opcode : UInt8} (noKey : opcode ≠ 0x76) (noScript : opcode ≠ 0xa9)
    (fields : Bytes) :
    parse (opcode :: fields) =
      if opcode = opReturn then (readReturn? fields).getD other
      else if opcode = opClaimName then (readClaimName? fields).getD other
      else if opcode = opSupportClaim then (readSupport? fields).getD other
      else if opcode = opUpdateClaim then (readUpdate? fields).getD other
      else other := by
  simp only [parse, Payee.ofScript?_cons noKey noScript]

theorem parse_opReturn (fields : Bytes) :
    parse (0x6a :: fields) = (readReturn? fields).getD other := by
  rw [parse_cons (by decide) (by decide)]
  rfl

theorem parse_opClaimName (fields : Bytes) :
    parse (0xb5 :: fields) = (readClaimName? fields).getD other := by
  rw [parse_cons (by decide) (by decide)]
  rfl

theorem parse_opSupportClaim (fields : Bytes) :
    parse (0xb6 :: fields) = (readSupport? fields).getD other := by
  rw [parse_cons (by decide) (by decide)]
  rfl

theorem parse_opUpdateClaim (fields : Bytes) :
    parse (0xb7 :: fields) = (readUpdate? fields).getD other := by
  rw [parse_cons (by decide) (by decide)]
  rfl

private theorem eq_some_of_getD {read : Option OutputTemplate} {template : OutputTemplate}
    (known : template ≠ other) (parsed : read.getD other = template) : read = some template := by
  cases read with
  | none => exact absurd parsed.symm known
  | some found => exact congrArg some parsed

/-- A script of a known kind is spelled by the grammar. -/
theorem spelled_parse {source : Bytes} {template : OutputTemplate} (known : template ≠ other)
    (parsed : parse source = template) : Spelled template source := by
  unfold parse at parsed
  split at parsed
  · rename_i hash paid
    rw [Payee.ofScript?_eq_some_iff.mp paid, ← parsed]
    exact .payPubKeyHash hash
  · rename_i hash paid
    rw [Payee.ofScript?_eq_some_iff.mp paid, ← parsed]
    exact .payScriptHash hash
  split at parsed
  · exact absurd parsed.symm known
  rename_i opcode fields
  split at parsed
  · rename_i opens
    obtain ⟨data, pushes | ⟨rfl, rfl⟩, rfl⟩ :=
      readReturn?_eq_some_iff.mp (eq_some_of_getD known parsed)
    · exact opens ▸ .returnData pushes
    · exact opens ▸ .returnNothing
  split at parsed
  · rename_i opens
    obtain ⟨name, claim, first, second, payee, named, claimed, rfl, rfl⟩ :=
      readClaimName?_eq_some_iff.mp (eq_some_of_getD known parsed)
    exact opens ▸ .claimName payee named claimed
  split at parsed
  · rename_i opens
    obtain ⟨name, claimHash, first, second, payee, named, identified, rfl, rfl⟩ :=
      readSupport?_eq_some_iff.mp (eq_some_of_getD known parsed)
    exact opens ▸ .supportClaim claimHash payee named identified
  split at parsed
  · rename_i opens
    obtain ⟨name, claimHash, claim, first, second, third, payee, named, identified, claimed, rfl,
      rfl⟩ := readUpdate?_eq_some_iff.mp (eq_some_of_getD known parsed)
    exact opens ▸ .updateClaim claimHash payee named identified claimed
  · exact absurd parsed.symm known

/-- What the grammar spells is read as the template it is spelled from. -/
theorem Spelled.parse {source : Bytes} {template : OutputTemplate}
    (spelled : Spelled template source) : parse source = template := by
  cases spelled with
  | payPubKeyHash hash => exact parse_pubKeyHash hash
  | payScriptHash hash => exact parse_scriptHash hash
  | claimName payee named claimed =>
    rw [parse_opClaimName, readClaimName?_eq_some_iff.mpr
      ⟨_, _, _, _, payee, named, claimed, rfl, rfl⟩]
    rfl
  | supportClaim claimHash payee named identified =>
    rw [parse_opSupportClaim, readSupport?_eq_some_iff.mpr
      ⟨_, claimHash, _, _, payee, named, identified, rfl, rfl⟩]
    rfl
  | updateClaim claimHash payee named identified claimed =>
    rw [parse_opUpdateClaim, readUpdate?_eq_some_iff.mpr
      ⟨_, claimHash, _, _, _, _, payee, named, identified, claimed, rfl, rfl⟩]
    rfl
  | returnData pushed =>
    rw [parse_opReturn, readReturn?_eq_some_iff.mpr ⟨_, .inl pushed, rfl⟩]
    rfl
  | returnNothing =>
    rw [parse_opReturn]
    rfl

/-- Nothing spells a script of no known kind. -/
theorem not_spelled_other (source : Bytes) : ¬ Spelled other source := by
  intro spelled
  cases spelled

/-- A template whose fields fit their pushes is spelled with the shortest of them. -/
theorem spelled_script {template : OutputTemplate} (known : template ≠ other)
    (pushable : template.Pushable) : Spelled template.undecoded template.script := by
  cases template with
  | payPubKeyHash hash => exact .payPubKeyHash hash
  | payScriptHash hash => exact .payScriptHash hash
  | claimName name claim payee =>
    exact .claimName payee (Script.pushes_pushOf pushable.1) (Script.pushes_pushOf pushable.2)
  | updateClaim name claimHash claim payee =>
    exact .updateClaim claimHash payee (Script.pushes_pushOf pushable.1)
      (Script.pushes_pushOf (small_claimHash claimHash)) (Script.pushes_pushOf pushable.2)
  | supportClaim name claimHash payee =>
    exact .supportClaim claimHash payee (Script.pushes_pushOf pushable)
      (Script.pushes_pushOf (small_claimHash claimHash))
  | returnData data => exact .returnData (Script.pushes_pushOf pushable)
  | other => exact absurd rfl known

/-- Scripts are read as the templates they were written from. -/
theorem parse_script {template : OutputTemplate} (known : template ≠ other)
    (pushable : template.Pushable) : parse template.script = template.undecoded :=
  (spelled_script known pushable).parse

end OutputTemplate

/-- A script has a known template exactly when the grammar spells it from that template,
and none exactly when the grammar does not spell it. What is generated from a template
whose fields fit their pushes is such a script, so its fields are read back. -/
theorem OutputScript.parse_grammar :
    (∀ (source : Bytes) (offset : Nat) (template : OutputTemplate),
      (parse source offset).template = template ↔
        template.Spelled source ∨
          template = .other ∧ ∀ known : OutputTemplate, ¬ known.Spelled source) ∧
      ∀ script : OutputScript, script.template ≠ .other → script.template.synced.Pushable →
        ∃ generated, generate script = .ok () generated ∧ ∀ offset,
          (parse generated.source offset).template = script.template.synced.undecoded := by
  constructor
  · intro source offset template
    constructor
    · intro parsed
      by_cases known : template = .other
      · refine .inr ⟨known, fun candidate spelled => ?_⟩
        have same : candidate = template := spelled.parse.symm.trans parsed
        exact OutputTemplate.not_spelled_other source (known ▸ same ▸ spelled)
      · exact .inl (OutputTemplate.spelled_parse known parsed)
    · rintro (spelled | ⟨rfl, unspelled⟩)
      · exact spelled.parse
      · by_cases known : (parse source offset).template = .other
        · exact known
        · exact absurd (OutputTemplate.spelled_parse known rfl) (unspelled _)
  · intro script known pushable
    have known : script.template.synced ≠ .other := by
      cases shape : script.template with
      | other => exact absurd shape known
      | _ => nofun
    exact ⟨_, generate_pushable known pushable,
      fun _ => OutputTemplate.parse_script known pushable⟩

/-- A name of one byte in the form for long names, an empty claim and a payee; and a
claim built in memory, generated and read back. -/
theorem OutputScript.parse_grammar_wide :
    (parse (0xb5 :: 0x4d :: 0x01 :: 0x00 :: 0x76 :: 0x00 :: 0x6d :: 0x75 ::
        (Payee.scriptHash (FixedBytes.zeros 20)).script) 7).template =
      .claimName [0x76] (Payload.ofRaw []) (.scriptHash (FixedBytes.zeros 20)) ∧
    ∃ generated, generate ⟨[], 0, .updateClaim [0x76] (FixedBytes.zeros 20)
        (Payload.ofValue (Claim.ofMessage (.repost (FixedBytes.zeros 20))))
        (.pubKeyHash (FixedBytes.zeros 20))⟩ = .ok () generated ∧ ∀ offset,
      (parse generated.source offset).template =
        .updateClaim [0x76] (FixedBytes.zeros 20)
          (Payload.ofRaw (0 :: 3 :: List.replicate 20 0)) (.pubKeyHash (FixedBytes.zeros 20)) := by
  have wide : Script.Pushes [0x76] [0x4d, 0x01, 0x00, 0x76] :=
    @Script.Pushes.counted [0x76] 0x4d 2 (by simp) (by decide)
  have empty : Script.Pushes [] [0x00] := .direct (by decide)
  exact ⟨(parse_grammar.1 _ 7 _).mpr (.inl (.claimName _ wide empty)),
    parse_grammar.2 _ nofun ⟨by decide, by decide⟩⟩

end ClaimLedger
