import ClaimLedger.Proofs.RoundTrip
import ClaimLedger.Proofs.SignedOutputs

/-! Signing a claim in its transaction and checking it afterwards. A channel that
keeps and publishes its key signs every claim that is small enough for a script, over
the first outpoint spent or over one that the transaction is to spend first. The claim
passes for signed by that channel as soon as that outpoint is spent first, whatever is
added in between, and when the transaction is stored and read again. -/
namespace ClaimLedger.Transaction

open Output (SignsSoundly evenHash unitAnchor unitChannel updating)

/-- Operations that add inputs or outputs. -/
def Operation.adds : Operation → Bool
  | addInputs _ => true
  | addOutputs _ => true
  | _ => false

/-- The claim in an output passes for signed by a channel under every ledger, counts
as signed and names the channel; and it still passes when the transaction is stored
and read again, if its amounts are such as can be read. -/
structure Attested (tx : Transaction) (index : Nat) (channel : Output) : Prop where
  verifies : ∀ ledger, tx.isOutputSignedBy index channel ledger = .ok true
  stands : ∃ output claim hash, tx.outputs[index]? = some output ∧
    output.signingState = .signed ∧ output.claim = .ok claim ∧
    channel.claimHash = .ok hash ∧ claim.channelHash = some hash
  rereads : (∀ output ∈ tx.outputs, output.amount.toNat ≤ maxAmount) →
    tx.raw.length < 2 ^ 64 →
    ∃ back, ofBytes tx.raw = .ok back ∧
      ∀ ledger, back.isOutputSignedBy index channel ledger = .ok true

/-- A canonical transaction with an output of this script at an index. -/
structure Holds (tx : Transaction) (index : Nat) (script : OutputScript) : Prop where
  canonical : tx.raw = tx.serialize
  stands : ∃ output, tx.outputs[index]? = some output ∧ output.script = script

/-! ## From signing to checking -/

theorem holds_invalidate {tx : Transaction} {index : Nat} {output : Output}
    (stands : tx.outputs[index]? = some output) : tx.invalidate.Holds index output.script where
  canonical := raw_invalidate tx
  stands := by
    refine ⟨output.attach ⟨refOf tx.serialize tx.height, UInt32.ofNat index⟩, ?_, rfl⟩
    simp only [invalidate, identify, stampChildren, List.getElem?_mapIdx, stands, Option.map_some]

/-- Adding inputs and outputs leaves the outputs before them in place. -/
theorem Holds.addition {tx : Transaction} {index : Nat} {script : OutputScript} {op : Operation}
    (holds : tx.Holds index script) (adds : op.adds = true) :
    (tx.apply op).Holds index script := by
  obtain ⟨output, stands, rfl⟩ := holds.stands
  cases op with
  | addInputs inputs =>
    have standing : ({ tx with inputs := tx.inputs ++ inputs } : Transaction).outputs[index]? =
        some output := stands
    exact holds_invalidate standing
  | addOutputs outputs =>
    have standing : ({ tx with outputs := tx.outputs ++ outputs } : Transaction).outputs[index]? =
        some output := by
      rw [List.getElem?_append_left (List.getElem?_eq_some_iff.mp stands).1]
      exact stands
    exact holds_invalidate standing
  | _ => cases adds

theorem Holds.additions {tx : Transaction} {index : Nat} {script : OutputScript}
    {additions : List Operation} (holds : tx.Holds index script)
    (adds : ∀ op ∈ additions, op.adds = true) : (tx.run additions).Holds index script := by
  induction additions generalizing tx with
  | nil => exact holds
  | cons op additions ih =>
    have first := holds.addition (adds op (by simp))
    exact ih first fun later member => adds later (by simp [member])

/-- Signing replaces the output by the signed one. -/
theorem signOutput_ok {tx : Transaction} {index : Nat} {output signed channel : Output}
    {supplied : Option Bytes} {anchor : Bytes} (stands : tx.outputs[index]? = some output)
    (anchored : tx.signingAnchor supplied = .ok anchor)
    (ran : Output.sign channel anchor output = .ok () signed) :
    signOutput index channel supplied tx =
        .ok () (tx.replaceOutput index signed).invalidate ∧
      (tx.replaceOutput index signed).invalidate.Holds index signed.script := by
  have inside := (List.getElem?_eq_some_iff.mp stands).1
  refine ⟨?_, holds_invalidate ?_⟩
  · simp only [signOutput, anchored, editOutput, Transaction.output, stands, ran]
  · rw [replaceOutput, List.getElem?_set_self inside]

theorem isOutputSignedBy_eq {tx : Transaction} {index : Nat} {output channel : Output}
    (stands : tx.outputs[index]? = some output) (ledger : Ledger) :
    tx.isOutputSignedBy index channel ledger =
      output.isSignedBy channel tx.firstInputHash ledger := by
  simp only [isOutputSignedBy, Transaction.output, stands]
  rfl

/-! ## Storing and reading again -/

/-- The anchor travels. -/
theorem firstInputHash_congr {tx other : Transaction} (same : tx.content = other.content) :
    tx.firstInputHash = other.firstInputHash := by
  have first (tx : Transaction) :
      tx.firstInputHash = tx.content.inputs.head?.map (·.spends.wire.toList) := by
    simp only [firstInputHash, content, List.head?_map, Option.map_map]
    rfl
  rw [first, first, same]

theorem firstInputHash_invalidate (tx : Transaction) :
    tx.invalidate.firstInputHash = tx.firstInputHash :=
  firstInputHash_congr (content_identify tx tx.serialize)

/-- A canonical transaction is read again with its anchor, and with outputs whose
scripts are what their bytes are read as. -/
theorem reread {tx : Transaction} {index : Nat} {output : Output} (spending : tx.inputs ≠ [])
    (canonical : tx.raw = tx.serialize) (stands : tx.outputs[index]? = some output)
    (amounts : ∀ output ∈ tx.outputs, output.amount.toNat ≤ maxAmount)
    (addressable : tx.raw.length < 2 ^ 64) :
    ∃ back other, ofBytes tx.raw = .ok back ∧ back.firstInputHash = tx.firstInputHash ∧
      back.outputs[index]? = some other ∧
      other.script.template = OutputTemplate.parse output.script.source := by
  rw [canonical] at addressable ⊢
  obtain ⟨fields, reads, content, -, -⟩ := reads_serialize spending amounts addressable
  have received := (content_received fields tx.serialize).1.trans content
  have contents := congrArg (fun content => content.outputs[index]?) received
  simp only [Transaction.content, List.getElem?_map, stands, Option.map_some,
    Option.map_eq_some_iff] at contents
  obtain ⟨other, found, same⟩ := contents
  have source : other.script.source = output.script.source := congrArg Output.Content.source same
  have parsed := parsed_received reads other (List.mem_of_getElem? found)
  exact ⟨_, other, ofBytes_ok reads, firstInputHash_congr received, found, source ▸ parsed⟩

/-- What is signed over the first outpoint spent is attested. -/
theorem Holds.attested {tx : Transaction} {index : Nat} {signed channel : Output} {anchor : Bytes}
    (holds : tx.Holds index signed.script) (signs : signed.SignedOver channel anchor)
    (rereadable : signed.Rereadable) (first : tx.firstInputHash = some anchor) :
    tx.Attested index channel := by
  obtain ⟨output, stands, script⟩ := holds.stands
  have same : output.claim = signed.claim := Output.claim_congr (congrArg _ script)
  have signedOutput := signs.congr same
  refine ⟨fun ledger => ?_, ?_, fun amounts addressable => ?_⟩
  · rw [isOutputSignedBy_eq stands, first]
    exact signedOutput.isSignedBy ledger
  · obtain ⟨claim, hash, decodes, identity, names⟩ := signedOutput.names
    exact ⟨output, claim, hash, stands, signedOutput.signingState, decodes, identity, names⟩
  · -- The reader gives the script from its bytes, so the claim is the one read back.
    have spending : tx.inputs ≠ [] := by
      intro none
      simp [firstInputHash, none] at first
    obtain ⟨back, other, accepted, anchored, found, parsed⟩ :=
      reread spending holds.canonical stands amounts addressable
    have claim : other.claim = signed.claim := by
      rw [script] at parsed
      exact (Output.claim_congr parsed).trans (rereadable 0)
    refine ⟨back, accepted, fun ledger => ?_⟩
    rw [isOutputSignedBy_eq found, anchored, first]
    exact (signs.congr claim).isSignedBy ledger

/-- A channel in a transaction that keeps its private key and publishes the public half
signs the claim in every output that names or updates one and decodes, whether or not
it was signed before. Over the first outpoint spent the claim is attested at once. Over
an outpoint supplied it is attested after any additions, as soon as that outpoint is the
first one spent. Assumed are that the signature the key makes verifies under its public
half, and that name and signed claim are small enough for a script. -/
theorem signOutput_attested {tx : Transaction} {index : Nat} {output channel : Output}
    {key : ChannelKey} {claim : Claim} (stands : tx.outputs[index]? = some output)
    (decodes : output.claim = .ok claim) (signer : channel.Signer key)
    (named : ∀ name ∈ output.script.claimName?, name.length < Script.pushLimit)
    (small : 85 + claim.messageBytes.length < Script.pushLimit) :
    (∀ first rest, tx.inputs = first :: rest →
        SignsSoundly key channel first.spends.outpoint.wire.toList claim →
        ∃ later, signOutput index channel none tx = .ok () later ∧
          later.Attested index channel) ∧
      ∀ anchor : FixedBytes 36, SignsSoundly key channel anchor.toList claim →
        ∃ later, signOutput index channel (some anchor.toList) tx = .ok () later ∧
          ∀ additions : List Operation, (∀ op ∈ additions, op.adds = true) →
            (later.run additions).firstInputHash = some anchor.toList →
            (later.run additions).Attested index channel := by
  constructor
  · intro first rest spends sound
    obtain ⟨signed, ran, signs, rereadable⟩ := Output.sign_ok signer decodes named small sound
    have anchor : tx.firstInputHash = some first.spends.outpoint.wire.toList := by
      simp only [firstInputHash, spends, List.head?_cons, Option.map_some]
    have anchored : tx.signingAnchor none = .ok first.spends.outpoint.wire.toList := by
      simp only [signingAnchor, anchor]
    obtain ⟨done, holds⟩ := signOutput_ok stands anchored ran
    have kept : (tx.replaceOutput index signed).invalidate.firstInputHash =
        some first.spends.outpoint.wire.toList :=
      (firstInputHash_invalidate (tx.replaceOutput index signed)).trans anchor
    exact ⟨_, done, holds.attested signs rereadable kept⟩
  · intro anchor sound
    obtain ⟨signed, ran, signs, rereadable⟩ := Output.sign_ok signer decodes named small sound
    have anchored : tx.signingAnchor (some anchor.toList) = .ok anchor.toList := rfl
    obtain ⟨done, holds⟩ := signOutput_ok stands anchored ran
    exact ⟨_, done, fun additions adds first =>
      (holds.additions adds).attested signs rereadable first⟩

/-- Signing leaves the inputs. -/
theorem inputs_signOutput {tx later : Transaction} {index : Nat} {channel : Output}
    {supplied : Option Bytes} (done : signOutput index channel supplied tx = .ok () later) :
    later.inputs.map Input.content = tx.inputs.map Input.content := by
  unfold signOutput editOutput at done
  split at done
  · cases done
  · split at done
    · cases done
    · split at done
      · cases done
        exact congrArg Content.inputs (content_identify _ _)
      · cases done

/-- The key one. -/
def unitKey : ChannelKey := ⟨1, by decide, by decide⟩

/-- A channel that keeps this key. -/
def unitSigner : Output :=
  { unitChannel (evenHash 0x11) with annotations := { privateKey := some unitKey } }

/-- A stream that nobody has signed. -/
def unsignedStream : Claim :=
  Claim.ofMessage (.stream ⟨"v", "", none⟩)

/-- A transaction that publishes the stream and spends nothing yet. -/
def draft : Transaction :=
  (new 1 0).apply (.addOutputs [updating (evenHash 0x33) unsignedStream])

/-- Spends the outpoint that the stream is signed over. -/
def funding : Input :=
  Input.ofBytes (.unresolved ⟨⟨FixedBytes.ofPadded 32 (List.replicate 32 9), -1⟩, 0⟩) [] 5

theorem signer_unitSigner : unitSigner.Signer unitKey where
  attached := rfl
  keeps := rfl
  publishes := ⟨_, rfl, by decide +kernel⟩

theorem signsSoundly_unitKey : SignsSoundly unitKey unitSigner unitAnchor unsignedStream := by
  have verifies : Ecdsa.verify unitKey.publicKey
      (ClaimSignature.currentDigest unitAnchor (evenHash 0x11) unsignedStream.messageBytes)
      (Ecdsa.sign unitKey
        (ClaimSignature.currentDigest unitAnchor (evenHash 0x11) unsignedStream.messageBytes)) =
      true := by
    decide +kernel
  intro hash identity
  obtain rfl : evenHash 0x11 = hash := Except.ok.inj identity
  exact verifies

/-- The draft is signed before it is funded, and the funded draft is signed once more. -/
theorem signOutput_attested_draft :
    (∃ later, signOutput 0 unitSigner none (draft.apply (.addInputs [funding])) = .ok () later ∧
        later.Attested 0 unitSigner) ∧
      ∃ later, signOutput 0 unitSigner (some unitAnchor) draft = .ok () later ∧
        (later.run [.addInputs [funding]]).Attested 0 unitSigner := by
  constructor
  · have stands : (draft.apply (.addInputs [funding])).outputs[0]? = some _ := rfl
    exact (signOutput_attested stands rfl signer_unitSigner (by decide) (by decide)).1 _ _ rfl
      signsSoundly_unitKey
  · have stands : draft.outputs[0]? = some _ := rfl
    obtain ⟨later, done, attested⟩ :=
      (signOutput_attested stands rfl signer_unitSigner (by decide) (by decide)).2 ⟨unitAnchor, rfl⟩
        signsSoundly_unitKey
    have unfunded : later.inputs = [] := by
      have inputs : later.inputs.map Input.content = [] := inputs_signOutput done
      exact List.map_eq_nil_iff.mp inputs
    refine ⟨later, done, attested _ (by simp [Operation.adds]) ?_⟩
    have anchor : (later.run [.addInputs [funding]]).firstInputHash =
        ({ later with inputs := later.inputs ++ [funding] } : Transaction).firstInputHash :=
      firstInputHash_invalidate _
    rw [anchor, unfunded]
    rfl

end ClaimLedger.Transaction
