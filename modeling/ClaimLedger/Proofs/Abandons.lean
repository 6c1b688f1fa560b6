import ClaimLedger.Proofs.Sums
import ClaimLedger.Proofs.Verification
import ClaimLedger.Transaction.Operation

/-! Outputs of ours that end with a transaction. An output about a claim that is spent ends
unless an update in the same transaction carries the claim forward. What the filter lists is
more than that: it looks for the update among our own outputs only, so a claim that is handed
over to somebody else is listed with those that end. -/
namespace ClaimLedger

namespace Output

/-- The update is one of the claim that the other output names or updates. -/
structure Carries (update spent : Output) : Prop where
  isUpdate : update.script.isUpdateClaim = true
  isClaim : spent.isClaim = true
  identity : ∃ hash, spent.claimHash = .ok hash ∧ update.claimHash = .ok hash

/-- Updates have their claim hash in the script, wherever they stand. -/
theorem exists_claimHash_of_isUpdateClaim {update : Output}
    (isUpdate : update.script.isUpdateClaim = true) : ∃ hash, update.claimHash = .ok hash := by
  obtain ⟨amount, ⟨source, offset, template⟩, notes, place⟩ := update
  cases template with
  | updateClaim name hash claim payee => exact ⟨hash, rfl⟩
  | _ => cases isUpdate

theorem carries_iff {update spent : Output} :
    update.Carries spent ↔ update.script.isUpdateClaim = true ∧ spent.isClaim = true ∧
      spent.claimHash = update.claimHash := by
  constructor
  · rintro ⟨isUpdate, isClaim, hash, spentHash, updateHash⟩
    exact ⟨isUpdate, isClaim, spentHash.trans updateHash.symm⟩
  · rintro ⟨isUpdate, isClaim, same⟩
    obtain ⟨hash, updateHash⟩ := exists_claimHash_of_isUpdateClaim isUpdate
    exact ⟨isUpdate, isClaim, hash, same.trans updateHash, updateHash⟩

instance (update spent : Output) : Decidable (update.Carries spent) :=
  decidable_of_iff _ carries_iff.symm

/-- Only claims are carried forward, and claims are about claims. -/
theorem Carries.isClaimInvolved {update spent : Output} (carries : update.Carries spent) :
    spent.script.isClaimInvolved = true := by
  have isClaim := carries.isClaim
  rw [Output.isClaim] at isClaim
  rw [OutputScript.isClaimInvolved, isClaim, Bool.true_or]

end Output

namespace Transaction

variable {tx : Transaction} {spent : Output}

/-- An output of ours about a claim, which no update in the transaction carries forward. Supports
are carried forward by none. -/
def Ends (tx : Transaction) (spent : Output) : Prop :=
  spent.isMine = true ∧ spent.script.isClaimInvolved = true ∧
    ∀ update ∈ tx.outputs, ¬ update.Carries spent

/-- A claim of ours that updates in the transaction carry forward, but none of ours. -/
def HandsOver (tx : Transaction) (spent : Output) : Prop :=
  spent.isMine = true ∧ (∃ update ∈ tx.outputs, update.Carries spent) ∧
    ∀ update ∈ tx.outputs, update.isMine = true → ¬ update.Carries spent

instance (tx : Transaction) (spent : Output) : Decidable (tx.Ends spent) :=
  inferInstanceAs (Decidable (_ ∧ _ ∧ _))

instance (tx : Transaction) (spent : Output) : Decidable (tx.HandsOver spent) :=
  inferInstanceAs (Decidable (_ ∧ _ ∧ _))

theorem mem_updatedClaims {hash : ClaimHash} :
    hash ∈ tx.updatedClaims ↔ ∃ update ∈ tx.outputs, update.isMine = true ∧
      update.script.isUpdateClaim = true ∧ update.claimHash = .ok hash := by
  have found (update : Output) :
      update.claimHash.toOption = some hash ↔ update.claimHash = .ok hash := by
    cases update.claimHash <;> simp [Except.toOption]
  simp only [updatedClaims, myUpdateOutputs, List.mem_filterMap, List.mem_filter, Bool.and_eq_true,
    found, and_assoc]

/-- A claim is among those carried forward if an update of ours carries it. -/
theorem isCarried_iff (isClaim : spent.isClaim = true) {hash : ClaimHash}
    (identity : spent.claimHash = .ok hash) :
    hash ∈ tx.updatedClaims ↔
      ∃ update ∈ tx.outputs, update.isMine = true ∧ update.Carries spent := by
  rw [mem_updatedClaims]
  constructor
  · rintro ⟨update, stands, mine, isUpdate, same⟩
    exact ⟨update, stands, mine, isUpdate, isClaim, hash, identity, same⟩
  · rintro ⟨update, stands, mine, isUpdate, -, other, identity', same⟩
    obtain rfl := Except.ok.inj (identity.symm.trans identity')
    exact ⟨update, stands, mine, isUpdate, same⟩

/-- The filter wants no update of ours that carries the output forward. -/
theorem isAbandoned_iff :
    tx.isAbandoned spent = true ↔ spent.isMine = true ∧ spent.script.isClaimInvolved = true ∧
      ∀ update ∈ tx.outputs, update.isMine = true → ¬ update.Carries spent := by
  rw [isAbandoned, Bool.and_eq_true, Bool.and_eq_true, and_assoc]
  refine and_congr_right fun _ => and_congr_right fun _ => ?_
  by_cases isClaim : spent.isClaim = true
  · cases identity : spent.claimHash with
    | ok hash =>
      have carried : hash ∉ tx.updatedClaims ↔
          ¬ ∃ update ∈ tx.outputs, update.isMine = true ∧ update.Carries spent :=
        (isCarried_iff isClaim identity).not
      simpa [isClaim] using carried
    | error cause =>
      -- Without a claim hash there is nothing to look for, and nothing carries the output.
      have unknown : ∀ update ∈ tx.outputs, update.isMine = true → ¬ update.Carries spent := by
        rintro update - - ⟨-, -, hash, known, -⟩
        rw [identity] at known
        cases known
      simpa [isClaim] using unknown
  · have uncarried : ∀ update ∈ tx.outputs, update.isMine = true → ¬ update.Carries spent :=
      fun update _ _ carries => isClaim carries.isClaim
    simpa [isClaim] using uncarried

theorem isAbandoned_iff_ends_or_handsOver :
    tx.isAbandoned spent = true ↔ tx.Ends spent ∨ tx.HandsOver spent := by
  rw [isAbandoned_iff]
  constructor
  · rintro ⟨mine, involved, uncarried⟩
    by_cases carried : ∃ update ∈ tx.outputs, update.Carries spent
    · exact .inr ⟨mine, carried, uncarried⟩
    · exact .inl ⟨mine, involved, fun update stands carries => carried ⟨update, stands, carries⟩⟩
  · rintro (⟨mine, involved, uncarried⟩ | ⟨mine, ⟨update, -, carries⟩, uncarried⟩)
    · exact ⟨mine, involved, fun update stands _ => uncarried update stands⟩
    · exact ⟨mine, carries.isClaimInvolved, uncarried⟩

theorem abandonedOutputs_eq_filter :
    tx.abandonedOutputs =
      tx.spentOutputs.filter (fun spent => decide (tx.Ends spent ∨ tx.HandsOver spent)) :=
  List.filter_congr fun spent _ => by
    rw [Bool.eq_iff_iff, isAbandoned_iff_ends_or_handsOver, decide_eq_true_iff]

/-- What is listed are the resolved outputs spent, in input order and as often as they are spent,
that end or are handed over. So these are exactly those that end if and only if none is handed
over: every claim of ours that an update carries forward is carried forward by one of ours. -/
theorem abandonedOutputs_eq_iff :
    tx.abandonedOutputs =
        tx.spentOutputs.filter (fun spent => decide (tx.Ends spent ∨ tx.HandsOver spent)) ∧
      (tx.abandonedOutputs = tx.spentOutputs.filter (fun spent => decide (tx.Ends spent)) ↔
        ∀ spent ∈ tx.spentOutputs, ¬ tx.HandsOver spent) := by
  refine ⟨abandonedOutputs_eq_filter, fun same spent member handsOver => ?_, fun none => ?_⟩
  · have kept : spent ∈ tx.abandonedOutputs := by
      rw [abandonedOutputs_eq_filter, List.mem_filter, decide_eq_true_iff]
      exact ⟨member, .inr handsOver⟩
    rw [same, List.mem_filter, decide_eq_true_iff] at kept
    obtain ⟨-, -, -, uncarried⟩ := kept
    obtain ⟨-, ⟨update, stands, carries⟩, -⟩ := handsOver
    exact uncarried update stands carries
  · rw [abandonedOutputs_eq_filter]
    exact List.filter_congr fun spent member => by simp [none spent member]

/-- An update of ours. -/
def ownedClaim : Output :=
  { Output.updating (Output.evenHash 0x11) (Claim.ofMessage (.repost (Output.evenHash 0x22))) with
    annotations := { isMyOutput := some true } }

/-- An update of the same claim that is not ours. -/
def soldClaim : Output := { ownedClaim with annotations := { isMyOutput := some false } }

/-- The transaction that made the update of ours, and where it stands. -/
def offer : Transaction := Transaction.empty.addOutputs [ownedClaim]

def offered : Output := ownedClaim.attach ⟨offer.txRef, 0⟩

/-- A transaction that spends it and hands the claim over. -/
def sale : Transaction :=
  (Transaction.empty.addInputs
      [Input.ofBytes ⟨⟨offer.txRef, 0⟩, some offered⟩ [] Input.finalSequence]).addOutputs [soldClaim]

/-- The claim goes on with its new owner and is listed all the same. -/
theorem abandonedOutputs_sale :
    Reachable sale ∧ offer.outputs = [offered] ∧ sale.spentOutputs = [offered] ∧
      sale.HandsOver offered ∧ sale.abandonedOutputs = [offered] ∧
      sale.spentOutputs.filter (fun spent => decide (sale.Ends spent)) = [] := by
  have reachable : Reachable sale := .operated (.operated (.new 1 0) (.addInputs _)) (.addOutputs _)
  have spends : sale.spentOutputs = [offered] := rfl
  have outputs : sale.outputs = [soldClaim.attach ⟨sale.txRef, 0⟩] := rfl
  have carries : (soldClaim.attach ⟨sale.txRef, 0⟩).Carries offered := ⟨rfl, rfl, _, rfl, rfl⟩
  have handsOver : sale.HandsOver offered := by
    rw [HandsOver, outputs]
    refine ⟨rfl, ⟨_, List.mem_singleton_self _, carries⟩, fun update member mine => ?_⟩
    rw [List.mem_singleton.mp member] at mine
    cases mine
  have carried : ¬ sale.Ends offered := by
    rintro ⟨-, -, uncarried⟩
    exact uncarried _ (outputs ▸ List.mem_singleton_self _) carries
  refine ⟨reachable, rfl, spends, handsOver, ?_, ?_⟩
  · rw [abandonedOutputs_eq_filter, spends]
    simp [handsOver]
  · rw [spends]
    simp [carried]

end Transaction

end ClaimLedger
