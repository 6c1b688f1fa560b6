import ClaimLedger.Proofs.ClaimRewriting
import ClaimLedger.Proofs.GraphHistory
import ClaimLedger.Proofs.History
import ClaimLedger.Proofs.Verification

/-! Where a claim hash leads. Names, updates and supports of a claim are all found under its
hash, and the one that came in last is what the hash leads to. So a hash leads to a claim as
long as no support of the claim comes in behind the last name or update of it; behind a support
it leads to an output without a payload. -/
namespace ClaimLedger

/-! ## Outputs of transactions -/

/-- The outputs are those of some transactions, which are told apart by their hashes. -/
structure TakenFrom (txs : List Transaction) (outputs : List Output) : Prop where
  reachable : ∀ tx ∈ txs, Transaction.Reachable tx
  few : ∀ tx ∈ txs, tx.outputs.length < positionLimit
  taken : ∀ output ∈ outputs, ∃ tx ∈ txs, output ∈ tx.outputs
  apart : ∀ tx ∈ txs, ∀ other ∈ txs, tx.hash = other.hash →
    tx.outputs.map (·.script.heading) = other.outputs.map (·.script.heading)

variable {txs : List Transaction} {outputs : List Output} {output other : Output}
  {name : Outpoint} {hash : ClaimHash}

theorem TakenFrom.place (taken : TakenFrom txs outputs) (member : output ∈ outputs) :
    ∃ tx ∈ txs, ∃ i, tx.outputs[i]? = some output ∧
      output.outpoint? = some ⟨tx.hash, UInt32.ofNat i⟩ := by
  obtain ⟨tx, known, within⟩ := taken.taken output member
  obtain ⟨i, found⟩ := List.mem_iff_getElem?.mp within
  obtain ⟨kept, history⟩ := (taken.reachable tx known).history
  exact ⟨tx, known, i, found, by simp [Output.outpoint?, history.coherent.outputs found]; rfl⟩

/-- A name stands for one output, whatever was noted about it since. -/
theorem TakenFrom.heading_eq (taken : TakenFrom txs outputs) (member : output ∈ outputs)
    (member' : other ∈ outputs) (same : output.outpoint? = other.outpoint?) :
    output.script.heading = other.script.heading := by
  obtain ⟨tx, known, i, found, place⟩ := taken.place member
  obtain ⟨tx', known', j, found', place'⟩ := taken.place member'
  rw [place, place'] at same
  injection Option.some.inj same with hashes positions
  have exact {k : Nat} {owner : Transaction} {node : Output} (owns : owner ∈ txs)
      (stands : owner.outputs[k]? = some node) : (UInt32.ofNat k).toNat = k :=
    UInt32.toNat_ofNat_of_lt'
      (Nat.lt_trans (List.getElem?_eq_some_iff.mp stands).1 (taken.few owner owns))
  obtain rfl : i = j := by
    rw [← exact known found, ← exact known' found', positions]
  have headings := congrArg (·[i]?) (taken.apart tx known tx' known' hashes)
  simpa [found, found'] using headings

/-! ## Names, updates and supports -/

namespace Output

theorem isClaim_iff : output.isClaim = true ↔
    output.script.heading.kind = .claimName ∨ output.script.heading.kind = .updateClaim := by
  unfold isClaim OutputScript.isClaimName OutputScript.isUpdateClaim OutputScript.heading
  cases output.script.template <;> simp [OutputTemplate.kind]

theorem isClaim_congr (same : output.script.heading = other.script.heading) :
    output.isClaim = other.isClaim := by
  rw [Bool.eq_iff_iff, isClaim_iff, isClaim_iff, same]

/-- Whatever is found under a claim hash is a claim or a support. -/
theorem isClaim_or_isSupport :
    output.script.isClaimInvolved = true ↔ output.isClaim = true ∨ output.isSupport = true := by
  simp [OutputScript.isClaimInvolved, isClaim, isSupport]

theorem claimHash_congr (same : output.script.heading = other.script.heading)
    (named : output.outpoint? = other.outpoint?) : output.claimHash = other.claimHash := by
  have carried : output.script.claimHash? = other.script.claimHash? :=
    congrArg OutputScript.Heading.carried same
  have naming : output.script.isClaimName = other.script.isClaimName := by
    have kinds := congrArg OutputScript.Heading.kind same
    unfold OutputScript.heading at kinds
    unfold OutputScript.isClaimName
    revert kinds
    cases output.script.template <;> cases other.script.template <;> simp [OutputTemplate.kind]
  unfold claimHash
  rw [naming, carried]
  unfold outpoint? at named
  cases here : output.place <;> cases there : other.place <;>
    simp_all [Attachment.outpoint, claimHashAt]

end Output

namespace ClaimGraph

/-- The hash leads to a claim that has it, and so do links that name the hash. -/
def ResolvesClaim (graph : ClaimGraph) (hash : ClaimHash) : Prop :=
  ∃ found, graph.getClaim? hash = some found ∧ found.isClaim = true ∧
    found.claimHash = .ok hash ∧
    ∀ output : Output,
      (output.annotations.channel = some hash → graph.channel? output = some found) ∧
      (output.annotations.purchasedClaim = some hash →
        graph.purchasedClaim? output = some found) ∧
      (output.annotations.repostedClaim = some hash →
        graph.repostedClaim? output = some found) ∧
      ∀ hashes, output.annotations.claims = some hashes → hash ∈ hashes →
        found ∈ graph.claims output

theorem resolvesClaim_of_getClaim? {graph : ClaimGraph} {found : Output}
    (leads : graph.getClaim? hash = some found) (isClaim : found.isClaim = true)
    (identified : found.claimHash = .ok hash) : graph.ResolvesClaim hash := by
  refine ⟨found, leads, isClaim, identified, fun output => ⟨?_, ?_, ?_, ?_⟩⟩
  · exact fun link => by rw [channel?, link, Option.bind_some, leads]
  · exact fun link => by rw [purchasedClaim?, link, Option.bind_some, leads]
  · exact fun link => by rw [repostedClaim?, link, Option.bind_some, leads]
  · intro hashes link member
    rw [claims, link]
    exact List.mem_filterMap.mpr ⟨hash, member, leads⟩

/-- Among outputs of transactions a hash leads to a claim exactly if the output last found
under it is one. -/
theorem resolvesClaim_iff_latest (taken : TakenFrom txs outputs) :
    (ofOutputs outputs).ResolvesClaim hash ↔
      ∃ last, latest? (isFoundBy hash) outputs = some last ∧ last.isClaim = true := by
  have represents := represents_ofOutputs outputs
  constructor
  · rintro ⟨found, leads, isClaim, -⟩
    cases latest : latest? (isFoundBy hash) outputs with
    | none =>
      rw [represents.getClaim?_eq, latest] at leads
      cases leads
    | some last =>
      refine ⟨last, rfl, ?_⟩
      obtain ⟨name, current, named, own, known, leads'⟩ := represents.getClaim?_of_latest latest
      obtain rfl := Option.some.inj (leads.symm.trans leads')
      have member := latest?_mem ((represents.nodes name).symm.trans known)
      rw [← isClaim]
      exact Output.isClaim_congr
        (taken.heading_eq (latest?_mem latest) member (named.trans own.symm))
  · rintro ⟨last, latest, isClaim⟩
    obtain ⟨name, current, named, own, known, leads⟩ := represents.getClaim?_of_latest latest
    have member := latest?_mem ((represents.nodes name).symm.trans known)
    have same := taken.heading_eq member (latest?_mem latest) (own.trans named.symm)
    refine resolvesClaim_of_getClaim? leads ?_ ?_
    · rw [Output.isClaim_congr same, isClaim]
    · rw [Output.claimHash_congr same (own.trans named.symm)]
      exact (isFoundBy_iff.mp (holds_latest? latest)).2.2

/-- Among outputs of transactions a hash leads to a claim that has it exactly if some claim
with this hash was inserted and no support of it behind that. -/
theorem resolvesClaim_iff (taken : TakenFrom txs outputs) (hash : ClaimHash) :
    (ofOutputs outputs).ResolvesClaim hash ↔
      ∃ earlier claim later, outputs = earlier ++ claim :: later ∧
        claim.isClaim = true ∧ claim.claimHash = .ok hash ∧
        ∀ output ∈ later, output.isSupport = true → output.claimHash ≠ .ok hash := by
  have named {output : Output} (member : output ∈ outputs) :
      ∃ name, output.outpoint? = some name := by
    obtain ⟨tx, -, i, -, place⟩ := taken.place member
    exact ⟨_, place⟩
  rw [resolvesClaim_iff_latest taken]
  constructor
  · rintro ⟨last, latest, isClaim⟩
    obtain ⟨found, earlier, later, split, others⟩ := latest?_eq_some_iff.mp latest
    refine ⟨earlier, last, later, split, isClaim, (isFoundBy_iff.mp found).2.2, ?_⟩
    intro output member supports identified
    refine others output member (isFoundBy_iff.mpr ⟨named ?_, ?_, identified⟩)
    · rw [split]
      exact List.mem_append_right _ (List.mem_cons_of_mem _ member)
    · exact Output.isClaim_or_isSupport.mpr (.inr supports)
  · rintro ⟨earlier, claim, later, rfl, isClaim, identified, unsupported⟩
    have within : claim ∈ earlier ++ claim :: later :=
      List.mem_append_right _ List.mem_cons_self
    have found : isFoundBy hash claim = true :=
      isFoundBy_iff.mpr
        ⟨named within, Output.isClaim_or_isSupport.mpr (.inl isClaim), identified⟩
    rw [latest?_append, latest?_cons]
    -- What was last found came in behind the claim, and so is no support, or is the claim.
    cases behind : latest? (isFoundBy hash) later with
    | none => exact ⟨claim, by simp [found], isClaim⟩
    | some last =>
      refine ⟨last, by simp, ?_⟩
      obtain ⟨-, involved, identified⟩ := isFoundBy_iff.mp (holds_latest? behind)
      rcases Output.isClaim_or_isSupport.mp involved with isClaim | supports
      · exact isClaim
      · exact absurd identified (unsupported last (latest?_mem behind) supports)

/-- The claim hash that the next two outputs are found under. -/
def sharedHash : ClaimHash := Output.evenHash 0x11

/-- An update of a claim. -/
def repostUpdate : Output :=
  Output.updating sharedHash (Claim.ofMessage (.repost (Output.evenHash 0x22)))

/-- A support of the same claim. -/
def repostSupport : Output :=
  let template := OutputTemplate.supportClaim [0x76] sharedHash (.pubKeyHash (FixedBytes.zeros 20))
  Output.ofScript 1 ⟨template.script, 0, template⟩

/-- A transaction that updates the claim and supports it. -/
def supported : Transaction :=
  Transaction.empty.addOutputs [repostUpdate, repostSupport]

theorem outputs_supported :
    supported.outputs = [repostUpdate.attach ⟨supported.txRef, 0⟩,
      repostSupport.attach ⟨supported.txRef, 1⟩] := rfl

theorem takenFrom_supported {outputs : List Output} (within : ∀ output ∈ outputs,
    output ∈ supported.outputs) : TakenFrom [supported] outputs where
  reachable tx known := by
    obtain rfl := List.mem_singleton.mp known
    exact .operated (.new 1 0) (.addOutputs [repostUpdate, repostSupport])
  few tx known := by
    obtain rfl := List.mem_singleton.mp known
    rw [outputs_supported]
    decide
  taken output member := ⟨supported, List.mem_singleton_self _, within output member⟩
  apart tx known other known' _ := by
    rw [List.mem_singleton.mp known, List.mem_singleton.mp known']

/-- The claim is found if the support comes in first. -/
theorem resolvesClaim_behind_support :
    (ofOutputs supported.outputs.reverse).ResolvesClaim sharedHash := by
  refine (resolvesClaim_iff (takenFrom_supported fun _ => List.mem_reverse.mp) _).mpr ?_
  rw [outputs_supported]
  generalize supported.txRef = ref
  refine ⟨[repostSupport.attach ⟨ref, 1⟩], repostUpdate.attach ⟨ref, 0⟩, [], rfl, rfl, rfl, ?_⟩
  intro output behind
  exact absurd behind List.not_mem_nil

/-- The support is found if it comes in last, though the claim is there. -/
theorem support_hides_claim :
    ∃ claim support, supported.outputs = [claim, support] ∧ claim.isClaim = true ∧
      claim.claimHash = .ok sharedHash ∧
      (ofOutputs [claim, support]).getClaim? sharedHash = some support ∧
      support.isClaim = false ∧ support.claim = .error (.noClaim .payload) ∧
      ¬ (ofOutputs [claim, support]).ResolvesClaim sharedHash := by
  refine ⟨_, _, outputs_supported, rfl, rfl, ?_⟩
  generalize supported.txRef = ref
  have latest : latest? (isFoundBy sharedHash)
      [repostUpdate.attach ⟨ref, 0⟩, repostSupport.attach ⟨ref, 1⟩] =
        some (repostSupport.attach ⟨ref, 1⟩) := rfl
  have represents := represents_ofOutputs
    [repostUpdate.attach ⟨ref, 0⟩, repostSupport.attach ⟨ref, 1⟩]
  obtain ⟨name, current, named, -, known, leads⟩ := represents.getClaim?_of_latest latest
  obtain rfl : repostSupport.attach ⟨ref, 1⟩ = current := by
    rw [represents.nodes, latest?_cons, latest?_cons] at known
    simpa [isNamed, named, latest?] using known
  refine ⟨leads, rfl, rfl, ?_⟩
  rintro ⟨found, leads', isClaim, -⟩
  obtain rfl := Option.some.inj (leads.symm.trans leads')
  cases isClaim

end ClaimGraph

end ClaimLedger
