import Mathlib.Data.Bool.AllAny
import ClaimLedger.Output.Claim
import ClaimLedger.Proofs.Hexadecimal

/-! Claim ids. A claim id is read as the claim hash it was written from, and nothing is read as a
claim hash but the forty digits of its id, with letters of either case. So no two claims share an
id, and the id at the end of a permanent address tells which claim is meant, whatever its name. -/
namespace ClaimLedger

namespace ClaimHash

/-- A claim id has two digits for each byte. -/
theorem length_claimId (hash : ClaimHash) : hash.claimId.toList.length = 40 := by
  rw [claimId, Hex.encode, String.toList_ofList, Hex.length_encodeChars, hash.reverse.length_toList]

theorem ofBytes_ok_iff {bytes : Bytes} {hash : ClaimHash} :
    ofBytes bytes = .ok hash ↔ hash.toList = bytes := by
  rw [← FixedBytes.ofList?_eq_some_iff, ofBytes]
  cases FixedBytes.ofList? 20 bytes <;> simp

/-- A text is read as a claim hash exactly when it is the claim id, with letters of either case. -/
theorem ofClaimId_ok_iff {text : String} {hash : ClaimHash} :
    ofClaimId text = .ok hash ↔
      (∀ c ∈ text.toList, Hex.IsDigit c) ∧ hash.claimId = text.toLower := by
  constructor
  · intro read
    unfold ofClaimId at read
    split at read
    · cases read
    · next bytes decoded =>
      obtain ⟨digits, lower⟩ := Hex.decode_ok_iff.mp decoded
      have reversed : hash.reverse.toList = bytes := by
        show hash.toList.reverse = bytes
        rw [ofBytes_ok_iff.mp read, List.reverse_reverse]
      exact ⟨digits, by rw [claimId, reversed, lower]⟩
  · rintro ⟨digits, lower⟩
    have decoded := Hex.decode_ok_iff.mpr ⟨digits, lower.symm⟩
    rw [ofClaimId, decoded]
    exact ofBytes_ok_iff.mpr (List.reverse_reverse hash.toList).symm

theorem ofClaimId_claimId (hash : ClaimHash) : ofClaimId hash.claimId = .ok hash := by
  rw [ofClaimId, claimId, Hex.decode_encode]
  exact ofBytes_ok_iff.mpr (List.reverse_reverse hash.toList).symm

theorem claimId_injective : Function.Injective claimId := by
  intro hash other same
  have read := ofClaimId_claimId hash
  rw [same, ofClaimId_claimId] at read
  exact (Except.ok.inj read).symm

/-- Forty digits, and nothing else, are read as a claim hash. -/
theorem exists_ofClaimId_iff {text : String} :
    (∃ hash, ofClaimId text = .ok hash) ↔
      text.length = 40 ∧ ∀ c ∈ text.toList, Hex.IsDigit c := by
  constructor
  · rintro ⟨hash, read⟩
    obtain ⟨digits, lower⟩ := ofClaimId_ok_iff.mp read
    have length := hash.length_claimId
    rw [lower, Hex.toList_toLower, List.length_map, String.length_toList] at length
    exact ⟨length, digits⟩
  · rintro ⟨length, digits⟩
    have even : ¬text.length % 2 = 1 := by omega
    have exact : (Hex.joinPairs (text.toList.map Hex.byte)).reverse.length = 20 := by
      rw [List.length_reverse, Hex.length_joinPairs, List.length_map, String.length_toList, length]
    refine ⟨⟨_, exact⟩, ?_⟩
    rw [ofClaimId, Hex.decode_digits digits, if_neg even]
    exact ofBytes_ok_iff.mpr rfl

end ClaimHash

namespace Output

/-- An address consists of the name of a claim and its id. -/
theorem permanentUrl_ok_iff {output : Output} {url : String} :
    output.permanentUrl = .ok url ↔ ∃ name hash, output.claimName = .ok name ∧
      output.claimHash = .ok hash ∧ url = "lbry://" ++ name ++ "#" ++ hash.claimId := by
  simp only [permanentUrl, claimId, Error.bind_ok_iff]
  constructor
  · rintro ⟨name, named, id, identified, ends⟩
    cases found : output.claimHash with
    | error cause =>
      rw [found] at identified
      cases identified
    | ok hash =>
      rw [found] at identified
      cases identified
      cases ends
      exact ⟨name, hash, named, rfl, rfl⟩
  · rintro ⟨name, hash, named, found, rfl⟩
    rw [found]
    exact ⟨name, named, _, rfl, rfl⟩

/-- Only outputs with claims have names. -/
theorem isClaimInvolved_of_claimName {output : Output} {name : String}
    (named : output.claimName = .ok name) : output.script.isClaimInvolved = true := by
  obtain ⟨amount, ⟨source, offset, template⟩, annotations, place⟩ := output
  cases template with
  | claimName | updateClaim | supportClaim => rfl
  | payPubKeyHash | payScriptHash | returnData | other => cases named

theorem exists_permanentUrl_iff {output : Output} :
    (∃ url, output.permanentUrl = .ok url) ↔ output.script.isClaimInvolved = true ∧
      (∃ name, output.claimName = .ok name) ∧ ∃ hash, output.claimHash = .ok hash := by
  simp only [permanentUrl_ok_iff]
  constructor
  · rintro ⟨_, name, hash, named, found, -⟩
    exact ⟨isClaimInvolved_of_claimName named, ⟨name, named⟩, hash, found⟩
  · rintro ⟨-, ⟨name, named⟩, hash, found⟩
    exact ⟨_, name, hash, named, found, rfl⟩

/-- An id takes the same room at the end of every address, so what is in front of it, the name
with whatever signs it has, cannot be taken for a part of it. -/
theorem claimHash_of_permanentUrl {output other : Output} {url : String}
    (addressed : output.permanentUrl = .ok url) (likewise : other.permanentUrl = .ok url) :
    ∃ hash, output.claimHash = .ok hash ∧ other.claimHash = .ok hash := by
  obtain ⟨name, hash, -, found, rfl⟩ := permanentUrl_ok_iff.mp addressed
  obtain ⟨otherName, otherHash, -, foundOther, same⟩ := permanentUrl_ok_iff.mp likewise
  have ends : hash.claimId.toList = otherHash.claimId.toList := by
    have texts := congrArg String.toList same
    simp only [String.toList_append] at texts
    exact List.append_inj_right' texts (by rw [hash.length_claimId, otherHash.length_claimId])
  obtain rfl := ClaimHash.claimId_injective (String.toList_injective ends)
  exact ⟨hash, found, foundOther⟩

end Output

namespace ClaimHash

/-- Claim ids and claim hashes undo each other. A text is read as a claim hash exactly when it
consists of forty hexadecimal digits, and the id of that hash is the text in lower case; a hash is
read from its own id, so that no two hashes share one. An output has an address exactly when it is
about a claim that is known and whose name can be read; outputs with one address are about one
claim. -/
theorem claim_ids_inverse :
    (∀ text : String, (∃ hash, ofClaimId text = .ok hash) ↔
      text.length = 40 ∧ ∀ c ∈ text.toList, Hex.IsDigit c) ∧
    (∀ (text : String) (hash : ClaimHash), ofClaimId text = .ok hash →
      hash.claimId = text.toLower) ∧
    (∀ hash : ClaimHash, ofClaimId hash.claimId = .ok hash) ∧
    Function.Injective claimId ∧
    (∀ output : Output, (∃ url, output.permanentUrl = .ok url) ↔
      output.script.isClaimInvolved = true ∧ (∃ name, output.claimName = .ok name) ∧
        ∃ hash, output.claimHash = .ok hash) ∧
    ∀ (output other : Output) (url : String), output.permanentUrl = .ok url →
      other.permanentUrl = .ok url →
      ∃ hash, output.claimHash = .ok hash ∧ other.claimHash = .ok hash :=
  ⟨fun _ => exists_ofClaimId_iff, fun _ _ read => (ofClaimId_ok_iff.mp read).2, ofClaimId_claimId,
    claimId_injective, fun _ => Output.exists_permanentUrl_iff,
    fun _ _ _ addressed likewise => Output.claimHash_of_permanentUrl addressed likewise⟩

/-- A claim whose hash reads differently from the other end. -/
def beef : ClaimHash := FixedBytes.ofPadded 20 [0xAA, 0xEF, 0xBE]

/-- A support of this claim, under a name that holds the mark in front of ids. -/
def beefSupport : Output :=
  .ofScript 1 ⟨[], 0, .supportClaim (Utf8.encode "a#b") beef (.pubKeyHash beef)⟩

/-- An update of it under the same name. -/
def beefUpdate : Output :=
  .ofScript 2 ⟨[], 7, .updateClaim (Utf8.encode "a#b") beef (.ofRaw []) (.scriptHash beef)⟩

/-- An id with letters of both cases, and two outputs with one address. -/
theorem claim_ids_inverse_beef :
    (∃ hash, ofClaimId "0000000000000000000000000000000000BeEFaa" = .ok hash) ∧
      beef.claimId = "0000000000000000000000000000000000BeEFaa".toLower ∧
      (∃ url, beefSupport.permanentUrl = .ok url) ∧
      ∃ hash, beefSupport.claimHash = .ok hash ∧ beefUpdate.claimHash = .ok hash := by
  obtain ⟨accepted, lower, -, -, addressed, shared⟩ := claim_ids_inverse
  have digits : ∀ c ∈ "0000000000000000000000000000000000BeEFaa".toList, Hex.IsDigit c :=
    List.all_iff_forall_prop.mp rfl
  exact ⟨(accepted _).mpr ⟨rfl, digits⟩, lower _ beef rfl,
    (addressed beefSupport).mpr ⟨rfl, ⟨_, rfl⟩, _, rfl⟩, shared _ _ _ rfl rfl⟩

end ClaimHash

end ClaimLedger
