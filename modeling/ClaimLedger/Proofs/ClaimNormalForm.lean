import ClaimLedger.Proofs.ClaimReading

/-! The normal form of a claim. Bytes that decode to a claim are a spelling of it: part by
part what the claim is written as, except that compact sizes may take more bytes than they
need. So the claim is written in no more bytes than it was read from, and in the same bytes
exactly when nothing in them was longer than it has to be. All spellings decode to the same
claim, and nothing else does. -/
namespace ClaimLedger

open Reader (Follows bind_ok_iff)

/-- Text that is read is written as the bytes it was read from. -/
theorem Utf8.encode_of_decode {bytes : Bytes} {text : String} (decoded : decode bytes = .ok text) :
    encode text = bytes := by
  unfold decode at decoded
  split at decoded
  · rename_i found
    cases decoded
    unfold String.fromUTF8? at found
    split at found
    · cases found
      rfl
    · cases found
  · cases decoded

namespace ClaimMessage

/-! ## What is read is spelled -/

theorem follows_readText (field : TextField) : Follows [] (readText field) layoutText := by
  refine Follows.string.bind fun bytes => ?_
  cases decoded : Utf8.decode bytes with
  | ok text =>
    refine .pure ?_
    rw [layoutText, Utf8.encode_of_decode decoded, List.nil_append]
  | error fault => exact .throw _ _

theorem follows_readFee : Follows [] readFee layoutFee := by
  refine Follows.u8.bind fun flag => .ite _ ?_ fun _ => .ite _ ?_ fun _ => .throw _ _
  · rintro rfl
    exact .pure rfl
  · rintro rfl
    exact (follows_readText .feeCurrency).bind fun currency => Follows.u64.map _ fun amount => rfl

/-- The kind tells how what follows it is laid out. -/
theorem follows_read : Follows [] read layout := by
  refine Follows.u8.bind fun kind => .ite _ ?stream fun _ => .ite _ ?channel fun _ =>
    .ite _ ?repost fun _ => .ite _ ?collection fun _ => .throw _ _
  case stream =>
    rintro rfl
    refine (follows_readText .streamTitle).bind fun title =>
      (follows_readText .streamDescription).bind fun description =>
        follows_readFee.map _ fun fee => ?_
    simp [layout]
  case channel =>
    rintro rfl
    exact Follows.string.bind fun publicKey =>
      (follows_readText .channelTitle).map _ fun title => rfl
  case repost =>
    rintro rfl
    exact (Follows.fixed 20).map _ fun claim => rfl
  case collection =>
    rintro rfl
    refine Follows.compactSize.bind fun count => (Follows.fixed 20).items fun claims counted => ?_
    subst counted
    exact .pure rfl

end ClaimMessage

namespace Claim

/-- The envelope tells which signing fields are laid out. -/
theorem follows_read : Follows [] read layout := by
  refine Follows.u8.bind fun envelope => .ite _ ?unsigned fun _ => .ite _ ?signed fun _ =>
    .ite _ ?legacy fun _ => .throw _ _
  case unsigned =>
    rintro rfl
    exact ClaimMessage.follows_read.map _ fun message => rfl
  case signed =>
    rintro rfl
    exact (Follows.fixed 20).bind fun channel => (Follows.fixed 64).bind fun signature =>
      ClaimMessage.follows_read.map _ fun message => rfl
  case legacy =>
    rintro rfl
    exact (Follows.fixed 20).bind fun channel => (Follows.fixed 64).bind fun signature =>
      Follows.string.bind fun payload => ClaimMessage.follows_read.map _ fun message => rfl

/-- What is read has all its signing fields or none, as the wire keeps them. -/
theorem onWire_read {before after : Cursor} {claim : Claim}
    (ran : read before = .ok claim after) : claim.onWire = claim := by
  obtain ⟨envelope, first, -, ran⟩ := bind_ok_iff.mp ran
  split at ran
  · obtain ⟨message, last, -, ran⟩ := bind_ok_iff.mp ran
    cases ran
    rfl
  split at ran
  · obtain ⟨channel, second, -, ran⟩ := bind_ok_iff.mp ran
    obtain ⟨signature, third, -, ran⟩ := bind_ok_iff.mp ran
    obtain ⟨message, last, -, ran⟩ := bind_ok_iff.mp ran
    cases ran
    rfl
  split at ran
  · obtain ⟨channel, second, -, ran⟩ := bind_ok_iff.mp ran
    obtain ⟨signature, third, -, ran⟩ := bind_ok_iff.mp ran
    obtain ⟨payload, fourth, -, ran⟩ := bind_ok_iff.mp ran
    obtain ⟨message, last, -, ran⟩ := bind_ok_iff.mp ran
    cases ran
    rfl
  · cases ran

/-- Bytes hold a claim when the reader passes them all. -/
theorem decode_ok {bytes : Bytes} {claim : Claim} (decoded : decode bytes = .ok claim) :
    ∃ after : Cursor, read (Cursor.start bytes) = .ok claim after ∧ after.remaining = 0 := by
  unfold decode Reader.run at decoded
  cases ran : read (Cursor.start bytes) with
  | error cause after =>
    rw [ran] at decoded
    cases decoded
  | ok found after =>
    simp only [ran] at decoded
    split at decoded
    · rename_i done
      cases decoded
      exact ⟨after, rfl, done⟩
    · cases decoded

/-- Bytes hold a claim when they are a spelling of it, and the wire can hold the claim. -/
theorem decode_eq_ok_iff {bytes : Bytes} {claim : Claim} :
    decode bytes = .ok claim ↔ claim.onWire = claim ∧
      ∃ spelling : Spelling, spelling.bytes = bytes ∧ spelling.pieces = claim.layout := by
  constructor
  · intro decoded
    obtain ⟨after, ran, done⟩ := decode_ok decoded
    obtain ⟨spelling, spells, passes⟩ := follows_read _ _ _ ran
    refine ⟨onWire_read ran, spelling, ?_, spells⟩
    have all : bytes = spelling.bytes ++ after.rest := passes.rest
    rw [all, List.eq_nil_of_length_eq_zero done, List.append_nil]
  · rintro ⟨complete, spelling, rfl, spells⟩
    have reads := claim.accepts_read spelling spells 0
    rw [complete] at reads
    exact decode_of_reads reads

/-- The bytes of a claim that was decoded hold the same claim, and are no more than those
it was decoded from. -/
theorem decode_normal {bytes : Bytes} {claim : Claim} (decoded : decode bytes = .ok claim) :
    decode claim.encode = .ok claim ∧ claim.encode.length ≤ bytes.length := by
  obtain ⟨complete, spelling, rfl, spells⟩ := decode_eq_ok_iff.mp decoded
  rw [← shortest_layout, ← spells]
  refine ⟨decode_eq_ok_iff.mpr ⟨complete, ?_⟩, spelling.length_shortest_le⟩
  obtain ⟨written, spellsWritten, bytes⟩ := Spelling.exists_shortest fun n => spelling.count_lt
  exact ⟨written, bytes, spellsWritten.trans spells⟩

/-- Bytes that decode to a claim split into the parts of the claim in one way, with compact
sizes in some form. What the claim is written as decodes to the same claim and is no longer;
it is the bytes that were there exactly when it is as long as they are, which is when no
compact size among them takes more bytes than it needs. The claim is decoded from these
bytes in any other forms of the compact sizes, and from no other bytes. -/
theorem encode_decoded {bytes : Bytes} {claim : Claim} (decoded : decode bytes = .ok claim) :
    decode claim.encode = .ok claim ∧ claim.encode.length ≤ bytes.length ∧
      ∃ spelling : Spelling, spelling.bytes = bytes ∧ spelling.pieces = claim.layout ∧
        (∀ other : Spelling, other.bytes = bytes → other.pieces = claim.layout →
          other = spelling) ∧
        (claim.encode = bytes ↔ claim.encode.length = bytes.length) ∧
        (claim.encode.length = bytes.length ↔ ∀ token ∈ spelling, token.Minimal) ∧
        ∀ other : Bytes, decode other = .ok claim ↔
          ∃ respelled : Spelling, respelled.bytes = other ∧
            respelled.pieces = spelling.pieces := by
  obtain ⟨again, shorter⟩ := decode_normal decoded
  obtain ⟨complete, spelling, rfl, spells⟩ := decode_eq_ok_iff.mp decoded
  refine ⟨again, shorter, spelling, rfl, spells, fun other bytes pieces =>
    Spelling.unique (pieces.trans spells.symm) bytes, ?_, ?_, fun other => ?_⟩
  · rw [← shortest_layout, ← spells]
    exact spelling.shortest_eq_iff_length
  · rw [← shortest_layout, ← spells, ← spelling.shortest_eq_iff_length]
    exact spelling.shortest_eq_iff
  · rw [decode_eq_ok_iff, spells]
    exact and_iff_right complete

/-- A stream without words, with three bytes for the length of its title: two of them are
gone when it is written again. -/
theorem encode_decoded_padded :
    decode [0, 1, 0xFD, 0, 0, 0, 0] = .ok (ofMessage (.stream ⟨"", "", none⟩)) ∧
      ∃ spelling : Spelling, spelling.bytes = [0, 1, 0xFD, 0, 0, 0, 0] ∧
        ¬ ∀ token ∈ spelling, token.Minimal := by
  have decoded : decode [0, 1, 0xFD, 0, 0, 0, 0] = .ok (ofMessage (.stream ⟨"", "", none⟩)) := rfl
  obtain ⟨-, -, spelling, bytes, -, -, -, minimal, -⟩ := encode_decoded decoded
  exact ⟨decoded, spelling, bytes, fun all => absurd (minimal.mpr all) (by decide)⟩

end Claim

end ClaimLedger
