import ClaimLedger.Claim.Basic
import ClaimLedger.Proofs.Spelling

/-! Claims on the wire. Every message is read back as it was written, and as it may be
spelled otherwise. A claim comes back with its signing fields where both a channel and a
signature are there, and without any where one of them is missing. -/
namespace ClaimLedger

open Reader (Accepts Reads)

theorem Utf8.decode_encode (text : String) : decode (encode text) = .ok text := by
  have bytes : (⟨(encode text).toArray⟩ : ByteArray) = text.toByteArray := by
    simp [encode]
  simp only [decode, bytes, String.fromUTF8?, dif_pos text.isValidUTF8]
  rfl

namespace ClaimMessage

/-! ## How messages are laid out -/

def layoutText (text : String) : List Piece := Piece.string (Utf8.encode text)

def layoutFee : Option Fee → List Piece
  | none => [.verbatim [0]]
  | some fee =>
    .verbatim [1] :: (layoutText fee.currency ++ [.verbatim (leBytes 8 fee.amount.toNat)])

def layout : ClaimMessage → List Piece
  | .stream s =>
    .verbatim [1] :: (layoutText s.title ++ (layoutText s.description ++ layoutFee s.fee))
  | .channel c => .verbatim [2] :: (Piece.string c.publicKey ++ layoutText c.title)
  | .repost claim => [.verbatim [3], .verbatim claim.toList]
  | .collection claims =>
    .verbatim [4] :: .count claims.length :: claims.flatMap fun claim => [.verbatim claim.toList]

theorem shortest_layoutFee (fee : Option Fee) : shortest (layoutFee fee) = writeFee fee := by
  cases fee with
  | none => rfl
  | some fee =>
    simp [layoutFee, layoutText, writeFee, writeText]

/-- A message is written in the shortest spelling of its layout. -/
theorem shortest_layout (message : ClaimMessage) : shortest message.layout = message.write := by
  cases message with
  | stream stream =>
    simp [layout, layoutText, shortest_layoutFee, write, writeText]
  | channel channel =>
    simp [layout, layoutText, write, writeText]
  | repost claim => simp [layout, write]
  | collection claims =>
    simp [layout, shortest, write, List.flatMap_assoc]

theorem counts_layoutFee (fee : Option Fee) : Counts (layoutFee fee) := by
  cases fee with
  | none => exact counts_verbatim [0]
  | some fee =>
    exact (counts_verbatim [1]).append ((counts_string _).append (counts_verbatim _))

theorem counts_layout (message : ClaimMessage) : Counts message.layout := by
  cases message with
  | stream stream =>
    exact (counts_verbatim [1]).append ((counts_string _).append ((counts_string _).append
      (counts_layoutFee _)))
  | channel channel =>
    exact (counts_verbatim [2]).append ((counts_string _).append (counts_string _))
  | repost claim => exact (counts_verbatim [3]).append (counts_verbatim _)
  | collection claims =>
    intro n counted
    obtain rfl : n = claims.length := by simpa [layout] using counted
    have items : claims.length ≤ (claims.flatMap (·.toList)).length :=
      count_le_flatMap fun claim _ => by rw [claim.length_toList]; decide
    rw [shortest_layout, write]
    simp only [List.cons_append, List.length_cons, List.length_append]
    omega

/-! ## Every spelling is read -/

theorem accepts_readText (field : TextField) (text : String) :
    Accepts (readText field) (layoutText text) text := by
  have decoded : Accepts (readText field) (layoutText text ++ []) text := by
    refine (Accepts.string _).bind ?_
    simp only [Utf8.decode_encode]
    exact .pure text
  rwa [List.append_nil] at decoded

theorem accepts_readFee (fee : Option Fee) : Accepts readFee (layoutFee fee) fee := by
  cases fee with
  | none =>
    refine (Accepts.u8 0).bind ?_
    simp only [↓reduceIte]
    exact .pure none
  | some fee =>
    refine (Accepts.u8 1).bind ?_
    simp only [show ¬ (1 : UInt8) = 0 by decide, ↓reduceIte]
    exact (accepts_readText _ _).bind ((Accepts.u64 _).map _)

/-- Every message is read back. -/
theorem accepts_read (message : ClaimMessage) : Accepts read message.layout message := by
  cases message with
  | stream stream =>
    refine (Accepts.u8 1).bind ?_
    simp only [↓reduceIte]
    exact (accepts_readText _ _).bind ((accepts_readText _ _).bind ((accepts_readFee _).map _))
  | channel channel =>
    refine (Accepts.u8 2).bind ?_
    simp only [show ¬ (2 : UInt8) = 1 by decide, ↓reduceIte]
    exact (Accepts.string _).bind ((accepts_readText _ _).map _)
  | repost claim =>
    refine (Accepts.u8 3).bind ?_
    simp only [show ¬ (3 : UInt8) = 1 by decide, show ¬ (3 : UInt8) = 2 by decide, ↓reduceIte]
    exact (Accepts.fixed claim).map _
  | collection claims =>
    refine (Accepts.u8 4).bind ?_
    simp only [show ¬ (4 : UInt8) = 1 by decide, show ¬ (4 : UInt8) = 2 by decide,
      show ¬ (4 : UInt8) = 3 by decide, ↓reduceIte]
    exact (Accepts.compactSize _).bind
      ((Accepts.replicate claims fun claim _ => Accepts.fixed claim).map _)

end ClaimMessage

namespace Claim

/-- How the envelope and the signing fields are laid out. -/
def layoutEnvelope (claim : Claim) : List Piece :=
  match claim.channelHash, claim.signature with
  | some channel, some signature =>
    match claim.unsignedPayload with
    | none => [.verbatim [1], .verbatim channel.toList, .verbatim signature.toList]
    | some payload =>
      [.verbatim [2], .verbatim channel.toList, .verbatim signature.toList] ++
        Piece.string payload
  | _, _ => [.verbatim [0]]

def layout (claim : Claim) : List Piece :=
  claim.layoutEnvelope ++ claim.message.layout

/-- The claim that the wire gives back. -/
def onWire (claim : Claim) : Claim :=
  match claim.channelHash, claim.signature with
  | some _, some _ => claim
  | _, _ => ofMessage claim.message

/-- A claim is written in the shortest spelling of its layout. -/
theorem shortest_layout (claim : Claim) : shortest claim.layout = claim.encode := by
  obtain ⟨message, channelHash, signature, unsignedPayload⟩ := claim
  rw [layout, shortest_append, ClaimMessage.shortest_layout, encode]
  refine congrArg (· ++ message.write) ?_
  cases channelHash with
  | none => rfl
  | some channel =>
    cases signature with
    | none => rfl
    | some signature =>
      cases unsignedPayload with
      | none => simp [layoutEnvelope, writeEnvelope]
      | some payload => simp [layoutEnvelope, writeEnvelope]

theorem counts_layout (claim : Claim) : Counts claim.layout := by
  refine Counts.append ?_ (ClaimMessage.counts_layout _)
  obtain ⟨message, channelHash, signature, unsignedPayload⟩ := claim
  cases channelHash with
  | none => exact counts_verbatim _
  | some channel =>
    cases signature with
    | none => exact counts_verbatim _
    | some signature =>
      have fields (scheme : UInt8) : Counts
          [.verbatim [scheme], .verbatim channel.toList, .verbatim signature.toList] :=
        (counts_verbatim _).append ((counts_verbatim _).append (counts_verbatim _))
      cases unsignedPayload with
      | none => exact fields 1
      | some payload => exact (fields 2).append (counts_string _)

/-- Every spelling of a claim is read as the claim, up to signing fields that are not
complete. -/
theorem accepts_read (claim : Claim) : Accepts read claim.layout claim.onWire := by
  obtain ⟨message, channelHash, signature, unsignedPayload⟩ := claim
  have said := ClaimMessage.accepts_read message
  have unsigned : Accepts read ([.verbatim [0]] ++ message.layout) (ofMessage message) := by
    refine (Accepts.u8 0).bind ?_
    simp only [↓reduceIte]
    exact said.map _
  cases channelHash with
  | none => exact unsigned
  | some channel =>
    cases signature with
    | none => exact unsigned
    | some signature =>
      cases unsignedPayload with
      | none =>
        refine (Accepts.u8 1).bind ?_
        simp only [show ¬ (1 : UInt8) = 0 by decide, ↓reduceIte]
        exact (Accepts.fixed channel).bind ((Accepts.fixed signature).bind (said.map _))
      | some payload =>
        refine (Accepts.u8 2).bind ?_
        simp only [show ¬ (2 : UInt8) = 0 by decide, show ¬ (2 : UInt8) = 1 by decide,
          ↓reduceIte]
        exact (Accepts.fixed channel).bind ((Accepts.fixed signature).bind
          ((Accepts.string payload).bind (said.map _)))

/-- Every claim is read back from the bytes it is written in. -/
theorem reads_encode (claim : Claim) (fits : claim.encode.length < 2 ^ 64) (skipped : Nat) :
    Reads (fun _ => read) skipped claim.encode claim.onWire := by
  rw [← shortest_layout] at fits ⊢
  exact claim.accepts_read.reads_shortest
    (fun n counted => Nat.lt_of_le_of_lt (claim.counts_layout n counted) fits) skipped

/-- A byte string holds a claim when all of it is read. -/
theorem decode_of_reads {bytes : Bytes} {claim : Claim}
    (reads : Reads (fun _ => read) 0 bytes claim) : decode bytes = .ok claim := by
  have ran := reads [] [] (Nat.le_refl _)
  rw [List.append_nil, List.append_nil] at ran
  simp [decode, Reader.run, Cursor.start, ran, Cursor.remaining]

theorem decode_encode (claim : Claim) (fits : claim.encode.length < 2 ^ 64) :
    decode claim.encode = .ok claim.onWire :=
  decode_of_reads (reads_encode claim fits 0)

/-- The wire keeps the message, and the signing fields where both a channel and a
signature are there; otherwise it keeps none of them. -/
theorem onWire_cases (claim : Claim) :
    (claim.channelHash.isSome ∧ claim.signature.isSome ∧ claim.onWire = claim) ∨
      (¬ (claim.channelHash.isSome ∧ claim.signature.isSome) ∧
        claim.onWire = ofMessage claim.message) := by
  obtain ⟨message, channelHash, signature, unsignedPayload⟩ := claim
  cases channelHash with
  | none => exact .inr ⟨nofun, rfl⟩
  | some channel =>
    cases signature with
    | none => exact .inr ⟨nofun, rfl⟩
    | some signature => exact .inl ⟨rfl, rfl, rfl⟩

/-- Every claim whose bytes can be counted comes back from the wire with its message. It
comes back with its signing fields where both a channel and a signature are there, and
with none of them otherwise, so the claims that come back as they were are those with no
signing field and those with a channel and a signature. -/
theorem decode_encode_fields (claim : Claim) (fits : claim.encode.length < 2 ^ 64) :
    ∃ back, decode claim.encode = .ok back ∧ back.message = claim.message ∧
      (claim.channelHash.isSome ∧ claim.signature.isSome →
        back.channelHash = claim.channelHash ∧ back.signature = claim.signature ∧
          back.unsignedPayload = claim.unsignedPayload) ∧
      (¬ (claim.channelHash.isSome ∧ claim.signature.isSome) →
        back.channelHash = none ∧ back.signature = none ∧ back.unsignedPayload = none) ∧
      (back = claim ↔
        (claim.channelHash = none ∧ claim.signature = none ∧ claim.unsignedPayload = none) ∨
          (claim.channelHash.isSome ∧ claim.signature.isSome)) := by
  refine ⟨claim.onWire, decode_encode claim fits, ?_⟩
  rcases claim.onWire_cases with ⟨named, signed, same⟩ | ⟨incomplete, same⟩
  · rw [same]
    exact ⟨rfl, fun _ => ⟨rfl, rfl, rfl⟩, fun incomplete => absurd ⟨named, signed⟩ incomplete,
      fun _ => .inr ⟨named, signed⟩, fun _ => rfl⟩
  · rw [same]
    refine ⟨rfl, fun complete => absurd complete incomplete, fun _ => ⟨rfl, rfl, rfl⟩, ?_, ?_⟩
    · intro unchanged
      rw [← unchanged]
      exact .inl ⟨rfl, rfl, rfl⟩
    · rintro (⟨unnamed, unsigned, unpaid⟩ | complete)
      · obtain ⟨message, channelHash, signature, unsignedPayload⟩ := claim
        cases unnamed
        cases unsigned
        cases unpaid
        rfl
      · exact absurd complete incomplete

/-- A signature without a channel and a payload without a scheme are lost, message and
all else are kept. -/
theorem decode_encode_fields_unnamed :
    ∃ back,
      decode (encode ⟨.stream ⟨"é", "", some ⟨"LBC", 18446744073709551615⟩⟩, none,
        some (FixedBytes.zeros 64), some [1]⟩) = .ok back ∧
      back = ofMessage (.stream ⟨"é", "", some ⟨"LBC", 18446744073709551615⟩⟩) := by
  obtain ⟨back, read, message, -, none, -⟩ := decode_encode_fields
    ⟨.stream ⟨"é", "", some ⟨"LBC", 18446744073709551615⟩⟩, none, some (FixedBytes.zeros 64),
      some [1]⟩ (by decide)
  obtain ⟨unnamed, unsigned, unpaid⟩ := none (by decide)
  refine ⟨back, read, ?_⟩
  obtain ⟨said, channelHash, signature, unsignedPayload⟩ := back
  cases message
  cases unnamed
  cases unsigned
  cases unpaid
  rfl

end Claim

end ClaimLedger
