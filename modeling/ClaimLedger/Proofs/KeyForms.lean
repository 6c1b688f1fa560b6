import ClaimLedger.Claim.Signature
import ClaimLedger.Proofs.CurvePoints
import ClaimLedger.Proofs.Numbers
import Mathlib.Data.List.GetD

/-! The forms of published keys. A point is written in one of three forms, behind one of two
headers that announce how long the form is. Reading looks at header and point each on its own:
every point of the curve is read in every form behind either header, and nothing else is read.
So what is accepted is of the length that it announces exactly when the form is one that the
header is for. -/
namespace ClaimLedger

/-! ## Points -/

namespace Secp256k1.Point

/-- The forms of a point. -/
inductive Form where
  /-- Both coordinates. -/
  | uncompressed
  /-- Both coordinates, with a mark that repeats the parity of the second. -/
  | hybrid
  /-- The first coordinate and the parity of the second. -/
  | compressed
  deriving DecidableEq

def Form.write : Form → Point → Bytes
  | uncompressed, a => a.uncompressed
  | hybrid, a => (if a.y % 2 = 1 then 7 else 6) :: beBytes 32 a.x ++ beBytes 32 a.y
  | compressed, a => a.compressed

def Form.length : Form → Nat
  | uncompressed => 65
  | hybrid => 65
  | compressed => 33

theorem Form.length_write (form : Form) (a : Point) : (form.write a).length = form.length := by
  cases form <;> simp [write, length, Point.uncompressed, Point.compressed]

/-- The form that a first byte stands for. -/
def Form.ofMark? (mark : UInt8) : Option Form :=
  if mark = 4 then some uncompressed
  else if mark = 6 ∨ mark = 7 then some hybrid
  else if mark = 2 ∨ mark = 3 then some compressed
  else none

theorem Form.ofMark?_write (form : Form) (a : Point) :
    (form.write a).head?.bind ofMark? = some form := by
  cases form with
  | uncompressed => rfl
  | hybrid =>
    rw [write]
    split <;> rfl
  | compressed =>
    rw [write, Point.compressed]
    split <;> rfl

/-- The forms of a point are different bytes. -/
theorem Form.write_inj {form other : Form} {a : Point} (same : form.write a = other.write a) :
    form = other := by
  have told := ofMark?_write form a
  rw [same, ofMark?_write] at told
  exact (Option.some.inj told).symm

theorem fieldPrime_lt : fieldPrime < 256 ^ 32 := by
  decide

theorem OnCurve.abscissa {a : Point} (onCurve : a.OnCurve) : beValue (beBytes 32 a.x) = a.x :=
  beValue_beBytes (Nat.lt_trans onCurve.1 fieldPrime_lt)

theorem OnCurve.ordinate {a : Point} (onCurve : a.OnCurve) : beValue (beBytes 32 a.y) = a.y :=
  beValue_beBytes (Nat.lt_trans onCurve.2.1 fieldPrime_lt)

theorem append_of_coordinates {rest : Bytes} (length : rest.length = 64) :
    beBytes 32 (beValue (rest.take 32)) ++ beBytes 32 (beValue (rest.drop 32)) = rest := by
  rw [beBytes_beValue (by simp [length]), beBytes_beValue (by simp [length]),
    List.take_append_drop]

theorem decode?_write {a : Point} (onCurve : a.OnCurve) (form : Form) :
    decode? (form.write a) = some a := by
  have abscissa := onCurve.abscissa
  have ordinate := onCurve.ordinate
  cases form with
  | uncompressed => simp [Form.write, uncompressed, decode?, abscissa, ordinate, onCurve]
  | hybrid =>
    rcases Nat.mod_two_eq_zero_or_one a.y with even | odd
    · simp [Form.write, decode?, abscissa, ordinate, onCurve, even]
    · simp [Form.write, decode?, abscissa, ordinate, onCurve, odd]
  | compressed =>
    have lifts (odd : Bool) (parity : (a.y % 2 == 1) = odd) : lift? a.x odd = some a :=
      lift?_eq_some_iff.mpr ⟨onCurve, rfl, parity⟩
    rcases Nat.mod_two_eq_zero_or_one a.y with even | odd
    · simp [Form.write, compressed, decode?, abscissa, even, lifts]
    · simp [Form.write, compressed, decode?, abscissa, odd, lifts]

theorem form_of_decode? {bytes : Bytes} {a : Point} (read : decode? bytes = some a) :
    a.OnCurve ∧ ∃ form : Form, bytes = form.write a := by
  unfold decode? at read
  split at read
  · cases read
  · next mark rest =>
    split at read
    · next short =>
      obtain ⟨length, mark⟩ := short
      obtain ⟨onCurve, abscissa, parity⟩ := lift?_eq_some_iff.mp read
      refine ⟨onCurve, .compressed, ?_⟩
      have spelled : beBytes 32 a.x = rest := by rw [abscissa, beBytes_beValue length]
      rcases mark with rfl | rfl
      · have even : ¬ a.y % 2 = 1 := by simpa using parity
        rw [Form.write, compressed, if_neg even, spelled]
      · have odd : a.y % 2 = 1 := by simpa using parity
        rw [Form.write, compressed, if_pos odd, spelled]
    split at read
    · next long =>
      obtain ⟨length, mark⟩ := long
      dsimp only at read
      split at read
      · next accepted =>
        obtain ⟨onCurve, parity⟩ := accepted
        obtain rfl := Option.some.inj read
        refine ⟨onCurve, ?_⟩
        have spelled := append_of_coordinates length
        rcases mark with rfl | rfl | rfl
        · exact ⟨.uncompressed, by rw [Form.write, uncompressed, List.cons_append, spelled]⟩
        · have even : ¬ beValue (rest.drop 32) % 2 = 1 := by simpa using parity
          exact ⟨.hybrid, by rw [Form.write, if_neg even, List.cons_append, spelled]⟩
        · have odd : beValue (rest.drop 32) % 2 = 1 := by simpa using parity
          exact ⟨.hybrid, by rw [Form.write, if_pos odd, List.cons_append, spelled]⟩
      · cases read
    · cases read

/-- Points of the curve are read from their three forms and from nothing else. -/
theorem decode?_eq_some_iff {bytes : Bytes} {a : Point} :
    decode? bytes = some a ↔ a.OnCurve ∧ ∃ form : Form, bytes = form.write a := by
  refine ⟨form_of_decode?, ?_⟩
  rintro ⟨onCurve, form, rfl⟩
  exact decode?_write onCurve form

end Secp256k1.Point

open Secp256k1 Point

/-! ## Headers -/

namespace Der

/-- The headers of published keys. -/
inductive Header where
  | uncompressed
  | compressed
  deriving DecidableEq

def Header.bytes : Header → Bytes
  | uncompressed => uncompressedHeader
  | compressed => compressedHeader

/-- How long a point the header announces. -/
def Header.announced : Header → Nat
  | uncompressed => 65
  | compressed => 33

theorem Header.length_bytes (header : Header) : header.bytes.length = 23 := by
  cases header <;> rfl

/-- The length of everything behind the second byte. -/
theorem Header.whole_bytes (header : Header) :
    (header.bytes.getD 1 0).toNat = header.announced + 21 := by
  cases header <;> rfl

/-- The length of the bit string. Its first byte counts no bits and is not part of the point. -/
theorem Header.inner_bytes (header : Header) :
    (header.bytes.getD 21 0).toNat = header.announced + 1 := by
  cases header <;> rfl

theorem Header.bytes_inj {header other : Header} (same : header.bytes = other.bytes) :
    header = other := by
  have announced : header.announced = other.announced := by
    have whole := header.whole_bytes
    rw [same, other.whole_bytes] at whole
    omega
  cases header with
  | uncompressed =>
    cases other with
    | uncompressed => rfl
    | compressed => cases announced
  | compressed =>
    cases other with
    | uncompressed => cases announced
    | compressed => rfl

/-- Content is what stands behind one of the headers. -/
theorem publicKeyContent?_eq_some_iff {bytes content : Bytes} :
    publicKeyContent? bytes = some content ↔
      ∃ header : Header, bytes = header.bytes ++ content := by
  constructor
  · intro found
    unfold publicKeyContent? at found
    split at found
    · next fits =>
      obtain rfl := Option.some.inj found
      rcases Bool.or_eq_true_iff.mp fits with full | short
      · exact ⟨.uncompressed,
          (List.prefix_iff_eq_append.mp (List.isPrefixOf_iff_prefix.mp full)).symm⟩
      · exact ⟨.compressed,
          (List.prefix_iff_eq_append.mp (List.isPrefixOf_iff_prefix.mp short)).symm⟩
    · cases found
  · rintro ⟨header, rfl⟩
    have fits : (uncompressedHeader.isPrefixOf (header.bytes ++ content) ||
        compressedHeader.isPrefixOf (header.bytes ++ content)) = true := by
      rw [Bool.or_eq_true_iff, List.isPrefixOf_iff_prefix, List.isPrefixOf_iff_prefix]
      cases header with
      | uncompressed => exact .inl (List.prefix_append _ _)
      | compressed => exact .inr (List.prefix_append _ _)
    rw [publicKeyContent?, if_pos fits, List.drop_left' header.length_bytes]

/-- A point in one of its forms behind one of the headers. -/
def keyInfo (header : Header) (form : Form) (key : Point) : Bytes :=
  header.bytes ++ form.write key

theorem writePublicKey_eq (key : Point) :
    writePublicKey key = keyInfo .uncompressed .uncompressed key := rfl

/-- What is written for a point tells header and form. -/
theorem keyInfo_inj {header other : Header} {form otherForm : Form} {key : Point}
    (same : keyInfo header form key = keyInfo other otherForm key) :
    header = other ∧ form = otherForm := by
  obtain ⟨front, back⟩ := List.append_inj same
    (header.length_bytes.trans other.length_bytes.symm)
  exact ⟨Header.bytes_inj front, Form.write_inj back⟩

/-! ## Lengths -/

/-- The lengths that stand in the bytes are true, that of everything behind the second byte and
that of the bit string. -/
structure WellFormed (der : Bytes) : Prop where
  whole : (der.getD 1 0).toNat + 2 = der.length
  inner : (der.getD 21 0).toNat + 22 = der.length

/-- The header for full points is followed by sixty-five bytes, or the one for compressed
points by thirty-three. -/
def Fits (der : Bytes) : Prop :=
  ∃ point, (der = uncompressedHeader ++ point ∧ point.length = 65) ∨
    (der = compressedHeader ++ point ∧ point.length = 33)

theorem wellFormed_append_iff {header : Header} {point : Bytes} :
    WellFormed (header.bytes ++ point) ↔ point.length = header.announced := by
  have length : (header.bytes ++ point).length = 23 + point.length := by
    rw [List.length_append, header.length_bytes]
  have whole : ((header.bytes ++ point).getD 1 0).toNat = header.announced + 21 := by
    rw [List.getD_append _ _ _ _ (by rw [header.length_bytes]; decide), header.whole_bytes]
  have inner : ((header.bytes ++ point).getD 21 0).toNat = header.announced + 1 := by
    rw [List.getD_append _ _ _ _ (by rw [header.length_bytes]; decide), header.inner_bytes]
  constructor
  · rintro ⟨true, -⟩
    omega
  · intro exact
    constructor <;> omega

theorem fits_append_iff {header : Header} {point : Bytes} :
    Fits (header.bytes ++ point) ↔ point.length = header.announced := by
  constructor
  · rintro ⟨other, ⟨same, exact⟩ | ⟨same, exact⟩⟩
    · obtain ⟨front, rfl⟩ := List.append_inj same header.length_bytes
      obtain rfl : header = .uncompressed := Header.bytes_inj front
      exact exact
    · obtain ⟨front, rfl⟩ := List.append_inj same header.length_bytes
      obtain rfl : header = .compressed := Header.bytes_inj front
      exact exact
  · intro exact
    cases header with
    | uncompressed => exact ⟨point, .inl ⟨rfl, exact⟩⟩
    | compressed => exact ⟨point, .inr ⟨rfl, exact⟩⟩

end Der

/-! ## What is accepted -/

namespace ClaimSignature

open Der

/-- Exactly the points of the curve are accepted, in each of their forms behind each of the
headers. -/
theorem decodePublicKey_eq_ok_iff {der : Bytes} {key : Point} :
    decodePublicKey der = .ok key ↔ key.OnCurve ∧ ∃ header form, der = keyInfo header form key := by
  constructor
  · intro accepted
    unfold decodePublicKey at accepted
    split at accepted
    · cases accepted
    · next content found =>
      obtain ⟨header, rfl⟩ := publicKeyContent?_eq_some_iff.mp found
      split at accepted
      · cases accepted
      · next point read =>
        cases accepted
        obtain ⟨onCurve, form, rfl⟩ := decode?_eq_some_iff.mp read
        exact ⟨onCurve, header, form, rfl⟩
  · rintro ⟨onCurve, header, form, rfl⟩
    have content : publicKeyContent? (keyInfo header form key) = some (form.write key) :=
      publicKeyContent?_eq_some_iff.mpr ⟨header, rfl⟩
    simp only [decodePublicKey, content, decode?_write onCurve form]

/-- A key is accepted behind a header in one of its forms, and its lengths are true exactly
where the header is followed by the point that it is for, which is where form and header agree
in length. Every point of the curve is accepted in every form behind every header, so where they
do not agree too. -/
theorem accepted_wellFormed_iff {der : Bytes} {key : Point}
    (accepted : decodePublicKey der = .ok key) :
    (∃ header form, der = keyInfo header form key ∧ (WellFormed der ↔ Fits der) ∧
      (Fits der ↔ form.length = header.announced)) ∧
    ∀ point : Point, point.OnCurve → ∀ header form,
      decodePublicKey (keyInfo header form point) = .ok point ∧
        (WellFormed (keyInfo header form point) ↔ form.length = header.announced) := by
  have lengths (header : Header) (form : Form) (point : Point) :
      (WellFormed (keyInfo header form point) ↔ form.length = header.announced) ∧
        (Fits (keyInfo header form point) ↔ form.length = header.announced) := by
    rw [keyInfo, wellFormed_append_iff, fits_append_iff, form.length_write]
    exact ⟨Iff.rfl, Iff.rfl⟩
  constructor
  · obtain ⟨-, header, form, rfl⟩ := decodePublicKey_eq_ok_iff.mp accepted
    obtain ⟨wellFormed, fits⟩ := lengths header form key
    exact ⟨header, form, rfl, wellFormed.trans fits.symm, fits⟩
  · intro point onCurve header form
    exact ⟨decodePublicKey_eq_ok_iff.mpr ⟨onCurve, header, form, rfl⟩,
      (lengths header form point).1⟩

/-- The generator is accepted with true lengths in its hybrid form. -/
theorem accepted_wellFormed_hybrid :
    decodePublicKey (keyInfo .uncompressed .hybrid generator) = .ok generator ∧
      WellFormed (keyInfo .uncompressed .hybrid generator) := by
  have accepted : decodePublicKey (keyInfo .uncompressed .hybrid generator) = .ok generator := by
    decide +kernel
  have wellFormed := (accepted_wellFormed_iff accepted).2 generator onCurve_generator
    .uncompressed .hybrid
  exact ⟨accepted, wellFormed.2.mpr rfl⟩

/-- It is accepted in its compressed form behind the header for full points, with both lengths
wrong. -/
theorem accepted_crossed :
    decodePublicKey (keyInfo .uncompressed .compressed generator) = .ok generator ∧
      ¬ WellFormed (keyInfo .uncompressed .compressed generator) :=
  ⟨by decide +kernel, fun wellFormed => absurd wellFormed.whole (by decide)⟩

end ClaimSignature

end ClaimLedger
