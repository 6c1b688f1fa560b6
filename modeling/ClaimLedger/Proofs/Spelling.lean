import ClaimLedger.Proofs.Reading

/-! Spellings. A wire format is laid out as bytes that leave no choice and numbers in
compact sizes, which may take more bytes than they need. Bytes that a reader accepts are a
spelling of the layout of what it reads, and all spellings of one layout are to be read as
the same value, so the forms of the compact sizes are all the freedom there is. One of the
spellings is shorter than all others: the one that is written. -/
namespace ClaimLedger

/-- A part of a wire format: given bytes, or a number in a compact size. -/
inductive Piece where
  | verbatim (bytes : Bytes)
  | count (n : Nat)
  deriving DecidableEq

/-- A part of a wire format as it stands on the wire. -/
inductive Token where
  | verbatim (bytes : Bytes)
  | count (n : Nat) (form : Bytes) (spells : CompactForm n form)

/-- A wire format as it stands on the wire, part by part. -/
abbrev Spelling := List Token

namespace Piece

/-- How the part is written. -/
@[simp] def shortest : Piece → Bytes
  | verbatim bytes => bytes
  | count n => compactSize n

/-- A byte string behind its length. -/
def string (bytes : Bytes) : List Piece := [count bytes.length, verbatim bytes]

end Piece

namespace Token

def piece : Token → Piece
  | verbatim bytes => .verbatim bytes
  | count n _ _ => .count n

def bytes : Token → Bytes
  | verbatim bytes => bytes
  | count _ form _ => form

/-- A compact size has no shorter form than the one it stands in. -/
def Minimal : Token → Prop
  | verbatim _ => True
  | count n form _ => ∀ other, CompactForm n other → form.length ≤ other.length

theorem length_shortest_le (token : Token) :
    token.piece.shortest.length ≤ token.bytes.length := by
  cases token with
  | verbatim bytes => exact Nat.le_refl _
  | count n form spells => exact spells.shortest.1

/-- What is no longer than what is written is what is written. -/
theorem shortest_eq_of_length {token : Token}
    (same : token.piece.shortest.length = token.bytes.length) :
    token.piece.shortest = token.bytes := by
  cases token with
  | verbatim bytes => rfl
  | count n form spells => exact spells.shortest.2 same

theorem minimal_iff (token : Token) : token.Minimal ↔ token.piece.shortest = token.bytes := by
  cases token with
  | verbatim bytes => exact ⟨fun _ => rfl, fun _ => trivial⟩
  | count n form spells =>
    constructor
    · intro minimal
      have written := minimal _ (compactForm_compactSize spells.lt)
      exact spells.shortest.2 (Nat.le_antisymm spells.shortest.1 written)
    · rintro same other spellsOther
      have written : compactSize n = form := same
      exact written ▸ spellsOther.shortest.1

end Token

/-- The bytes that a layout is written as. -/
def shortest (layout : List Piece) : Bytes := layout.flatMap Piece.shortest

@[simp] theorem shortest_nil : shortest [] = [] := rfl

@[simp] theorem shortest_cons (piece : Piece) (layout : List Piece) :
    shortest (piece :: layout) = piece.shortest ++ shortest layout :=
  rfl

@[simp] theorem shortest_string (bytes : Bytes) :
    shortest (Piece.string bytes) = lengthPrefixed bytes := by
  simp [Piece.string, lengthPrefixed]

@[simp] theorem shortest_append (front back : List Piece) :
    shortest (front ++ back) = shortest front ++ shortest back :=
  List.flatMap_append

theorem shortest_flatMap {α : Type} {layout : α → List Piece} {write : α → Bytes}
    (written : ∀ item, shortest (layout item) = write item) (items : List α) :
    shortest (items.flatMap layout) = items.flatMap write := by
  rw [shortest, List.flatMap_assoc]
  exact congrArg (items.flatMap ·) (funext written)

/-! ## Numbers that count something -/

/-- Every number in the layout counts bytes or items that are laid out too. -/
def Counts (layout : List Piece) : Prop :=
  ∀ n, .count n ∈ layout → n ≤ (shortest layout).length

theorem counts_verbatim (bytes : Bytes) : Counts [.verbatim bytes] := by
  intro n counted
  simp at counted

theorem counts_string (bytes : Bytes) : Counts (Piece.string bytes) := by
  intro n counted
  obtain rfl : n = bytes.length := by simpa [Piece.string] using counted
  simp [Piece.string]

theorem Counts.append {front back : List Piece} (first : Counts front) (second : Counts back) :
    Counts (front ++ back) := by
  intro n counted
  rw [shortest_append, List.length_append]
  rcases List.mem_append.mp counted with inFront | inBack
  · exact Nat.le_trans (first n inFront) (Nat.le_add_right _ _)
  · exact Nat.le_trans (second n inBack) (Nat.le_add_left _ _)

namespace Spelling

def pieces (spelling : Spelling) : List Piece := spelling.map Token.piece

def bytes (spelling : Spelling) : Bytes := spelling.flatMap Token.bytes

theorem pieces_append (front back : Spelling) :
    pieces (front ++ back) = front.pieces ++ back.pieces :=
  List.map_append

theorem bytes_append (front back : Spelling) :
    bytes (front ++ back) = front.bytes ++ back.bytes :=
  List.flatMap_append

@[simp] theorem bytes_singleton (token : Token) : bytes [token] = token.bytes :=
  List.flatMap_singleton ..

/-- The spelling of a layout consists of spellings of its parts. -/
theorem of_append {spelling : Spelling} {front back : List Piece}
    (spells : spelling.pieces = front ++ back) :
    ∃ first second : Spelling, spelling = first ++ second ∧ first.pieces = front ∧
      second.pieces = back :=
  List.map_eq_append_iff.mp spells

/-- Nothing that is written is longer than how it is spelled. -/
theorem length_shortest_le (spelling : Spelling) :
    (shortest spelling.pieces).length ≤ spelling.bytes.length := by
  induction spelling with
  | nil => exact Nat.le_refl _
  | cons token spelling ih =>
    have first := token.length_shortest_le
    simp only [shortest, pieces, bytes, List.map_cons, List.flatMap_cons,
      List.length_append] at ih ⊢
    omega

/-- A spelling as short as what is written is what is written, down to each part. -/
theorem minimal_of_length {spelling : Spelling}
    (same : (shortest spelling.pieces).length = spelling.bytes.length) :
    ∀ token ∈ spelling, token.Minimal := by
  induction spelling with
  | nil => exact nofun
  | cons token spelling ih =>
    have first := token.length_shortest_le
    have rest := length_shortest_le spelling
    simp only [shortest, pieces, bytes, List.map_cons, List.flatMap_cons,
      List.length_append] at ih rest same
    refine List.forall_mem_cons.mpr ⟨token.minimal_iff.mpr ?_, ih (by omega)⟩
    exact Token.shortest_eq_of_length (by omega)

theorem shortest_eq_of_minimal {spelling : Spelling}
    (minimal : ∀ token ∈ spelling, token.Minimal) :
    shortest spelling.pieces = spelling.bytes := by
  induction spelling with
  | nil => rfl
  | cons token spelling ih =>
    obtain ⟨first, rest⟩ := List.forall_mem_cons.mp minimal
    simp only [shortest, pieces, bytes, List.map_cons, List.flatMap_cons] at ih ⊢
    rw [token.minimal_iff.mp first, ih rest]

/-- A layout is spelled as it is written exactly when no compact size takes more bytes than
it needs. -/
theorem shortest_eq_iff (spelling : Spelling) :
    shortest spelling.pieces = spelling.bytes ↔ ∀ token ∈ spelling, token.Minimal :=
  ⟨fun same => minimal_of_length (congrArg List.length same), shortest_eq_of_minimal⟩

/-- That can be told from the length alone. -/
theorem shortest_eq_iff_length (spelling : Spelling) :
    shortest spelling.pieces = spelling.bytes ↔
      (shortest spelling.pieces).length = spelling.bytes.length :=
  ⟨congrArg List.length, fun same => shortest_eq_of_minimal (minimal_of_length same)⟩

/-- Bytes are split into the parts of a layout in one way. -/
theorem unique {spelling other : Spelling} (pieces : spelling.pieces = other.pieces)
    (same : spelling.bytes = other.bytes) : spelling = other := by
  induction spelling generalizing other with
  | nil =>
    cases other with
    | nil => rfl
    | cons token other => cases pieces
  | cons token spelling ih =>
    cases other with
    | nil => cases pieces
    | cons token' other =>
      obtain ⟨first, rest⟩ := List.cons.inj pieces
      have parts : token.bytes ++ bytes spelling = token'.bytes ++ bytes other := same
      cases token with
      | verbatim content =>
        cases token' with
        | verbatim content' =>
          cases first
          rw [ih rest (List.append_cancel_left parts)]
        | count n' form' spells' => cases first
      | count n form spells =>
        cases token' with
        | verbatim content' => cases first
        | count n' form' spells' =>
          cases first
          -- Both forms are read as the number, so what follows them is the same.
          obtain ⟨-, behind⟩ := (Reader.Reads.form spells 0).unique
            (Reader.Reads.form spells' 0) parts
          have both : form ++ bytes spelling = form' ++ bytes other := parts
          rw [behind] at both
          obtain rfl : form = form' := List.append_cancel_right both
          rw [ih rest behind]

/-- A number that is laid out was spelled, so a compact size can spell it. -/
theorem count_lt {spelling : Spelling} {n : Nat} (counted : .count n ∈ spelling.pieces) :
    n < 2 ^ 64 := by
  obtain ⟨token, -, same⟩ := List.mem_map.mp counted
  cases token with
  | verbatim bytes => cases same
  | count m form spells =>
    cases same
    exact spells.lt

/-- What is written is a spelling, if compact sizes can spell the numbers in it. -/
theorem exists_shortest {layout : List Piece} (small : ∀ n, .count n ∈ layout → n < 2 ^ 64) :
    ∃ spelling : Spelling, spelling.pieces = layout ∧ spelling.bytes = shortest layout := by
  induction layout with
  | nil => exact ⟨[], rfl, rfl⟩
  | cons piece layout ih =>
    obtain ⟨spelling, rfl, written⟩ := ih fun n later => small n (List.mem_cons_of_mem _ later)
    cases piece with
    | verbatim bytes =>
      exact ⟨.verbatim bytes :: spelling, rfl, congrArg (bytes ++ ·) written⟩
    | count n =>
      have spells := compactForm_compactSize (small n List.mem_cons_self)
      exact ⟨.count n _ spells :: spelling, rfl, congrArg (compactSize n ++ ·) written⟩

end Spelling

namespace Reader

variable {α β : Type}

/-! ## What is read is spelled -/

/-- When pieces were passed before, every success passes a spelling of the rest of the
layout of its value. -/
def Follows (before : List Piece) (reader : Reader α) (layout : α → List Piece) : Prop :=
  ∀ (start : Cursor) (value : α) (after : Cursor), reader start = .ok value after →
    ∃ spelling : Spelling, before ++ spelling.pieces = layout value ∧
      start.Passes spelling.bytes after

namespace Follows

variable {before : List Piece} {layout : β → List Piece}

theorem pure {value : α} {layout : α → List Piece} (complete : before = layout value) :
    Follows before (Pure.pure value) layout := by
  intro start result after ran
  cases ran
  exact ⟨[], (List.append_nil _).trans complete, .nothing _⟩

theorem throw (cause : Error) (layout : α → List Piece) :
    Follows before (MonadExcept.throw cause : Reader α) layout := by
  intro start value after ran
  cases ran

/-- A sequence passes what its parts pass. What follows a value is asked for only where the
value can be read. -/
theorem bind_of {reader : Reader α} {next : α → Reader β} {part : α → List Piece} {good : α → Prop}
    (reads : ∀ {start after : Cursor} {value : α}, reader start = .ok value after → good value)
    (first : Follows [] reader part)
    (second : ∀ value, good value → Follows (before ++ part value) (next value) layout) :
    Follows before (reader >>= next) layout := by
  intro start result after ran
  obtain ⟨value, middle, firstRan, secondRan⟩ := bind_ok_iff.mp ran
  obtain ⟨front, passed, passesFront⟩ := first _ _ _ firstRan
  obtain ⟨back, left, passesBack⟩ := second value (reads firstRan) _ _ _ secondRan
  refine ⟨front ++ back, ?_, ?_⟩
  · rw [Spelling.pieces_append, ← left, ← passed, List.append_assoc, List.nil_append]
  · rw [Spelling.bytes_append]
    exact passesFront.trans passesBack

theorem bind {reader : Reader α} {next : α → Reader β} {part : α → List Piece}
    (first : Follows [] reader part)
    (second : ∀ value, Follows (before ++ part value) (next value) layout) :
    Follows before (reader >>= next) layout :=
  bind_of (fun _ => trivial) first fun value _ => second value

theorem ite {reader other : Reader α} {layout : α → List Piece} (condition : Prop)
    [Decidable condition] (follows : condition → Follows before reader layout)
    (otherwise : ¬ condition → Follows before other layout) :
    Follows before (if condition then reader else other) layout := by
  by_cases holds : condition
  · simpa only [if_pos holds] using follows holds
  · simpa only [if_neg holds] using otherwise holds

/-- A value computed from what is read. -/
theorem map {reader : Reader α} {part : α → List Piece} (follows : Follows [] reader part)
    (f : α → β) (complete : ∀ value, before ++ part value = layout (f value)) :
    Follows before (reader >>= fun value => Pure.pure (f value)) layout :=
  follows.bind fun value => pure (complete value)

/-- What a reader passes in one piece. -/
theorem passing {reader : Reader α} {part : α → Piece}
    (passes : ∀ {start after : Cursor} {value : α}, reader start = .ok value after →
      ∃ token : Token, token.piece = part value ∧ start.Passes token.bytes after) :
    Follows [] reader fun value => [part value] := by
  intro start value after ran
  obtain ⟨token, same, passed⟩ := passes ran
  refine ⟨[token], congrArg (fun piece => [piece]) same, ?_⟩
  rw [Spelling.bytes_singleton]
  exact passed

theorem take (n : Nat) : Follows [] (Reader.take n) fun bytes => [.verbatim bytes] :=
  passing fun ran => ⟨.verbatim _, rfl, (take_ok_iff.mp ran).2⟩

theorem number (width : Nat) :
    Follows [] (Reader.number width) fun n => [.verbatim (leBytes width n)] :=
  passing fun ran => ⟨.verbatim _, rfl, (number_ok ran).2⟩

theorem u8 : Follows [] Reader.u8 fun byte => [.verbatim [byte]] :=
  (number 1).map UInt8.ofNat fun _ => rfl

theorem u32 : Follows [] Reader.u32 fun value => [.verbatim (leBytes 4 value.toNat)] :=
  (number 4).map UInt32.ofNat fun n =>
    congrArg (fun bytes => [Piece.verbatim bytes]) (leBytes_mod 4 n).symm

theorem u64 : Follows [] Reader.u64 fun value => [.verbatim (leBytes 8 value.toNat)] :=
  (number 8).map UInt64.ofNat fun n =>
    congrArg (fun bytes => [Piece.verbatim bytes]) (leBytes_mod 8 n).symm

theorem fixed (n : Nat) : Follows [] (Reader.fixed n) fun value => [.verbatim value.toList] := by
  refine passing fun ran => ?_
  obtain ⟨bytes, middle, taken, ran⟩ := bind_ok_iff.mp ran
  cases ran
  obtain ⟨rfl, passes⟩ := take_ok_iff.mp taken
  have same : (FixedBytes.ofPadded bytes.length bytes).toList = bytes :=
    congrArg FixedBytes.toList (FixedBytes.ofPadded_toList ⟨bytes, rfl⟩)
  exact ⟨.verbatim bytes, congrArg Piece.verbatim same.symm, passes⟩

theorem compactSize : Follows [] Reader.compactSize fun n => [.count n] := by
  refine passing fun ran => ?_
  obtain ⟨form, spells, passes⟩ := compactSize_ok ran
  exact ⟨.count _ form spells, rfl, passes⟩

theorem string : Follows [] Reader.string Piece.string := by
  refine compactSize.bind fun length => ?_
  intro start bytes after ran
  have taken := checked_take_ok_iff.mp ran
  obtain ⟨rfl, -⟩ := take_ok_iff.mp taken
  obtain ⟨spelling, spelled, passes⟩ := take _ _ _ _ taken
  exact ⟨spelling, congrArg (Piece.count bytes.length :: ·) spelled, passes⟩

/-- Items are passed one behind the other, as many as were asked for. -/
theorem replicate {reader : Reader α} {part : α → List Piece} (follows : Follows [] reader part)
    (count : Nat) :
    Follows [] (Reader.replicate reader count) fun values => values.flatMap part := by
  induction count with
  | zero => exact pure rfl
  | succ count ih =>
    exact follows.bind fun first => ih.map (first :: ·) fun rest => rfl

/-- As many items as a number says, and what is read behind them. -/
theorem items {reader : Reader α} {next : List α → Reader β} {part : α → List Piece} {count : Nat}
    (follows : Follows [] reader part) (second : ∀ values : List α, values.length = count →
      Follows (before ++ values.flatMap part) (next values) layout) :
    Follows before (Reader.replicate reader count >>= next) layout :=
  bind_of replicate_length (follows.replicate count) second

end Follows

/-! ## What is spelled is read -/

/-- Every spelling of the layout is read as some value that is good. Which one it is may
depend on where the spelling stands. -/
def AcceptsSome (reader : Nat → Reader α) (layout : List Piece) (good : α → Prop) : Prop :=
  ∀ spelling : Spelling, spelling.pieces = layout → ∀ skipped,
    ∃ value, Reads reader skipped spelling.bytes value ∧ good value

namespace AcceptsSome

variable {reader : Nat → Reader α} {good : α → Prop} {fine : β → Prop}

theorem bind {next : α → Nat → Reader β} {front back : List Piece}
    (first : AcceptsSome reader front good)
    (second : ∀ value, good value → AcceptsSome (next value) back fine) :
    AcceptsSome (fun origin => reader origin >>= fun value => next value origin) (front ++ back)
      fine := by
  intro spelling spells skipped
  obtain ⟨one, other, rfl, spellsOne, spellsOther⟩ := Spelling.of_append spells
  rw [Spelling.bytes_append]
  obtain ⟨value, reads, isGood⟩ := first one spellsOne skipped
  obtain ⟨result, readsRest, isFine⟩ := second value isGood other spellsOther _
  exact ⟨result, reads.bind readsRest, isFine⟩

theorem pure {value : α} (isGood : good value) :
    AcceptsSome (fun _ => Pure.pure value) [] good := by
  intro spelling spells skipped
  cases spelling with
  | nil => exact ⟨value, Reads.pure value skipped, isGood⟩
  | cons token spelling => cases spells

theorem map {layout : List Piece} (accepts : AcceptsSome reader layout good) (f : α → β)
    (keeps : ∀ value, good value → fine (f value)) :
    AcceptsSome (fun origin => reader origin >>= fun value => Pure.pure (f value)) layout fine := by
  have both := accepts.bind fun value isGood => pure (keeps value isGood)
  rwa [List.append_nil] at both

/-- A layout of one piece is spelled by one token. -/
theorem single {piece : Piece} (reads : ∀ token : Token, token.piece = piece → ∀ skipped,
      ∃ value, Reads reader skipped token.bytes value ∧ good value) :
    AcceptsSome reader [piece] good := by
  intro spelling spells skipped
  obtain ⟨token, rfl, same⟩ := List.map_eq_singleton_iff.mp spells
  rw [Spelling.bytes_singleton]
  exact reads token same skipped

/-- Given bytes are spelled in one way. -/
theorem verbatim {bytes : Bytes}
    (reads : ∀ skipped, ∃ value, Reads reader skipped bytes value ∧ good value) :
    AcceptsSome reader [.verbatim bytes] good := by
  refine single fun token same skipped => ?_
  cases token with
  | verbatim content =>
    cases same
    exact reads skipped
  | count n form spells => cases same

/-- Items are read one behind the other, up to what `view` does not see. -/
theorem replicate {γ : Type} {part : γ → List Piece} (view : α → γ) (items : List γ)
    (each : ∀ item ∈ items, AcceptsSome reader (part item) fun value => view value = item) :
    AcceptsSome (fun origin => Reader.replicate (reader origin) items.length)
      (items.flatMap part) fun values => values.map view = items := by
  induction items with
  | nil => exact pure rfl
  | cons item items ih =>
    obtain ⟨first, rest⟩ := List.forall_mem_cons.mp each
    exact first.bind fun value same => (ih rest).map (value :: ·) fun values others => by
      rw [List.map_cons, same, others]

end AcceptsSome

/-- Every spelling of the layout is read as the value, wherever it stands. -/
def Accepts (reader : Reader α) (layout : List Piece) (value : α) : Prop :=
  ∀ spelling : Spelling, spelling.pieces = layout → ∀ skipped,
    Reads (fun _ => reader) skipped spelling.bytes value

theorem accepts_iff {reader : Reader α} {layout : List Piece} {value : α} :
    Accepts reader layout value ↔ AcceptsSome (fun _ => reader) layout (· = value) :=
  ⟨fun accepts spelling spells skipped => ⟨value, accepts spelling spells skipped, rfl⟩,
    fun accepts spelling spells skipped => by
      obtain ⟨_, reads, rfl⟩ := accepts spelling spells skipped
      exact reads⟩

namespace Accepts

theorem bind {reader : Reader α} {next : α → Reader β} {front back : List Piece} {value : α}
    {result : β} (first : Accepts reader front value) (second : Accepts (next value) back result) :
    Accepts (reader >>= next) (front ++ back) result :=
  accepts_iff.mpr ((accepts_iff.mp first).bind fun _ same => same ▸ accepts_iff.mp second)

theorem pure (value : α) : Accepts (Pure.pure value) [] value :=
  accepts_iff.mpr (AcceptsSome.pure rfl)

theorem map {reader : Reader α} {layout : List Piece} {value : α}
    (accepts : Accepts reader layout value) (f : α → β) :
    Accepts (reader >>= fun value => Pure.pure (f value)) layout (f value) :=
  accepts_iff.mpr ((accepts_iff.mp accepts).map f fun _ same => congrArg f same)

theorem verbatim {reader : Reader α} {bytes : Bytes} {value : α}
    (reads : ∀ skipped, Reads (fun _ => reader) skipped bytes value) :
    Accepts reader [.verbatim bytes] value :=
  accepts_iff.mpr (AcceptsSome.verbatim fun skipped => ⟨value, reads skipped, rfl⟩)

theorem compactSize (n : Nat) : Accepts Reader.compactSize [.count n] n := by
  refine accepts_iff.mpr (AcceptsSome.single fun token same skipped => ?_)
  cases token with
  | verbatim content => cases same
  | count m form spells =>
    cases same
    exact ⟨_, Reads.form spells skipped, rfl⟩

theorem u8 (byte : UInt8) : Accepts Reader.u8 [.verbatim [byte]] byte :=
  verbatim (Reads.u8 byte)

theorem u32 (value : UInt32) : Accepts Reader.u32 [.verbatim (leBytes 4 value.toNat)] value :=
  verbatim (Reads.u32 value)

theorem u64 (value : UInt64) : Accepts Reader.u64 [.verbatim (leBytes 8 value.toNat)] value :=
  verbatim (Reads.u64 value)

theorem fixed {n : Nat} (value : FixedBytes n) :
    Accepts (Reader.fixed n) [.verbatim value.toList] value :=
  verbatim (Reads.fixed value)

/-- What is written is read. -/
theorem reads_shortest {reader : Reader α} {layout : List Piece} {value : α}
    (accepts : Accepts reader layout value) (small : ∀ n, .count n ∈ layout → n < 2 ^ 64)
    (skipped : Nat) : Reads (fun _ => reader) skipped (shortest layout) value := by
  obtain ⟨spelling, spells, written⟩ := Spelling.exists_shortest small
  exact written ▸ accepts spelling spells skipped

theorem string (bytes : Bytes) : Accepts Reader.string (Piece.string bytes) bytes :=
  (compactSize bytes.length).bind (verbatim fun skipped passed rest far =>
    checked_take_ok_iff.mpr (Reads.take bytes skipped passed rest far))

theorem replicate {reader : Reader α} {part : α → List Piece} (items : List α)
    (each : ∀ item ∈ items, Accepts reader (part item) item) :
    Accepts (Reader.replicate reader items.length) (items.flatMap part) items := by
  have all := AcceptsSome.replicate id items fun item member => accepts_iff.mp (each item member)
  simp only [List.map_id] at all
  exact accepts_iff.mpr all

end Accepts

end Reader

end ClaimLedger
