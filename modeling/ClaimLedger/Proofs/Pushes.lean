import ClaimLedger.Proofs.Numbers
import ClaimLedger.Script.Push

/-! Pushes. A push is a length and the data it counts; what is read at the front of
a script is exactly a push, in any of its forms. Pushes are read as they are written,
whatever follows them, so a script that redeems with a signature and a key is told
apart as such when it is read. -/
namespace ClaimLedger

namespace Script

/-- The forms of a push. A short length is an opcode of its own; every length may also
follow an opcode that says how many bytes it takes, shortest or not. -/
inductive Pushes (data : Bytes) : Bytes → Prop where
  | direct (short : data.length ≤ 0x4b) : Pushes data (UInt8.ofNat data.length :: data)
  | counted {opcode : UInt8} {width : Nat}
      (announced : (opcode, width) ∈ [(0x4c, 1), (0x4d, 2), (0x4e, 4)])
      (fits : data.length < 256 ^ width) :
      Pushes data (opcode :: (leBytes width data.length ++ data))

theorem splitExactly?_eq_some_iff {length : Nat} {bytes front rest : Bytes} :
    splitExactly? length bytes = some (front, rest) ↔
      front.length = length ∧ bytes = front ++ rest := by
  simp only [splitExactly?, List.splitAt_eq]
  constructor
  · intro split
    split at split
    · rename_i enough
      cases split
      exact ⟨enough, (List.take_append_drop length bytes).symm⟩
    · cases split
  · rintro ⟨rfl, rfl⟩
    simp

/-- Data behind its length is read when the length fits its width. -/
theorem readLongPush?_eq_some_iff {width : Nat} {bytes data rest : Bytes} :
    readLongPush? width bytes = some (data, rest) ↔
      data.length < 256 ^ width ∧ bytes = leBytes width data.length ++ data ++ rest := by
  constructor
  · intro read
    unfold readLongPush? at read
    split at read
    · cases read
    · rename_i length behind found
      obtain ⟨rfl, rfl⟩ := splitExactly?_eq_some_iff.mp found
      obtain ⟨counted, rfl⟩ := splitExactly?_eq_some_iff.mp read
      rw [counted, leBytes_leValue, List.append_assoc]
      exact ⟨leValue_lt length, rfl⟩
  · rintro ⟨fits, rfl⟩
    have split : splitExactly? width (leBytes width data.length ++ data ++ rest) =
        some (leBytes width data.length, data ++ rest) :=
      splitExactly?_eq_some_iff.mpr ⟨length_leBytes _ _, List.append_assoc _ _ _⟩
    simp only [readLongPush?, split, leValue_leBytes, Nat.mod_eq_of_lt fits]
    exact splitExactly?_eq_some_iff.mpr ⟨rfl, rfl⟩

/-- A push is read in all its forms. -/
theorem Pushes.read {data push : Bytes} (pushes : Pushes data push) (rest : Bytes) :
    readPush? (push ++ rest) = some (data, rest) := by
  cases pushes with
  | direct short =>
    have opcode : (UInt8.ofNat data.length).toNat = data.length := by
      rw [UInt8.toNat_ofNat']
      omega
    have low : UInt8.ofNat data.length ≤ 0x4b := by
      rw [UInt8.le_iff_toNat_le, opcode]
      exact short
    rw [List.cons_append, readPush?, if_pos low, opcode]
    exact splitExactly?_eq_some_iff.mpr ⟨rfl, rfl⟩
  | @counted opcode width announced fits =>
    have behind : readLongPush? width (leBytes width data.length ++ data ++ rest) =
        some (data, rest) := readLongPush?_eq_some_iff.mpr ⟨fits, rfl⟩
    simp only [List.mem_cons, Prod.mk.injEq, List.not_mem_nil, or_false] at announced
    rcases announced with ⟨rfl, rfl⟩ | ⟨rfl, rfl⟩ | ⟨rfl, rfl⟩ <;> exact behind

/-- What is read at the front of a script is a push. -/
theorem readPush?_eq_some_iff {bytes data rest : Bytes} :
    readPush? bytes = some (data, rest) ↔ ∃ push, Pushes data push ∧ bytes = push ++ rest := by
  constructor
  · intro read
    cases bytes with
    | nil => cases read
    | cons opcode behind =>
      have counted {width : Nat} (announced : (opcode, width) ∈ [(0x4c, 1), (0x4d, 2), (0x4e, 4)])
          (read : readLongPush? width behind = some (data, rest)) :
          ∃ push, Pushes data push ∧ opcode :: behind = push ++ rest := by
        obtain ⟨fits, rfl⟩ := readLongPush?_eq_some_iff.mp read
        exact ⟨_, .counted announced fits, rfl⟩
      rw [readPush?] at read
      split at read
      · rename_i low
        obtain ⟨exact, rfl⟩ := splitExactly?_eq_some_iff.mp read
        have same : UInt8.ofNat data.length = opcode := by rw [exact, UInt8.ofNat_toNat]
        refine ⟨opcode :: data, ?_, rfl⟩
        rw [← same]
        exact .direct (exact ▸ UInt8.le_iff_toNat_le.mp low)
      split at read
      · subst opcode
        exact counted (by simp) read
      split at read
      · subst opcode
        exact counted (by simp) read
      split at read
      · subst opcode
        exact counted (by simp) read
      · cases read
  · rintro ⟨push, pushes, rfl⟩
    exact pushes.read rest

/-- No push holds more than four bytes can count. -/
theorem Pushes.length_lt {data push : Bytes} (pushes : Pushes data push) :
    data.length < pushLimit := by
  cases pushes with
  | direct short => exact Nat.lt_of_le_of_lt short (by decide)
  | counted announced fits =>
    simp only [List.mem_cons, Prod.mk.injEq, List.not_mem_nil, or_false] at announced
    rcases announced with ⟨-, rfl⟩ | ⟨-, rfl⟩ | ⟨-, rfl⟩ <;>
      exact Nat.lt_of_lt_of_le fits (by decide)

/-- The shortest form is one of them. -/
theorem pushes_pushOf {data : Bytes} (small : data.length < pushLimit) :
    Pushes data (pushOf data) := by
  have limit : pushLimit = 256 ^ 4 := rfl
  unfold pushOf
  split
  · exact .direct (by assumption)
  split
  · exact @Pushes.counted data 0x4c 1 (by simp) (by omega)
  split
  · exact @Pushes.counted data 0x4d 2 (by simp) (by omega)
  · exact @Pushes.counted data 0x4e 4 (by simp) (by omega)

/-- A push in its shortest form is read back. -/
theorem readPush?_pushOf (data rest : Bytes) (small : data.length < pushLimit) :
    readPush? (pushOf data ++ rest) = some (data, rest) :=
  (pushes_pushOf small).read rest

theorem writePush_ok {data written : Bytes} (ok : writePush data = .ok written) :
    data.length < pushLimit ∧ written = pushOf data := by
  unfold writePush at ok
  split at ok
  · cases ok
    exact ⟨by assumption, rfl⟩
  · cases ok

end Script

theorem InputScript.source_parse (source : Bytes) : (parse source).source = source := by
  unfold parse
  split <;> rfl

/-- What was built to redeem is read as redeeming, with the same parts. -/
theorem InputScript.parse_redeem {signature pubKey : Bytes} {script : InputScript}
    (built : redeemPubKeyHash signature pubKey = .ok script) : parse script.source = script := by
  unfold redeemPubKeyHash at built
  cases first : Script.writePush signature with
  | error cause => simp [first, Bind.bind, Except.bind] at built
  | ok signaturePush =>
    cases second : Script.writePush pubKey with
    | error cause => simp [first, second, Bind.bind, Except.bind] at built
    | ok pubKeyPush =>
      simp only [first, second, Bind.bind, Except.bind] at built
      cases built
      obtain ⟨smallSignature, rfl⟩ := Script.writePush_ok first
      obtain ⟨smallKey, rfl⟩ := Script.writePush_ok second
      have last := Script.readPush?_pushOf pubKey [] smallKey
      rw [List.append_nil] at last
      simp only [parse, readTwoPushes?, Script.readPush?_pushOf signature _ smallSignature, last]

end ClaimLedger
