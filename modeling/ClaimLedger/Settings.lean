import ClaimLedger.Ledger

/-! Reading parameters from settings. A setting is a value of a structured text
format. A record of parameters is given as an object, whose unknown members are
ignored, or as a list in the order of the parameters; what is left out keeps
its default, and what is there must have the right type and range. -/
namespace ClaimLedger

inductive Setting where
  | integer (n : Int)
  | text (s : String)
  | list (items : List Setting)
  | object (members : List (String × Setting))
  /-- Values that no parameter has: fractions, truth values, nothing. -/
  | other

instance : Inhabited Setting := ⟨.other⟩

namespace Setting

/-- The number, if it lies within bounds. -/
def integerIn? (low high : Int) : Setting → Option Int
  | integer n => if low ≤ n ∧ n ≤ high then some n else none
  | _ => none

def natural? (bits : Nat) (setting : Setting) : Option Nat :=
  (setting.integerIn? 0 (Nat.pow 2 bits - 1)).map Int.toNat

def signed64? : Setting → Option Int :=
  integerIn? (-0x8000000000000000) 0x7FFFFFFFFFFFFFFF

def text? : Setting → Option String
  | text s => some s
  | _ => none

/-- The members of a record with `count` parameters as a function of position
and name; lists that are too long and anything else are no records. -/
def members? (count : Nat) : Setting → Option (Nat → String → Option Setting)
  | object members => some fun _ name => (members.find? fun member => member.1 = name).map (·.2)
  | list items => if items.length ≤ count then some fun i _ => items[i]? else none
  | _ => none

/-- A parameter that may be left out. -/
def optional {α : Type} (read : Setting → Option α) (default : α) : Option Setting → Option α
  | none => some default
  | some setting => read setting

end Setting

/-- The parameters of a network; the main network's where they are left out. -/
def Ledger.ofSetting? (setting : Setting) : Option Ledger := do
  let member ← setting.members? 6
  let main := Ledger.mainNetwork
  let word := fun (s : Setting) => (s.natural? 64).map UInt64.ofNat
  let byte := fun (s : Setting) => (s.natural? 8).map UInt8.ofNat
  let feePerByte ← Setting.optional word main.feePerByte (member 0 "fee_per_byte")
  let feePerNameByte ← Setting.optional word main.feePerNameByte (member 1 "fee_per_name_char")
  let keyMark ← Setting.optional byte main.keyAddressMark (member 2 "pubkey_address_prefix")
  let scriptMark ← Setting.optional byte main.scriptAddressMark
    (member 3 "script_address_prefix")
  let genesis ← Setting.optional Setting.signed64? main.genesisTimestamp
    (member 4 "genesis_timestamp")
  let pace ← Setting.optional Setting.signed64? main.targetBlockTime
    (member 5 "target_block_time")
  return ⟨feePerByte, feePerNameByte, keyMark, scriptMark, genesis, pace⟩

end ClaimLedger
