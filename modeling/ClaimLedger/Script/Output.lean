import ClaimLedger.Script.Payload
import ClaimLedger.Script.Push

/-! Output scripts. A script pays the hash of a key or of another script, names
a claim, updates or supports one, or returns data; anything else is kept as it
is. Scripts about claims put an opcode, pushed fields and two dropping opcodes
in front of a payee script, so that nodes which know nothing of claims see a
payment. -/
namespace ClaimLedger

/-- Who is paid. -/
inductive Payee where
  | pubKeyHash (hash : Hash160)
  | scriptHash (hash : Hash160)
  deriving DecidableEq

namespace Payee

/-- The standard script that pays a payee. -/
def script : Payee → Bytes
  | pubKeyHash hash => [0x76, 0xa9, 0x14] ++ hash.toList ++ [0x88, 0xac]
  | scriptHash hash => [0xa9, 0x14] ++ hash.toList ++ [0x87]

/-- The payee of a standard script, which is nothing but the script of that
payee. -/
def ofScript? (source : Bytes) : Option Payee :=
  let keyHash := FixedBytes.ofPadded 20 (source.drop 3)
  let scriptHash := FixedBytes.ofPadded 20 (source.drop 2)
  if source = (pubKeyHash keyHash).script then some (pubKeyHash keyHash)
  else if source = (Payee.scriptHash scriptHash).script then some (.scriptHash scriptHash)
  else none

end Payee

/-- What a script is, with the fields of its kind. -/
inductive OutputTemplate where
  | payPubKeyHash (hash : Hash160)
  | payScriptHash (hash : Hash160)
  | claimName (name : Bytes) (claim : Payload Claim) (payee : Payee)
  | updateClaim (name : Bytes) (claimHash : ClaimHash) (claim : Payload Claim) (payee : Payee)
  | supportClaim (name : Bytes) (claimHash : ClaimHash) (payee : Payee)
  | returnData (data : Payload Purchase)
  | other
  deriving DecidableEq

namespace OutputTemplate

def opReturn : UInt8 := 0x6a
def opDrop : UInt8 := 0x75
def opTwoDrop : UInt8 := 0x6d
def opClaimName : UInt8 := 0xb5
def opSupportClaim : UInt8 := 0xb6
def opUpdateClaim : UInt8 := 0xb7

/-- The payee script after two dropping opcodes. -/
def readPayee? (firstDrop secondDrop : UInt8) (bytes : Bytes) : Option Payee :=
  match bytes with
  | first :: second :: tail =>
    if first = firstDrop ∧ second = secondDrop then Payee.ofScript? tail else none
  | _ => none

/-- The fields of a script that names a claim, after its opcode. -/
def readClaimName? (fields : Bytes) : Option OutputTemplate := do
  let (name, rest) ← Script.readPush? fields
  let (claim, rest) ← Script.readPush? rest
  let payee ← readPayee? opTwoDrop opDrop rest
  return claimName name (Payload.ofRaw claim) payee

/-- The fields of a script that supports a claim, after its opcode. -/
def readSupport? (fields : Bytes) : Option OutputTemplate := do
  let (name, rest) ← Script.readPush? fields
  let (claimHash, rest) ← Script.readPush? rest
  let payee ← readPayee? opTwoDrop opDrop rest
  let claimHash ← FixedBytes.ofList? 20 claimHash
  return supportClaim name claimHash payee

/-- The fields of a script that updates a claim, after its opcode. -/
def readUpdate? (fields : Bytes) : Option OutputTemplate := do
  let (name, rest) ← Script.readPush? fields
  let (claimHash, rest) ← Script.readPush? rest
  let (claim, rest) ← Script.readPush? rest
  let payee ← readPayee? opTwoDrop opTwoDrop rest
  let claimHash ← FixedBytes.ofList? 20 claimHash
  return updateClaim name claimHash (Payload.ofRaw claim) payee

/-- The data of a returning script, after its opcode: one push, or nothing. -/
def readReturn? : Bytes → Option OutputTemplate
  | [] => some (returnData (Payload.ofRaw []))
  | fields =>
    match Script.readPush? fields with
    | some (data, []) => some (returnData (Payload.ofRaw data))
    | _ => none

/-- Which kind of script the bytes are. -/
def parse (source : Bytes) : OutputTemplate :=
  match Payee.ofScript? source with
  | some (.pubKeyHash hash) => payPubKeyHash hash
  | some (.scriptHash hash) => payScriptHash hash
  | none =>
    match source with
    | [] => other
    | opcode :: fields =>
      if opcode = opReturn then (readReturn? fields).getD other
      else if opcode = opClaimName then (readClaimName? fields).getD other
      else if opcode = opSupportClaim then (readSupport? fields).getD other
      else if opcode = opUpdateClaim then (readUpdate? fields).getD other
      else other

/-- The template with the bytes of its payload following the value it holds. -/
def synced : OutputTemplate → OutputTemplate
  | claimName name claim payee => claimName name claim.synced payee
  | updateClaim name claimHash claim payee => updateClaim name claimHash claim.synced payee
  | returnData data => returnData data.synced
  | template => template

/-- The template after somebody looked for its claim. -/
def claimDecoded : OutputTemplate → OutputTemplate
  | claimName name claim payee => claimName name claim.decoded payee
  | updateClaim name claimHash claim payee => updateClaim name claimHash claim.decoded payee
  | template => template

/-- The template after somebody looked for the purchase it records. -/
def purchaseDecoded : OutputTemplate → OutputTemplate
  | returnData data => returnData data.decoded
  | template => template

/-- The bytes of a script of this kind; a script of no known kind has none of
its own. -/
def encode? : OutputTemplate → Except Error (Option Bytes)
  | payPubKeyHash hash => return some (Payee.pubKeyHash hash).script
  | payScriptHash hash => return some (Payee.scriptHash hash).script
  | claimName name claim payee => do
    let name ← Script.writePush name
    let claim ← Script.writePush claim.raw
    return some (opClaimName :: name ++ claim ++ [opTwoDrop, opDrop] ++ payee.script)
  | updateClaim name claimHash claim payee => do
    let name ← Script.writePush name
    let claimHash ← Script.writePush claimHash.toList
    let claim ← Script.writePush claim.raw
    return some
      (opUpdateClaim :: name ++ claimHash ++ claim ++ [opTwoDrop, opTwoDrop] ++ payee.script)
  | supportClaim name claimHash payee => do
    let name ← Script.writePush name
    let claimHash ← Script.writePush claimHash.toList
    return some (opSupportClaim :: name ++ claimHash ++ [opTwoDrop, opDrop] ++ payee.script)
  | returnData data => do
    let data ← Script.writePush data.raw
    return some (opReturn :: data)
  | other => return none

def payee? : OutputTemplate → Option Payee
  | payPubKeyHash hash => some (.pubKeyHash hash)
  | payScriptHash hash => some (.scriptHash hash)
  | claimName _ _ payee => some payee
  | updateClaim _ _ _ payee => some payee
  | supportClaim _ _ payee => some payee
  | returnData _ => none
  | other => none

end OutputTemplate

/-- A script: its bytes, where they start in the enclosing transaction, and
their template. -/
structure OutputScript where
  source : Bytes
  offset : Nat
  template : OutputTemplate
  deriving DecidableEq

namespace OutputScript

def parse (source : Bytes) (offset : Nat) : OutputScript :=
  ⟨source, offset, OutputTemplate.parse source⟩

/-- Rebuilds the bytes from the template. When a field is too large for a push,
the bytes stay as they were. -/
def generate : EStateM Error OutputScript Unit := fun script =>
  let template := script.template.synced
  match template.encode? with
  | .ok (some source) => .ok () ⟨source, script.offset, template⟩
  | .ok none => .ok () script
  | .error cause => .error cause ⟨script.source, script.offset, template⟩

/-- A script built from a template. -/
def ofTemplate (template : OutputTemplate) : Except Error OutputScript :=
  match generate ⟨[], 0, template⟩ with
  | .ok _ script => .ok script
  | .error cause _ => .error cause

def payPubKeyHash (hash : Hash160) : OutputScript := parse (Payee.pubKeyHash hash).script 0

def payScriptHash (hash : Hash160) : OutputScript := parse (Payee.scriptHash hash).script 0

/-- A script that names a new claim and pays the hash of a key. -/
def payClaimName (name : Bytes) (claim : Claim) (hash : Hash160) : Except Error OutputScript :=
  ofTemplate (.claimName name (Payload.ofValue claim) (.pubKeyHash hash))

/-- A script that updates a claim and pays the hash of a key. -/
def payUpdateClaim (name : Bytes) (claimHash : ClaimHash) (claim : Claim) (hash : Hash160) :
    Except Error OutputScript :=
  ofTemplate (.updateClaim name claimHash (Payload.ofValue claim) (.pubKeyHash hash))

/-- A script that supports a claim and pays the hash of a key. -/
def paySupport (name : Bytes) (claimHash : ClaimHash) (hash : Hash160) :
    Except Error OutputScript :=
  ofTemplate (.supportClaim name claimHash (.pubKeyHash hash))

def returnData (data : Bytes) : Except Error OutputScript :=
  ofTemplate (.returnData (Payload.ofRaw data))

def returnPurchase (purchase : Purchase) : Except Error OutputScript :=
  ofTemplate (.returnData (Payload.ofValue purchase))

/-- The script after somebody looked for its claim. -/
def claimDecoded (script : OutputScript) : OutputScript :=
  { script with template := script.template.claimDecoded }

/-- The script after somebody looked for the purchase it records. -/
def purchaseDecoded (script : OutputScript) : OutputScript :=
  { script with template := script.template.purchaseDecoded }

def isPayPubKeyHash (script : OutputScript) : Bool :=
  match script.template.payee? with
  | some (.pubKeyHash _) => true
  | _ => false

def isPayScriptHash (script : OutputScript) : Bool :=
  match script.template.payee? with
  | some (.scriptHash _) => true
  | _ => false

def isClaimName (script : OutputScript) : Bool :=
  match script.template with
  | .claimName .. => true
  | _ => false

def isUpdateClaim (script : OutputScript) : Bool :=
  match script.template with
  | .updateClaim .. => true
  | _ => false

def isSupportClaim (script : OutputScript) : Bool :=
  match script.template with
  | .supportClaim .. => true
  | _ => false

def isClaimInvolved (script : OutputScript) : Bool :=
  script.isClaimName || script.isUpdateClaim || script.isSupportClaim

def isReturnData (script : OutputScript) : Bool :=
  match script.template with
  | .returnData _ => true
  | _ => false

def pubKeyHash? (script : OutputScript) : Option Hash160 :=
  match script.template.payee? with
  | some (.pubKeyHash hash) => some hash
  | _ => none

def scriptHash? (script : OutputScript) : Option Hash160 :=
  match script.template.payee? with
  | some (.scriptHash hash) => some hash
  | _ => none

def claimName? (script : OutputScript) : Option Bytes :=
  match script.template with
  | .claimName name _ _ => some name
  | .updateClaim name _ _ _ => some name
  | .supportClaim name _ _ => some name
  | _ => none

/-- The claim hash that updates and supports carry. -/
def claimHash? (script : OutputScript) : Option ClaimHash :=
  match script.template with
  | .updateClaim _ claimHash _ _ => some claimHash
  | .supportClaim _ claimHash _ => some claimHash
  | _ => none

def claim? (script : OutputScript) : Option (Payload Claim) :=
  match script.template with
  | .claimName _ claim _ => some claim
  | .updateClaim _ _ claim _ => some claim
  | _ => none

def data? (script : OutputScript) : Option (Payload Purchase) :=
  match script.template with
  | .returnData data => some data
  | _ => none

/-- The script with another claim payload, where it has one. -/
def setClaim (script : OutputScript) (claim : Payload Claim) : OutputScript :=
  { script with
    template := match script.template with
      | .claimName name _ payee => .claimName name claim payee
      | .updateClaim name claimHash _ payee => .updateClaim name claimHash claim payee
      | template => template }

end OutputScript

end ClaimLedger
