import ClaimLedger.Output.Claim

/-! Outputs by name, for following the links between them. A node is an output
that belongs to a transaction, named by its outpoint; claims and supports are
found by claim hash as well. Nodes stand in slots, in the order their names
first came in, and both tables lead to slots. Links may form cycles, since they
hold names and not outputs. -/
namespace ClaimLedger

/-! ## Tables

Tables from keys to values are lists of entries in the order the keys first came in. Every key has
at most one entry when tables are made with `insert`. -/

/-- A table from keys to values. -/
structure Table (κ ν : Type) where
  entries : List (κ × ν)

namespace Table

variable {κ ν : Type} [DecidableEq κ]

def empty : Table κ ν := ⟨[]⟩

def get? (table : Table κ ν) (key : κ) : Option ν :=
  (table.entries.find? fun entry => entry.1 = key).map (·.2)

/-- The entries with another value for a key, which keeps its place. -/
def put (key : κ) (value : ν) : List (κ × ν) → List (κ × ν)
  | [] => [(key, value)]
  | entry :: rest => if entry.1 = key then (key, value) :: rest else entry :: put key value rest

def insert (table : Table κ ν) (key : κ) (value : ν) : Table κ ν :=
  ⟨put key value table.entries⟩

theorem get?_insert (table : Table κ ν) (key other : κ) (value : ν) :
    (table.insert key value).get? other = if key = other then some value else table.get? other := by
  obtain ⟨entries⟩ := table
  simp only [get?, insert]
  induction entries with
  | nil => by_cases same : key = other <;> simp [put, same]
  | cons entry rest ih =>
    by_cases here : entry.1 = key
    · by_cases same : key = other <;> simp [put, here, same]
    · by_cases found : entry.1 = other
      · subst found
        simp [put, here, Ne.symm here]
      · simpa [put, here, found] using ih

end Table

/-! ## Graphs -/

structure ClaimGraph where
  nodes : Array Output
  /-- The slot of each name. -/
  slots : Table Outpoint Nat
  /-- The slot last filled under each claim hash. -/
  claimSlots : Table ClaimHash Nat

namespace ClaimGraph

def empty : ClaimGraph := ⟨#[], Table.empty, Table.empty⟩

/-- The claim hash under which an output is found. -/
def indexedHash? (output : Output) : Option ClaimHash :=
  if output.script.isClaimInvolved then output.claimHash.toOption else none

/-- The nodes with an output, in place of an earlier one of the same name, and
its slot. -/
def place (graph : ClaimGraph) (name : Outpoint) (output : Output) : Array Output × Nat :=
  match graph.slots.get? name with
  | some slot => (graph.nodes.setIfInBounds slot output, slot)
  | none => (graph.nodes.push output, graph.nodes.size)

/-- The graph with an output, and its name. Outputs without a place cannot be
named and are left out. -/
def insert (graph : ClaimGraph) (output : Output) : ClaimGraph × Option Outpoint :=
  match output.outpoint? with
  | none => (graph, none)
  | some name =>
    let (nodes, slot) := graph.place name output
    let claimSlots := match indexedHash? output with
      | some hash => graph.claimSlots.insert hash slot
      | none => graph.claimSlots
    (⟨nodes, graph.slots.insert name slot, claimSlots⟩, some name)

def size (graph : ClaimGraph) : Nat := graph.nodes.size

def isEmpty (graph : ClaimGraph) : Bool := graph.nodes.isEmpty

def get? (graph : ClaimGraph) (name : Outpoint) : Option Output :=
  (graph.slots.get? name).bind (graph.nodes[·]?)

def getClaim? (graph : ClaimGraph) (hash : ClaimHash) : Option Output :=
  (graph.claimSlots.get? hash).bind (graph.nodes[·]?)

def channel? (graph : ClaimGraph) (output : Output) : Option Output :=
  output.annotations.channel.bind graph.getClaim?

def purchase? (graph : ClaimGraph) (output : Output) : Option Output :=
  output.annotations.purchase.bind graph.get?

def purchasedClaim? (graph : ClaimGraph) (output : Output) : Option Output :=
  output.annotations.purchasedClaim.bind graph.getClaim?

def purchaseReceipt? (graph : ClaimGraph) (output : Output) : Option Output :=
  output.annotations.purchaseReceipt.bind graph.get?

def repostedClaim? (graph : ClaimGraph) (output : Output) : Option Output :=
  output.annotations.repostedClaim.bind graph.getClaim?

/-- The members of a collection that the graph has. -/
def claims (graph : ClaimGraph) (output : Output) : List Output :=
  (output.annotations.claims.getD []).filterMap graph.getClaim?

/-- The hash of the claim that was bought: what the linked purchase records, or
without a linked purchase what the annotation says. -/
def purchasedClaimHash? (graph : ClaimGraph) (output : Output) : Option ClaimHash :=
  match graph.purchase? output with
  | some purchase => (purchase.purchaseData.toOption).map (·.claimHash)
  | none => output.annotations.purchasedClaim

def purchasedClaimId? (graph : ClaimGraph) (output : Output) : Option String :=
  (graph.purchasedClaimHash? output).map ClaimHash.claimId

end ClaimGraph

end ClaimLedger
