import ClaimLedger.ClaimGraph
import ClaimLedger.Transaction.Operation

/-! A workspace: transactions by name, and one graph of outputs taken from
them. -/
namespace ClaimLedger

structure Workspace where
  transactions : Table String Transaction
  graph : ClaimGraph

namespace Workspace

def empty : Workspace := ⟨Table.empty, ClaimGraph.empty⟩

def get? (w : Workspace) (name : String) : Option Transaction :=
  w.transactions.get? name

/-- The workspace with a transaction in place of an earlier one of the name. -/
def put (w : Workspace) (name : String) (tx : Transaction) : Workspace :=
  { w with transactions := w.transactions.insert name tx }

def output? (w : Workspace) (name : String) (index : Nat) : Option Output :=
  (w.get? name).bind fun tx => tx.outputs[index]?

/-- Performs an operation on a named transaction. -/
def perform (w : Workspace) (name : String) (op : Transaction.Operation) :
    Except Error Unit × Workspace :=
  match w.get? name with
  | none => (.ok (), w)
  | some tx =>
    match op.perform tx with
    | .ok _ tx => (.ok (), w.put name tx)
    | .error cause tx => (.error cause, w.put name tx)

/-- Adds an output to the graph. -/
def insertNode (w : Workspace) (output : Output) : Workspace × Option Outpoint :=
  let (graph, name) := w.graph.insert output
  ({ w with graph := graph }, name)

end Workspace

end ClaimLedger
