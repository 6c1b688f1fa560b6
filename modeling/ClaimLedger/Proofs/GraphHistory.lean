import ClaimLedger.ClaimGraph
import Mathlib.Data.Finset.Card
import Mathlib.Data.Finset.Dedup

/-! What a graph tells of the outputs that were inserted into it. A slot belongs to one name
for good, and holds whatever was last inserted under that name; so the slot that a claim hash
leads to may by now hold another output than the one that was found under the hash when it was
inserted, but always one of the same name. -/
namespace ClaimLedger

/-! ## The latest of some outputs -/

/-- The last of some outputs that has a property. -/
def latest? (holds : Output → Bool) (outputs : List Output) : Option Output :=
  outputs.reverse.find? holds

section

variable {holds : Output → Bool} {outputs : List Output} {output : Output}

theorem latest?_append (earlier later : List Output) :
    latest? holds (earlier ++ later) = (latest? holds later).or (latest? holds earlier) := by
  simp [latest?, List.find?_append]

theorem latest?_cons (later : List Output) :
    latest? holds (output :: later) =
      (latest? holds later).or (if holds output then some output else none) := by
  rw [← List.singleton_append, latest?_append]
  congr 1
  cases own : holds output <;> simp [latest?, own]

theorem latest?_concat :
    latest? holds (outputs ++ [output]) =
      if holds output then some output else latest? holds outputs := by
  rw [latest?_append, latest?_cons]
  cases holds output <;> rfl

theorem latest?_eq_none_iff :
    latest? holds outputs = none ↔ ∀ output ∈ outputs, ¬ holds output := by
  simp [latest?]

/-- The last one stands before others that do not have the property. -/
theorem latest?_eq_some_iff :
    latest? holds outputs = some output ↔ holds output = true ∧
      ∃ earlier later, outputs = earlier ++ output :: later ∧
        ∀ other ∈ later, ¬ holds other := by
  unfold latest?
  rw [List.find?_eq_some_iff_append]
  refine and_congr_right fun _ => ⟨?_, ?_⟩
  · rintro ⟨later, earlier, split, others⟩
    refine ⟨earlier.reverse, later.reverse, ?_, by simpa using others⟩
    simpa using congrArg List.reverse split
  · rintro ⟨earlier, later, rfl, others⟩
    exact ⟨later.reverse, earlier.reverse, by simp, by simpa using others⟩

theorem holds_latest? (found : latest? holds outputs = some output) : holds output = true :=
  List.find?_some found

theorem latest?_mem (found : latest? holds outputs = some output) : output ∈ outputs :=
  List.mem_reverse.mp (List.mem_of_find?_eq_some found)

end

namespace ClaimGraph

variable {graph : ClaimGraph} {outputs : List Output} {output : Output} {name other : Outpoint}
  {hash : ClaimHash} {slot : Nat}

/-- The graph after outputs were inserted in this order. -/
def ofOutputs (outputs : List Output) : ClaimGraph :=
  outputs.foldl (fun graph output => (graph.insert output).1) empty

/-- The output has this name. -/
def isNamed (name : Outpoint) (output : Output) : Bool :=
  output.outpoint? = some name

/-- The output has a name, and is found under this claim hash. -/
def isFoundBy (hash : ClaimHash) (output : Output) : Bool :=
  output.outpoint?.isSome && indexedHash? output = some hash

theorem isFoundBy_iff :
    isFoundBy hash output = true ↔
      (∃ name, output.outpoint? = some name) ∧ output.script.isClaimInvolved = true ∧
        output.claimHash = .ok hash := by
  have indexed : indexedHash? output = some hash ↔
      output.script.isClaimInvolved = true ∧ output.claimHash = .ok hash := by
    unfold indexedHash?
    cases output.script.isClaimInvolved <;> cases output.claimHash <;> simp [Except.toOption]
  simp [isFoundBy, indexed, Option.isSome_iff_exists]

/-! ## One insertion -/

theorem insert_detached (detached : output.outpoint? = none) :
    graph.insert output = (graph, none) := by
  simp only [insert, detached]

theorem insert_named (named : output.outpoint? = some name) :
    (graph.insert output).2 = some name := by
  simp only [insert, named]

theorem slots_insert (named : output.outpoint? = some name) :
    (graph.insert output).1.slots.get? other =
      if name = other then some (graph.place name output).2 else graph.slots.get? other := by
  simp only [insert, named, Table.get?_insert]

theorem claimSlots_insert (named : output.outpoint? = some name) :
    (graph.insert output).1.claimSlots.get? hash =
      if isFoundBy hash output then some (graph.place name output).2
      else graph.claimSlots.get? hash := by
  simp only [insert, named, isFoundBy, Option.isSome_some, Bool.true_and]
  cases indexedHash? output with
  | none => simp
  | some own => simp [Table.get?_insert]

/-- Every slot that a name leads to is there. -/
def Inside (graph : ClaimGraph) : Prop :=
  ∀ {name slot}, graph.slots.get? name = some slot → slot < graph.nodes.size

/-- An insertion fills one slot and leaves the others alone. -/
theorem nodes_insert (inside : graph.Inside) (named : output.outpoint? = some name) :
    (graph.insert output).1.nodes[slot]? =
      if slot = (graph.place name output).2 then some output else graph.nodes[slot]? := by
  cases known : graph.slots.get? name with
  | some own =>
    simp only [insert, named, place, known]
    have within := inside known
    by_cases same : slot = own
    · simp [same, within]
    · simp [same, Array.getElem?_setIfInBounds_ne (Ne.symm same)]
  | none =>
    simp only [insert, named, place, known]
    exact Array.getElem?_push

theorem size_insert (named : output.outpoint? = some name) :
    (graph.insert output).1.nodes.size =
      if (graph.slots.get? name).isSome then graph.nodes.size else graph.nodes.size + 1 := by
  simp only [insert, named, place]
  cases graph.slots.get? name <;> simp

/-! ## All insertions -/

/-- The tables and slots of a graph into which these outputs were inserted. -/
structure Represents (graph : ClaimGraph) (outputs : List Output) : Prop where
  inside : graph.Inside
  nodes : ∀ name, graph.get? name = latest? (isNamed name) outputs
  claims : ∀ hash, graph.claimSlots.get? hash =
    ((latest? (isFoundBy hash) outputs).bind Output.outpoint?).bind graph.slots.get?
  size : graph.size = (outputs.filterMap Output.outpoint?).toFinset.card

theorem represents_empty : empty.Represents [] where
  inside := nofun
  nodes _ := rfl
  claims _ := rfl
  size := rfl

/-- A name has a slot once an output of that name was inserted. -/
theorem Represents.slot_isSome (represents : graph.Represents outputs) :
    (graph.slots.get? name).isSome ↔ ∃ output ∈ outputs, output.outpoint? = some name := by
  have nodes := represents.nodes name
  unfold get? at nodes
  cases known : graph.slots.get? name with
  | some slot =>
    have within := represents.inside known
    rw [known, Option.bind_some, Array.getElem?_eq_getElem within] at nodes
    have named := holds_latest? nodes.symm
    simp only [isNamed, decide_eq_true_eq] at named
    simpa using ⟨_, latest?_mem nodes.symm, named⟩
  | none =>
    rw [known, Option.bind_none] at nodes
    simpa [isNamed] using latest?_eq_none_iff.mp nodes.symm

/-- Different names have different slots, since a slot holds an output of its name. -/
theorem Represents.apart (represents : graph.Represents outputs)
    (first : graph.slots.get? name = some slot) (second : graph.slots.get? other = some slot) :
    name = other := by
  have here := represents.nodes name
  have there := represents.nodes other
  have within := represents.inside first
  simp only [get?, first, second, Option.bind_some, Array.getElem?_eq_getElem within] at here there
  have named := holds_latest? here.symm
  have named' := holds_latest? there.symm
  simp only [isNamed, decide_eq_true_eq] at named named'
  exact Option.some.inj (named.symm.trans named')

/-- The slot that an insertion fills belongs to no other name. -/
theorem Represents.place_ne (represents : graph.Represents outputs)
    (known : graph.slots.get? other = some slot) (differs : name ≠ other) :
    slot ≠ (graph.place name output).2 := by
  rintro rfl
  unfold place at known
  cases own : graph.slots.get? name with
  | some slot =>
    rw [own] at known
    exact differs (represents.apart own known)
  | none =>
    rw [own] at known
    exact Nat.lt_irrefl _ (represents.inside known)

theorem Represents.inserted (represents : graph.Represents outputs) (output : Output) :
    (graph.insert output).1.Represents (outputs ++ [output]) := by
  cases named : output.outpoint? with
  | none =>
    rw [insert_detached named]
    exact {
      inside := represents.inside
      nodes := fun name => by simp [latest?_concat, isNamed, named, represents.nodes]
      claims := fun hash => by simp [latest?_concat, isFoundBy, named, represents.claims]
      size := by simp [List.filterMap_append, named, represents.size] }
  | some name =>
    constructor
    case inside =>
      intro other slot known
      have there : ∃ node, (graph.insert output).1.nodes[slot]? = some node := by
        rw [slots_insert named] at known
        rw [nodes_insert represents.inside named]
        split at known
        · cases known
          exact ⟨output, if_pos rfl⟩
        · rename_i differs
          rw [if_neg (represents.place_ne known differs)]
          exact ⟨_, Array.getElem?_eq_getElem (represents.inside known)⟩
      exact (Array.getElem?_eq_some_iff.mp there.choose_spec).1
    case nodes =>
      intro other
      rw [latest?_concat, get?, slots_insert named]
      by_cases same : name = other
      · subst same
        simp [isNamed, named, nodes_insert represents.inside named]
      · have unnamed : ¬ isNamed other output = true := by simp [isNamed, named, same]
        rw [if_neg same, if_neg unnamed, ← represents.nodes, get?]
        cases known : graph.slots.get? other with
        | none => rfl
        | some slot =>
          rw [Option.bind_some, Option.bind_some, nodes_insert represents.inside named,
            if_neg (represents.place_ne known same)]
    case claims =>
      intro hash
      rw [claimSlots_insert named, latest?_concat]
      by_cases found : isFoundBy hash output = true
      · simp [found, named, slots_insert named]
      · rw [if_neg found, if_neg found, represents.claims]
        cases last : (latest? (isFoundBy hash) outputs).bind Output.outpoint? with
        | none => rfl
        | some other =>
          rw [Option.bind_some, Option.bind_some, slots_insert named]
          split
          · rename_i same
            subst same
            -- The name is that of an earlier output, so it keeps its slot.
            obtain ⟨earlier, latest, own⟩ := Option.bind_eq_some_iff.mp last
            have known := represents.slot_isSome.mpr ⟨earlier, latest?_mem latest, own⟩
            obtain ⟨slot, known⟩ := Option.isSome_iff_exists.mp known
            rw [place, known]
          · rfl
    case size =>
      have before : name ∈ (outputs.filterMap Output.outpoint?).toFinset ↔
          (graph.slots.get? name).isSome = true := by
        rw [represents.slot_isSome, List.mem_toFinset, List.mem_filterMap]
      have after : ((outputs ++ [output]).filterMap Output.outpoint?).toFinset =
          Insert.insert name (outputs.filterMap Output.outpoint?).toFinset := by
        simp [List.filterMap_append, named]
      show (graph.insert output).1.nodes.size = _
      rw [after, size_insert named]
      split
      · rename_i known
        rw [Finset.insert_eq_self.mpr (before.mpr known)]
        exact represents.size
      · rename_i new
        rw [Finset.card_insert_of_notMem (new ∘ before.mp)]
        exact congrArg (· + 1) represents.size

theorem represents_ofOutputs (outputs : List Output) : (ofOutputs outputs).Represents outputs := by
  induction outputs using List.reverseRecOn with
  | nil => exact represents_empty
  | append_singleton outputs output ih =>
    rw [ofOutputs, List.foldl_append]
    exact ih.inserted output

/-! ## What a graph tells -/

/-- A hash leads to what is now known under the name of the output last found under it. -/
theorem Represents.getClaim?_eq (represents : graph.Represents outputs) (hash : ClaimHash) :
    graph.getClaim? hash =
      ((latest? (isFoundBy hash) outputs).bind Output.outpoint?).bind graph.get? := by
  rw [getClaim?, represents.claims, Option.bind_assoc]
  rfl

/-- Something is known under the name of every output that was inserted. -/
theorem Represents.get?_isSome (represents : graph.Represents outputs) (member : output ∈ outputs)
    (named : output.outpoint? = some name) :
    ∃ current, graph.get? name = some current ∧ current.outpoint? = some name := by
  have known : latest? (isNamed name) outputs ≠ none := fun none =>
    latest?_eq_none_iff.mp none output member (by simp [isNamed, named])
  obtain ⟨current, latest⟩ := Option.ne_none_iff_exists'.mp known
  have own := holds_latest? latest
  simp only [isNamed, decide_eq_true_eq] at own
  exact ⟨current, (represents.nodes name).trans latest, own⟩

theorem Represents.getClaim?_of_latest (represents : graph.Represents outputs)
    (latest : latest? (isFoundBy hash) outputs = some output) :
    ∃ name current, output.outpoint? = some name ∧ current.outpoint? = some name ∧
      graph.get? name = some current ∧ graph.getClaim? hash = some current := by
  obtain ⟨name, named⟩ := (isFoundBy_iff.mp (holds_latest? latest)).1
  obtain ⟨current, known, own⟩ := represents.get?_isSome (latest?_mem latest) named
  refine ⟨name, current, named, own, known, ?_⟩
  rw [represents.getClaim?_eq, latest, Option.bind_some, named, Option.bind_some, known]

/-- A link of the first output leads to the second one. -/
def Links (graph : ClaimGraph) (output found : Output) : Prop :=
  some found ∈ [graph.channel? output, graph.purchase? output, graph.purchasedClaim? output,
    graph.purchaseReceipt? output, graph.repostedClaim? output] ∨ found ∈ graph.claims output

theorem mem_nodes_of_get? (known : graph.get? name = some output) : output ∈ graph.nodes := by
  obtain ⟨slot, -, there⟩ := Option.bind_eq_some_iff.mp known
  exact Array.mem_of_getElem? there

theorem mem_nodes_of_getClaim? (known : graph.getClaim? hash = some output) :
    output ∈ graph.nodes := by
  obtain ⟨slot, -, there⟩ := Option.bind_eq_some_iff.mp known
  exact Array.mem_of_getElem? there

theorem Links.mem_nodes {found : Output} (links : graph.Links output found) :
    found ∈ graph.nodes := by
  rcases links with single | member
  · simp only [List.mem_cons, List.not_mem_nil, or_false] at single
    rcases single with link | link | link | link | link
    · obtain ⟨hash, -, known⟩ := Option.bind_eq_some_iff.mp link.symm
      exact mem_nodes_of_getClaim? known
    · obtain ⟨name, -, known⟩ := Option.bind_eq_some_iff.mp link.symm
      exact mem_nodes_of_get? known
    · obtain ⟨hash, -, known⟩ := Option.bind_eq_some_iff.mp link.symm
      exact mem_nodes_of_getClaim? known
    · obtain ⟨name, -, known⟩ := Option.bind_eq_some_iff.mp link.symm
      exact mem_nodes_of_get? known
    · obtain ⟨hash, -, known⟩ := Option.bind_eq_some_iff.mp link.symm
      exact mem_nodes_of_getClaim? known
  · obtain ⟨hash, -, known⟩ := List.mem_filterMap.mp member
    exact mem_nodes_of_getClaim? known

/-- What a graph tells of the outputs that were inserted, in this order. -/
structure Tells (graph : ClaimGraph) (outputs : List Output) : Prop where
  /-- An output that has no name is refused, and nothing changes. -/
  refuses : ∀ output : Output, output.outpoint? = none → graph.insert output = (graph, none)
  accepts : ∀ (output : Output) (name : Outpoint), output.outpoint? = some name →
    (graph.insert output).2 = some name
  size : graph.size = (outputs.filterMap Output.outpoint?).toFinset.card
  nodes : ∀ name, graph.get? name = latest? (isNamed name) outputs
  /-- A hash under which nothing was found leads nowhere. -/
  unclaimed : ∀ hash, (∀ output ∈ outputs, ¬ isFoundBy hash output) → graph.getClaim? hash = none
  /-- Any other leads to what is now known under the name of the output that was last found
  under it. -/
  claimed : ∀ hash output, latest? (isFoundBy hash) outputs = some output →
    ∃ name current, output.outpoint? = some name ∧ graph.get? name = some current ∧
      graph.getClaim? hash = some current
  slots : ∀ name slot, graph.slots.get? name = some slot → slot < graph.nodes.size
  claimSlots : ∀ hash slot, graph.claimSlots.get? hash = some slot → slot < graph.nodes.size
  links : ∀ output found, graph.Links output found → found ∈ graph.nodes

/-- Whatever is inserted into a graph, in whatever order and however often, the graph tells of
all of it. -/
theorem history_told (outputs : List Output) : (ofOutputs outputs).Tells outputs := by
  have represents := represents_ofOutputs outputs
  constructor
  case refuses => exact fun output detached => insert_detached detached
  case accepts => exact fun output name named => insert_named named
  case size => exact represents.size
  case nodes => exact represents.nodes
  case unclaimed =>
    intro hash unfound
    rw [represents.getClaim?_eq, latest?_eq_none_iff.mpr unfound]
    rfl
  case claimed =>
    intro hash output latest
    obtain ⟨name, current, named, -, known, leads⟩ := represents.getClaim?_of_latest latest
    exact ⟨name, current, named, known, leads⟩
  case slots => exact fun name slot known => represents.inside known
  case claimSlots =>
    intro hash slot known
    rw [represents.claims] at known
    obtain ⟨name, -, known⟩ := Option.bind_eq_some_iff.mp known
    exact represents.inside known
  case links => exact fun output found link => link.mem_nodes

end ClaimGraph

end ClaimLedger
