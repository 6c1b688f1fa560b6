import ClaimLedger.Proofs.Workers

/-! The events of a service. An event that can happen has one outcome, which is said here for
each kind together with all that has to hold before it. What is kept by a service, or lost by
it, is then shown event by event. -/
namespace ClaimLedger.BlockIndex

namespace Service

/-- The service is there, it is not open, and nobody is about to close it. While somebody closes
a service, and after it was dropped, nobody can ask whether it is open. -/
structure SeenClosed (service : Service) : Prop where
  notOpen : service.isOpen = false
  settled : service.closing = none
  kept : service.dropped = false

/-- What can happen to a service, and what it is afterwards. -/
inductive Happens (service : Service) : Event → Service → Prop where
  | opened {store : Store} (free : service.isFree = true) (notOpen : service.isOpen = false) :
      Happens service (.opened store) { service with
        workers := service.workers ++ [Worker.start store service.capacity]
        current := some service.workers.length }
  | asked {query : Query} (kept : service.dropped = false) (settled : service.closing = none) :
      Happens service (.asked query) { service with
        callers := service.callers ++ [⟨query, service.current,
          if service.isOpen then .forRoom else .returned (.error .notOpen)⟩] }
  | entered {ticket i : Nat} {query : Query} {worker : Worker}
      (caller : service.callers[ticket]? = some ⟨query, some i, .forRoom⟩)
      (works : service.workers[i]? = some worker) (present : worker.isGone = false)
      (room : worker.hasRoom = true) :
      Happens service (.entered ticket) { service.setStage ticket (.forReply .empty) with
        workers := service.workers.set i (worker.accept ⟨ticket, query⟩) }
  | refused {ticket i : Nat} {query : Query} {worker : Worker}
      (caller : service.callers[ticket]? = some ⟨query, some i, .forRoom⟩)
      (works : service.workers[i]? = some worker) (gone : worker.isGone = true) :
      Happens service (.refused ticket)
        (service.setStage ticket (.returned (.error (.worker .stopped))))
  | answered {ticket : Nat} {query : Query} {asked : Option Nat} {result : Except Error Rows}
      (caller : service.callers[ticket]? = some ⟨query, asked, .forReply (.filled result)⟩) :
      Happens service (.returned ticket) (service.setStage ticket (.returned result))
  | unanswered {ticket : Nat} {query : Query} {asked : Option Nat}
      (caller : service.callers[ticket]? = some ⟨query, asked, .forReply .dropped⟩) :
      Happens service (.returned ticket)
        (service.setStage ticket (.returned (.error (.worker .droppedQuery))))
  | left {ticket : Nat} {caller : Caller} (found : service.callers[ticket]? = some caller)
      (waits : caller.stage.isWaiting = true) :
      Happens service (.left ticket) (service.setStage ticket .left)
  | moved {i : Nat} {worker next : Worker} {slots : List (Nat × Slot)}
      (works : service.workers[i]? = some worker) (step : worker.Step next slots) :
      Happens service (.moved i) { service with
        workers := service.workers.set i next
        callers := restaged service.callers (noticing slots) }
  | detached {i : Nat} (held : service.current = some i) (free : service.isFree = true) :
      Happens service .detached { service.release with closing := some i }
  | closed {i : Nat} {worker : Worker} {result : Except Error Unit}
      (awaited : service.closing = some i) (works : service.workers[i]? = some worker)
      (ended : worker.result? = some result) :
      Happens service .closed
        { service with closing := none, closings := service.closings ++ [(i, result)] }
  | closeLeft {i : Nat} (awaited : service.closing = some i) :
      Happens service .closeLeft { service with closing := none }
  | dropped (free : service.isFree = true) :
      Happens service .dropped { service.release with dropped := true }

variable {service later : Service} {event : Event}

theorem isFree_iff : service.isFree = true ↔ service.dropped = false ∧ service.closing = none ∧
    ∀ caller ∈ service.callers, caller.stage.isWaiting = false := by
  simp [isFree, and_assoc]

theorem isOpen_eq_false_iff : service.isOpen = false ↔ service.current = none := by
  simp [isOpen]

theorem SeenClosed.released (seen : service.SeenClosed) : service.current = none :=
  isOpen_eq_false_iff.mp seen.notOpen

/-- A caller waits at the door of its own worker. -/
theorem atTheDoor?_eq_some_iff {ticket i : Nat} {caller : Caller} {worker : Worker} :
    service.atTheDoor? ticket = some (caller, i, worker) ↔
      caller = ⟨caller.query, some i, .forRoom⟩ ∧ service.callers[ticket]? = some caller ∧
        service.workers[i]? = some worker := by
  unfold atTheDoor?
  split
  · rename_i query j found
    rw [found, Option.map_eq_some_iff]
    constructor
    · rintro ⟨other, works, same⟩
      cases same
      exact ⟨rfl, rfl, works⟩
    · rintro ⟨shape, same, works⟩
      cases same
      cases shape
      exact ⟨worker, works, rfl⟩
  · rename_i elsewhere
    constructor
    · exact nofun
    · rintro ⟨shape, found, -⟩
      rw [shape] at found
      exact absurd found (elsewhere _ _)

theorem happens_of_apply (happens : service.apply event = some later) :
    service.Happens event later := by
  cases event with
  | opened store =>
    obtain ⟨able, same⟩ := Option.ite_none_right_eq_some.mp happens
    cases same
    obtain ⟨free, notOpen⟩ := Bool.and_eq_true_iff.mp able
    exact .opened free (by simpa using notOpen)
  | asked query =>
    obtain ⟨able, same⟩ := Option.ite_none_left_eq_some.mp happens
    cases same
    obtain ⟨kept, settled⟩ : service.dropped = false ∧ service.closing = none := by
      simpa using able
    exact .asked kept settled
  | entered ticket =>
    simp only [Service.apply] at happens
    split at happens
    · cases happens
    · rename_i caller i worker door
      obtain ⟨able, same⟩ := Option.ite_none_right_eq_some.mp happens
      cases same
      obtain ⟨present, room⟩ := Bool.and_eq_true_iff.mp able
      obtain ⟨shape, found, works⟩ := atTheDoor?_eq_some_iff.mp door
      rw [shape] at found
      exact .entered found works (by simpa using present) room
  | refused ticket =>
    simp only [Service.apply] at happens
    split at happens
    · cases happens
    · rename_i caller i worker door
      obtain ⟨gone, same⟩ := Option.ite_none_right_eq_some.mp happens
      cases same
      obtain ⟨shape, found, works⟩ := atTheDoor?_eq_some_iff.mp door
      rw [shape] at found
      exact .refused found works gone
  | returned ticket =>
    simp only [Service.apply] at happens
    split at happens
    · rename_i result slot
      cases happens
      obtain ⟨⟨query, asked, stage⟩, found, rfl⟩ := Option.map_eq_some_iff.mp slot
      exact .answered found
    · rename_i slot
      cases happens
      obtain ⟨⟨query, asked, stage⟩, found, rfl⟩ := Option.map_eq_some_iff.mp slot
      exact .unanswered found
    · cases happens
  | left ticket =>
    simp only [Service.apply] at happens
    split at happens
    · cases happens
    · rename_i caller found
      obtain ⟨waits, same⟩ := Option.ite_none_right_eq_some.mp happens
      cases same
      exact .left found waits
  | moved i =>
    simp only [Service.apply] at happens
    split at happens
    · cases happens
    · rename_i worker works
      obtain ⟨⟨next, slots⟩, moves, rfl⟩ := Option.map_eq_some_iff.mp happens
      exact .moved works (Worker.move?_eq_some_iff.mp moves)
  | detached =>
    simp only [Service.apply] at happens
    split at happens
    · cases happens
    · rename_i i held
      obtain ⟨free, same⟩ := Option.ite_none_right_eq_some.mp happens
      cases same
      exact .detached held free
  | closed =>
    simp only [Service.apply] at happens
    split at happens
    · cases happens
    · rename_i i awaited
      obtain ⟨result, ended, rfl⟩ := Option.map_eq_some_iff.mp happens
      obtain ⟨worker, works, ended⟩ := Option.bind_eq_some_iff.mp ended
      exact .closed awaited works ended
  | closeLeft =>
    obtain ⟨awaited, same⟩ := Option.ite_none_right_eq_some.mp happens
    cases same
    obtain ⟨i, awaited⟩ := Option.isSome_iff_exists.mp awaited
    exact .closeLeft awaited
  | dropped =>
    obtain ⟨free, same⟩ := Option.ite_none_right_eq_some.mp happens
    cases same
    exact .dropped free

theorem Happens.apply (happens : service.Happens event later) :
    service.apply event = some later := by
  cases happens with
  | opened free notOpen => simp [Service.apply, free, notOpen]
  | asked kept settled => simp [Service.apply, kept, settled]
  | @entered ticket i query worker caller works present room =>
    have door := atTheDoor?_eq_some_iff.mpr ⟨rfl, caller, works⟩
    simp [Service.apply, door, present, room]
  | refused caller works gone =>
    have door := atTheDoor?_eq_some_iff.mpr ⟨rfl, caller, works⟩
    simp [Service.apply, door, gone]
  | answered caller | unanswered caller => simp [Service.apply, caller]
  | left found waits => simp [Service.apply, found, waits]
  | moved works step => simp [Service.apply, works, Worker.move?_eq_some_iff.mpr step]
  | detached held free => simp [Service.apply, held, free]
  | closed awaited works ended => simp [Service.apply, awaited, works, ended]
  | closeLeft awaited => simp [Service.apply, awaited]
  | dropped free => simp [Service.apply, free]

/-- An event leads to another service exactly when it can happen with this outcome. -/
theorem apply_eq_some_iff : service.apply event = some later ↔ service.Happens event later :=
  ⟨happens_of_apply, Happens.apply⟩

theorem Happens.isSome (happens : service.Happens event later) :
    (service.apply event).isSome = true := by
  rw [happens.apply]
  rfl

/-! ## Letting the worker go -/

@[simp] theorem release_current : service.release.current = none := by
  unfold release
  split
  · assumption
  · rfl

@[simp] theorem release_closing : service.release.closing = service.closing := by
  unfold release
  split <;> rfl

@[simp] theorem release_dropped : service.release.dropped = service.dropped := by
  unfold release
  split <;> rfl

theorem length_workers_release : service.release.workers.length = service.workers.length := by
  unfold release
  split
  · rfl
  · exact List.length_modify ..

end Service

end ClaimLedger.BlockIndex
