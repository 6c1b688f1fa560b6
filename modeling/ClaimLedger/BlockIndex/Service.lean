import ClaimLedger.BlockIndex.Memory
import ClaimLedger.BlockIndex.Relational

/-! A block index behind a worker. Opening the service hands a store to a worker,
which alone touches it; callers put queries into a bounded queue and wait for
their reply. A caller that stops waiting changes nothing for the worker. Closing
lets the queue run dry, then closes the store; a store that panics takes its
worker and every queued query with it. A closed service can be opened again; a
dropped one is out of reach, and its worker settles on its own.

The service moves by single events (`Service.apply`), in whatever order callers,
workers and whoever owns the service take turns. The calls below it (`ask`,
`askTogether`, `abandon`, `close`) are runs of such events in which the workers
move only while somebody waits for them. -/
namespace ClaimLedger.BlockIndex

/-- What a store does when it is asked something or closed, given what it was
asked before; nothing stands for a panic. -/
structure Store where
  answer : (earlier : List Query) → Query → Option (Except Error Rows)
  close : (earlier : List Query) → Option (Except Error Unit)

namespace Store

/-- Records in memory. -/
def memory (records : Records) : Store :=
  ⟨fun _ query => some (.ok (Memory.answer records query)), fun _ => some (.ok ())⟩

/-- Records in relational tables. -/
def relational (records : Records) : Store :=
  ⟨fun _ query => some (.ok (Relational.answer records query)), fun _ => some (.ok ())⟩

/-- A database without the tables. -/
def withoutTables : Store :=
  ⟨fun _ _ => some (.error .database), fun _ => some (.ok ())⟩

/-- What a refusing store is asked for, in words. -/
def subject : Query → String
  | .blockFiles _ _ => "block files"
  | .blocksInFile _ _ => "blocks in file"
  | .claimtrie => "claimtrie"
  | .claims => "claims"

/-- A store that refuses everything. -/
def refusing : Store :=
  let refuse (what : String) : Error := .malformed (.refused ("store refuses " ++ what))
  ⟨fun _ query => some (.error (refuse (subject query))),
    fun _ => some (.error (refuse "close"))⟩

/-- A store that panics at everything. -/
def panicking : Store := ⟨fun _ _ => none, fun _ => none⟩

end Store

/-- A query on its way, told apart from others by its ticket. -/
structure Call where
  ticket : Nat
  query : Query
  deriving DecidableEq

/-- Where the reply to a call arrives. It is dropped empty when the worker that
should fill it is gone. -/
inductive Slot where
  | empty
  | filled (result : Except Error Rows)
  | dropped

/-! ## Workers -/

/-- Something that a store was asked to do, and what came of it. -/
inductive Entry where
  | query (call : Call) (outcome : Option (Except Error Rows))
  | close (outcome : Option (Except Error Unit))

/-- The query, where one was asked. -/
def Entry.query? : Entry → Option Query
  | query call _ => some call.query
  | close _ => none

/-- How far a worker is: at its queue, at its store with a query, closing the
store, or unwinding after a panic; in the end it is done with the result of
closing its store, or gone in a panic. -/
inductive Phase where
  | receiving
  | executing (call : Call)
  | closing
  | unwinding
  | finished (closing : Except Error Unit)
  | panicked

structure Worker where
  store : Store
  capacity : Nat
  /-- Whether the service can still put queries into the queue. -/
  connected : Bool
  /-- Queries that wait, the next one first. -/
  queue : List Call
  /-- Queries that ever entered the queue, in order. -/
  accepted : List Call
  /-- What the store did, in order. -/
  log : List Entry
  phase : Phase

namespace Worker

def start (store : Store) (capacity : Nat) : Worker :=
  ⟨store, capacity, true, [], [], [], .receiving⟩

/-- Whether nothing can enter the queue any more. -/
def isGone (worker : Worker) : Bool :=
  match worker.phase with
  | .finished _ => true
  | .panicked => true
  | _ => false

def hasRoom (worker : Worker) : Bool :=
  worker.queue.length < worker.capacity

/-- The worker with a query at the end of its queue. -/
def accept (worker : Worker) (call : Call) : Worker :=
  { worker with queue := worker.queue ++ [call], accepted := worker.accepted ++ [call] }

/-- What the store was asked so far. -/
def asked (worker : Worker) : List Query :=
  worker.log.filterMap Entry.query?

/-- One move of the worker, with the slots that it fills or drops. It takes the
next query, or has its store answer the one it took; once no query can come any
more it closes the store. A panic drops the slot of the query, and then those of
all that wait. A worker without anything to do does not move. -/
def move? (worker : Worker) : Option (Worker × List (Nat × Slot)) :=
  match worker.phase, worker.queue with
  | .receiving, call :: rest => some ({ worker with queue := rest, phase := .executing call }, [])
  | .receiving, [] =>
    if worker.connected then none else some ({ worker with phase := .closing }, [])
  | .executing call, _ =>
    let outcome := worker.store.answer worker.asked call.query
    let worker := { worker with log := worker.log ++ [Entry.query call outcome] }
    match outcome with
    | some result => some ({ worker with phase := .receiving }, [(call.ticket, .filled result)])
    | none => some ({ worker with phase := .unwinding }, [(call.ticket, .dropped)])
  | .closing, _ =>
    let outcome := worker.store.close worker.asked
    let worker := { worker with log := worker.log ++ [Entry.close outcome] }
    match outcome with
    | some result => some ({ worker with phase := .finished result }, [])
    | none => some ({ worker with phase := .panicked }, [])
  | .unwinding, waiting =>
    some ({ worker with queue := [], phase := .panicked },
      waiting.map fun call => (call.ticket, .dropped))
  | .finished _, _ => none
  | .panicked, _ => none

/-- What is learnt by waiting for the end of the worker. -/
def result? (worker : Worker) : Option (Except Error Unit) :=
  match worker.phase with
  | .finished result => some result
  | .panicked => some (.error (.worker .panicked))
  | _ => none

/-- More moves than these a worker does not make without a new query. -/
def movesLeft (worker : Worker) : Nat :=
  match worker.phase with
  | .receiving => 2 * worker.queue.length + 2
  | .executing _ => 2 * worker.queue.length + 3
  | .closing => 1
  | .unwinding => 1
  | .finished _ => 0
  | .panicked => 0

end Worker

/-! ## The service -/

/-- How far a caller is: waiting for room in the queue, or for the reply to its
query; in the end it has a result, or has stopped waiting. -/
inductive Stage where
  | forRoom
  | forReply (slot : Slot)
  | returned (result : Except Error Rows)
  | left

/-- Whether the caller still waits, and so holds on to the service. -/
def Stage.isWaiting : Stage → Bool
  | forRoom => true
  | forReply _ => true
  | returned _ => false
  | left => false

/-- How far the caller is after something happened to its slot, if it still looks. -/
def Stage.notice (stage : Stage) (slot : Option Slot) : Stage :=
  match stage, slot with
  | .forReply .empty, some slot => .forReply slot
  | stage, _ => stage

structure Caller where
  query : Query
  /-- The worker that the service held when it was asked. -/
  worker : Option Nat
  stage : Stage

/-- The service: every worker it ever started, oldest first, and which of them
it holds now; everybody who ever asked, by ticket; whether somebody is closing
it; and whether it was dropped. -/
structure Service where
  capacity : Nat
  workers : List Worker
  current : Option Nat
  callers : List Caller
  /-- The worker whose end somebody who closes the service waits for. -/
  closing : Option Nat
  /-- The workers whose end was waited for, with what was learnt. -/
  closings : List (Nat × Except Error Unit)
  /-- Whether its owner let go of the service itself. -/
  dropped : Bool

/-- What can happen to a service. -/
inductive Event where
  | opened (store : Store)
  | asked (query : Query)
  | entered (ticket : Nat)
  | refused (ticket : Nat)
  | returned (ticket : Nat)
  | left (ticket : Nat)
  | moved (worker : Nat)
  /-- The service lets its worker go, and whoever closes it waits for the end. -/
  | detached
  | closed
  /-- Whoever closes the service stops waiting. -/
  | closeLeft
  /-- The owner lets go of the service, and the service of its worker. -/
  | dropped

namespace Service

/-- A closed service. Its queue holds at least one query. -/
def closed (capacity : Nat) : Service :=
  ⟨max capacity 1, [], none, [], none, [], false⟩

def isOpen (service : Service) : Bool :=
  service.current.isSome

/-- Whether the service may be opened, closed or dropped: it is still there, and
nobody waits for anything. -/
def isFree (service : Service) : Bool :=
  !service.dropped && service.closing.isNone &&
    service.callers.all fun caller => !caller.stage.isWaiting

/-- The service without its worker, to which no query can come any more. -/
def release (service : Service) : Service :=
  match service.current with
  | none => service
  | some i =>
    { service with
      workers := service.workers.modify i fun worker => { worker with connected := false }
      current := none }

/-- All callers, each at its next stage. -/
def restaged (callers : List Caller) (restage : (ticket : Nat) → Stage → Stage) : List Caller :=
  callers.mapIdx fun ticket caller => { caller with stage := restage ticket caller.stage }

/-- Only one caller is at another stage. -/
def staging (ticket : Nat) (next : Stage) : Nat → Stage → Stage := fun other stage =>
  if other = ticket then next else stage

def setStage (service : Service) (ticket : Nat) (stage : Stage) : Service :=
  { service with callers := restaged service.callers (staging ticket stage) }

/-- A caller that waits for room, with its worker. -/
def atTheDoor? (service : Service) (ticket : Nat) : Option (Caller × Nat × Worker) :=
  match service.callers[ticket]? with
  | some ⟨query, some i, .forRoom⟩ =>
    (service.workers[i]?).map fun worker => (⟨query, some i, .forRoom⟩, i, worker)
  | _ => none

/-- Callers look after the slots that were filled or dropped. -/
def noticing (slots : List (Nat × Slot)) : Nat → Stage → Stage := fun ticket stage =>
  stage.notice (slots.lookup ticket)

/-- One event, if it can happen now. -/
def apply (service : Service) : Event → Option Service
  | .opened store =>
    if service.isFree && !service.isOpen then
      some { service with
        workers := service.workers ++ [Worker.start store service.capacity]
        current := some service.workers.length }
    else none
  | .asked query =>
    if service.dropped || service.closing.isSome then none
    else
      let stage := if service.isOpen then .forRoom else .returned (.error .notOpen)
      some { service with callers := service.callers ++ [⟨query, service.current, stage⟩] }
  | .entered ticket =>
    match service.atTheDoor? ticket with
    | none => none
    | some (caller, i, worker) =>
      if !worker.isGone && worker.hasRoom then
        some { service.setStage ticket (.forReply .empty) with
          workers := service.workers.set i (worker.accept ⟨ticket, caller.query⟩) }
      else none
  | .refused ticket =>
    match service.atTheDoor? ticket with
    | none => none
    | some (_, _, worker) =>
      if worker.isGone then
        some (service.setStage ticket (.returned (.error (.worker .stopped))))
      else none
  | .returned ticket =>
    match (service.callers[ticket]?).map Caller.stage with
    | some (.forReply (.filled result)) => some (service.setStage ticket (.returned result))
    | some (.forReply .dropped) =>
      some (service.setStage ticket (.returned (.error (.worker .droppedQuery))))
    | _ => none
  | .left ticket =>
    match service.callers[ticket]? with
    | none => none
    | some caller => if caller.stage.isWaiting then some (service.setStage ticket .left) else none
  | .moved i =>
    match service.workers[i]? with
    | none => none
    | some worker =>
      worker.move?.map fun (worker, slots) =>
        { service with
          workers := service.workers.set i worker
          callers := restaged service.callers (noticing slots) }
  | .detached =>
    match service.current with
    | none => none
    | some i => if service.isFree then some { service.release with closing := some i } else none
  | .closed =>
    match service.closing with
    | none => none
    | some i =>
      ((service.workers[i]?).bind Worker.result?).map fun result =>
        { service with closing := none, closings := service.closings ++ [(i, result)] }
  | .closeLeft =>
    if service.closing.isSome then some { service with closing := none } else none
  | .dropped => if service.isFree then some { service.release with dropped := true } else none

/-- Services reached by some events in some order. -/
inductive Reaches : Service → Service → Prop where
  | refl (service : Service) : Reaches service service
  | step {before between after : Service} (event : Event)
      (earlier : Reaches before between) (happens : between.apply event = some after) :
      Reaches before after

/-! ## Calls -/

/-- The service after an event, if it can happen now. -/
def attempt (event : Event) (service : Service) : Service :=
  (service.apply event).getD service

/-- Lets a worker move until it has nothing to do. `fuel` bounds its moves. -/
def run (i : Nat) : (fuel : Nat) → Service → Service
  | 0, service => service
  | fuel + 1, service =>
    match service.apply (.moved i) with
    | some service => run i fuel service
    | none => service

/-- Lets a worker empty its queue, and close its store if it is detached. -/
def settle (service : Service) (i : Nat) : Service :=
  match service.workers[i]? with
  | none => service
  | some worker => run i worker.movesLeft service

/-- Lets the held worker settle. -/
def settleHeld (service : Service) : Service :=
  match service.current with
  | some i => service.settle i
  | none => service

/-- Hands a store to a new worker. -/
def openWith (service : Service) (store : Store) : Except Error Unit × Service :=
  match service.apply (.opened store) with
  | some service => (.ok (), service)
  | none => (.error .alreadyOpen, service)

/-- Opens a store that may turn out not to be there, unless the service is open. -/
def openFound (service : Service) (found : Except Error Store) : Except Error Unit × Service :=
  if service.isOpen then (.error .alreadyOpen, service)
  else match found with
    | .ok store => service.openWith store
    | .error cause => (.error cause, service)

/-- A caller at the door enters the queue if there is room, and is refused if the
worker is gone. -/
def knock (ticket : Nat) (service : Service) : Service :=
  attempt (.refused ticket) (attempt (.entered ticket) service)

/-- Begins a query without waiting, under the next ticket. -/
def begin (service : Service) (query : Query) : Nat × Service :=
  (service.callers.length, knock service.callers.length (attempt (.asked query) service))

/-- What a caller was given. One that was given nothing, because it left or still
waits, counts as refused. -/
def resultOf (service : Service) (ticket : Nat) : Except Error Rows :=
  match (service.callers[ticket]?).map Caller.stage with
  | some (.returned result) => result
  | _ => .error (.worker .stopped)

/-- Waits for the end of a query that was begun. Whoever waits for room gets it
when the worker has settled, unless the worker is gone. -/
def finish (service : Service) (ticket : Nat) : Except Error Rows × Service :=
  let service := knock ticket service.settleHeld
  let service := attempt (.returned ticket) service.settleHeld
  (service.resultOf ticket, service)

/-- Asks a query and waits for its reply. -/
def ask (service : Service) (query : Query) : Except Error Rows × Service :=
  let (ticket, service) := service.begin query
  service.finish ticket

/-- Begins queries one after the other. -/
def beginAll (service : Service) : List Query → List Nat × Service
  | [] => ([], service)
  | query :: queries =>
    let (ticket, service) := service.begin query
    let (tickets, service) := service.beginAll queries
    (ticket :: tickets, service)

/-- Waits for queries in the order they were begun. -/
def finishAll (service : Service) : List Nat → List (Except Error Rows) × Service
  | [] => ([], service)
  | ticket :: tickets =>
    let (result, service) := service.finish ticket
    let (results, service) := service.finishAll tickets
    (result :: results, service)

/-- Asks several queries together and waits for all replies. -/
def askTogether (service : Service) (queries : List Query) :
    List (Except Error Rows) × Service :=
  let (tickets, service) := service.beginAll queries
  service.finishAll tickets

/-- Begins a query and stops waiting at once. Says whether it was answered
already; if not, it stays in the queue, or leaves the line for it. -/
def abandon (service : Service) (query : Query) : Bool × Service :=
  let (ticket, service) := service.begin query
  match service.apply (.left ticket) with
  | some service => (false, service)
  | none => (true, service)

/-- Lets queued queries finish and closes the store. Afterwards the service is
closed whatever the store said; closing a closed service does nothing. -/
def close (service : Service) : Except Error Unit × Service :=
  match service.current with
  | none => (.ok (), service)
  | some i =>
    let service := attempt .closed ((attempt .detached service).settle i)
    match service.closings.getLast? with
    | some (_, result) => (result, service)
    | none => (.ok (), service)

/-- Drops the service without waiting and puts a closed one in its place. What the
dropped one leaves behind is no matter for the new one. -/
def drop (service : Service) : Service :=
  match service.apply .dropped with
  | some dropped => closed dropped.capacity
  | none => service

end Service

end ClaimLedger.BlockIndex
