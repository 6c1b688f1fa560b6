import ClaimLedger.Proofs.IndexService

/-! Every query is served once, in order, and by its own answer. This holds of every service
that can be reached, however its callers, its workers and its owner take turns, and the calls
of the service are among the runs it holds of. -/
namespace ClaimLedger.BlockIndex

namespace Service

variable {before service later : Service} {capacity : Nat}

/-! ## Runs -/

theorem Reaches.sound (reaches : Reaches before service) (sound : before.Sound capacity) :
    service.Sound capacity := by
  induction reaches with
  | refl => exact sound
  | step event earlier happens ih => exact ih.happens (apply_eq_some_iff.mp happens)

theorem Reaches.trans (first : Reaches before service) (second : Reaches service later) :
    Reaches before later := by
  induction second with
  | refl => exact first
  | step event earlier happens ih => exact .step event ih happens

/-- What is reached is what some list of events leads to. -/
theorem reaches_iff :
    Reaches before service ↔
      ∃ events : List Event, events.foldlM Service.apply before = some service := by
  constructor
  · intro reaches
    induction reaches with
    | refl => exact ⟨[], rfl⟩
    | step event earlier happens ih =>
      obtain ⟨events, leads⟩ := ih
      exact ⟨events ++ [event], by simp [List.foldlM_append, leads, happens]⟩
  · rintro ⟨events, leads⟩
    induction events generalizing before with
    | nil =>
      cases leads
      exact .refl _
    | cons event events ih =>
      obtain ⟨between, happens, leads⟩ := Option.bind_eq_some_iff.mp leads
      exact (Reaches.step event (.refl _) happens).trans (ih leads)

theorem reaches_attempt (event : Event) (service : Service) :
    Reaches service (attempt event service) := by
  unfold attempt
  cases happens : service.apply event with
  | none => exact .refl service
  | some later => exact .step event (.refl service) happens

theorem reaches_run (i fuel : Nat) (service : Service) : Reaches service (run i fuel service) := by
  induction fuel generalizing service with
  | zero => exact .refl service
  | succ fuel ih =>
    unfold run
    split
    · rename_i later happens
      exact (Reaches.step _ (.refl service) happens).trans (ih later)
    · exact .refl service

theorem reaches_settle (service : Service) (i : Nat) : Reaches service (service.settle i) := by
  unfold settle
  split
  · exact .refl service
  · exact reaches_run i _ service

theorem reaches_settleHeld (service : Service) : Reaches service service.settleHeld := by
  unfold settleHeld
  split
  · exact reaches_settle service _
  · exact .refl service

theorem reaches_knock (ticket : Nat) (service : Service) :
    Reaches service (knock ticket service) :=
  (reaches_attempt _ service).trans (reaches_attempt _ _)

theorem reaches_begin (service : Service) (query : Query) :
    Reaches service (service.begin query).2 :=
  (reaches_attempt _ service).trans (reaches_knock _ _)

theorem reaches_finish (service : Service) (ticket : Nat) :
    Reaches service (service.finish ticket).2 :=
  (reaches_settleHeld service).trans ((reaches_knock ticket _).trans
    ((reaches_settleHeld _).trans (reaches_attempt _ _)))

theorem reaches_beginAll (service : Service) (queries : List Query) :
    Reaches service (service.beginAll queries).2 := by
  induction queries generalizing service with
  | nil => exact .refl service
  | cons query queries ih => exact (reaches_begin service query).trans (ih _)

theorem reaches_finishAll (service : Service) (tickets : List Nat) :
    Reaches service (service.finishAll tickets).2 := by
  induction tickets generalizing service with
  | nil => exact .refl service
  | cons ticket tickets ih => exact (reaches_finish service ticket).trans (ih _)

theorem reaches_ask (service : Service) (query : Query) : Reaches service (service.ask query).2 :=
  (reaches_begin service query).trans (reaches_finish _ _)

theorem reaches_askTogether (service : Service) (queries : List Query) :
    Reaches service (service.askTogether queries).2 :=
  (reaches_beginAll service queries).trans (reaches_finishAll _ _)

theorem reaches_abandon (service : Service) (query : Query) :
    Reaches service (service.abandon query).2 := by
  unfold abandon
  cases leaves : (service.begin query).2.apply (.left (service.begin query).1) with
  | none => simpa only [leaves] using reaches_begin service query
  | some later => simpa only [leaves] using (reaches_begin service query).step _ leaves

theorem reaches_close (service : Service) : Reaches service service.close.2 := by
  unfold close
  split
  · exact .refl service
  · rename_i i current
    have closes : Reaches service
        (attempt .closed ((attempt .detached service).settle i)) :=
      (reaches_attempt _ service).trans ((reaches_settle _ i).trans (reaches_attempt _ _))
    dsimp only
    split
    · exact closes
    · exact closes

/-- What stands in the place of a dropped service is a service that can be reached. -/
theorem reaches_drop {queue : Nat} (reached : Reaches (closed queue) service) :
    Reaches (closed queue) service.drop := by
  unfold drop
  split
  · rename_i dropped happens
    have bound : dropped.capacity = max queue 1 :=
      ((reached.sound (sound_closed queue)).happens (apply_eq_some_iff.mp happens)).bound
    have same : closed dropped.capacity = closed queue := by
      rw [bound, closed, closed, Nat.max_eq_left (Nat.le_max_right queue 1)]
    rw [same]
    exact .refl _
  · exact reached

theorem reaches_openWith (service : Service) (store : Store) :
    Reaches service (service.openWith store).2 := by
  unfold openWith
  cases opens : service.apply (.opened store) with
  | none => exact .refl service
  | some later => exact .step _ (.refl service) opens

/-! ## Progress -/

/-- A worker that is left alone comes to rest. -/
theorem run_rests {i fuel : Nat} {worker : Worker} (works : service.workers[i]? = some worker)
    (enough : worker.movesLeft ≤ fuel) :
    ∃ rested, (run i fuel service).workers[i]? = some rested ∧ rested.move? = none ∧
      rested.accepted = worker.accepted ∧ rested.connected = worker.connected := by
  induction fuel generalizing service worker with
  | zero =>
    refine ⟨worker, works, ?_, rfl, rfl⟩
    cases moves : worker.move? with
    | none => rfl
    | some next =>
      have fewer := (Worker.step_of_move? moves).movesLeft_lt
      omega
  | succ fuel ih =>
    unfold run
    cases moves : worker.move? with
    | none =>
      have stays : service.apply (.moved i) = none := by simp [Service.apply, works, moves]
      rw [stays]
      exact ⟨worker, works, moves, rfl, rfl⟩
    | some moved =>
      obtain ⟨next, slots⟩ := moved
      have step := Worker.step_of_move? moves
      have within := (List.getElem?_eq_some_iff.mp works).1
      have fewer := step.movesLeft_lt
      rw [(Happens.moved works step).apply]
      obtain ⟨rested, there, rests, accepted, connected⟩ :=
        @ih { service with
          workers := service.workers.set i next
          callers := restaged service.callers (noticing slots) } next
          (List.getElem?_set_self within) (by omega)
      exact ⟨rested, there, rests, accepted.trans step.accepted_eq,
        connected.trans step.connected_eq⟩

theorem settle_rests {i : Nat} {worker : Worker} (works : service.workers[i]? = some worker) :
    ∃ rested, (service.settle i).workers[i]? = some rested ∧ rested.move? = none ∧
      rested.accepted = worker.accepted ∧ rested.connected = worker.connected := by
  unfold settle
  rw [works]
  exact run_rests works (Nat.le_refl _)

/-- Whoever waits for a worker at rest can go on: into the queue, or away from it if the
worker is gone, or home with what is in its slot. -/
theorem Sound.goes_on (sound : service.Sound capacity) {ticket i : Nat} {query : Query}
    {stage : Stage} {worker : Worker}
    (caller : service.callers[ticket]? = some ⟨query, some i, stage⟩)
    (works : service.workers[i]? = some worker) (waits : stage.isWaiting = true)
    (rests : worker.move? = none) :
    ∃ event ∈ [Event.entered ticket, .refused ticket, .returned ticket],
      (service.apply event).isSome = true := by
  cases stage with
  | forRoom =>
    rcases Worker.move?_eq_none_iff.mp rests with ⟨receiving, empty, -⟩ | gone
    · have present : worker.isGone = false := by simp only [Worker.isGone, receiving]
      have room : worker.hasRoom = true := by
        simpa [Worker.hasRoom, empty, (sound.workers works).bound] using sound.positive
      exact ⟨.entered ticket, by simp, (Happens.entered caller works present room).isSome⟩
    · exact ⟨.refused ticket, by simp, (Happens.refused caller works gone).isSome⟩
  | forReply slot =>
    refine ⟨.returned ticket, by simp, ?_⟩
    cases slot with
    | empty =>
      cases sound.standing caller with
      | asked found owes =>
        obtain rfl := Option.some.inj (works.symm.trans found)
        cases owes with
        | pending still =>
          rw [(sound.workers works).state.pending_nil rests] at still
          cases still
    | filled result => exact (Happens.answered caller).isSome
    | dropped => exact (Happens.unanswered caller).isSome
  | returned result => cases waits
  | left => cases waits

/-- So can whoever waits for the end of a worker at rest. -/
theorem Sound.closes_on (sound : service.Sound capacity) {i : Nat} {worker : Worker}
    (closing : service.closing = some i) (works : service.workers[i]? = some worker)
    (rests : worker.move? = none) : (service.apply .closed).isSome = true := by
  have ended : worker.result?.isSome = true := by
    cases (sound.workers works).state.atRest rests with
    | idle held phase =>
      rw [sound.held works, (sound.closing closing).1] at held
      cases held
    | finished phase | panicked phase => simp [Worker.result?, phase]
  obtain ⟨result, ended⟩ := Option.isSome_iff_exists.mp ended
  exact (Happens.closed closing works ended).isSome

/-- Nobody waits for a service that is seen to be closed. -/
theorem Sound.free_of_seenClosed (sound : service.Sound capacity) (seen : service.SeenClosed) :
    service.isFree = true := by
  refine isFree_iff.mpr ⟨seen.kept, seen.settled, fun caller member => ?_⟩
  obtain ⟨ticket, found⟩ := List.mem_iff_getElem?.mp member
  cases waits : caller.stage.isWaiting with
  | false => rfl
  | true =>
    obtain ⟨i, worker, found', -⟩ := sound.standing_of_waiting found waits
    have held := sound.waiting found' waits
    rw [seen.released] at held
    cases held

/-- However closing ends, the service is seen to be closed. -/
theorem Sound.seenClosed (sound : service.Sound capacity) {event : Event}
    (ends : event = .closed ∨ event = .closeLeft) (happens : service.Happens event later) :
    later.SeenClosed := by
  have seen {i : Nat} (awaited : service.closing = some i) :
      service.isOpen = false ∧ service.dropped = false := by
    refine ⟨isOpen_eq_false_iff.mpr (sound.closing awaited).1, ?_⟩
    rw [← Bool.not_eq_true]
    intro dropped
    rw [(sound.dropped dropped).2] at awaited
    cases awaited
  rcases ends with rfl | rfl
  · cases happens with
    | closed awaited works ended => exact ⟨(seen awaited).1, rfl, (seen awaited).2⟩
  · cases happens with
    | closeLeft awaited => exact ⟨(seen awaited).1, rfl, (seen awaited).2⟩

/-! ## What a service gives -/

/-- What the worker with a number gives. -/
structure ServedBy (service : Service) (i : Nat) (worker : Worker) : Prop where
  /-- Its store saw a front of what it would see if the queries that entered had been asked
  one after the other and it had been closed behind them. -/
  serial : worker.log <+: worker.store.history [] worker.accepted
  once : (worker.accepted.map Call.ticket).Nodup
  /-- Every query that entered is that of a caller who asked this worker. -/
  owned : ∀ call ∈ worker.accepted, ∃ stage,
    service.callers[call.ticket]? = some ⟨call.query, some i, stage⟩
  bounded : worker.queue.length ≤ service.capacity
  /-- At rest it has seen all of it. -/
  rests : worker.move? = none → worker.AtRest
  /-- Left alone it comes to rest, with the same queries, still held or still let go. -/
  settles : ∃ rested, (service.settle i).workers[i]? = some rested ∧ rested.AtRest ∧
    rested.accepted = worker.accepted ∧ rested.connected = worker.connected
  /-- After a panic the query it came from and all behind it have no answer, and whoever
  waits is told once the worker is at rest. -/
  panics : ∀ call, worker.Lost call →
    (∀ result, .query call (some result) ∉ worker.log) ∧
      ∃ stage, service.callers[call.ticket]? = some ⟨call.query, some i, stage⟩ ∧
        (stage = .forReply .empty ∧ worker.move? ≠ none ∨ stage = .forReply .dropped ∨
          stage = .returned (.error (.worker .droppedQuery)) ∨ stage = .left)

theorem Sound.lost (sound : service.Sound capacity) {i : Nat} {worker : Worker}
    (works : service.workers[i]? = some worker) {call : Call} (lost : worker.Lost call) :
    ∃ stage, service.callers[call.ticket]? = some ⟨call.query, some i, stage⟩ ∧
      (stage = .forReply .empty ∧ worker.move? ≠ none ∨ stage = .forReply .dropped ∨
        stage = .returned (.error (.worker .droppedQuery)) ∨ stage = .left) := by
  have unanswered := (sound.workers works).lost_unanswered lost
  have entered : call ∈ worker.accepted := by
    obtain ⟨before, panicking, behind, accepted, -, member⟩ := lost
    rw [accepted]
    exact List.mem_append_right _ member
  obtain ⟨stage, caller, inside⟩ := sound.owned works call entered
  refine ⟨stage, caller, ?_⟩
  cases sound.standing caller with
  | asked found owes =>
    obtain rfl := Option.some.inj (works.symm.trans found)
    cases owes with
    | forRoom => exact absurd rfl inside
    | pending waits =>
      refine .inl ⟨rfl, fun rests => ?_⟩
      rw [(sound.workers works).state.pending_nil rests] at waits
      cases waits
    | filled answers => exact absurd answers (unanswered _)
    | dropped => exact .inr (.inl rfl)
    | answered answers => exact absurd answers (unanswered _)
    | lost => exact .inr (.inr (.inl rfl))
    | stopped panics outside => exact absurd (List.mem_map_of_mem entered) outside
    | left => exact .inr (.inr (.inr rfl))

theorem Sound.servedBy (sound : service.Sound capacity) {i : Nat} {worker : Worker}
    (works : service.workers[i]? = some worker) : service.ServedBy i worker where
  serial := (sound.workers works).state.log_prefix
  once := (sound.workers works).once
  owned call entered := by
    obtain ⟨stage, caller, -⟩ := sound.owned works call entered
    exact ⟨stage, caller⟩
  bounded := sound.bound ▸ (sound.workers works).fits
  rests := (sound.workers works).state.atRest
  settles := by
    obtain ⟨rested, there, rests, same⟩ := settle_rests works
    have settled := (reaches_settle service i).sound sound
    exact ⟨rested, there, (settled.workers there).state.atRest rests, same⟩
  panics call lost := ⟨(sound.workers works).lost_unanswered lost, sound.lost works lost⟩

/-- Whoever waited for the end of a worker learnt what closing the store came to, or that
the store had panicked. -/
theorem Sound.learnt (sound : service.Sound capacity) {i : Nat} {result : Except Error Unit}
    (learnt : (i, result) ∈ service.closings) :
    ∃ worker, service.workers[i]? = some worker ∧
      (worker.log.getLast? = some (.close (some result)) ∨
        result = .error (.worker .panicked) ∧
          ∃ entry, worker.log.getLast? = some entry ∧ entry.isPanic = true) := by
  obtain ⟨worker, works, ended⟩ := sound.closings _ learnt
  refine ⟨worker, works, ?_⟩
  have gone : worker.isGone = true := by
    unfold Worker.result? at ended
    unfold Worker.isGone
    split at ended
    · rfl
    · rfl
    · cases ended
  cases (sound.workers works).state.atRest (Worker.move?_eq_none_iff.mpr (.inr gone)) with
  | idle held phase =>
    rw [Worker.isGone, phase] at gone
    cases gone
  | finished phase served last =>
    rw [Worker.result?, phase] at ended
    cases ended
    exact .inl last
  | panicked phase served last panics =>
    rw [Worker.result?, phase] at ended
    cases ended
    exact .inr ⟨rfl, _, last, panics⟩

/-- What a service gives, with a queue of this length. -/
structure Served (service : Service) (queue : Nat) : Prop where
  capacity : service.capacity = max queue 1
  workers : ∀ {i : Nat} {worker : Worker}, service.workers[i]? = some worker →
    service.ServedBy i worker
  /-- A caller that was given a result was given the answer to its own query, or was told
  what became of its worker. -/
  callers : ∀ {ticket : Nat} {caller : Caller}, service.callers[ticket]? = some caller →
    Standing service.workers ticket caller.query caller.worker caller.stage
  /-- Nobody waits for a worker at rest. -/
  goesOn : ∀ {ticket i : Nat} {query : Query} {stage : Stage} {worker : Worker},
    service.callers[ticket]? = some ⟨query, some i, stage⟩ →
      service.workers[i]? = some worker → stage.isWaiting = true → worker.move? = none →
      ∃ event ∈ [Event.entered ticket, .refused ticket, .returned ticket],
        (service.apply event).isSome = true
  /-- Closing gives what the store gave, unless it panicked. -/
  closings : ∀ {i : Nat} {result : Except Error Unit}, (i, result) ∈ service.closings →
    ∃ worker, service.workers[i]? = some worker ∧
      (worker.log.getLast? = some (.close (some result)) ∨
        result = .error (.worker .panicked) ∧
          ∃ entry, worker.log.getLast? = some entry ∧ entry.isPanic = true)
  /-- Whoever waits for the end of a worker at rest learns it. -/
  closesOn : ∀ {i : Nat} {worker : Worker}, service.closing = some i →
    service.workers[i]? = some worker → worker.move? = none →
    (service.apply .closed).isSome = true
  /-- However closing ends, the service is closed. -/
  closes : ∀ {event : Event} {later : Service}, event = .closed ∨ event = .closeLeft →
    service.apply event = some later → later.SeenClosed
  /-- A closed service has no answer to a query. -/
  refuses : service.SeenClosed → ∀ query, ∃ later,
    service.apply (.asked query) = some later ∧
      later.callers[service.callers.length]? = some ⟨query, none, .returned (.error .notOpen)⟩
  /-- A closed service can be opened, again or not, with another worker that starts from
  nothing. -/
  opens : service.SeenClosed → ∀ store, ∃ later,
    service.apply (.opened store) = some later ∧
      later.current = some service.workers.length ∧
      later.workers = service.workers ++ [Worker.start store (max queue 1)]

/-- Whatever callers, workers and the owner of a service do, in any order: every query that
entered the queue is served once, in order and with its own answer, until the store panics
or is closed behind the last of them. -/
theorem queries_served {queue : Nat} (reached : Reaches (closed queue) service) :
    service.Served queue := by
  have sound := reached.sound (sound_closed queue)
  constructor
  case capacity => exact sound.bound
  case workers => exact sound.servedBy
  case callers => exact sound.standing
  case goesOn => exact sound.goes_on
  case closings => exact sound.learnt
  case closesOn => exact sound.closes_on
  case closes =>
    exact fun ends happens => sound.seenClosed ends (apply_eq_some_iff.mp happens)
  case refuses =>
    intro seen query
    refine ⟨_, (Happens.asked seen.kept seen.settled).apply, ?_⟩
    simp [seen.notOpen, seen.released]
  case opens =>
    intro seen store
    have free := sound.free_of_seenClosed seen
    exact ⟨_, (Happens.opened free seen.notOpen).apply, rfl, by rw [sound.bound]⟩

/-- A caller left while its query was in the queue, which was served before the store was
closed. Another store then panicked over the first of two queries. -/
theorem queries_served_reopened :
    ∃ service, Reaches (closed 0) service ∧ service.Served 0 ∧
      service.workers.map (fun worker => worker.accepted.map Call.ticket) = [[0, 1], [2, 3]] ∧
      service.closings = [(0, .ok ()), (1, .error (.worker .panicked))] ∧
      (service.callers.map Caller.stage).drop 1 =
        [.left, .returned (.error (.worker .droppedQuery)),
          .returned (.error (.worker .droppedQuery))] := by
  have leads : Reaches (closed 0) _ := reaches_iff.mpr
    ⟨[.opened (.memory ⟨[], [], []⟩), .asked .claimtrie, .entered 0, .asked .claims, .moved 0,
      .entered 1, .left 1, .moved 0, .returned 0, .detached, .moved 0, .moved 0, .moved 0,
      .moved 0, .closed, .opened .panicking, .asked .claims, .entered 2, .asked .claimtrie,
      .moved 1, .entered 3, .moved 1, .moved 1, .returned 2, .returned 3, .detached,
      .closed], rfl⟩
  exact ⟨_, leads, queries_served leads, rfl, rfl, rfl⟩

end Service

end ClaimLedger.BlockIndex
