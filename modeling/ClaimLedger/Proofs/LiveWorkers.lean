import ClaimLedger.Proofs.ServedQueries

/-! How many workers of a service are alive. The service holds at most one, and whoever closes
it waits for the end of the one it held. But the service lets the worker go before that end,
and a worker lives on until its queue is empty and its store is closed. When the wait is given
up, nobody attends to the worker any more, and the service passes for closed. Runs without such
a moment are exactly those in which workers never live beside each other. A dropped service
leaves its worker alone as well, but starts no other. -/
namespace ClaimLedger.BlockIndex

namespace Service

/-- The worker with this number may still touch its store. -/
def Lives (workers : List Worker) (i : Nat) : Prop :=
  ∃ worker, workers[i]? = some worker ∧ worker.isGone = false

/-- At most one worker lives, and none if the service is seen to be closed. -/
structure Sole (service : Service) : Prop where
  unique : ∀ {i j : Nat}, Lives service.workers i → Lives service.workers j → i = j
  closed : service.SeenClosed → ∀ i, ¬ Lives service.workers i

/-- At most one worker lives, and as long as the service is there that worker is held, or
somebody waits for its end. -/
structure Attended (service : Service) : Prop where
  unique : ∀ {i j : Nat}, Lives service.workers i → Lives service.workers j → i = j
  known : service.dropped = false → ∀ {i : Nat}, Lives service.workers i →
    service.current = some i ∨ service.closing = some i

/-- The event leaves a live worker to itself while the service can still be opened: somebody
who closes the service stops waiting. -/
inductive Strands (service : Service) : Event → Prop where
  | closeLeft {i : Nat} (awaited : service.closing = some i) (live : Lives service.workers i) :
      Strands service .closeLeft

variable {service later : Service} {capacity i : Nat} {event : Event}

/-! ## Which workers live -/

section

variable {workers : List Worker} {worker next : Worker} {j : Nat}

theorem lives_concat (live : Lives (workers ++ [worker]) i) :
    Lives workers i ∨ i = workers.length := by
  obtain ⟨other, found, present⟩ := live
  rcases getElem?_concat_cases found with earlier | ⟨last, -⟩
  · exact .inl ⟨other, earlier, present⟩
  · exact .inr last

/-- No worker comes to life by going on. -/
theorem lives_set (works : workers[i]? = some worker)
    (was : next.isGone = false → worker.isGone = false) (live : Lives (workers.set i next) j) :
    Lives workers j := by
  obtain ⟨other, found, present⟩ := live
  by_cases same : i = j
  · subst same
    rw [List.getElem?_set_self (List.getElem?_eq_some_iff.mp works).1] at found
    cases found
    exact ⟨worker, works, was present⟩
  · rw [List.getElem?_set_ne same] at found
    exact ⟨other, found, present⟩

/-- A worker that is let go lives on. -/
theorem lives_release : Lives service.release.workers j ↔ Lives service.workers j := by
  unfold Service.release
  split
  · rfl
  · rename_i i held
    unfold Lives
    rw [List.getElem?_modify]
    cases service.workers[j]? with
    | none => simp
    | some worker => by_cases same : i = j <;> simp [same, Worker.isGone]

theorem present_of_step {slots : List (Nat × Slot)} (step : worker.Step next slots) :
    worker.isGone = false := by
  rw [← Bool.not_eq_true]
  intro gone
  have moves := Worker.move?_eq_some_iff.mpr step
  rw [Worker.move?_eq_none_iff.mpr (.inr gone)] at moves
  cases moves

/-- A worker whose end can be learnt does not live. -/
theorem not_lives_of_result {result : Except Error Unit} (works : workers[i]? = some worker)
    (ended : worker.result? = some result) : ¬ Lives workers i := by
  rintro ⟨other, found, present⟩
  obtain rfl := Option.some.inj (works.symm.trans found)
  unfold Worker.result? at ended
  unfold Worker.isGone at present
  cases phase : worker.phase with
  | finished | panicked => simp [phase] at present
  | receiving | executing | closing | unwinding => simp [phase] at ended

end

/-! ## One event -/

theorem attended_closed (capacity : Nat) : (Service.closed capacity).Attended where
  unique := fun ⟨_, works, _⟩ => nomatch works
  known := fun _ _ ⟨_, works, _⟩ => nomatch works

/-- An event that starts no worker and leaves the service in the same hands. -/
theorem Attended.keeps (attended : service.Attended)
    (lived : ∀ {j}, Lives later.workers j → Lives service.workers j)
    (current : later.current = service.current) (closing : later.closing = service.closing)
    (dropped : later.dropped = service.dropped) : later.Attended where
  unique first second := attended.unique (lived first) (lived second)
  known kept i live := by
    rw [current, closing]
    exact attended.known (dropped ▸ kept) (lived live)

/-- Workers stay attended as long as no event strands one. -/
theorem Attended.happens (attended : service.Attended) (happens : service.Happens event later)
    (attends : ¬ service.Strands event) : later.Attended := by
  cases happens with
  | opened free notOpen =>
    obtain ⟨kept, settled, -⟩ := isFree_iff.mp free
    -- No worker was alive, since none was held and the end of none was waited for.
    have last {started : Worker} {j : Nat} (live : Lives (service.workers ++ [started]) j) :
        j = service.workers.length := by
      rcases lives_concat live with earlier | last
      · rcases attended.known kept earlier with held | waits
        · rw [isOpen_eq_false_iff.mp notOpen] at held
          cases held
        · rw [settled] at waits
          cases waits
      · exact last
    exact ⟨fun first second => (last first).trans (last second).symm,
      fun _ {j} live => .inl (congrArg some (last live).symm)⟩
  | asked | refused | answered | unanswered | left => exact attended.keeps id rfl rfl rfl
  | entered caller works present room =>
    exact attended.keeps (lives_set works fun _ => present) rfl rfl rfl
  | moved works step =>
    exact attended.keeps (lives_set works fun _ => present_of_step step) rfl rfl rfl
  | @detached i held free =>
    obtain ⟨kept, settled, -⟩ := isFree_iff.mp free
    refine ⟨fun first second => attended.unique (lives_release.mp first) (lives_release.mp second),
      fun _ {j} live => ?_⟩
    rcases attended.known kept (lives_release.mp live) with held' | waits
    · exact .inr (held.symm.trans held')
    · rw [settled] at waits
      cases waits
  | closed awaited works ended =>
    refine ⟨attended.unique, fun kept j live => ?_⟩
    rcases attended.known kept live with held | waits
    · exact .inl held
    · obtain rfl := Option.some.inj (awaited.symm.trans waits)
      exact absurd live (not_lives_of_result works ended)
  | closeLeft awaited =>
    refine ⟨attended.unique, fun kept j live => ?_⟩
    rcases attended.known kept live with held | waits
    · exact .inl held
    · exact absurd (.closeLeft waits live) attends
  | dropped free =>
    exact ⟨fun first second => attended.unique (lives_release.mp first) (lives_release.mp second),
      nofun⟩

theorem Attended.sole (attended : service.Attended) : service.Sole where
  unique := attended.unique
  closed seen i live := by
    rcases attended.known seen.kept live with held | waits
    · rw [seen.released] at held
      cases held
    · rw [seen.settled] at waits
      cases waits

/-- A worker that was stranded lives beside a service that is seen to be closed. -/
theorem Strands.stray (strands : service.Strands event) (sound : service.Sound capacity)
    (happens : service.Happens event later) : later.SeenClosed ∧ ∃ i, Lives later.workers i := by
  cases strands with
  | closeLeft awaited live =>
    have seen := sound.seenClosed (.inr rfl) happens
    cases happens with
    | closeLeft => exact ⟨seen, _, live⟩

/-- Such a service can be opened again, and then two workers live. -/
theorem Strands.doubles (strands : service.Strands event) (sound : service.Sound capacity)
    (happens : service.Happens event later) (store : Store) :
    ∃ reopened i j, later.Happens (.opened store) reopened ∧ i ≠ j ∧
      Lives reopened.workers i ∧ Lives reopened.workers j := by
  obtain ⟨seen, i, worker, works, present⟩ := strands.stray sound happens
  have free := (sound.happens happens).free_of_seenClosed seen
  refine ⟨_, i, later.workers.length, .opened free seen.notOpen, ?_, ?_, ?_⟩
  · exact Nat.ne_of_lt (List.getElem?_eq_some_iff.mp works).1
  · exact ⟨worker, getElem?_of_before works _, present⟩
  · exact ⟨Worker.start store later.capacity, by simp, rfl⟩

/-! ## Whole runs -/

/-- Where events lead that happen to a new service one after the other. -/
def leadsTo (queue : Nat) (events : List Event) : Option Service :=
  events.foldlM Service.apply (Service.closed queue)

theorem leadsTo_concat {queue : Nat} {events : List Event} :
    leadsTo queue (events ++ [event]) = (leadsTo queue events).bind (·.apply event) := by
  simp [leadsTo, List.foldlM_append]

theorem sound_of_leadsTo {queue : Nat} {events : List Event}
    (leads : leadsTo queue events = some service) : service.Sound (max queue 1) :=
  (reaches_iff.mpr ⟨events, leads⟩).sound (sound_closed queue)

/-- At most one worker lives all the time, and none whenever the service is seen to be closed,
exactly in those runs that strand no worker. -/
theorem sole_throughout_iff (queue : Nat) (events : List Event) :
    (∀ front service, front <+: events → leadsTo queue front = some service → service.Sole) ↔
      ∀ front event before after, front ++ [event] <+: events →
        leadsTo queue front = some before → before.apply event = some after →
        ¬ before.Strands event := by
  constructor
  · intro sole front event before after within leads happens strands
    obtain ⟨seen, i, live⟩ := strands.stray (sound_of_leadsTo leads) (apply_eq_some_iff.mp happens)
    have leads' : leadsTo queue (front ++ [event]) = some after := by
      rw [leadsTo_concat, leads, Option.bind_some, happens]
    exact (sole _ after within leads').closed seen i live
  · intro attends front service within leads
    refine Attended.sole ?_
    induction front using List.reverseRecOn generalizing service with
    | nil =>
      cases leads
      exact attended_closed queue
    | append_singleton front event ih =>
      rw [leadsTo_concat] at leads
      obtain ⟨before, earlier, happens⟩ := Option.bind_eq_some_iff.mp leads
      have attended := ih before ((List.prefix_append front [event]).trans within) earlier
      exact attended.happens (apply_eq_some_iff.mp happens)
        (attends front event before service within earlier happens)

/-- Somebody who closes a service stops waiting while a query is still in the queue. The
service passes for closed, its worker has yet to execute the query and to close its store, and
another store can be opened beside it. -/
theorem closing_given_up :
    ∃ left reopened, leadsTo 32 [.opened (.memory ⟨[], [], []⟩), .asked .claims, .entered 0,
        .left 0, .detached, .closeLeft] = some left ∧
      left.SeenClosed ∧
      (∃ worker, left.workers = [worker] ∧ worker.queue = [⟨0, .claims⟩] ∧ worker.log = []) ∧
      ¬ left.Sole ∧
      left.apply (.opened (.memory ⟨[], [], []⟩)) = some reopened ∧
      Lives reopened.workers 0 ∧ Lives reopened.workers 1 ∧ ¬ reopened.Sole := by
  refine ⟨_, _, rfl, ⟨rfl, rfl, rfl⟩, ⟨_, rfl, rfl, rfl⟩, ?_, rfl, ⟨_, rfl, rfl⟩, ⟨_, rfl, rfl⟩,
    ?_⟩
  · exact fun sole => sole.closed ⟨rfl, rfl, rfl⟩ 0 ⟨_, rfl, rfl⟩
  · exact fun sole => nomatch sole.unique (i := 0) (j := 1) ⟨_, rfl, rfl⟩ ⟨_, rfl, rfl⟩

end Service

end ClaimLedger.BlockIndex
