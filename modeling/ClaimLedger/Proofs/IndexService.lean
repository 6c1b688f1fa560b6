import ClaimLedger.Proofs.ServiceEvents

/-! The service between callers and workers. Callers come and go at any time, and so do
stores. Every worker keeps to its own queue whatever they do, every query that entered
belongs to one caller and one worker, and the slot of a caller is filled with the answer to
its own query or dropped after a panic. -/
namespace ClaimLedger.BlockIndex

/-! ## Lists that grow -/

section

variable {α : Type} {items : List α} {item last : α} {i : Nat}

theorem getElem?_of_before (found : items[i]? = some item) (more : List α) :
    (items ++ more)[i]? = some item := by
  rw [List.getElem?_append_left (List.getElem?_eq_some_iff.mp found).1]
  exact found

/-- An item of a longer list is one that was there or the new one. -/
theorem getElem?_concat_cases (found : (items ++ [last])[i]? = some item) :
    items[i]? = some item ∨ i = items.length ∧ item = last := by
  rw [List.getElem?_append] at found
  split at found
  · exact .inl found
  · rename_i beyond
    obtain ⟨inside, rfl⟩ := List.getElem?_eq_some_iff.mp found
    simp only [List.length_singleton] at inside
    exact .inr ⟨by omega, by simp⟩

end

namespace Service

/-- Where a caller stands: with the worker that the service held when it asked, or refused
because it held none. -/
inductive Standing (workers : List Worker) (ticket : Nat) (query : Query) :
    Option Nat → Stage → Prop where
  | notOpen : Standing workers ticket query none (.returned (.error .notOpen))
  | asked {i : Nat} {worker : Worker} {stage : Stage} (works : workers[i]? = some worker)
      (owes : worker.Owes ⟨ticket, query⟩ stage) : Standing workers ticket query (some i) stage

/-- What holds of a service whatever happens to it. -/
structure Sound (service : Service) (capacity : Nat) : Prop where
  bound : service.capacity = capacity
  positive : 0 < capacity
  workers : ∀ {i : Nat} {worker : Worker}, service.workers[i]? = some worker →
    worker.Sound capacity
  /-- The service holds the one worker that queries can still come to. -/
  held : ∀ {i : Nat} {worker : Worker}, service.workers[i]? = some worker →
    (worker.connected = true ↔ service.current = some i)
  known : ∀ {i : Nat}, service.current = some i → i < service.workers.length
  /-- Queries that entered are those of callers. -/
  owned : ∀ {i : Nat} {worker : Worker}, service.workers[i]? = some worker →
    ∀ call ∈ worker.accepted, ∃ stage,
      service.callers[call.ticket]? = some ⟨call.query, some i, stage⟩ ∧ stage ≠ .forRoom
  standing : ∀ {ticket : Nat} {caller : Caller}, service.callers[ticket]? = some caller →
    Standing service.workers ticket caller.query caller.worker caller.stage
  /-- Whoever waits keeps the service from being closed. -/
  waiting : ∀ {ticket : Nat} {caller : Caller}, service.callers[ticket]? = some caller →
    caller.stage.isWaiting = true → caller.worker = service.current
  closing : ∀ {i : Nat}, service.closing = some i →
    service.current = none ∧ i < service.workers.length
  closings : ∀ entry ∈ service.closings, ∃ worker, service.workers[entry.1]? = some worker ∧
    worker.result? = some entry.2
  /-- A service that was dropped holds no worker and waits for none. -/
  dropped : service.dropped = true → service.current = none ∧ service.closing = none

variable {service later : Service} {capacity : Nat}

theorem sound_closed (capacity : Nat) : (closed capacity).Sound (max capacity 1) where
  bound := rfl
  positive := Nat.le_max_right capacity 1
  workers := nofun
  held := nofun
  known := nofun
  owned := nofun
  standing := nofun
  waiting := nofun
  closing := nofun
  closings := nofun
  dropped := nofun

/-! ## Opening and closing -/

theorem Standing.append {workers : List Worker} {ticket : Nat} {query : Query}
    {asked : Option Nat} {stage : Stage} (standing : Standing workers ticket query asked stage)
    (started : Worker) : Standing (workers ++ [started]) ticket query asked stage := by
  cases standing with
  | notOpen => exact .notOpen
  | asked works owes => exact .asked (getElem?_of_before works _) owes

/-- Nobody waits for a free service. -/
theorem idle_of_free (free : service.isFree = true) {ticket : Nat} {caller : Caller}
    (found : service.callers[ticket]? = some caller) : caller.stage.isWaiting = false :=
  (isFree_iff.mp free).2.2 caller (List.mem_of_getElem? found)

theorem Sound.opened (sound : service.Sound capacity) (free : service.isFree = true)
    (notOpen : service.current = none) (store : Store) :
    { service with
      workers := service.workers ++ [Worker.start store service.capacity]
      current := some service.workers.length }.Sound capacity := by
  have unheld {i : Nat} {worker : Worker} (works : service.workers[i]? = some worker) :
      worker.connected = false := by
    rw [← Bool.not_eq_true, sound.held works, notOpen]
    exact nofun
  constructor
  case bound => exact sound.bound
  case positive => exact sound.positive
  case workers =>
    intro i worker works
    rcases getElem?_concat_cases works with earlier | ⟨-, rfl⟩
    · exact sound.workers earlier
    · rw [sound.bound]
      exact Worker.sound_start store capacity
  case held =>
    intro i worker works
    rcases getElem?_concat_cases works with earlier | ⟨rfl, rfl⟩
    · have inside := (List.getElem?_eq_some_iff.mp earlier).1
      have elsewhere : ¬ some service.workers.length = some i := by
        intro same
        cases same
        exact Nat.lt_irrefl _ inside
      simp [unheld earlier, elsewhere]
    · simp [Worker.start]
  case known =>
    intro i current
    cases current
    simp
  case owned =>
    intro i worker works call member
    rcases getElem?_concat_cases works with earlier | ⟨-, rfl⟩
    · exact sound.owned earlier call member
    · cases member
  case standing =>
    intro ticket caller found
    exact (sound.standing found).append _
  case waiting =>
    intro ticket caller found waits
    rw [idle_of_free free found] at waits
    cases waits
  case closing =>
    intro i closing
    rw [(isFree_iff.mp free).2.1] at closing
    cases closing
  case closings =>
    intro entry member
    obtain ⟨worker, works, result⟩ := sound.closings entry member
    exact ⟨worker, getElem?_of_before works _, result⟩
  case dropped =>
    intro dropped
    rw [(isFree_iff.mp free).1] at dropped
    cases dropped

/-- A service that lets its worker go. -/
theorem Sound.release (sound : service.Sound capacity) (free : service.isFree = true) :
    service.release.Sound capacity := by
  unfold Service.release
  split
  case h_1 => exact sound
  case h_2 i current =>
    have before {j : Nat} {worker : Worker}
        (works : (service.workers.modify i
          fun worker => { worker with connected := false })[j]? = some worker) :
        ∃ before, service.workers[j]? = some before ∧
          worker = if i = j then { before with connected := false } else before := by
      rw [List.getElem?_modify, Option.map_eq_map, Option.map_eq_some_iff] at works
      obtain ⟨before, was, rfl⟩ := works
      exact ⟨before, was, rfl⟩
    have after {j : Nat} {before : Worker} (works : service.workers[j]? = some before) :
        (service.workers.modify i fun worker => { worker with connected := false })[j]? =
          some (if i = j then { before with connected := false } else before) := by
      rw [List.getElem?_modify, works]
      rfl
    constructor
    case bound => exact sound.bound
    case positive => exact sound.positive
    case workers =>
      intro j worker works
      obtain ⟨before, was, rfl⟩ := before works
      split
      · exact (sound.workers was).release
      · exact sound.workers was
    case held =>
      intro j worker works
      obtain ⟨before, was, rfl⟩ := before works
      split
      · simp
      · rename_i other
        have unheld : ¬ service.current = some j := fun same =>
          other (Option.some.inj (current.symm.trans same))
        simp [sound.held was, unheld]
    case known => exact nofun
    case owned =>
      intro j worker works call member
      obtain ⟨before, was, rfl⟩ := before works
      refine sound.owned was call ?_
      split at member
      · exact member
      · exact member
    case standing =>
      rintro ticket ⟨query, asked, stage⟩ found
      cases sound.standing found with
      | notOpen => exact .notOpen
      | asked works owes =>
        refine .asked (after works) ?_
        split
        · exact owes.release
        · exact owes
    case waiting =>
      intro ticket caller found waits
      rw [idle_of_free free found] at waits
      cases waits
    case closing =>
      intro j closing
      rw [(isFree_iff.mp free).2.1] at closing
      cases closing
    case closings =>
      intro entry member
      obtain ⟨worker, works, result⟩ := sound.closings entry member
      refine ⟨_, after works, ?_⟩
      split
      · exact result
      · exact result
    case dropped =>
      intro dropped
      rw [(isFree_iff.mp free).1] at dropped
      cases dropped

theorem Sound.detached (sound : service.Sound capacity) {i : Nat}
    (held : service.current = some i) (free : service.isFree = true) :
    { service.release with closing := some i }.Sound capacity :=
  { sound.release free with
    closing := fun {j} awaited => by
      cases awaited
      exact ⟨release_current, by rw [length_workers_release]; exact sound.known held⟩
    dropped := fun dropped => by
      rw [release_dropped, (isFree_iff.mp free).1] at dropped
      cases dropped }

theorem Sound.dropping (sound : service.Sound capacity) (free : service.isFree = true) :
    { service.release with dropped := true }.Sound capacity :=
  { sound.release free with
    dropped := fun _ => ⟨release_current, by rw [release_closing]; exact (isFree_iff.mp free).2.1⟩ }

/-- The end of a worker is learnt. -/
theorem Sound.closed (sound : service.Sound capacity) {i : Nat} {worker : Worker}
    {result : Except Error Unit} (works : service.workers[i]? = some worker)
    (ended : worker.result? = some result) :
    { service with
      closing := none, closings := service.closings ++ [(i, result)] }.Sound capacity :=
  { sound with
    closing := nofun
    closings := fun entry member => by
      rcases List.mem_append.mp member with earlier | last
      · exact sound.closings entry earlier
      · obtain rfl := List.mem_singleton.mp last
        exact ⟨worker, works, ended⟩
    dropped := fun dropped => ⟨(sound.dropped dropped).1, rfl⟩ }

theorem Sound.closeLeft (sound : service.Sound capacity) :
    { service with closing := none }.Sound capacity :=
  { sound with
    closing := nofun
    dropped := fun dropped => ⟨(sound.dropped dropped).1, rfl⟩ }

/-! ## Callers and workers -/

theorem Sound.asked (sound : service.Sound capacity) (query : Query) :
    { service with
      callers := service.callers ++ [Caller.mk query service.current
        (if service.isOpen then .forRoom else .returned (.error .notOpen))] }.Sound capacity := by
  constructor
  case bound => exact sound.bound
  case positive => exact sound.positive
  case workers => exact sound.workers
  case held => exact sound.held
  case known => exact sound.known
  case owned =>
    intro i worker works call member
    obtain ⟨stage, found, entered⟩ := sound.owned works call member
    exact ⟨stage, getElem?_of_before found _, entered⟩
  case standing =>
    intro ticket caller found
    rcases getElem?_concat_cases found with earlier | ⟨rfl, rfl⟩
    · exact sound.standing earlier
    · cases current : service.current with
      | none =>
        rw [isOpen, current]
        exact .notOpen
      | some i =>
        rw [isOpen, current]
        refine .asked (List.getElem?_eq_getElem (sound.known current)) (.forRoom fun member => ?_)
        obtain ⟨call, entered, same⟩ := List.mem_map.mp member
        obtain ⟨stage, found, -⟩ :=
          sound.owned (List.getElem?_eq_getElem (sound.known current)) call entered
        have inside := (List.getElem?_eq_some_iff.mp found).1
        simp only [same] at inside
        exact Nat.lt_irrefl _ inside
  case waiting =>
    intro ticket caller found waits
    rcases getElem?_concat_cases found with earlier | ⟨-, rfl⟩
    · exact sound.waiting earlier waits
    · rfl
  case closing => exact sound.closing
  case closings => exact sound.closings
  case dropped => exact sound.dropped

theorem getElem?_restaged {callers : List Caller} {restage : Nat → Stage → Stage} {ticket : Nat}
    {caller : Caller} (found : (restaged callers restage)[ticket]? = some caller) :
    ∃ stage, callers[ticket]? = some ⟨caller.query, caller.worker, stage⟩ ∧
      caller.stage = restage ticket stage := by
  rw [restaged, List.getElem?_mapIdx, Option.map_eq_some_iff] at found
  obtain ⟨⟨query, worker, stage⟩, found, rfl⟩ := found
  exact ⟨stage, found, rfl⟩

/-- What may happen to callers while one worker goes on: those that stand with it go on as
it owes them, and the others stay. Nobody begins to wait. -/
structure Restages (service : Service) (i : Nat) (worker next : Worker)
    (restage : Nat → Stage → Stage) : Prop where
  entered : ∀ call ∈ next.accepted, call ∈ worker.accepted ∨
    service.callers[call.ticket]? = some ⟨call.query, some i, .forRoom⟩ ∧
      restage call.ticket .forRoom ≠ .forRoom
  inside : ∀ ticket stage, restage ticket stage = .forRoom → stage = .forRoom
  waits : ∀ {ticket query asked stage},
    service.callers[ticket]? = some ⟨query, asked, stage⟩ →
      (restage ticket stage).isWaiting = true → stage.isWaiting = true
  owes : ∀ {ticket query stage}, service.callers[ticket]? = some ⟨query, some i, stage⟩ →
    worker.Owes ⟨ticket, query⟩ stage → next.Owes ⟨ticket, query⟩ (restage ticket stage)
  others : ∀ {ticket query asked stage},
    service.callers[ticket]? = some ⟨query, asked, stage⟩ → asked ≠ some i →
      restage ticket stage = stage

/-- One worker goes on, and the callers that stand with it. -/
theorem Sound.progress (sound : service.Sound capacity) {i : Nat} {worker next : Worker}
    (works : service.workers[i]? = some worker) {restage : Nat → Stage → Stage}
    (soundNext : next.Sound capacity) (connected : next.connected = worker.connected)
    (ended : ∀ {result}, worker.result? = some result → next.result? = some result)
    (restages : service.Restages i worker next restage) :
    { service with
      workers := service.workers.set i next
      callers := restaged service.callers restage }.Sound capacity := by
  have within : i < service.workers.length := (List.getElem?_eq_some_iff.mp works).1
  have moved {j : Nat} {other : Worker} (found : (service.workers.set i next)[j]? = some other) :
      i = j ∧ other = next ∨ i ≠ j ∧ service.workers[j]? = some other := by
    by_cases same : i = j
    · subst same
      rw [List.getElem?_set_self within] at found
      exact .inl ⟨rfl, (Option.some.inj found).symm⟩
    · rw [List.getElem?_set_ne same] at found
      exact .inr ⟨same, found⟩
  have here : (service.workers.set i next)[i]? = some next := by
    rw [List.getElem?_set_self within]
  have there {j : Nat} {other : Worker} (apart : i ≠ j)
      (found : service.workers[j]? = some other) :
      (service.workers.set i next)[j]? = some other := by
    rw [List.getElem?_set_ne apart]
    exact found
  have staged {ticket : Nat} {query : Query} {asked : Option Nat} {stage : Stage}
      (found : service.callers[ticket]? = some ⟨query, asked, stage⟩) :
      (restaged service.callers restage)[ticket]? =
        some ⟨query, asked, restage ticket stage⟩ := by
    rw [restaged, List.getElem?_mapIdx, found]
    rfl
  constructor
  case bound => exact sound.bound
  case positive => exact sound.positive
  case workers =>
    intro j other found
    rcases moved found with ⟨rfl, rfl⟩ | ⟨-, found⟩
    · exact soundNext
    · exact sound.workers found
  case held =>
    intro j other found
    rcases moved found with ⟨rfl, rfl⟩ | ⟨-, found⟩
    · rw [connected]
      exact sound.held works
    · exact sound.held found
  case known =>
    intro j current
    rw [List.length_set]
    exact sound.known current
  case owned =>
    intro j other found call member
    rcases moved found with ⟨rfl, rfl⟩ | ⟨-, found⟩
    · rcases restages.entered call member with earlier | ⟨waited, leaves⟩
      · obtain ⟨stage, found, gone⟩ := sound.owned works call earlier
        exact ⟨_, staged found, fun same => gone (restages.inside _ _ same)⟩
      · exact ⟨_, staged waited, leaves⟩
    · obtain ⟨stage, found, gone⟩ := sound.owned found call member
      exact ⟨_, staged found, fun same => gone (restages.inside _ _ same)⟩
  case standing =>
    rintro ticket ⟨query, asked, later⟩ found
    obtain ⟨stage, found, rfl⟩ := getElem?_restaged found
    by_cases mine : asked = some i
    · subst mine
      cases sound.standing found with
      | asked found' owed =>
        obtain rfl := Option.some.inj (works.symm.trans found')
        exact .asked here (restages.owes found owed)
    · have same : restage ticket stage = stage := restages.others found mine
      simp only [same]
      cases sound.standing found with
      | notOpen => exact .notOpen
      | asked found' owed =>
        exact .asked (there (fun eq => mine (congrArg some eq.symm)) found') owed
  case waiting =>
    rintro ticket ⟨query, asked, later⟩ found still
    obtain ⟨stage, found, rfl⟩ := getElem?_restaged found
    have kept := sound.waiting found (restages.waits found still)
    exact kept
  case closing =>
    intro j closing
    rw [List.length_set]
    exact sound.closing closing
  case closings =>
    intro entry member
    obtain ⟨other, found, result⟩ := sound.closings entry member
    by_cases same : i = entry.1
    · subst same
      obtain rfl := Option.some.inj (works.symm.trans found)
      exact ⟨next, here, ended result⟩
    · exact ⟨other, there same found, result⟩
  case dropped => exact sound.dropped

theorem notice_none (stage : Stage) : stage.notice none = stage := by
  unfold Stage.notice
  split
  · contradiction
  · rfl

theorem notice_isWaiting (stage : Stage) (slot : Option Slot) :
    (stage.notice slot).isWaiting = stage.isWaiting := by
  unfold Stage.notice
  split <;> rfl

theorem forRoom_of_notice {stage : Stage} {slot : Option Slot}
    (same : stage.notice slot = .forRoom) : stage = .forRoom := by
  unfold Stage.notice at same
  split at same
  · cases same
  · exact same

/-- A move of a worker. -/
theorem Sound.moved (sound : service.Sound capacity) {i : Nat} {worker next : Worker}
    {slots : List (Nat × Slot)} (works : service.workers[i]? = some worker)
    (step : worker.Step next slots) :
    { service with
      workers := service.workers.set i next
      callers := restaged service.callers (noticing slots) }.Sound capacity := by
  have soundWorker := sound.workers works
  refine sound.progress works (soundWorker.step step) step.connected_eq ?_ ?_
  · intro result known
    cases step with
    | receive phase | drained phase | answer phase | panic phase | close phase
    | closePanic phase | unwind phase =>
      simp [Worker.result?, phase] at known
  · constructor
    case entered =>
      intro call member
      exact .inl (step.accepted_eq ▸ member)
    case inside =>
      exact fun _ _ same => forRoom_of_notice same
    case waits =>
      intro ticket query asked stage found waits
      rwa [noticing, notice_isWaiting] at waits
    case owes =>
      intro ticket query stage found owes
      exact owes.step soundWorker step
    case others =>
      intro ticket query asked stage found apart
      -- A slot that is touched is that of a query that entered here.
      cases touched : slots.lookup ticket with
      | none => rw [noticing, touched, notice_none]
      | some slot =>
        obtain ⟨call, waits, rfl⟩ := step.lookup touched
        obtain ⟨other, owned, -⟩ := sound.owned works call
          (soundWorker.state.pending_accepted.subset waits)
        rw [found] at owned
        cases owned
        exact absurd rfl apart

/-- A caller goes on while its worker does nothing but perhaps take its query in. -/
theorem Sound.staged (sound : service.Sound capacity) {ticket i : Nat} {worker next : Worker}
    {query : Query} {stage later : Stage}
    (caller : service.callers[ticket]? = some ⟨query, some i, stage⟩)
    (works : service.workers[i]? = some worker) (waits : stage.isWaiting = true)
    (leaves : later ≠ .forRoom) (owes : next.Owes ⟨ticket, query⟩ later)
    (onward : next = worker ∨
      stage = .forRoom ∧ next = worker.accept ⟨ticket, query⟩ ∧ next.Sound capacity) :
    { service.setStage ticket later with
      workers := service.workers.set i next }.Sound capacity := by
  have stays {other : Nat} {before : Stage} (apart : other ≠ ticket) :
      staging ticket later other before = before := if_neg apart
  have goes (before : Stage) : staging ticket later ticket before = later := if_pos rfl
  refine sound.progress works ?_ ?_ ?_ ?_
  · rcases onward with rfl | ⟨-, -, soundNext⟩
    · exact sound.workers works
    · exact soundNext
  · rcases onward with rfl | ⟨-, rfl, -⟩ <;> rfl
  · intro result known
    rcases onward with rfl | ⟨-, rfl, -⟩
    · exact known
    · exact known
  · constructor
    case entered =>
      intro call member
      rcases onward with rfl | ⟨rfl, rfl, -⟩
      · exact .inl member
      · rcases List.mem_append.mp member with earlier | last
        · exact .inl earlier
        · obtain rfl := List.mem_singleton.mp last
          exact .inr ⟨caller, by rw [goes]; exact leaves⟩
    case inside =>
      intro other before same
      unfold staging at same
      split at same
      · exact absurd same leaves
      · exact same
    case waits =>
      intro other asked at' before found still
      by_cases same : other = ticket
      · subst same
        rw [caller] at found
        cases found
        exact waits
      · rwa [stays same] at still
    case owes =>
      intro other asked before found owed
      by_cases same : other = ticket
      · subst same
        obtain ⟨rfl, -⟩ : query = asked ∧ stage = before := by
          rw [caller] at found
          cases found
          exact ⟨rfl, rfl⟩
        rwa [goes]
      · rw [stays same]
        rcases onward with rfl | ⟨-, rfl, -⟩
        · exact owed
        · exact owed.accept same
    case others =>
      intro other asked at' before found apart
      refine stays fun same => apart ?_
      subst same
      rw [caller] at found
      cases found
      rfl

/-- A caller goes on, and nothing else happens. -/
theorem Sound.setStage (sound : service.Sound capacity) {ticket i : Nat} {worker : Worker}
    {query : Query} {stage later : Stage}
    (caller : service.callers[ticket]? = some ⟨query, some i, stage⟩)
    (works : service.workers[i]? = some worker) (waits : stage.isWaiting = true)
    (leaves : later ≠ .forRoom) (owes : worker.Owes ⟨ticket, query⟩ later) :
    (service.setStage ticket later).Sound capacity := by
  have same : service.workers.set i worker = service.workers := by
    obtain ⟨inside, rfl⟩ := List.getElem?_eq_some_iff.mp works
    exact List.set_getElem_self inside
  have staged := sound.staged caller works waits leaves owes (.inl rfl)
  rwa [same] at staged

/-- Whoever waits asked a worker. -/
theorem Sound.standing_of_waiting (sound : service.Sound capacity) {ticket : Nat} {caller : Caller}
    (found : service.callers[ticket]? = some caller) (waits : caller.stage.isWaiting = true) :
    ∃ i worker, service.callers[ticket]? = some ⟨caller.query, some i, caller.stage⟩ ∧
      service.workers[i]? = some worker ∧ worker.Owes ⟨ticket, caller.query⟩ caller.stage := by
  obtain ⟨query, asked, stage⟩ := caller
  cases sound.standing found with
  | notOpen => cases waits
  | asked works owes => exact ⟨_, _, found, works, owes⟩

/-- The query of a caller at the door has not entered. -/
theorem Sound.outside (sound : service.Sound capacity) {ticket i : Nat} {query : Query}
    {worker : Worker} (caller : service.callers[ticket]? = some ⟨query, some i, .forRoom⟩)
    (works : service.workers[i]? = some worker) :
    ticket ∉ worker.accepted.map Call.ticket := by
  cases sound.standing caller with
  | asked found owes =>
    obtain rfl := Option.some.inj (works.symm.trans found)
    cases owes with
    | forRoom outside => exact outside

/-- Whoever waits stands with the worker that the service holds. -/
theorem Sound.connected (sound : service.Sound capacity) {ticket i : Nat} {query : Query}
    {stage : Stage} {worker : Worker}
    (caller : service.callers[ticket]? = some ⟨query, some i, stage⟩)
    (works : service.workers[i]? = some worker) (waits : stage.isWaiting = true) :
    worker.connected = true :=
  (sound.held works).mpr (sound.waiting caller waits).symm

/-! ## One event -/

section

variable {ticket i : Nat} {query : Query} {worker : Worker}

/-- A caller gets into the queue. -/
theorem Sound.entered (sound : service.Sound capacity)
    (caller : service.callers[ticket]? = some ⟨query, some i, .forRoom⟩)
    (works : service.workers[i]? = some worker) (present : worker.isGone = false)
    (room : worker.hasRoom = true) :
    { service.setStage ticket (.forReply .empty) with
      workers := service.workers.set i (worker.accept ⟨ticket, query⟩) }.Sound capacity := by
  have next := (sound.workers works).accept present (sound.connected caller works rfl) room
    ⟨ticket, query⟩ (sound.outside caller works)
  refine sound.staged caller works rfl nofun (.pending ?_) (.inr ⟨rfl, rfl, next⟩)
  rw [Worker.pending_accept]
  exact List.mem_append_right _ List.mem_cons_self

/-- A caller is sent away from a worker that is gone. -/
theorem Sound.refused (sound : service.Sound capacity)
    (caller : service.callers[ticket]? = some ⟨query, some i, .forRoom⟩)
    (works : service.workers[i]? = some worker) (gone : worker.isGone = true) :
    (service.setStage ticket (.returned (.error (.worker .stopped)))).Sound capacity := by
  obtain ⟨panicking, panics⟩ :=
    (sound.workers works).state.panics_of_gone gone (sound.connected caller works rfl)
  exact sound.setStage caller works rfl nofun (.stopped panics (sound.outside caller works))

/-- A caller takes the reply out of its slot. -/
theorem Sound.answered (sound : service.Sound capacity) {asked : Option Nat}
    {result : Except Error Rows}
    (caller : service.callers[ticket]? = some ⟨query, asked, .forReply (.filled result)⟩) :
    (service.setStage ticket (.returned result)).Sound capacity := by
  obtain ⟨i, worker, caller, works, owes⟩ := sound.standing_of_waiting caller rfl
  cases owes with
  | filled answers => exact sound.setStage caller works rfl nofun (.answered answers)

/-- A caller finds its slot dropped. -/
theorem Sound.unanswered (sound : service.Sound capacity) {asked : Option Nat}
    (caller : service.callers[ticket]? = some ⟨query, asked, .forReply .dropped⟩) :
    (service.setStage ticket (.returned (.error (.worker .droppedQuery)))).Sound capacity := by
  obtain ⟨i, worker, caller, works, owes⟩ := sound.standing_of_waiting caller rfl
  cases owes with
  | dropped lost => exact sound.setStage caller works rfl nofun (.lost lost)

theorem Sound.left (sound : service.Sound capacity) {caller : Caller}
    (found : service.callers[ticket]? = some caller) (waits : caller.stage.isWaiting = true) :
    (service.setStage ticket .left).Sound capacity := by
  obtain ⟨i, worker, caller, works, -⟩ := sound.standing_of_waiting found waits
  exact sound.setStage caller works waits nofun .left

end

/-- Whatever happens to a sound service leaves it sound. -/
theorem Sound.happens (sound : service.Sound capacity) {event : Event}
    (happens : service.Happens event later) : later.Sound capacity := by
  cases happens with
  | opened free notOpen => exact sound.opened free (isOpen_eq_false_iff.mp notOpen) _
  | asked => exact sound.asked _
  | entered caller works present room => exact sound.entered caller works present room
  | refused caller works gone => exact sound.refused caller works gone
  | answered caller => exact sound.answered caller
  | unanswered caller => exact sound.unanswered caller
  | left found waits => exact sound.left found waits
  | moved works step => exact sound.moved works step
  | detached held free => exact sound.detached held free
  | closed awaited works ended => exact sound.closed works ended
  | closeLeft => exact sound.closeLeft
  | dropped free => exact sound.dropping free

end Service

end ClaimLedger.BlockIndex
