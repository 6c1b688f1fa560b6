import ClaimLedger.BlockIndex.Service
import Mathlib.Data.List.Infix
import Mathlib.Data.List.Nodup

/-! What a worker does to its store. However its queue fills while it moves, the store sees
what it would see if the queries had been asked one after the other, in the order they
entered, and were followed by one closing: the log of the worker is always a front of this
history, and all of it once the worker is gone. Every query that waits is answered with the
entry that is its own, or dropped after a panic. -/
namespace ClaimLedger.BlockIndex

/-! ## Histories of a store -/

/-- Whether the store panicked there. -/
def Entry.isPanic : Entry → Bool
  | query _ outcome => outcome.isNone
  | close outcome => outcome.isNone

namespace Store

/-- What a store does when it is asked these calls one after the other and is then closed,
up to the first panic. -/
def history (store : Store) : (earlier : List Query) → List Call → List Entry
  | earlier, [] => [.close (store.close earlier)]
  | earlier, call :: calls =>
    match store.answer earlier call.query with
    | some result => .query call (some result) :: store.history (earlier ++ [call.query]) calls
    | none => [.query call none]

/-- The store answered these calls, one after the other, and this is the log. -/
inductive Answered (store : Store) : List Call → List Entry → Prop where
  | nil : Answered store [] []
  | snoc {calls : List Call} {log : List Entry} {call : Call} {result : Except Error Rows}
      (before : Answered store calls log)
      (answers : store.answer (calls.map Call.query) call.query = some result) :
      Answered store (calls ++ [call]) (log ++ [.query call (some result)])

variable {store : Store} {calls : List Call} {log : List Entry}

theorem Answered.asked (answered : store.Answered calls log) :
    log.filterMap Entry.query? = calls.map Call.query := by
  induction answered with
  | nil => rfl
  | snoc before answers ih => simp [ih, Entry.query?]

theorem Answered.mem_of_log (answered : store.Answered calls log) {call : Call}
    {outcome : Option (Except Error Rows)} (member : .query call outcome ∈ log) :
    call ∈ calls ∧ outcome.isSome = true := by
  induction answered with
  | nil => cases member
  | snoc before answers ih =>
    rcases List.mem_append.mp member with earlier | last
    · exact ⟨List.mem_append_left _ (ih earlier).1, (ih earlier).2⟩
    · cases List.mem_singleton.mp last
      exact ⟨List.mem_append_right _ List.mem_cons_self, rfl⟩

/-- What was answered is the front of the history, and what follows does not depend on the
answers. -/
theorem Answered.history_append (answered : store.Answered calls log) (rest : List Call) :
    store.history [] (calls ++ rest) = log ++ store.history (calls.map Call.query) rest := by
  induction answered generalizing rest with
  | nil => rfl
  | snoc before answers ih => simp [ih, history, answers]

theorem Answered.history_panic (answered : store.Answered calls log) {call : Call}
    (panics : store.answer (calls.map Call.query) call.query = none) (rest : List Call) :
    store.history [] (calls ++ call :: rest) = log ++ [.query call none] := by
  rw [answered.history_append]
  simp [history, panics]

theorem Answered.history_closed (answered : store.Answered calls log) :
    store.history [] calls = log ++ [.close (store.close (calls.map Call.query))] := by
  have whole := answered.history_append []
  rwa [List.append_nil] at whole

end Store

namespace Worker

/-! ## Moves -/

/-- The moves of a worker, one by one. -/
inductive Step (worker : Worker) : Worker → List (Nat × Slot) → Prop where
  | receive {call : Call} {rest : List Call} (phase : worker.phase = .receiving)
      (waits : worker.queue = call :: rest) :
      Step worker { worker with queue := rest, phase := .executing call } []
  | drained (phase : worker.phase = .receiving) (empty : worker.queue = [])
      (released : worker.connected = false) : Step worker { worker with phase := .closing } []
  | answer {call : Call} {result : Except Error Rows} (phase : worker.phase = .executing call)
      (answers : worker.store.answer worker.asked call.query = some result) :
      Step worker
        { worker with log := worker.log ++ [.query call (some result)], phase := .receiving }
        [(call.ticket, .filled result)]
  | panic {call : Call} (phase : worker.phase = .executing call)
      (panics : worker.store.answer worker.asked call.query = none) :
      Step worker { worker with log := worker.log ++ [.query call none], phase := .unwinding }
        [(call.ticket, .dropped)]
  | close {result : Except Error Unit} (phase : worker.phase = .closing)
      (closes : worker.store.close worker.asked = some result) :
      Step worker
        { worker with log := worker.log ++ [.close (some result)], phase := .finished result } []
  | closePanic (phase : worker.phase = .closing)
      (panics : worker.store.close worker.asked = none) :
      Step worker { worker with log := worker.log ++ [.close none], phase := .panicked } []
  | unwind (phase : worker.phase = .unwinding) :
      Step worker { worker with queue := [], phase := .panicked }
        (worker.queue.map fun call => (call.ticket, .dropped))

variable {worker later : Worker} {slots : List (Nat × Slot)}

theorem step_of_move? (moves : worker.move? = some (later, slots)) : worker.Step later slots := by
  unfold move? at moves
  split at moves
  case h_1 phase call rest receiving waits =>
    cases moves
    exact .receive receiving waits
  case h_2 phase receiving empty =>
    split at moves
    · cases moves
    · rename_i released
      cases moves
      exact .drained receiving empty (by simpa using released)
  case h_3 phase waiting call executing =>
    cases outcome : worker.store.answer worker.asked call.query with
    | some result =>
      simp only [outcome] at moves
      cases moves
      exact .answer executing outcome
    | none =>
      simp only [outcome] at moves
      cases moves
      exact .panic executing outcome
  case h_4 phase waiting closing =>
    cases outcome : worker.store.close worker.asked with
    | some result =>
      simp only [outcome] at moves
      cases moves
      exact .close closing outcome
    | none =>
      simp only [outcome] at moves
      cases moves
      exact .closePanic closing outcome
  case h_5 phase waiting unwinding =>
    cases moves
    exact .unwind unwinding
  case h_6 => cases moves
  case h_7 => cases moves

theorem move?_eq_some_iff : worker.move? = some (later, slots) ↔ worker.Step later slots := by
  constructor
  · exact step_of_move?
  · intro step
    cases step with
    | receive phase waits => simp only [move?, phase, waits]
    | drained phase empty released => simp [move?, phase, empty, released]
    | answer phase answers | panic phase answers => simp only [move?, phase, answers]
    | close phase closes | closePanic phase closes => simp only [move?, phase, closes]
    | unwind phase => simp only [move?, phase]

/-- A worker that does not move waits for queries that can still come, or is gone. -/
theorem move?_eq_none_iff :
    worker.move? = none ↔
      (worker.phase = .receiving ∧ worker.queue = [] ∧ worker.connected = true) ∨
        worker.isGone = true := by
  unfold move? isGone
  cases phase : worker.phase with
  | receiving =>
    cases waits : worker.queue with
    | nil => cases worker.connected <;> simp
    | cons call rest => simp
  | executing call => cases outcome : worker.store.answer worker.asked call.query <;> simp [outcome]
  | closing => cases worker.store.close worker.asked <;> simp
  | unwinding => simp
  | finished result => simp
  | panicked => simp

theorem Step.movesLeft_lt (step : worker.Step later slots) :
    later.movesLeft < worker.movesLeft := by
  cases step with
  | receive phase waits =>
    simp only [movesLeft, phase, waits, List.length_cons]
    omega
  | drained phase empty released => simp [movesLeft, phase, empty]
  | answer phase answers => simp [movesLeft, phase]
  | panic phase panics =>
    simp only [movesLeft, phase]
    omega
  | close phase closes => simp [movesLeft, phase]
  | closePanic phase panics => simp [movesLeft, phase]
  | unwind phase => simp [movesLeft, phase]

/-! ## Between moves -/

/-- What the log and the queue are in each phase, given everything that ever entered. -/
inductive State (worker : Worker) : Phase → Prop where
  | receiving {served : List Call} (log : worker.store.Answered served worker.log)
      (accepted : worker.accepted = served ++ worker.queue) : State worker .receiving
  | executing {served : List Call} {call : Call} (log : worker.store.Answered served worker.log)
      (accepted : worker.accepted = served ++ call :: worker.queue) :
      State worker (.executing call)
  | closing (log : worker.store.Answered worker.accepted worker.log) (empty : worker.queue = [])
      (released : worker.connected = false) : State worker .closing
  | unwinding {served : List Call} {call : Call} {log : List Entry}
      (answered : worker.store.Answered served log)
      (panics : worker.store.answer (served.map Call.query) call.query = none)
      (ends : worker.log = log ++ [.query call none])
      (accepted : worker.accepted = served ++ call :: worker.queue) : State worker .unwinding
  | finished {log : List Entry} {result : Except Error Unit}
      (answered : worker.store.Answered worker.accepted log)
      (closes : worker.store.close (worker.accepted.map Call.query) = some result)
      (ends : worker.log = log ++ [.close (some result)]) (empty : worker.queue = [])
      (released : worker.connected = false) : State worker (.finished result)
  | panicked {served lost : List Call} {call : Call} {log : List Entry}
      (answered : worker.store.Answered served log)
      (panics : worker.store.answer (served.map Call.query) call.query = none)
      (ends : worker.log = log ++ [.query call none])
      (accepted : worker.accepted = served ++ call :: lost) (empty : worker.queue = []) :
      State worker .panicked
  | closePanicked {log : List Entry} (answered : worker.store.Answered worker.accepted log)
      (panics : worker.store.close (worker.accepted.map Call.query) = none)
      (ends : worker.log = log ++ [.close none]) (empty : worker.queue = [])
      (released : worker.connected = false) : State worker .panicked

theorem state_start (store : Store) (capacity : Nat) :
    (start store capacity).State (start store capacity).phase := .receiving .nil rfl

theorem asked_eq {served : List Call} (log : worker.store.Answered served worker.log) :
    worker.asked = served.map Call.query := log.asked

/-- Moves lead from one such state to another. -/
theorem State.step (state : worker.State worker.phase) (step : worker.Step later slots) :
    later.State later.phase := by
  cases step with
  | receive phase waits =>
    rw [phase] at state
    cases state with
    | receiving log accepted => exact .executing log (waits ▸ accepted)
  | drained phase empty released =>
    rw [phase] at state
    cases state with
    | receiving log accepted =>
      rw [empty, List.append_nil] at accepted
      exact .closing (accepted ▸ log) empty released
  | answer phase answers =>
    rw [phase] at state
    cases state with
    | executing log accepted =>
      rw [asked_eq log] at answers
      exact .receiving (log.snoc answers) (by simpa using accepted)
  | panic phase panics =>
    rw [phase] at state
    cases state with
    | executing log accepted =>
      rw [asked_eq log] at panics
      exact .unwinding log panics rfl accepted
  | close phase closes =>
    rw [phase] at state
    cases state with
    | closing log empty released =>
      rw [asked_eq log] at closes
      exact .finished log closes rfl empty released
  | closePanic phase panics =>
    rw [phase] at state
    cases state with
    | closing log empty released =>
      rw [asked_eq log] at panics
      exact .closePanicked log panics rfl empty released
  | unwind phase =>
    rw [phase] at state
    cases state with
    | unwinding answered panics ends accepted => exact .panicked answered panics ends accepted rfl

/-- Queries enter only while the service holds the worker. -/
theorem State.accept (state : worker.State worker.phase) (present : worker.isGone = false)
    (held : worker.connected = true) (call : Call) :
    (worker.accept call).State (worker.accept call).phase := by
  show (worker.accept call).State worker.phase
  unfold isGone at present
  generalize worker.phase = phase at state present
  cases state with
  | receiving log accepted => exact .receiving log (by simp [Worker.accept, accepted])
  | executing log accepted => exact .executing log (by simp [Worker.accept, accepted])
  | closing log empty released =>
    rw [held] at released
    cases released
  | unwinding answered panics ends accepted =>
    exact .unwinding answered panics ends (by simp [Worker.accept, accepted])
  | finished => cases present
  | panicked => cases present
  | closePanicked => cases present

/-- The service may let the worker go at any time. -/
theorem State.release {phase : Phase} (state : worker.State phase) :
    { worker with connected := false }.State phase := by
  cases state with
  | receiving log accepted => exact .receiving log accepted
  | executing log accepted => exact .executing log accepted
  | closing log empty released => exact .closing log empty rfl
  | unwinding answered panics ends accepted => exact .unwinding answered panics ends accepted
  | finished answered closes ends empty released => exact .finished answered closes ends empty rfl
  | panicked answered panics ends accepted empty =>
    exact .panicked answered panics ends accepted empty
  | closePanicked answered panics ends empty released =>
    exact .closePanicked answered panics ends empty rfl

/-! ## What the store saw -/

/-- The log is a front of the history of everything that entered. -/
theorem State.log_prefix {phase : Phase} (state : worker.State phase) :
    worker.log <+: worker.store.history [] worker.accepted := by
  cases state with
  | receiving log accepted =>
    rw [accepted, log.history_append]
    exact List.prefix_append _ _
  | executing log accepted =>
    rw [accepted, log.history_append]
    exact List.prefix_append _ _
  | closing log empty released =>
    rw [log.history_closed]
    exact List.prefix_append _ _
  | unwinding answered panics ends accepted =>
    rw [accepted, answered.history_panic panics, ← ends]
  | finished answered closes ends empty released =>
    rw [answered.history_closed, closes, ← ends]
  | panicked answered panics ends accepted empty =>
    rw [accepted, answered.history_panic panics, ← ends]
  | closePanicked answered panics ends empty released =>
    rw [answered.history_closed, panics, ← ends]

/-- A worker with nothing to do: it has served all that entered and more can come, or it has
closed its store, or its store panicked. -/
inductive AtRest (worker : Worker) : Prop where
  | idle (held : worker.connected = true) (phase : worker.phase = .receiving)
      (empty : worker.queue = [])
      (served : worker.log ++ [.close (worker.store.close worker.asked)] =
        worker.store.history [] worker.accepted)
  | finished {result : Except Error Unit} (phase : worker.phase = .finished result)
      (served : worker.log = worker.store.history [] worker.accepted)
      (last : worker.log.getLast? = some (.close (some result)))
  | panicked {entry : Entry} (phase : worker.phase = .panicked)
      (served : worker.log = worker.store.history [] worker.accepted)
      (last : worker.log.getLast? = some entry) (panics : entry.isPanic = true)

theorem State.atRest (state : worker.State worker.phase) (rests : worker.move? = none) :
    worker.AtRest := by
  have settled := move?_eq_none_iff.mp rests
  unfold isGone at settled
  generalize eq : worker.phase = phase at state settled
  cases state with
  | receiving log accepted =>
    rcases settled with ⟨-, empty, held⟩ | gone
    · rw [empty, List.append_nil] at accepted
      rw [← accepted] at log
      refine .idle held eq empty ?_
      rw [log.history_closed, asked_eq log]
    · cases gone
  | finished answered closes ends empty released =>
    refine .finished eq ?_ (by rw [ends]; simp)
    rw [answered.history_closed, closes, ← ends]
  | panicked answered panics ends accepted empty =>
    refine .panicked eq ?_ (by rw [ends]; exact List.getLast?_concat) rfl
    rw [accepted, answered.history_panic panics, ← ends]
  | closePanicked answered panics ends empty released =>
    refine .panicked eq ?_ (by rw [ends]; exact List.getLast?_concat) rfl
    rw [answered.history_closed, panics, ← ends]
  | _ =>
    rcases settled with ⟨receiving, -⟩ | gone
    · cases receiving
    · cases gone

/-! ## What becomes of a query -/

/-- Queries that entered and have no answer yet. -/
def pending (worker : Worker) : List Call :=
  match worker.phase with
  | .executing call => call :: worker.queue
  | _ => worker.queue

/-- The store panicked at the query or at one that entered before it. -/
def Lost (worker : Worker) (call : Call) : Prop :=
  ∃ before panicking behind, worker.accepted = before ++ panicking :: behind ∧
    .query panicking none ∈ worker.log ∧ call ∈ panicking :: behind

/-- The worker later on. -/
structure Onward (worker later : Worker) : Prop where
  store : later.store = worker.store
  capacity : later.capacity = worker.capacity
  accepted : worker.accepted <+: later.accepted
  log : worker.log <+: later.log

theorem Step.accepted_eq (step : worker.Step later slots) : later.accepted = worker.accepted := by
  cases step <;> rfl

theorem Step.connected_eq (step : worker.Step later slots) :
    later.connected = worker.connected := by
  cases step <;> rfl

theorem Step.onward (step : worker.Step later slots) : worker.Onward later := by
  cases step with
  | receive | drained | unwind => exact ⟨rfl, rfl, List.prefix_refl _, List.prefix_refl _⟩
  | answer | panic | close | closePanic =>
    exact ⟨rfl, rfl, List.prefix_refl _, List.prefix_append _ _⟩

theorem Onward.accept (worker : Worker) (call : Call) : worker.Onward (worker.accept call) :=
  ⟨rfl, rfl, List.prefix_append _ _, List.prefix_refl _⟩

theorem Lost.onward {call : Call} (lost : worker.Lost call) (onward : worker.Onward later) :
    later.Lost call := by
  obtain ⟨before, panicking, behind, accepted, panics, member⟩ := lost
  obtain ⟨more, extended⟩ := onward.accepted
  refine ⟨before, panicking, behind ++ more, ?_, onward.log.subset panics, ?_⟩
  · rw [← extended, accepted, List.append_assoc, List.cons_append]
  · exact List.mem_append_left more member

theorem State.pending_accepted (state : worker.State worker.phase) :
    worker.pending <:+ worker.accepted := by
  unfold pending
  generalize worker.phase = phase at state
  cases state with
  | receiving log accepted => exact ⟨_, accepted.symm⟩
  | executing log accepted => exact ⟨_, accepted.symm⟩
  | unwinding answered panics ends accepted =>
    exact accepted ▸ (List.suffix_cons _ _).trans (List.suffix_append _ _)
  | closing log empty | finished answered closes ends empty
  | panicked answered panics ends accepted empty | closePanicked answered panics ends empty =>
    simp only [empty]
    exact List.nil_suffix

/-- Nothing is pending at a worker with nothing to do. -/
theorem State.pending_nil (state : worker.State worker.phase) (rests : worker.move? = none) :
    worker.pending = [] := by
  have settled := move?_eq_none_iff.mp rests
  unfold isGone at settled
  unfold pending
  generalize worker.phase = phase at state settled
  cases state with
  | receiving =>
    rcases settled with ⟨-, empty, -⟩ | gone
    · exact empty
    · cases gone
  | executing | closing | unwinding =>
    rcases settled with ⟨receiving, -⟩ | gone
    · cases receiving
    · cases gone
  | finished answered closes ends empty | panicked answered panics ends accepted empty
  | closePanicked answered panics ends empty => exact empty

theorem lookup_dropped {calls : List Call} {ticket : Nat} :
    (calls.map fun call => (call.ticket, Slot.dropped)).lookup ticket =
      if ticket ∈ calls.map Call.ticket then some .dropped else none := by
  induction calls with
  | nil => rfl
  | cons call calls ih =>
    simp only [List.map_cons, List.lookup_cons, ih, List.mem_cons]
    by_cases same : ticket = call.ticket
    · simp [same]
    · have differs : (ticket == call.ticket) = false := by simpa using same
      simp [same, differs]

/-- A pending query stays pending, or its slot is filled with the answer to it, or dropped
because the store panicked at it or before. -/
theorem Step.pending (step : worker.Step later slots) (state : worker.State worker.phase)
    (once : (worker.accepted.map Call.ticket).Nodup) {call : Call} (waits : call ∈ worker.pending) :
    (slots.lookup call.ticket = none ∧ call ∈ later.pending) ∨
      (∃ result, slots.lookup call.ticket = some (.filled result) ∧
        .query call (some result) ∈ later.log) ∨
      (slots.lookup call.ticket = some .dropped ∧ later.Lost call) := by
  have distinct : (worker.pending.map Call.ticket).Nodup :=
    once.sublist (state.pending_accepted.sublist.map _)
  -- Whoever waits behind the query in execution has another ticket.
  have behind {running : Call} (phase : worker.phase = .executing running)
      (waits : call ∈ worker.queue) : (call.ticket == running.ticket) = false := by
    rw [Worker.pending, phase, List.map_cons, List.nodup_cons] at distinct
    have other : call.ticket ≠ running.ticket := fun same =>
      distinct.1 (same ▸ List.mem_map_of_mem waits)
    simpa using other
  cases step with
  | receive phase queue =>
    rw [Worker.pending, phase, queue] at waits
    exact .inl ⟨rfl, waits⟩
  | drained phase empty released =>
    rw [Worker.pending, phase, empty] at waits
    cases waits
  | @answer running result phase answers =>
    rw [Worker.pending, phase] at waits
    rcases List.mem_cons.mp waits with rfl | waits
    · exact .inr (.inl ⟨result, by simp, by simp⟩)
    · exact .inl ⟨by simp [List.lookup_cons, behind phase waits], waits⟩
  | panic phase panics =>
    rw [Worker.pending, phase] at waits
    rcases List.mem_cons.mp waits with rfl | waits
    · rw [phase] at state
      cases state with
      | executing log accepted =>
        exact .inr (.inr ⟨by simp, _, _, _, accepted, by simp, List.mem_cons_self⟩)
    · exact .inl ⟨by simp [List.lookup_cons, behind phase waits], waits⟩
  | close phase closes | closePanic phase panics =>
    rw [phase] at state
    cases state with
    | closing log empty released =>
      rw [Worker.pending, phase, empty] at waits
      cases waits
  | unwind phase =>
    rw [Worker.pending, phase] at waits
    have dropped : call.ticket ∈ worker.queue.map Call.ticket := List.mem_map_of_mem waits
    rw [phase] at state
    cases state with
    | unwinding answered panics ends accepted =>
      refine .inr (.inr ⟨by rw [lookup_dropped, if_pos dropped], _, _, _, accepted, ?_, ?_⟩)
      · rw [ends]
        simp
      · exact List.mem_cons_of_mem _ waits

/-- Only slots of pending queries are touched. -/
theorem Step.lookup (step : worker.Step later slots) {ticket : Nat} {slot : Slot}
    (touched : slots.lookup ticket = some slot) :
    ∃ call ∈ worker.pending, call.ticket = ticket := by
  cases step with
  | receive | drained | close | closePanic => cases touched
  | answer phase | panic phase =>
    rw [Worker.pending, phase]
    rw [List.lookup_cons] at touched
    split at touched
    · rename_i same
      exact ⟨_, List.mem_cons_self, (eq_of_beq same).symm⟩
    · cases touched
  | unwind phase =>
    rw [Worker.pending, phase]
    rw [lookup_dropped] at touched
    split at touched
    · rename_i member
      obtain ⟨call, waits, same⟩ := List.mem_map.mp member
      exact ⟨call, waits, same⟩
    · cases touched

/-! ## Sound workers -/

/-- A worker that kept to its queue: it never held more than the capacity, and no query
entered twice. -/
structure Sound (worker : Worker) (capacity : Nat) : Prop where
  state : worker.State worker.phase
  bound : worker.capacity = capacity
  fits : worker.queue.length ≤ capacity
  once : (worker.accepted.map Call.ticket).Nodup

theorem sound_start (store : Store) (capacity : Nat) : (start store capacity).Sound capacity :=
  ⟨state_start store capacity, rfl, Nat.zero_le _, List.nodup_nil⟩

theorem Sound.step {capacity : Nat} (sound : worker.Sound capacity)
    (step : worker.Step later slots) : later.Sound capacity where
  state := sound.state.step step
  bound := step.onward.capacity.trans sound.bound
  fits := by
    have fits := sound.fits
    cases step with
    | receive phase waits =>
      rw [waits] at fits
      exact Nat.le_of_succ_le fits
    | unwind phase => exact Nat.zero_le _
    | _ => exact fits
  once := step.accepted_eq ▸ sound.once

theorem Sound.accept {capacity : Nat} (sound : worker.Sound capacity)
    (present : worker.isGone = false) (held : worker.connected = true)
    (room : worker.hasRoom = true) (call : Call)
    (outside : call.ticket ∉ worker.accepted.map Call.ticket) :
    (worker.accept call).Sound capacity where
  state := sound.state.accept present held call
  bound := sound.bound
  fits := by
    have room : worker.queue.length < worker.capacity := by simpa [hasRoom] using room
    rw [sound.bound] at room
    rw [Worker.accept, List.length_append]
    exact room
  once := by
    rw [Worker.accept, List.map_append, List.map_singleton, List.nodup_append]
    refine ⟨sound.once, List.nodup_singleton _, fun ticket member other last same => ?_⟩
    rw [List.mem_singleton] at last
    exact outside (last ▸ same ▸ member)

theorem Sound.release {capacity : Nat} (sound : worker.Sound capacity) :
    { worker with connected := false }.Sound capacity :=
  ⟨sound.state.release, sound.bound, sound.fits, sound.once⟩

theorem pending_accept (worker : Worker) (call : Call) :
    (worker.accept call).pending = worker.pending ++ [call] := by
  unfold pending accept
  cases worker.phase <;> rfl

/-- After a panic the log is what was answered before it, and the panic. -/
theorem State.panicked_at {phase : Phase} (state : worker.State phase) {panicking : Call}
    (panics : .query panicking none ∈ worker.log) :
    ∃ served log behind, worker.store.Answered served log ∧
      worker.log = log ++ [.query panicking none] ∧
      worker.accepted = served ++ panicking :: behind := by
  have elsewhere {calls : List Call} {log : List Entry}
      (answered : worker.store.Answered calls log) : .query panicking none ∉ log :=
    fun member => by cases (answered.mem_of_log member).2
  cases state with
  | receiving log | executing log | closing log => exact absurd panics (elsewhere log)
  | finished answered closes ends | closePanicked answered closes ends =>
    rw [ends, List.mem_append] at panics
    rcases panics with earlier | last
    · exact absurd earlier (elsewhere answered)
    · cases List.mem_singleton.mp last
  | unwinding answered refuses ends accepted | panicked answered refuses ends accepted =>
    rw [ends, List.mem_append] at panics
    rcases panics with earlier | last
    · exact absurd earlier (elsewhere answered)
    · cases List.mem_singleton.mp last
      exact ⟨_, _, _, answered, ends, accepted⟩

/-- A worker that is gone while the service still holds it panicked over a query. -/
theorem State.panics_of_gone (state : worker.State worker.phase) (gone : worker.isGone = true)
    (held : worker.connected = true) : ∃ panicking, .query panicking none ∈ worker.log := by
  unfold isGone at gone
  generalize worker.phase = phase at state gone
  cases state with
  | @panicked served lost call log answered panics ends =>
    exact ⟨call, by rw [ends]; exact List.mem_append_right _ List.mem_cons_self⟩
  | finished answered closes ends empty released
  | closePanicked answered panics ends empty released =>
    rw [held] at released
    cases released
  | receiving | executing | closing | unwinding => cases gone

/-- A query that was lost in a panic has no answer. -/
theorem Sound.lost_unanswered {capacity : Nat} (sound : worker.Sound capacity) {call : Call}
    (lost : worker.Lost call) (result : Except Error Rows) :
    .query call (some result) ∉ worker.log := by
  obtain ⟨before, panicking, behind, accepted, panics, member⟩ := lost
  obtain ⟨served, log, rest, answered, ends, split⟩ := sound.state.panicked_at panics
  have once : (before ++ panicking :: behind).Nodup := accepted ▸ sound.once.of_map
  obtain ⟨first, later, apart⟩ := List.nodup_append.mp once
  -- A query stands in one place of the queue, so what was served is what entered before.
  obtain ⟨rfl, -, rfl⟩ := (List.append_cons_inj_of_notMem
    (fun member => apart _ member _ List.mem_cons_self rfl) (List.nodup_cons.mp later).1).mp
    (accepted.symm.trans split)
  intro answer
  rw [ends, List.mem_append] at answer
  rcases answer with earlier | last
  · exact apart _ (answered.mem_of_log earlier).1 _ member rfl
  · cases List.mem_singleton.mp last

/-! ## Where a caller stands -/

/-- What a worker holds for a caller at a stage: nothing yet, its query, the answer to its
query, or a panic at it or before. -/
inductive Owes (worker : Worker) (call : Call) : Stage → Prop where
  | forRoom (outside : call.ticket ∉ worker.accepted.map Call.ticket) :
      Owes worker call .forRoom
  | pending (waits : call ∈ worker.pending) : Owes worker call (.forReply .empty)
  | filled {result : Except Error Rows} (answers : .query call (some result) ∈ worker.log) :
      Owes worker call (.forReply (.filled result))
  | dropped (lost : worker.Lost call) : Owes worker call (.forReply .dropped)
  | answered {result : Except Error Rows} (answers : .query call (some result) ∈ worker.log) :
      Owes worker call (.returned result)
  | lost (lost : worker.Lost call) : Owes worker call (.returned (.error (.worker .droppedQuery)))
  | stopped {panicking : Call} (panics : .query panicking none ∈ worker.log)
      (outside : call.ticket ∉ worker.accepted.map Call.ticket) :
      Owes worker call (.returned (.error (.worker .stopped)))
  | left : Owes worker call .left

variable {call : Call} {stage : Stage}

/-- A caller stands as before when its worker goes on, unless its query enters or is taken
care of. -/
theorem Owes.onward (owes : worker.Owes call stage) (onward : worker.Onward later)
    (outside : call.ticket ∈ later.accepted.map Call.ticket →
      call.ticket ∈ worker.accepted.map Call.ticket)
    (pending : stage = .forReply .empty → call ∈ worker.pending → call ∈ later.pending) :
    later.Owes call stage := by
  cases owes with
  | forRoom absent => exact .forRoom (absent ∘ outside)
  | pending waits => exact .pending (pending rfl waits)
  | filled answers => exact .filled (onward.log.subset answers)
  | dropped lost => exact .dropped (lost.onward onward)
  | answered answers => exact .answered (onward.log.subset answers)
  | lost lost => exact .lost (lost.onward onward)
  | stopped panics absent => exact .stopped (onward.log.subset panics) (absent ∘ outside)
  | left => exact .left

/-- What a move does to the slot of a caller is what the caller is owed. -/
theorem Owes.step {capacity : Nat} (owes : worker.Owes call stage) (sound : worker.Sound capacity)
    (step : worker.Step later slots) :
    later.Owes call (stage.notice (slots.lookup call.ticket)) := by
  have same : call.ticket ∈ later.accepted.map Call.ticket →
      call.ticket ∈ worker.accepted.map Call.ticket := by
    rw [step.accepted_eq]
    exact id
  have still (noticed : stage ≠ .forReply .empty) : later.Owes call stage :=
    owes.onward step.onward same fun empty => absurd empty noticed
  cases owes with
  | pending waits =>
    rcases step.pending sound.state sound.once waits with
      ⟨untouched, still⟩ | ⟨result, filled, answers⟩ | ⟨dropped, lost⟩
    · rw [untouched]
      exact .pending still
    · rw [filled]
      exact .filled answers
    · rw [dropped]
      exact .dropped lost
  | _ => exact still nofun

/-- Another query that enters is no matter. -/
theorem Owes.accept (owes : worker.Owes call stage) {entering : Call}
    (other : call.ticket ≠ entering.ticket) : (worker.accept entering).Owes call stage := by
  refine owes.onward (.accept worker entering) ?_ fun _ waits => ?_
  · rw [Worker.accept, List.map_append, List.mem_append]
    rintro (member | last)
    · exact member
    · exact absurd (List.mem_singleton.mp last) other
  · rw [pending_accept]
    exact List.mem_append_left _ waits

theorem Owes.release (owes : worker.Owes call stage) :
    { worker with connected := false }.Owes call stage :=
  owes.onward ⟨rfl, rfl, List.prefix_refl _, List.prefix_refl _⟩ id fun _ => id

end Worker

end ClaimLedger.BlockIndex
