import ChatFlow.Proofs.EventDelivery
/-
Events that are carried out alone while time stands still. The store answers what it answers, but for
one write of a session that may meet another writer; the services answer by what they were asked in
the attempt at hand, so that an attempt that asks the same once more is told the same. A lone event
is one that a worker can carry out while the others stand still.
-/

set_option autoImplicit false

namespace ChatFlow

namespace Program

variable {Call : Type} {Answer : Call → Type} {α β σ : Type}
  {answer : (request : Call) → σ → Except Fault (Answer request) × σ} {state later : σ}

/-! ### Running programs -/

theorem run_bind_ok {first : Program Answer β} {next : β → Program Answer α} {value : β}
    (ran : run answer first state = (.ok value, later)) :
    run answer (first >>= next) state = run answer (next value) later := by
  induction first generalizing state with
  | done value =>
      cases ran
      rfl
  | fail fault => cases ran
  | call request rest ih => exact ih _ ran

theorem run_bind_error {first : Program Answer β} {next : β → Program Answer α} {fault : Fault}
    (ran : run answer first state = (.error fault, later)) :
    run answer (first >>= next) state = (.error fault, later) := by
  induction first generalizing state with
  | done value => cases ran
  | fail fault =>
      cases ran
      rfl
  | call request rest ih => exact ih _ ran

theorem run_outcome (program : Program Answer α) (state : σ) :
    run answer (outcome program) state =
      (.ok (run answer program state).1, (run answer program state).2) := by
  induction program generalizing state with
  | done value => rfl
  | fail fault => rfl
  | call request next ih => exact ih _ _

theorem run_perform (request : Call) (state : σ) :
    run answer (perform request : Program Answer (Answer request)) state = answer request state := by
  show run answer _ (answer request state).2 = _
  cases told : answer request state with
  | mk reply later =>
      cases reply <;> rfl

theorem run_ofExcept (given : Except Fault α) (state : σ) :
    run answer (ofExcept given : Program Answer α) state = (given, state) := by
  cases given <;> rfl

theorem log_bind_ok {first : Program Answer β} {next : β → Program Answer α} {value : β}
    (ran : run answer first state = (.ok value, later)) :
    (first >>= next).log answer state = first.log answer state ++ (next value).log answer later := by
  induction first generalizing state with
  | done value =>
      cases ran
      rfl
  | fail fault => cases ran
  | call request rest ih => exact congrArg _ (ih _ ran)

theorem log_bind_silent {first : Program Answer β} {next : β → Program Answer α}
    (silent : ∀ value later, (next value).log answer later = []) (state : σ) :
    (first >>= next).log answer state = first.log answer state := by
  induction first generalizing state with
  | done value => exact silent value state
  | fail fault => rfl
  | call request rest ih => exact congrArg _ (ih _ _)

theorem log_outcome (program : Program Answer α) (state : σ) :
    (outcome program).log answer state = program.log answer state := by
  induction program generalizing state with
  | done value => rfl
  | fail fault => rfl
  | call request next ih => exact congrArg _ (ih _ _)

end Program

open Program EnginePast

/-! ### Surroundings -/

/-- What surrounds a lone event: the time on the clock, and what the services answer after what they
were asked in the attempt at hand. A write that meets another writer is refused for a cause. -/
structure Surroundings where
  time : Stamp
  services : EnginePast → (request : Call) → Except Fault request.Answer
  cause : Conflict

/-- How far a lone event has come: the store, what the services were asked in the attempt at hand,
and how many writes of sessions go through until one meets another writer, if one is still to do so;
and the writes that went through before that one, the latest first. -/
structure Solo where
  store : Store
  asked : EnginePast
  clash : Option Nat
  before : List StoreCall

/-- The begin of a lone event at a store. -/
def Store.alone (store : Store) (clash : Option Nat) : Solo := ⟨store, [], clash, []⟩

/-- Whether an attempt at handling a message begins with a call. -/
def StoreCall.beginsAttempt : StoreCall → Bool
  | .activeSession _ => true
  | _ => false

/-- Whether a call is the write that meets another writer. -/
def Solo.isMet (solo : Solo) (request : StoreCall) : Bool :=
  (Call.store request).writesSession && solo.clash = some 0

/-- A call has gone through, and has left a store. -/
def Solo.after (solo : Solo) (request : StoreCall) (store : Store) : Solo where
  store := store
  asked := if request.beginsAttempt then [] else solo.asked
  clash := if (Call.store request).writesSession then solo.clash.map Nat.pred else solo.clash
  before := if (Call.store request).writesSession && solo.clash.isSome then request :: solo.before
    else solo.before

namespace Surroundings

/-- What the store answers; a write that meets another writer has no effect. -/
def keep (around : Surroundings) (request : StoreCall) (solo : Solo) :
    Except Fault request.Answer × Solo :=
  if solo.isMet request then (.error (.conflict around.cause), { solo with clash := none })
  else ((solo.store.answer around.time request).1,
    solo.after request (solo.store.answer around.time request).2)

def serve (around : Surroundings) (request : Call) (solo : Solo) :
    Except Fault request.Answer × Solo :=
  (around.services solo.asked request,
    { solo with asked := ⟨request, around.services solo.asked request⟩ :: solo.asked })

def answer (around : Surroundings) :
    (request : Call) → Solo → Except Fault request.Answer × Solo
  | .store request, solo => around.keep request solo
  | .clock, solo => (.ok around.time, solo)
  | .complete request, solo => around.serve (.complete request) solo
  | .http request, solo => around.serve (.http request) solo
  | .history conversation limit, solo => around.serve (.history conversation limit) solo
  | .deliver delivery, solo => around.serve (.deliver delivery) solo
  | .sleep seconds, solo => around.serve (.sleep seconds) solo

/-- Carries out a program. -/
def carryOut {α : Type} (around : Surroundings) (program : Engine α) (solo : Solo) :
    Except Fault α × Solo :=
  program.run around.answer solo

variable {around : Surroundings} {α β : Type} {solo : Solo}

theorem carryOut_transcript (around : Surroundings) (program : Engine α) (solo : Solo) :
    Transcript program (program.log around.answer solo) (around.carryOut program solo).1 :=
  transcript_log program solo

theorem carryOut_ended {program : Engine α} {ended : Except Fault α × Solo} {result : Except Fault α}
    (ran : around.carryOut program solo = ended) (same : ended.1 = result) :
    around.carryOut program solo = (result, ended.2) := by
  rw [ran, ← same]

theorem carryOut_now {next : Stamp → Engine α} (solo : Solo) :
    around.carryOut (Engine.now >>= next) solo = around.carryOut (next around.time) solo := rfl

theorem carryOut_bind {first : Engine β} {next : β → Engine α} {value : β} {later : Solo}
    (ran : around.carryOut first solo = (.ok value, later)) :
    around.carryOut (first >>= next) solo = around.carryOut (next value) later :=
  run_bind_ok ran

theorem carryOut_bind_error {first : Engine β} {next : β → Engine α} {fault : Fault} {later : Solo}
    (ran : around.carryOut first solo = (.error fault, later)) :
    around.carryOut (first >>= next) solo = (.error fault, later) :=
  run_bind_error ran

theorem carryOut_discard {program : Engine α} {value : α} {later : Solo}
    (ran : around.carryOut program solo = (.ok value, later)) :
    around.carryOut (discard program) solo = (.ok (), later) :=
  carryOut_bind ran

theorem carryOut_discard_error {program : Engine α} {fault : Fault} {later : Solo}
    (ran : around.carryOut program solo = (.error fault, later)) :
    around.carryOut (discard program) solo = (.error fault, later) :=
  carryOut_bind_error ran

theorem carryOut_outcome {program : Engine α} {result : Except Fault α} {later : Solo}
    (ran : around.carryOut program solo = (result, later)) :
    around.carryOut (Program.outcome program) solo = (.ok result, later) := by
  unfold carryOut at *
  rw [run_outcome, ran]

theorem carryOut_store {request : StoreCall} {next : request.Answer → Engine α}
    {value : request.Answer} {later : Solo}
    (told : around.answer (.store request) solo = (.ok value, later)) :
    around.carryOut (Engine.store request >>= next) solo = around.carryOut (next value) later :=
  carryOut_bind ((@run_perform _ _ _ around.answer (.store request) solo).trans told)

theorem carryOut_store_error {request : StoreCall} {next : request.Answer → Engine α}
    {fault : Fault} {later : Solo}
    (told : around.answer (.store request) solo = (.error fault, later)) :
    around.carryOut (Engine.store request >>= next) solo = (.error fault, later) :=
  carryOut_bind_error ((@run_perform _ _ _ around.answer (.store request) solo).trans told)

theorem carryOut_unlessConflict {program : Engine α} {result : Except Fault α} {later : Solo}
    (ran : around.carryOut program solo = (result, later)) :
    around.carryOut (Event.unlessConflict program) solo =
      (match result with
        | .ok value => .ok (some value)
        | .error fault => if fault.isConflict then .ok none else .error fault, later) := by
  unfold Event.unlessConflict
  rw [carryOut_bind (carryOut_outcome ran)]
  cases result with
  | ok value => rfl
  | error fault =>
      dsimp only
      split <;> rfl

theorem log_unlessConflict (program : Engine α) (solo : Solo) :
    (Event.unlessConflict program).log around.answer solo = program.log around.answer solo := by
  refine (log_bind_silent (fun result later => ?_) solo).trans (log_outcome program solo)
  cases result with
  | ok value => rfl
  | error fault =>
      dsimp only
      split <;> rfl

theorem withRetry_once {attempt : Engine EventReport} {result : Except Fault EventReport}
    {later : Solo} (ran : around.carryOut attempt solo = (result, later))
    (other : ∀ fault, result = .error fault → fault.isConflict = false) :
    around.carryOut (Event.withRetry attempt) solo = (result, later) := by
  have tried := carryOut_unlessConflict ran
  cases result with
  | ok report => exact carryOut_bind tried
  | error fault =>
      dsimp only at tried
      rw [other fault rfl] at tried
      exact carryOut_bind_error tried

/-- An attempt that has failed by a conflict is followed by another one. -/
theorem withRetry_twice {attempt : Engine EventReport} {fault : Fault} {middle later : Solo}
    {result : Except Fault EventReport}
    (first : around.carryOut attempt solo = (.error fault, middle))
    (conflict : fault.isConflict = true)
    (second : around.carryOut attempt middle = (result, later)) :
    around.carryOut (Event.withRetry attempt) solo = (Event.settled result, later) := by
  have tried := carryOut_unlessConflict first
  dsimp only at tried
  rw [conflict] at tried
  have again := carryOut_unlessConflict second
  refine (carryOut_bind tried).trans ?_
  cases result with
  | ok report => exact carryOut_bind again
  | error other =>
      dsimp only at again
      unfold Event.settled
      dsimp only
      split at again
      · next clash =>
          rw [if_pos clash]
          exact carryOut_bind again
      · next apart =>
          rw [if_neg apart]
          exact carryOut_bind_error again

theorem log_withRetry_twice {attempt : Engine EventReport} {fault : Fault} {middle : Solo}
    (first : around.carryOut attempt solo = (.error fault, middle))
    (conflict : fault.isConflict = true) :
    (Event.withRetry attempt).log around.answer solo =
      attempt.log around.answer solo ++ attempt.log around.answer middle := by
  have tried := carryOut_unlessConflict first
  dsimp only at tried
  rw [conflict] at tried
  refine (log_bind_ok tried).trans ?_
  rw [log_unlessConflict]
  refine congrArg _ ((log_bind_silent (fun again later => ?_) middle).trans ?_)
  · cases again <;> rfl
  · exact log_unlessConflict attempt middle

end Surroundings

theorem Surroundings.carryOut_reporting (around : Surroundings) (program : Engine EventReport)
    (solo : Solo) :
    around.carryOut (Operation.reporting program) solo =
      ((around.carryOut program solo).1.map some, (around.carryOut program solo).2) := by
  cases ran : around.carryOut program solo with
  | mk result later =>
      cases result with
      | ok report => exact carryOut_bind ran
      | error fault => exact carryOut_bind_error ran

theorem Surroundings.log_reporting (around : Surroundings) (program : Engine EventReport)
    (solo : Solo) :
    (Operation.reporting program).log around.answer solo = program.log around.answer solo := by
  induction program generalizing solo with
  | done report => rfl
  | fail fault => rfl
  | call request next ih => exact congrArg _ (ih _ _)

namespace Workplace

variable {ι : Type} {index : ι}

/-- The writes of sessions. -/
def WritesSession (request : StoreCall) : Prop := (Call.store request).writesSession = true

/-- One call of a lone event is a step of a worker. -/
theorem exists_goesOn (around : Surroundings) {place : Workplace ι} {past : EnginePast}
    {request : Call} {next : Except Fault request.Answer → Engine (Option EventReport)}
    (calls : place.worker index = ⟨past, .call request next⟩)
    (time : place.scene.time = around.time) {solo : Solo} (same : place.scene.store = solo.store) :
    ∃ after : Workplace ι, GoesOn index WritesSession place after ∧
      after.worker index = ⟨⟨request, (around.answer request solo).1⟩ :: past,
        next (around.answer request solo).1⟩ ∧
      after.scene.time = around.time ∧
      after.scene.store = (around.answer request solo).2.store := by
  have going (scene : Scene) (answers : place.scene.Answers request
      (around.answer request solo).1 scene) (time : scene.time = around.time)
      (store : scene.store = (around.answer request solo).2.store) :
      ∃ after : Workplace ι, GoesOn index WritesSession place after ∧
        after.worker index = ⟨⟨request, (around.answer request solo).1⟩ :: past,
          next (around.answer request solo).1⟩ ∧
        after.scene.time = around.time ∧
        after.scene.store = (around.answer request solo).2.store := by
    obtain ⟨after, here, turn⟩ := place.exists_turn scene index
      ⟨⟨request, (around.answer request solo).1⟩ :: past, next (around.answer request solo).1⟩
    exact ⟨after, .answer calls (by rw [here]; exact answers) turn, turn.1, by rw [here, time],
      by rw [here, store]⟩
  cases request with
  | clock => exact going place.scene ⟨by rw [time]; rfl, rfl⟩ time same
  | complete | http | history | deliver | sleep => exact going place.scene rfl time same
  | store request =>
      by_cases met : solo.isMet request = true
      · -- the store refuses the write, and does nothing
        have told : around.answer (.store request) solo =
            (.error (.conflict around.cause), { solo with clash := none }) := if_pos met
        rw [told]
        obtain ⟨after, here, turn⟩ := place.exists_turn place.scene index
          ⟨⟨.store request, .error (.conflict around.cause)⟩ :: past,
            next (.error (.conflict around.cause))⟩
        unfold Solo.isMet at met
        rw [Bool.and_eq_true] at met
        exact ⟨after, .refuse met.1 calls here turn, turn.1, by rw [here, time],
          by rw [here, same]⟩
      · have told : around.answer (.store request) solo =
            ((solo.store.answer around.time request).1,
              solo.after request (solo.store.answer around.time request).2) := if_neg met
        refine going { place.scene with store := (solo.store.answer around.time request).2 } ?_ time
          (by rw [told]; rfl)
        rw [told]
        exact ⟨around.time, by rw [same], by rw [same]⟩

/-- A lone event is one that a worker carries out while the others stand still. -/
theorem exists_alone (around : Surroundings) (program : Engine (Option EventReport))
    {place : Workplace ι} {past : EnginePast} (calls : place.worker index = ⟨past, program⟩)
    (time : place.scene.time = around.time) {solo : Solo} (same : place.scene.store = solo.store) :
    ∃ after : Workplace ι, Alone index WritesSession place after ∧
      (after.worker index).Ends (around.carryOut program solo).1 ∧
      (after.worker index).past = (program.log around.answer solo).reverse ++ past ∧
      after.scene.store = (around.carryOut program solo).2.store := by
  -- by induction on what is left of the event, with what it was told so far as a parameter
  induction program generalizing place past solo with
  | done value => exact ⟨place, .refl, by rw [calls]; rfl, by rw [calls]; rfl, same⟩
  | fail fault => exact ⟨place, .refl, by rw [calls]; rfl, by rw [calls]; rfl, same⟩
  | call request next ih =>
      obtain ⟨middle, goes, here, clock, kept⟩ := exists_goesOn around calls time same
      obtain ⟨after, alone, ends, told, store⟩ := ih _ here clock kept
      refine ⟨after, .head goes alone, ends, ?_, store⟩
      rw [told]
      simp [Program.log]

/-- What a lone event comes to at a store is what a worker there comes to while the others stand
still. -/
theorem exists_lone {around : Surroundings} {before begun : Workplace ι} {settings : EngineSettings}
    {stimulus : Stimulus} {clash : Option Nat} {result : Except Fault EventReport} {later : Solo}
    (begins : Begun before begun index settings stimulus.operation)
    (time : before.scene.time = around.time)
    (ran : around.carryOut (stimulus.program settings) (before.scene.store.alone clash) =
      (result, later)) :
    ∃ after : Workplace ι, Alone index WritesSession begun after ∧
      (after.worker index).Ends (result.map some) ∧
      (after.worker index).past = ((stimulus.program settings).log around.answer
        (before.scene.store.alone clash)).reverse ∧
      after.scene.store = later.store := by
  have calls := begins.turn.1
  rw [stimulus.operation_program] at calls
  have time : begun.scene.time = around.time := by
    rw [begins.same]
    exact time
  have same : begun.scene.store = (before.scene.store.alone clash).store := by
    rw [begins.same]
    rfl
  obtain ⟨after, alone, ends, told, store⟩ := exists_alone around _ calls time same
  rw [around.carryOut_reporting, ran] at ends store
  rw [around.log_reporting, List.append_nil] at told
  exact ⟨after, alone, ends, told, store⟩

end Workplace

end ChatFlow
