import ChatFlow.Proofs.EventRecord
import ChatFlow.Proofs.Isolation
import ChatFlow.Proofs.Suspension
/-
Programs that have the store to themselves. What such a program comes to is said for any time on the
clock, any stamps, and any answers of the services around; only the store is as the program finds it
and makes it. Events that are carried out one after the other are made of such programs.
-/

set_option autoImplicit false

namespace ChatFlow

open Program EnginePast

/-! ### What a program comes to -/

/-- Carried out alone at a store, a program comes to a result and a store that are as asserted. -/
def Ensures {α : Type} (post : Except Fault α → Store → Prop) : Engine α → Store → Prop
  | .done value, store => post (.ok value) store
  | .fail fault, store => post (.error fault) store
  | .call request next, store => ∀ time reply later,
      Scene.Answers ⟨store, time⟩ request reply later → Ensures post (next reply) later.store

/-- A program does not fail, and its value and the store are as asserted. -/
def succeeds {α : Type} (good : α → Store → Prop) : Except Fault α → Store → Prop
  | .ok value, later => good value later
  | .error _, _ => False

namespace Ensures

variable {α β : Type} {post post' : Except Fault α → Store → Prop} {program : Engine α}
  {store : Store}

theorem done {value : α} (reached : post (.ok value) store) : Ensures post (.done value) store :=
  reached

theorem fail {fault : Fault} (reached : post (.error fault) store) :
    Ensures post (.fail fault) store :=
  reached

theorem at_done {value : α} (ensures : Ensures post (.done value) store) : post (.ok value) store :=
  ensures

theorem at_fail {fault : Fault} (ensures : Ensures post (.fail fault) store) :
    post (.error fault) store :=
  ensures

theorem weaken (ensures : Ensures post program store)
    (implies : ∀ result later, post result later → post' result later) :
    Ensures post' program store := by
  induction program generalizing store with
  | done value => exact implies _ _ ensures
  | fail fault => exact implies _ _ ensures
  | call request next ih =>
      exact fun time reply later answers => ih reply (ensures time reply later answers)

theorem both (ensures : Ensures post program store) (ensures' : Ensures post' program store) :
    Ensures (fun result later => post result later ∧ post' result later) program store := by
  induction program generalizing store with
  | done value => exact ⟨ensures, ensures'⟩
  | fail fault => exact ⟨ensures, ensures'⟩
  | call request next ih =>
      exact fun time reply later answers =>
        ih reply (ensures time reply later answers) (ensures' time reply later answers)

theorem bind {middle : Except Fault β → Store → Prop} {first : Engine β} {next : β → Engine α}
    (ensures : Ensures middle first store)
    (rest : ∀ value later, middle (.ok value) later → Ensures post (next value) later)
    (failed : ∀ fault later, middle (.error fault) later → post (.error fault) later) :
    Ensures post (first >>= next) store := by
  induction first generalizing store with
  | done value => exact rest value store ensures
  | fail fault => exact failed fault store ensures
  | call request step ih =>
      exact fun time reply later answers => ih reply (ensures time reply later answers)

/-- What holds afterwards, whether a program fails or not, is kept by what follows. -/
theorem onward {holds : Store → Prop} {first : Engine β} {next : β → Engine α}
    (ensures : Ensures (fun _ later => holds later) first store)
    (rest : ∀ value later, holds later → Ensures (fun _ last => holds last) (next value) later) :
    Ensures (fun _ last => holds last) (first >>= next) store :=
  ensures.bind rest fun _ _ known => known

/-- Goes on after a program that does not fail. -/
theorem andThen {good : β → Store → Prop} {first : Engine β} {next : β → Engine α}
    (ensures : Ensures (succeeds good) first store)
    (rest : ∀ value later, good value later → Ensures post (next value) later) :
    Ensures post (first >>= next) store :=
  ensures.bind rest fun _ _ impossible => impossible.elim

theorem outcome (ensures : Ensures post program store) :
    Ensures (succeeds post) (Program.outcome program) store := by
  induction program generalizing store with
  | done value => exact ensures
  | fail fault => exact ensures
  | call request next ih =>
      exact fun time reply later answers => ih reply (ensures time reply later answers)

theorem ofExcept {given : Except Fault α} (holds : post given store) :
    Ensures post (Program.ofExcept given) store := by
  cases given with
  | ok value => exact holds
  | error fault => exact holds

theorem discard {good : α → Store → Prop} (ensures : Ensures (succeeds good) program store) :
    Ensures (succeeds fun _ later => ∃ value, good value later) (Functor.discard program) store :=
  ensures.andThen fun value _ known => Ensures.done ⟨value, known⟩

/-- The store is asked, and stamps what it writes by any time. -/
theorem asks {request : StoreCall} {post : Except Fault request.Answer → Store → Prop}
    (answers : ∀ stamp, post (store.answer stamp request).1 (store.answer stamp request).2) :
    Ensures post (Engine.store request) store := by
  intro time reply later told
  obtain ⟨stamp, replied, changed⟩ := told
  subst replied changed
  have reached := answers stamp
  dsimp only
  split
  · next value same => rw [same] at reached; exact reached
  · next fault same => rw [same] at reached; exact reached

/-- The clock shows some time. -/
theorem now {next : Stamp → Engine α} (rest : ∀ time, Ensures post (next time) store) :
    Ensures post (Engine.now >>= next) store := by
  intro time reply later told
  obtain ⟨rfl, rfl⟩ := told
  exact rest time

/-- What a program keeps to that does not ask the store: the store stays as it is, and the clock
does not fail. -/
theorem of_follows {rule : EnginePast → Call → Prop} {reached : EnginePast → Except Fault α → Prop}
    {past : EnginePast} (follows : Follows rule reached program past)
    (spares : ∀ past request, rule past request → request.isStore = false)
    (granted : ¬Denied past) :
    Ensures (fun result later => later = store ∧ ∃ last, ¬Denied last ∧ reached last result) program
      store := by
  induction program generalizing past with
  | done value => exact ⟨rfl, past, granted, follows.at_done⟩
  | fail fault => exact ⟨rfl, past, granted, follows.at_fail⟩
  | call request next ih =>
      intro time reply later answers
      obtain ⟨allowed, rest⟩ := follows.at_call
      have spared := spares past request allowed
      have still : ¬Denied (⟨request, reply⟩ :: past) := by
        rintro ⟨asked, fault, member, kind⟩
        rcases List.mem_cons.mp member with head | tail
        · cases head
          -- a call that is of no service and not of the store is a look at the clock
          cases request with
          | clock => cases answers.1
          | store => cases spared
          | complete | http | history | deliver | sleep => cases kind
        · exact granted ⟨asked, fault, tail, kind⟩
      have same : later.store = store := by
        rcases answers.effect with same | ⟨asked, _, rfl, _⟩
        · rw [same]
        · cases spared
      rw [same]
      exact ih reply (rest reply) still

theorem not_denied_nil : ¬Denied [] := by
  rintro ⟨_, _, member, _⟩
  cases member

/-- What is written where no call of some kind is made holds of all that other calls keep. -/
theorem of_keeps {rule : EnginePast → Call → Prop} {past : EnginePast} {holds : Store → Prop}
    (keeps : Keeps rule program past) (start : holds store)
    (kept : ∀ past store time request reply later, holds store → rule past request →
      Scene.Answers ⟨store, time⟩ request reply later → holds later.store) :
    Ensures (fun _ later => holds later) program store := by
  induction program generalizing past store with
  | done value => exact start
  | fail fault => exact start
  | call request next ih =>
      intro time reply later answers
      obtain ⟨allowed, rest⟩ := keeps.at_call
      exact ih reply (rest reply) (kept past store time request reply later start allowed answers)

theorem at_call {request : Call} {next : Except Fault request.Answer → Engine α} {time : Stamp}
    {reply : Except Fault request.Answer} {later : Scene}
    (ensures : Ensures post (.call request next) store)
    (answers : Scene.Answers ⟨store, time⟩ request reply later) :
    Ensures post (next reply) later.store :=
  ensures time reply later answers

/-- A program can be carried out alone, so that what it ensures comes about. -/
theorem reached (ensures : Ensures post program store) : ∃ result later, post result later := by
  induction program generalizing store with
  | done value => exact ⟨_, store, ensures⟩
  | fail fault => exact ⟨_, store, ensures⟩
  | call request next ih =>
      obtain ⟨reply, later, answers⟩ : ∃ reply later,
          Scene.Answers ⟨store, default⟩ request reply later := by
        cases request with
        | store asked => exact ⟨_, _, default, rfl, rfl⟩
        | clock => exact ⟨_, _, rfl, rfl⟩
        | complete | http | history | deliver | sleep => exact ⟨.error (.runtime ""), _, rfl⟩
      exact ih reply (ensures default reply later answers)

end Ensures

/- From here on these lemmas say all about what a program ensures. -/
attribute [irreducible] Ensures

/-! ### What a program preserves -/

/-- What holds of the store before a program holds of it afterwards, whether the program fails or
not. -/
def Preserves {α : Type} (holds : Store → Prop) (program : Engine α) : Prop :=
  ∀ store, holds store → Ensures (fun _ later => holds later) program store

namespace Preserves

variable {α β : Type} {holds : Store → Prop}

theorem done (value : α) : Preserves holds (.done value) := fun _ known => Ensures.done known

theorem fail (fault : Fault) : Preserves holds (.fail fault : Engine α) :=
  fun _ known => Ensures.fail known

theorem bind {first : Engine β} {next : β → Engine α} (start : Preserves holds first)
    (rest : ∀ value, Preserves holds (next value)) : Preserves holds (first >>= next) :=
  fun store known => (start store known).onward rest

theorem discard {program : Engine α} (preserves : Preserves holds program) :
    Preserves holds (Functor.discard program) :=
  preserves.bind fun _ => done ()

theorem outcome {program : Engine α} (preserves : Preserves holds program) :
    Preserves holds (Program.outcome program) := by
  refine fun store known => (preserves store known).outcome.weaken fun result later still => ?_
  cases result with
  | ok result => exact still
  | error fault => exact still.elim

theorem ask {request : StoreCall}
    (answers : ∀ (store : Store) stamp, holds store → holds (store.answer stamp request).2) :
    Preserves holds (Engine.store request) :=
  fun store known => Ensures.asks fun stamp => answers store stamp known

/-- What an operation does not write, it preserves. -/
theorem read {request : StoreCall}
    (same : ∀ (store : Store) stamp, (store.answer stamp request).2 = store) :
    Preserves holds (Engine.store request) := by
  refine ask fun store stamp known => ?_
  rw [same store stamp]
  exact known

theorem now {next : Stamp → Engine α} (rest : ∀ time, Preserves holds (next time)) :
    Preserves holds (Engine.now >>= next) :=
  fun store known => Ensures.now fun time => rest time store known

theorem ofExcept (given : Except Fault α) : Preserves holds (Program.ofExcept given) :=
  fun _ known => Ensures.ofExcept known

end Preserves

/-! ### Events one after the other -/

namespace Workplace

variable {ι : Type} {index : ι} {before after : Workplace ι}
  {post : Except Fault (Option EventReport) → Store → Prop}

theorem Alone.ensures (alone : Alone index Nothing before after)
    (ensures : Ensures post (before.worker index).rest before.scene.store) :
    Ensures post (after.worker index).rest after.scene.store := by
  induction alone with
  | refl => exact ensures
  | tail _ goes ih =>
      cases goes with
      | tick later => exact ih
      | refuse may => exact may.elim
      | answer calls answers turn =>
          rw [calls] at ih
          rw [turn.1]
          exact ih.at_call answers

/-- A worker has carried out an event, while the others stood still and no call was refused. -/
structure Performs (before after : Workplace ι) (index : ι) (settings : EngineSettings)
    (operation : Operation) (result : Except Fault (Option EventReport)) : Prop where
  alone : ∃ begun, Begun before begun index settings operation ∧ Alone index Nothing begun after
  ends : (after.worker index).Ends result

variable {settings : EngineSettings} {operation : Operation}
  {result : Except Fault (Option EventReport)}

theorem Performs.steps (performs : Performs before after index settings operation result) :
    Steps before after := by
  obtain ⟨begun, begins, alone⟩ := performs.alone
  exact .head begins.step alone.steps

/-- What the program of an event ensures is so when the event has ended. -/
theorem Performs.ensured (performs : Performs before after index settings operation result)
    (ensures : Ensures post (operation.program settings) before.scene.store) :
    post result after.scene.store := by
  obtain ⟨begun, begins, alone⟩ := performs.alone
  have reached : Ensures post (after.worker index).rest after.scene.store := by
    apply alone.ensures
    rw [begins.turn.1, begins.same]
    exact ensures
  have ends := performs.ends
  unfold Worker.Ends at ends
  cases result with
  | ok report =>
      rw [ends] at reached
      exact reached.at_done
  | error fault =>
      rw [ends] at reached
      exact reached.at_fail

/-- The workplaces that events of some kinds lead to from an empty store, one event after the other.
Time may pass at any point. -/
inductive Serial (may : Operation → Prop) : Workplace ι → Prop where
  | start (time : Stamp) : Serial may ⟨⟨Store.empty, time⟩, fun _ => Worker.fresh⟩
  | event {before after : Workplace ι} {index : ι} {settings : EngineSettings}
      {operation : Operation} {result : Except Fault (Option EventReport)}
      (serial : Serial may before) (allowed : may operation)
      (performs : Performs before after index settings operation result) : Serial may after

variable {may : Operation → Prop} {place : Workplace ι}

theorem Serial.reached (serial : Serial may place) : Reached place := by
  induction serial with
  | start time => exact .start time
  | event _ _ performs ih => exact ih.steps performs.steps

/-- What every event keeps at the store holds after every event. -/
theorem Serial.keeps {holds : Store → Prop} (serial : Serial may place)
    (start : holds Store.empty)
    (kept : ∀ (settings : EngineSettings) (operation : Operation) (store : Store)
      (register : Register), may operation → store.WellFormed → store.Owned register →
      holds store → Ensures (fun _ later => holds later) (operation.program settings) store) :
    holds place.scene.store := by
  induction serial with
  | start time => exact start
  | @event before after index settings operation result serial allowed performs ih =>
      obtain ⟨register, registered⟩ := serial.reached.registered
      exact performs.ensured (kept settings operation before.scene.store register allowed
        serial.reached.informed.shape registered.owned ih)

/-! ### Acting out events -/

/-- The event of a worker is carried out, in some number of calls. -/
def carryingOut (place : Workplace Unit) (operation : Operation) (calls : Nat) : Workplace Unit :=
  (place.beginning operation).play sampleSettings (List.replicate calls (.go ()))

theorem performs_carryingOut (place : Workplace Unit) (operation : Operation) (calls : Nat)
    (idle : decide (place.worker ()).IsIdle = true)
    (finished : decide ((place.carryingOut operation calls).worker ()).IsIdle = true) :
    ∃ result, Performs place (place.carryingOut operation calls) () sampleSettings operation
      result := by
  have ended : ∃ result, ((place.carryingOut operation calls).worker ()).Ends result := by
    have finished := of_decide_eq_true finished
    unfold Worker.IsIdle at finished
    cases rest : ((place.carryingOut operation calls).worker ()).rest with
    | done report => exact ⟨.ok report, rest⟩
    | fail fault => exact ⟨.error fault, rest⟩
    | call request next =>
        rw [rest] at finished
        exact finished.elim
  obtain ⟨result, ends⟩ := ended
  have alone := alone_play sampleSettings (place.beginning operation) () Nothing calls
  exact ⟨result, ⟨_, beginning_begun place idle operation, alone⟩, ends⟩

theorem Serial.carryingOut {may : Operation → Prop} {place : Workplace Unit}
    (serial : Serial may place) (operation : Operation) (allowed : may operation) (calls : Nat)
    (idle : decide (place.worker ()).IsIdle = true)
    (finished : decide ((place.carryingOut operation calls).worker ()).IsIdle = true) :
    Serial may (place.carryingOut operation calls) := by
  obtain ⟨result, performs⟩ := performs_carryingOut place operation calls idle finished
  exact .event serial allowed performs

end Workplace

end ChatFlow
