import ChatFlow.Proofs.EventWarrant
import ChatFlow.Proofs.StoreShape
/-
Workers at one store. Each worker carries out one event after the other; its calls are answered one
by one, and between them the other workers may make theirs. The workers share the store and the
clock and nothing else. One worker alone carries out events in sequence; many workers are many
processes.
-/

set_option autoImplicit false

namespace ChatFlow

open Program EnginePast

/-! ### Events -/

/-- The events that a worker carries out. A flow may also be put into the store by other means. -/
inductive Operation where
  | inbound (message : InboundMessage)
  | start (organization : String) (request : StartRequest) (startedBy : Option String)
  | resume (conversation session node : String)
  | cancel (organization conversation reason : String)
  | cancelFlow (flow reason : String)
  | poll
  | install (flow : Flow)
  | create (organization : String) (editor : Option String) (request : NewFlow)
  | update (hasEngine : Bool) (organization id : String) (request : FlowUpdate)
  | toggle (hasEngine : Bool) (organization id : String)
  | delete (hasEngine : Bool) (organization id : String)
  | saveCanvas (organization id : String) (nodes edges : List Value) (editor : Option String)
  | duplicate (organization id : String) (editor : Option String)
  | restore (organization id : String) (number : Int) (editor : Option String)

namespace Operation

/-- An event that gives a report. -/
def reporting (program : Engine EventReport) : Engine (Option EventReport) := do
  return some (← program)

def silent {α : Type} (program : Engine α) : Engine (Option EventReport) := do
  discard program
  return none

/-- What a worker does for an event. -/
def program (settings : EngineSettings) : Operation → Engine (Option EventReport)
  | .inbound message => reporting (Event.inbound settings message)
  | .start organization request startedBy =>
      reporting (Event.start settings organization request startedBy)
  | .resume conversation session node =>
      reporting (Event.resume settings conversation session node)
  | .cancel organization conversation reason =>
      reporting (Event.cancel organization conversation reason)
  | .cancelFlow flow reason => silent (Event.cancelFlowSessions flow reason)
  | .poll => silent (Timer.poll settings)
  | .install flow => silent (Engine.store (.createFlow flow))
  | .create organization editor request => silent (Management.create organization editor request)
  | .update hasEngine organization id request =>
      silent (Management.update hasEngine organization id request)
  | .toggle hasEngine organization id => silent (Management.toggle hasEngine organization id)
  | .delete hasEngine organization id => silent (Management.delete hasEngine organization id)
  | .saveCanvas organization id nodes edges editor =>
      silent (Management.saveCanvas organization id nodes edges editor)
  | .duplicate organization id editor => silent (Management.duplicate organization id editor)
  | .restore organization id number editor =>
      silent (Management.restore organization id number editor)

section

variable {rule : EnginePast → Call → Prop} {past : EnginePast}
  {good' : EnginePast → Option EventReport → Prop}

theorem reporting_follows {good : EnginePast → EventReport → Prop} {program : Engine EventReport}
    (follows : Follows rule (whenDone good) program past)
    (implies : ∀ later report, good later report → good' later (some report)) :
    Follows rule (whenDone good') (reporting program) past :=
  follows.andThen fun report later _ known => Follows.done (implies later report known)

theorem reporting_keeps {program : Engine EventReport} (keeps : Keeps rule program past) :
    Keeps rule (reporting program) past :=
  reporting_follows keeps fun _ _ _ => trivial

theorem silent_follows {α : Type} {program : Engine α} (keeps : Keeps rule program past)
    (unsaid : ∀ later, good' later none) : Follows rule (whenDone good') (silent program) past :=
  keeps.discarded.andThen fun _ later _ _ => Follows.done (unsaid later)

theorem silent_keeps {α : Type} {program : Engine α} (keeps : Keeps rule program past) :
    Keeps rule (silent program) past :=
  silent_follows keeps fun _ => trivial

end

open Management in
/-- Every event makes only warranted calls. -/
theorem program_keeps (settings : EngineSettings) (operation : Operation) :
    Keeps Warranted (operation.program settings) [] := by
  cases operation with
  | inbound message => exact reporting_keeps (Event.inbound_keeps message [])
  | start organization request startedBy =>
      exact reporting_keeps (Event.start_keeps organization request startedBy [])
  | resume conversation session node =>
      exact reporting_keeps (Event.resume_follows conversation session node []).keeps
  | cancel organization conversation reason =>
      exact reporting_keeps (Event.cancel_keeps organization conversation reason [])
  | cancelFlow flow reason => exact silent_keeps (Event.cancelFlowSessions_keeps flow reason [])
  | poll => exact silent_keeps Timer.poll_keeps
  | install flow => exact silent_keeps (told_follows trivial).keeps
  | create organization editor request =>
      exact silent_keeps (create_keeps (fun _ => trivial) founds_warranted organization editor
        request [])
  | update hasEngine organization id request =>
      exact silent_keeps ((shows_warranted organization id).update_keeps
        (releases_warranted hasEngine organization id) request (fun _ => trivial) [])
  | toggle hasEngine organization id =>
      exact silent_keeps ((shows_warranted organization id).toggle_keeps
        (releases_warranted hasEngine organization id) (fun _ _ => trivial) [])
  | delete hasEngine organization id =>
      exact silent_keeps ((shows_warranted organization id).delete_keeps
        (releases_warranted hasEngine organization id) (fun _ => trivial) [])
  | saveCanvas organization id nodes edges editor =>
      exact silent_keeps ((shows_warranted organization id).saveCanvas_keeps
        (saves_warranted organization id) nodes edges editor [])
  | duplicate organization id editor =>
      exact silent_keeps ((shows_warranted organization id).duplicate_keeps founds_warranted
        editor [])
  | restore organization id number editor =>
      exact silent_keeps ((shows_warranted organization id).restore_keeps
        (saves_warranted organization id) number editor [])

end Operation

/-! ### Scenes -/

/-- The store, and the time on the clock that everyone reads. -/
structure Scene where
  store : Store
  time : Stamp

/-- What a call is answered, and the scene afterwards. The store stamps what it writes by any time;
the services around may answer anything, and leave the scene alone. -/
def Scene.Answers (scene : Scene) :
    (request : Call) → Except Fault request.Answer → Scene → Prop
  | .store request, reply, later => ∃ stamp, reply = (scene.store.answer stamp request).1 ∧
      later = { scene with store := (scene.store.answer stamp request).2 }
  | .clock, reply, later => reply = .ok scene.time ∧ later = scene
  | .complete _, _, later | .http _, _, later | .history .., _, later | .deliver _, _, later
  | .sleep _, _, later => later = scene

/-- A call leaves the scene as it is, unless the store is asked. -/
theorem Scene.Answers.effect {scene later : Scene} {request : Call}
    {reply : Except Fault request.Answer} (answers : scene.Answers request reply later) :
    later = scene ∨ ∃ asked stamp, request = .store asked ∧
      later = { scene with store := (scene.store.answer stamp asked).2 } := by
  cases request with
  | store asked =>
      obtain ⟨stamp, _, changed⟩ := answers
      exact Or.inr ⟨asked, stamp, rfl, changed⟩
  | clock => exact Or.inl answers.2
  | complete | http | history | deliver | sleep => exact Or.inl answers

/-! ### Workers -/

/-- What a worker has been told in its event, and what it has still to do. -/
structure Worker where
  past : EnginePast
  rest : Engine (Option EventReport)

def Worker.fresh : Worker := ⟨[], .done none⟩

/-- Whether a worker has finished its event. -/
def Worker.IsIdle (worker : Worker) : Prop :=
  match worker.rest with
  | .call .. => False
  | _ => True

instance (worker : Worker) : Decidable worker.IsIdle :=
  match worker with
  | ⟨_, .call ..⟩ => isFalse id
  | ⟨_, .done _⟩ => isTrue trivial
  | ⟨_, .fail _⟩ => isTrue trivial

structure Workplace (ι : Type) where
  scene : Scene
  worker : ι → Worker

namespace Workplace

variable {ι : Type}

/-- One worker has gone on; the others stand where they stood. -/
def Turn (before after : Workplace ι) (index : ι) (worker : Worker) : Prop :=
  after.worker index = worker ∧ ∀ other, other ≠ index → after.worker other = before.worker other

/-- One step: time passes, a worker begins an event, a call is answered, or the store fails to
answer a call and does nothing. -/
inductive Step : Workplace ι → Workplace ι → Prop where
  | tick {place : Workplace ι} {time : Stamp} (later : time.NotBefore place.scene.time) :
      Step place { place with scene := { place.scene with time := time } }
  | begin {place after : Workplace ι} {index : ι} (settings : EngineSettings)
      (operation : Operation) (idle : (place.worker index).IsIdle)
      (same : after.scene = place.scene)
      (turn : Turn place after index ⟨[], operation.program settings⟩) : Step place after
  | answer {place after : Workplace ι} {index : ι} {past : EnginePast} {request : Call}
      {next : Except Fault request.Answer → Engine (Option EventReport)}
      {reply : Except Fault request.Answer}
      (calls : place.worker index = ⟨past, .call request next⟩)
      (answers : place.scene.Answers request reply after.scene)
      (turn : Turn place after index ⟨⟨request, reply⟩ :: past, next reply⟩) :
      Step place after
  | refuse {place after : Workplace ι} {index : ι} {past : EnginePast} {request : StoreCall}
      {next : Except Fault request.Answer → Engine (Option EventReport)} {fault : Fault}
      (calls : place.worker index = ⟨past, .call (.store request) next⟩)
      (same : after.scene = place.scene)
      (turn : Turn place after index ⟨⟨.store request, .error fault⟩ :: past, next (.error fault)⟩) :
      Step place after

/-- The workplaces that steps lead to from an empty store. -/
inductive Reached : Workplace ι → Prop where
  | start (time : Stamp) : Reached ⟨⟨Store.empty, time⟩, fun _ => Worker.fresh⟩
  | step {before after : Workplace ι} (reached : Reached before) (step : Step before after) :
      Reached after

section

variable {rule : EnginePast → Call → Prop} {before after : Workplace ι} {index : ι}

/-- What all workers keep to is kept to by a worker that has gone on, and by the others. -/
theorem keeps_turn {worker : Worker}
    (keeps : ∀ other, Keeps rule (before.worker other).rest (before.worker other).past)
    (turn : Turn before after index worker) (goes : Keeps rule worker.rest worker.past)
    (other : ι) : Keeps rule (after.worker other).rest (after.worker other).past := by
  by_cases same : other = index
  · rw [same, turn.1]
    exact goes
  · rw [turn.2 other same]
    exact keeps other

theorem keeps_at_call {past : EnginePast} {request : Call}
    {next : Except Fault request.Answer → Engine (Option EventReport)}
    (keeps : ∀ other, Keeps rule (before.worker other).rest (before.worker other).past)
    (calls : before.worker index = ⟨past, .call request next⟩) :
    rule past request ∧ ∀ reply, Keeps rule (next reply) (⟨request, reply⟩ :: past) := by
  have own := keeps index
  rw [calls] at own
  exact Follows.at_call own

end

/-- Every worker makes only warranted calls. -/
def Mannered (place : Workplace ι) : Prop :=
  ∀ index, Keeps Warranted (place.worker index).rest (place.worker index).past

theorem Mannered.at_call {place : Workplace ι} (mannered : Mannered place) {index : ι}
    {past : EnginePast} {request : Call}
    {next : Except Fault request.Answer → Engine (Option EventReport)}
    (calls : place.worker index = ⟨past, .call request next⟩) :
    Warranted past request ∧
      ∀ reply, Keeps Warranted (next reply) (⟨request, reply⟩ :: past) :=
  keeps_at_call mannered calls

theorem Mannered.step {before after : Workplace ι} (mannered : Mannered before)
    (step : Step before after) : Mannered after := by
  cases step with
  | tick => exact mannered
  | begin settings operation idle same turn =>
      exact keeps_turn mannered turn (operation.program_keeps settings)
  | answer calls answers turn => exact keeps_turn mannered turn ((mannered.at_call calls).2 _)
  | refuse calls same turn => exact keeps_turn mannered turn ((mannered.at_call calls).2 _)

theorem Reached.mannered {place : Workplace ι} (reached : Reached place) : Mannered place := by
  induction reached with
  | start time => exact fun _ => Follows.done trivial
  | step reached step mannered => exact mannered.step step

end Workplace

end ChatFlow
