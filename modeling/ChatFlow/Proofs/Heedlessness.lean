import ChatFlow.Proofs.Workers
import ChatFlow.Proofs.EventDelivery
/-
Events do not heed how their deliveries go. A delivery is tried and its outcome forgotten, so that a
program goes on alike whatever came of it; whoever decides the outcomes of deliveries decides nothing
else.
-/

set_option autoImplicit false

namespace ChatFlow

open Program

variable {α β : Type}

def Call.isDelivery : Call → Bool
  | .deliver _ => true
  | _ => false

/-! ### Programs that do not heed deliveries -/

/-- Wherever a program delivers something, it goes on alike for any outcome. -/
def Heedless : Engine α → Prop
  | .done _ => True
  | .fail _ => True
  | .call request next =>
      (request.isDelivery = true → ∀ reply other, next reply = next other) ∧
        ∀ reply, Heedless (next reply)

namespace Heedless

theorem done (value : α) : Heedless (pure value : Engine α) := trivial

theorem fail (fault : Fault) : Heedless (.fail fault : Engine α) := trivial

theorem call {request : Call} {next : Except Fault request.Answer → Engine α}
    (alike : request.isDelivery = true → ∀ reply other, next reply = next other)
    (rest : ∀ reply, Heedless (next reply)) : Heedless (.call request next) :=
  ⟨alike, rest⟩

theorem at_call {request : Call} {next : Except Fault request.Answer → Engine α}
    (heedless : Heedless (.call request next)) :
    (request.isDelivery = true → ∀ reply other, next reply = next other) ∧
      ∀ reply, Heedless (next reply) :=
  heedless

theorem ofExcept (given : Except Fault α) : Heedless (Program.ofExcept given) := by
  cases given <;> exact trivial

theorem bind {first : Engine β} {next : β → Engine α} (start : Heedless first)
    (rest : ∀ value, Heedless (next value)) : Heedless (first >>= next) := by
  induction first with
  | done value => exact rest value
  | fail fault => exact trivial
  | call request step ih =>
      obtain ⟨alike, others⟩ := start
      refine ⟨fun delivers reply other => ?_, fun reply => ih reply (others reply)⟩
      exact congrArg (· >>= next) (alike delivers reply other)

theorem outcome {program : Engine α} (heedless : Heedless program) :
    Heedless (Program.outcome program) := by
  induction program with
  | done value => exact trivial
  | fail fault => exact trivial
  | call request next ih =>
      obtain ⟨alike, others⟩ := heedless
      refine ⟨fun delivers reply other => ?_, fun reply => ih reply (others reply)⟩
      exact congrArg Program.outcome (alike delivers reply other)

theorem discarded {program : Engine α} (heedless : Heedless program) :
    Heedless (discard program) :=
  heedless.bind fun _ => done ()

/-- A program that delivers nothing has nothing to heed. -/
theorem of_makes {program : Engine α}
    (makes : Makes (fun request => request.isDelivery = false) program) : Heedless program := by
  have silent (past : Past Call.Answer) (program : Engine α)
      (keeps : Keeps (fun _ request => request.isDelivery = false) program past) :
      Heedless program := by
    induction program generalizing past with
    | done value => exact trivial
    | fail fault => exact trivial
    | call request next ih =>
        obtain ⟨other, rest⟩ := Follows.at_call keeps
        refine ⟨fun delivers => ?_, fun reply => ih reply _ (rest reply)⟩
        rw [other] at delivers
        cases delivers
  exact silent [] program (makes.keeps [])

theorem of_quiet {program : Engine α} (quiet : KeepsQuiet program) : Heedless program := by
  refine of_makes (quiet.mono fun request fits => ?_)
  cases request with
  | deliver delivery => cases fits
  | _ => rfl

theorem store (request : StoreCall) : Heedless (Engine.store request) := of_makes (.store rfl)

theorem now : Heedless Engine.now := of_makes (.now rfl)

end Heedless

/- From here on programs are known to be heedless by these lemmas alone. -/
attribute [irreducible] Heedless

/-! ### Runs -/

/-- Whether a delivery has gone well is not asked again. -/
theorem Effect.dispatch_heedless (organization conversation : String) (effect : Effect) :
    Heedless (discard (dispatch organization conversation effect)) := by
  unfold dispatch
  split
  · exact .done ()
  · next delivery _ =>
      split
      · refine .call (nomatch ·) fun reply => ?_
        cases reply with
        | ok value =>
            refine .call (fun _ reply other => ?_) fun reply => ?_
            · cases reply <;> cases other <;> rfl
            · cases reply <;> exact .done ()
        | error fault => exact .done ()
      · refine .call (fun _ reply other => ?_) fun reply => ?_
        · cases reply <;> cases other <;> rfl
        · cases reply <;> exact .done ()

theorem Effect.dispatchAll_heedless (organization conversation : String) (effects : List Effect) :
    Heedless (dispatchAll organization conversation effects) := by
  induction effects with
  | nil => exact .done ()
  | cons effect rest ih =>
      exact (dispatch_heedless organization conversation effect).bind fun _ => ih

namespace Run

variable {settings : EngineSettings}

theorem commit_heedless (session : Session) (decision : Decision) (progress : Progress) :
    Heedless (commit session decision progress) := by
  have finished (outcome : Outcome) (reason : String) (subject : TraceSubject) (now : Stamp) :
      Heedless (commit.finish progress (placed session progress) outcome reason subject now) :=
    (Heedless.store _).bind fun _ => (Heedless.store _).discarded.bind fun _ => .done _
  unfold commit
  refine Heedless.now.bind fun now => ?_
  cases decision with
  | terminate outcome reason => exact finished outcome reason _ now
  | advance target handle => exact finished .failed "" _ now
  | awaitInput kind => exact (Heedless.store _).bind fun _ => .done _
  | suspend resumeAt =>
      exact (Heedless.ofExcept _).bind fun _ => (Heedless.store _).discarded.bind fun _ =>
        (Heedless.store _).bind fun _ => .done _

theorem run_heedless (session : Session) (inboundText : Option String) (isResume : Bool)
    (flow : Option Flow) : Heedless (run settings session inboundText isResume flow) := by
  have flushed (rows : List LogEntry) : Heedless (Engine.flush rows) :=
    .of_quiet (Engine.flush_keepsQuiet rows)
  unfold run
  extract_lets proceed
  have rest (flow : Option Flow) : Heedless (proceed flow) := by
    refine (Heedless.of_quiet (decide_keepsQuiet flow isResume)).bind fun decided => ?_
    refine (commit_heedless session decided.1 decided.2).outcome.bind fun outcome => ?_
    cases outcome with
    | error fault => exact (flushed _).bind fun _ => .fail fault
    | ok stored =>
        exact (Effect.dispatchAll_heedless _ _ _).bind fun _ => (flushed _).bind fun _ => .done _
  cases flow with
  | some flow => exact rest (some flow)
  | none => exact (Heedless.store _).bind rest

end Run

/-! ### Events -/

namespace Event

variable {settings : EngineSettings}

theorem withRetry_heedless {attempt : Engine EventReport} (heedless : Heedless attempt) :
    Heedless (withRetry attempt) := by
  have tried : Heedless (unlessConflict attempt) := by
    refine heedless.outcome.bind fun result => ?_
    cases result with
    | ok report => exact .done _
    | error fault =>
        dsimp only
        split
        · exact .done _
        · exact .fail _
  refine tried.bind fun first => ?_
  cases first with
  | some report => exact .done report
  | none =>
      refine tried.bind fun second => ?_
      cases second <;> exact .done _

theorem startSession_heedless (flow : Flow) (start : Opening) :
    Heedless (startSession settings flow start) :=
  Heedless.now.bind fun _ => (Heedless.ofExcept _).bind fun _ => (Heedless.store _).bind fun _ =>
    Run.run_heedless _ _ _ _

theorem endSession_heedless (session : Session) (status : SessionStatus) (reason : String) :
    Heedless (endSession session status reason) :=
  .of_makes (endSession_makes rfl (fun _ => rfl) (fun _ => rfl) fun _ _ => rfl)

theorem startTriggered_heedless (message : InboundMessage) :
    Heedless (startTriggered settings message) := by
  have finding : Heedless
      (Trigger.flowFor message.organization message.connection message.text) := by
    unfold Trigger.flowFor
    dsimp only
    split
    · exact .done _
    · exact (Heedless.store _).bind fun _ => .ofExcept _
  refine finding.bind fun found => ?_
  cases found with
  | none => exact .done _
  | some flow => exact startSession_heedless flow _

theorem handleOnSession_heedless (message : InboundMessage) (session : Session) :
    Heedless (handleOnSession settings message session) := by
  unfold handleOnSession
  dsimp only
  split
  · exact .done _
  · split
    · refine Heedless.now.bind fun now => ?_
      split
      · exact .fail _
      · split
        · exact .done _
        · exact (endSession_heedless _ _ _).discarded.bind fun _ => startTriggered_heedless message
    · exact Run.run_heedless _ _ _ _
    · exact .done _

theorem inbound_heedless (message : InboundMessage) : Heedless (inbound settings message) := by
  refine withRetry_heedless ((Heedless.store _).bind fun found => ?_)
  cases found with
  | some session => exact handleOnSession_heedless message session
  | none => exact startTriggered_heedless message

theorem start_heedless (organization : String) (request : StartRequest)
    (startedBy : Option String) : Heedless (start settings organization request startedBy) := by
  unfold start
  refine (Heedless.store _).bind fun found => ?_
  cases found with
  | none => exact .fail _
  | some flow =>
      dsimp only
      split
      · exact .fail _
      · refine withRetry_heedless ((Heedless.store _).bind fun existing => ?_)
        cases existing with
        | none => exact startSession_heedless flow _
        | some existing =>
            exact (endSession_heedless _ _ _).discarded.bind fun _ => startSession_heedless flow _

theorem resume_heedless (conversation session node : String) :
    Heedless (resume settings conversation session node) := by
  refine withRetry_heedless ((Heedless.store _).bind fun found => ?_)
  cases found with
  | none => exact .done _
  | some found =>
      dsimp only
      split
      · exact .done _
      · split
        · exact .done _
        · split
          · exact .done _
          · split
            · exact Run.run_heedless _ _ _ _
            · refine Heedless.now.bind fun now => ?_
              split
              · exact .fail _
              · exact .done _
              · exact Run.run_heedless _ _ _ _

/-! ### Cancellation -/

section

variable {kind : Call → Prop} (clock : kind .clock) (stores : ∀ request, kind (.store request))

include clock stores

theorem cancelReport_makes (session : Session) (reason : String) :
    Makes kind (cancelReport session reason) :=
  (endSession_makes clock (fun _ => stores _) (fun _ => stores _) fun _ _ => stores _).bind
    fun _ => .done _

omit clock stores in
theorem withRetry_makes {attempt : Engine EventReport} (makes : Makes kind attempt) :
    Makes kind (withRetry attempt) :=
  ⟨fun past => @withRetry_follows past _ (fun _ => True) _ _ (fun later _ _ => makes.keeps later)
    (fun _ _ _ _ => ⟨trivial, trivial⟩) trivial⟩

theorem cancel_makes (organization conversation reason : String) :
    Makes kind (cancel organization conversation reason) := by
  refine withRetry_makes (Makes.bind ((Makes.store (stores _)).bind fun found => ?_) fun _ =>
    cancelReport_makes clock stores _ _)
  cases found with
  | none => exact .fail _
  | some session =>
      dsimp only
      split
      · exact .done _
      · exact .fail _

theorem cancelFlowSessions_makes (flow reason : String) :
    Makes kind (cancelFlowSessions flow reason) := by
  have cancelling (candidate : Session) : Makes kind (cancelOnFlow flow reason candidate) := by
    refine withRetry_makes ((Makes.store (stores _)).bind fun found => ?_)
    cases found with
    | none => exact .done _
    | some session =>
        dsimp only
        split
        · exact cancelReport_makes clock stores session reason
        · exact .done _
  refine (Makes.store (stores _)).bind fun candidates => ?_
  induction candidates with
  | nil => exact .done 0
  | cons candidate rest ih => exact (cancelling candidate).bind fun _ => ih.bind fun _ => .done _

end

end Event

theorem Timer.poll_heedless (settings : EngineSettings) : Heedless (poll settings) := by
  have handled (job : Delay) : Heedless (handle settings job) := by
    refine (Event.resume_heedless job.conversation job.session job.node).bind fun report => ?_
    split
    · exact .done false
    · exact (Heedless.store _).discarded.bind fun _ => .done true
  refine Heedless.now.bind fun now => (Heedless.store _).bind fun jobs => ?_
  induction jobs with
  | nil => exact .done 0
  | cons job rest ih =>
      refine (handled job).outcome.bind fun result => ih.bind fun others => ?_
      split <;> exact .done _

/-- No event heeds its deliveries; the management of flows has none. -/
theorem Operation.program_heedless (settings : EngineSettings) (operation : Operation) :
    Heedless (operation.program settings) := by
  have clock : Call.clock.isDelivery = false := rfl
  have stores (request : StoreCall) : (Call.store request).isDelivery = false := rfl
  have shows (organization id : String) : Management.Shows
      (fun _ request => request.isDelivery = false) organization id :=
    ⟨fun _ => clock, fun _ => stores _, fun _ _ => stores _⟩
  have founds : Management.Founds fun _ request => request.isDelivery = false :=
    fun _ _ _ => stores _
  have saves (organization id : String) : Management.Saves
      (fun _ request => request.isDelivery = false) organization id :=
    ⟨fun _ _ _ _ _ => stores _, fun _ _ _ _ _ _ _ => stores _⟩
  have releases (hasEngine : Bool) (organization id : String) : Management.Releases
      (fun _ request => request.isDelivery = false) hasEngine organization id := by
    intro past flow reason _
    unfold Management.cancelSessions
    split
    · exact ((Event.cancelFlowSessions_makes clock stores id reason).keeps past).discarded
    · exact Follows.done trivial
  have silently {α : Type} {program : Engine α}
      (keeps : ∀ past, Keeps (fun _ request => request.isDelivery = false) program past) :
      Heedless (silent program) :=
    (Heedless.of_makes ⟨keeps⟩).discarded.bind fun _ => .done none
  have reported {program : Engine EventReport} (heedless : Heedless program) :
      Heedless (reporting program) := heedless.bind fun _ => .done _
  cases operation with
  | inbound message => exact reported (Event.inbound_heedless message)
  | start organization request startedBy =>
      exact reported (Event.start_heedless organization request startedBy)
  | resume conversation session node =>
      exact reported (Event.resume_heedless conversation session node)
  | cancel organization conversation reason =>
      exact reported (.of_makes (Event.cancel_makes clock stores organization conversation reason))
  | cancelFlow flow reason =>
      exact silently (Event.cancelFlowSessions_makes clock stores flow reason).keeps
  | poll => exact (Timer.poll_heedless settings).discarded.bind fun _ => .done none
  | install flow => exact silently (Makes.store (stores _)).keeps
  | create organization editor request =>
      exact silently (Management.create_keeps (fun _ => clock) founds organization editor request)
  | update hasEngine organization id request =>
      exact silently ((shows organization id).update_keeps (releases hasEngine organization id)
        request fun _ => stores _)
  | toggle hasEngine organization id =>
      exact silently ((shows organization id).toggle_keeps (releases hasEngine organization id)
        fun _ _ => stores _)
  | delete hasEngine organization id =>
      exact silently ((shows organization id).delete_keeps (releases hasEngine organization id)
        fun _ => stores _)
  | saveCanvas organization id nodes edges editor =>
      exact silently ((shows organization id).saveCanvas_keeps (saves organization id) nodes edges
        editor)
  | duplicate organization id editor =>
      exact silently ((shows organization id).duplicate_keeps founds editor)
  | restore organization id number editor =>
      exact silently ((shows organization id).restore_keeps (saves organization id) number editor)

/-! ### Deciding deliveries -/

/-- Where a program has come to: the scene, and all that was asked so far, the latest first. -/
structure Juncture where
  scene : Scene
  asked : List Call

/-- Who decides how deliveries go, each at its juncture. -/
abbrev Fate := Juncture → Delivery → Except Fault Unit

/-- What surrounds a program but for its deliveries. Before a call is answered time may pass, and
others may write to the store; the store may refuse the call, and stamps what it writes; the services
around answer as they will. -/
structure Environment where
  meanwhile : Juncture → Scene
  refusal : Juncture → StoreCall → Option Fault
  stamp : Juncture → Stamp
  service : Juncture → (request : Call) → Except Fault request.Answer

namespace Environment

/-- The answer to a call, and the juncture afterwards. -/
def answer (environment : Environment) (fate : Fate) (request : Call) (juncture : Juncture) :
    Except Fault request.Answer × Juncture :=
  let scene := environment.meanwhile juncture
  let asked := request :: juncture.asked
  match request with
  | .store operation =>
      match environment.refusal juncture operation with
      | some fault => (.error fault, ⟨scene, asked⟩)
      | none =>
          let answered := scene.store.answer (environment.stamp juncture) operation
          (answered.1, ⟨{ scene with store := answered.2 }, asked⟩)
  | .clock => (.ok scene.time, ⟨scene, asked⟩)
  | .deliver delivery => (fate juncture delivery, ⟨scene, asked⟩)
  | service => (environment.service juncture service, ⟨scene, asked⟩)

/-- What becomes of a program that begins at a scene. -/
def carryOut (environment : Environment) (fate : Fate) (program : Engine α) (scene : Scene) :
    Except Fault α × Juncture :=
  program.run (environment.answer fate) ⟨scene, []⟩

variable {environment : Environment} {fate : Fate} {juncture : Juncture}

/-- A call is answered as the scene of that time answers it, or is refused by the store. -/
theorem answer_answers (request : Call) :
    (environment.meanwhile juncture).Answers request (environment.answer fate request juncture).1
      (environment.answer fate request juncture).2.scene ∨
    ∃ fault, (environment.answer fate request juncture).1 = .error fault ∧
      (environment.answer fate request juncture).2.scene = environment.meanwhile juncture := by
  cases request with
  | store operation =>
      unfold answer
      dsimp only
      split
      · exact Or.inr ⟨_, rfl, rfl⟩
      · exact Or.inl ⟨_, rfl, rfl⟩
  | clock => exact Or.inl ⟨rfl, rfl⟩
  | complete | http | history | deliver | sleep => exact Or.inl rfl

/-- Whoever decides on deliveries, the calls are the same ones, and only deliveries are answered in
another way. -/
theorem answer_undecided (environment : Environment) (fate other : Fate) (request : Call)
    (juncture : Juncture) :
    (environment.answer fate request juncture).2 = (environment.answer other request juncture).2 ∧
    (request.isDelivery = false →
      (environment.answer fate request juncture).1 =
        (environment.answer other request juncture).1) := by
  cases request with
  | deliver delivery => exact ⟨rfl, (nomatch ·)⟩
  | _ => exact ⟨rfl, fun _ => rfl⟩

theorem run_undecided {program : Engine α} (heedless : Heedless program) (fate other : Fate)
    (juncture : Juncture) :
    program.run (environment.answer fate) juncture =
      program.run (environment.answer other) juncture := by
  -- the two runs make the same calls, and after a delivery they go on with one and the same program
  induction program generalizing juncture with
  | done value => rfl
  | fail fault => rfl
  | call request next ih =>
      obtain ⟨alike, rest⟩ := heedless.at_call
      obtain ⟨later, told⟩ := answer_undecided environment fate other request juncture
      have onward : next (environment.answer fate request juncture).1 =
          next (environment.answer other request juncture).1 := by
        cases delivers : request.isDelivery with
        | true => exact alike delivers _ _
        | false => exact congrArg next (told delivers)
      calc (Program.call request next).run (environment.answer fate) juncture
          = (next (environment.answer fate request juncture).1).run (environment.answer fate)
              (environment.answer fate request juncture).2 := rfl
        _ = (next (environment.answer fate request juncture).1).run (environment.answer other)
              (environment.answer fate request juncture).2 := ih _ (rest _) _
        _ = (next (environment.answer other request juncture).1).run (environment.answer other)
              (environment.answer other request juncture).2 := by rw [onward, later]

/-- Whoever decides how the deliveries of an event go, and however that is decided, the event comes to
the same result, leaves the same store, and has made the same calls with the same arguments in the
same order, its deliveries among them. So does the polling of timers, down to the number of jobs that
it counts. -/
theorem deliveries_decide_nothing (environment : Environment) (settings : EngineSettings)
    (fate other : Fate) (scene : Scene) :
    (∀ operation : Operation,
      environment.carryOut fate (operation.program settings) scene =
        environment.carryOut other (operation.program settings) scene) ∧
    environment.carryOut fate (Timer.poll settings) scene =
      environment.carryOut other (Timer.poll settings) scene :=
  ⟨fun operation => run_undecided (operation.program_heedless settings) fate other _,
    run_undecided (Timer.poll_heedless settings) fate other _⟩

/-- An environment in which nothing is refused, and nobody else writes to the store. -/
def calm : Environment where
  meanwhile juncture := juncture.scene
  refusal _ _ := none
  stamp juncture := juncture.scene.time
  service juncture request := (juncture.scene.respond request).1

/-- Where every delivery fails, all that a hand-over says and does is tried nevertheless. -/
example :
    ((calm.carryOut (fun _ _ => .error .mixedClocks)
      (Workplace.handOverStart.operation.program sampleSettings)
      (Workplace.stocked (shortFlow "org_1" handOver)).scene).2.asked.reverse.filterMap
        Call.delivery?) = Workplace.farewell := by
  decide +kernel

end Environment

end ChatFlow
