import ChatFlow.Proofs.EventCourse
import ChatFlow.Proofs.EventRecord
import ChatFlow.Proofs.Suspension
/-
What an event delivers. Deliveries are made by the last attempt only, after its decision was stored,
and they are those of the effects that are reported. What was collected before a decision was stored
is lost exactly where the store then fails to mark the timer jobs of an ended session.
-/

set_option autoImplicit false

namespace ChatFlow

open Program

variable {settings : EngineSettings} {calls : List (Answered Call.Answer)}

/-- The events that may run a session. -/
inductive Stimulus where
  | inbound (message : InboundMessage)
  | start (organization : String) (request : StartRequest) (startedBy : Option String)
  | resume (conversation session node : String)

namespace Stimulus

def operation : Stimulus → Operation
  | .inbound message => .inbound message
  | .start organization request startedBy => .start organization request startedBy
  | .resume conversation session node => .resume conversation session node

def program (settings : EngineSettings) : Stimulus → Engine EventReport
  | .inbound message => Event.inbound settings message
  | .start organization request startedBy => Event.start settings organization request startedBy
  | .resume conversation session node => Event.resume settings conversation session node

theorem operation_program (stimulus : Stimulus) :
    stimulus.operation.program settings = Operation.reporting (stimulus.program settings) := by
  cases stimulus <;> rfl

theorem twofold {stimulus : Stimulus} {outcome : Except Fault EventReport}
    (ran : Transcript (stimulus.program settings) calls outcome) :
    Event.Twofold (Event.IsAttempt settings) calls outcome := by
  cases stimulus with
  | inbound message => exact Event.inbound_twofold ran
  | start organization request startedBy => exact Event.start_twofold ran
  | resume conversation session node => exact Event.resume_twofold ran

end Stimulus

theorem Operation.reporting_calls {program : Engine EventReport}
    {result : Except Fault (Option EventReport)}
    (ran : Transcript (Operation.reporting program) calls result) :
    ∃ outcome, result = outcome.map some ∧ Transcript program calls outcome := by
  rcases Transcript.of_bind ran with ⟨report, earlier, later, rfl, began, done⟩ | ⟨fault, began, rfl⟩
  · obtain ⟨rfl, rfl⟩ := Transcript.of_done done
    rw [List.append_nil]
    exact ⟨.ok report, rfl, began⟩
  · exact ⟨.error fault, rfl, began⟩

namespace Event

/-! ### Deliveries of attempts -/

/-- An attempt that has stored its decision and has then carried out what it reports: the effects of
the nodes on its way, in order. -/
inductive Delivered (settings : EngineSettings) :
    List (Answered Call.Answer) → EventReport → Prop where
  | intro {looking walking before later : List (Answered Call.Answer)}
      {session written stored : Session} {inboundText : Option String} {isResume : Bool}
      {given : Option Flow} {results : List NodeResult} {decision : Decision} {report : EventReport}
      (approach : Run.Approach settings session inboundText isResume given walking results decision)
      (silent : deliveries (looking ++ walking ++ before) = [])
      (about : report.session = stored.id) (effects : report.effects = Run.collected results)
      (carried : Effect.CarriedOut session.organization session.conversation report.effects later) :
      Delivered settings (looking ++ walking ++ before ++
        ⟨.store (.updateSession written session.revision), .ok stored⟩ :: later) report

/-- What an event has delivered by its end: nothing where it has failed, or has run no session; else
what it reports, in its last attempt, once that was stored. -/
def Delivers (settings : EngineSettings) (calls : List (Answered Call.Answer)) :
    Except Fault EventReport → Prop
  | .error _ => deliveries calls = []
  | .ok report =>
      if report.status.isOfRun = true then
        ∃ earlier attempt, calls = earlier ++ attempt ∧ deliveries earlier = [] ∧
          Delivered settings attempt report
      else deliveries calls = [] ∧ report.effects = []

end Event

theorem Effect.CarriedOut.around {organization conversation : String} {effects : List Effect}
    (carried : CarriedOut organization conversation effects calls)
    {before after : List (Answered Call.Answer)} (first : deliveries before = [])
    (last : deliveries after = []) :
    CarriedOut organization conversation effects (before ++ calls ++ after) := by
  constructor
  · simpa [first, last] using carried.most
  · intro slept
    have quiet : ¬Roused calls := fun roused => slept ((roused.append_right before).append_left after)
    simpa [first, last] using carried.all quiet

theorem Effect.CarriedOut.after_commit {organization conversation : String} {effects : List Effect}
    (carried : CarriedOut organization conversation effects calls)
    {before : List (Answered Call.Answer)} (silent : deliveries before = []) {written : Session}
    {expected : Int} {reply : Except Fault Session} :
    CarriedOut organization conversation effects
      (before ++ ⟨.store (.updateSession written expected), reply⟩ :: calls) := by
  have first : deliveries (before ++ [⟨.store (.updateSession written expected), reply⟩]) = [] := by
    rw [deliveries_append, silent]
    rfl
  simpa using carried.around first deliveries_nil

namespace Event

theorem delivers_of_isOfRun {report : EventReport} {earlier attempt : List (Answered Call.Answer)}
    (status : report.status.isOfRun = true) (first : deliveries earlier = [])
    (delivered : Delivered settings attempt report) :
    Delivers settings (earlier ++ attempt) (.ok report) := by
  unfold Delivers
  dsimp only
  rw [if_pos status]
  exact ⟨earlier, attempt, rfl, first, delivered⟩

theorem Attempt.error_silent {fault : Fault} {run : Option (Ran settings)}
    (attempt : Attempt settings calls (.error fault) run) : deliveries calls = [] := by
  generalize same : Except.error fault = result at attempt
  cases attempt with
  | failed aside => exact aside.silent
  | declined => cases same
  | ran aside run =>
      have course := run.course
      rw [← same] at course
      rw [deliveries_append, aside.silent]
      exact course.error_silent

theorem Attempt.delivers {report : EventReport} {run : Option (Ran settings)}
    (attempt : Attempt settings calls (.ok report) run) : Delivers settings calls (.ok report) := by
  generalize same : Except.ok report = result at attempt
  cases attempt with
  | failed => cases same
  | declined aside status nothing =>
      cases same
      unfold Delivers
      dsimp only
      rw [status]
      exact ⟨aside.silent, nothing⟩
  | @ran looking aside run =>
      have course := run.course
      rw [← same] at course ⊢
      generalize run.calls = calls at course
      cases course with
      | @settled walking before after sending last written stored _ _ _ approach quiet closing
          effects carried apart quietly status about =>
          have sent := carried.around closing.silent quietly.silent
          have silent : deliveries (looking ++ walking ++ before) = [] := by
            rw [List.append_assoc, deliveries_append, aside.silent, quiet.silent]
            rfl
          have delivered := @Delivered.intro settings looking walking before
            (after ++ sending ++ last) _ written stored _ _ _ _ _ _ approach silent about effects sent
          have whole := delivers_of_isOfRun status deliveries_nil delivered
          simpa using whole

theorem Delivers.second {earlier later : List (Answered Call.Answer)}
    {outcome : Except Fault EventReport} (first : deliveries earlier = [])
    (delivers : Delivers settings later outcome) :
    Delivers settings (earlier ++ later) (settled outcome) := by
  cases outcome with
  | error fault =>
      have silent : deliveries (earlier ++ later) = [] := by
        rw [deliveries_append, first]
        exact delivers
      unfold settled
      dsimp only
      split
      · exact ⟨silent, rfl⟩
      · exact silent
  | ok report =>
      by_cases status : report.status.isOfRun = true
      · unfold Delivers at delivers
        dsimp only at delivers
        rw [if_pos status] at delivers
        obtain ⟨before, attempt, rfl, silent, delivered⟩ := delivers
        rw [← List.append_assoc]
        refine delivers_of_isOfRun status ?_ delivered
        rw [deliveries_append, first, silent]
        rfl
      · unfold Delivers at delivers ⊢
        dsimp only [settled] at delivers ⊢
        rw [if_neg status] at delivers ⊢
        rw [deliveries_append, first]
        exact delivers

theorem Unfolds.delivers {outcome : Except Fault EventReport} {runs : List (Ran settings)}
    (unfolds : Unfolds settings calls outcome runs) : Delivers settings calls outcome := by
  have attempted {calls : List (Answered Call.Answer)} {outcome : Except Fault EventReport}
      {run : Option (Ran settings)} (attempt : Attempt settings calls outcome run) :
      Delivers settings calls outcome := by
    cases outcome with
    | ok report => exact attempt.delivers
    | error fault => exact attempt.error_silent
  cases unfolds with
  | once attempt => exact attempted attempt
  | twice first conflict second =>
      exact (attempted second).second first.error_silent

/-! ### Effects of committed runs -/

/-- What the nodes on the way of a run have asked for, and the decision that it has come to. -/
def Ran.Collects (run : Ran settings) (effects : List Effect) (decision : Decision) : Prop :=
  ∃ walking rest results, run.calls = walking ++ rest ∧ effects = Run.collected results ∧
    Run.Approach settings run.session run.inboundText run.isResume run.given walking results decision

/-- A run has carried out what it had collected, or its session has ended, the timer jobs could not
be marked, and it has delivered nothing. -/
def Ran.CarriesOutOrLoses (run : Ran settings) : Prop :=
  ∃ effects decision, run.Collects effects decision ∧
    ((¬Run.Unmarked run.calls ∧
        Effect.CarriedOut run.session.organization run.session.conversation effects run.calls ∧
        ∃ report, run.result = .ok report ∧ report.effects = effects) ∨
      (Run.Unmarked run.calls ∧ decision.waits = false ∧ deliveries run.calls = [] ∧
        ∃ fault, run.result = .error fault))

theorem Ran.carriesOutOrLoses (run : Ran settings) (written : ¬Run.Unwritten run.calls) :
    run.CarriesOutOrLoses := by
  have course := run.course
  unfold Ran.CarriesOutOrLoses Ran.Collects
  generalize run.calls = calls at course written ⊢
  generalize run.result = result at course ⊢
  cases course with
  | unstored silent unwritten => exact absurd unwritten written
  | @unmarked walking before last _ stored _ _ fault approach quiet ends quietly =>
      refine ⟨_, _, ⟨_, _, _, List.append_assoc _ _ _, rfl, approach⟩,
        Or.inr ⟨?_, ends, ?_, _, rfl⟩⟩
      · refine ⟨stored.id, fault, List.mem_append_right _ (List.mem_cons_of_mem _ ?_)⟩
        exact List.mem_cons_self
      · exact Run.Course.error_silent (.unmarked approach quiet ends quietly)
  | settled approach quiet closing effects carried apart quietly status about =>
      -- no call of a settled run fails to mark timer jobs: not on the way, not at the write, not
      -- among the deliveries and not in the trace
      refine ⟨_, _, ⟨_, _, _, List.append_assoc _ _ _, rfl, approach⟩,
        Or.inl ⟨?_, ?_, _, rfl, effects⟩⟩
      · rintro ⟨id, fault, member⟩
        rcases List.mem_append.mp member with early | late
        · cases quiet _ early
        · rcases List.mem_cons.mp late with wrote | late
          · cases wrote
          · rcases List.mem_append.mp late with late | logged
            · rcases List.mem_append.mp late with closed | sent
              · exact closing.marked_ok ⟨id, fault, closed⟩
              · cases apart _ sent
            · cases quietly _ logged
      · rw [← effects]
        exact (carried.around closing.silent quietly.silent).after_commit quiet.silent

end Event

namespace Workplace

section

variable {ι : Type} {index : ι} {before middle after : Workplace ι} {stimulus : Stimulus}
  {result : Except Fault (Option EventReport)}

theorem Begun.unfolds (begun : Begun before middle index settings stimulus.operation)
    (onward : Onward index middle after) (ends : (after.worker index).Ends result) :
    ∃ outcome runs, result = outcome.map some ∧
      Event.Unfolds settings (after.worker index).past.reverse outcome runs := by
  have ran := begun.transcript onward ends
  rw [stimulus.operation_program] at ran
  obtain ⟨outcome, same, ran⟩ := Operation.reporting_calls ran
  obtain ⟨runs, unfolds⟩ := (Stimulus.twofold ran).unfolds
  exact ⟨outcome, runs, same, unfolds⟩

/-- Whatever the store answers or refuses, and whatever other workers do meanwhile, an event delivers
what it reports and nothing else, after its decision was stored. -/
theorem effects_delivered_after_commit
    (begun : Begun before middle index settings stimulus.operation)
    (onward : Onward index middle after) (ends : (after.worker index).Ends result) :
    ∃ outcome, result = outcome.map some ∧
      Event.Delivers settings (after.worker index).past.reverse outcome := by
  obtain ⟨outcome, runs, same, unfolds⟩ := begun.unfolds onward ends
  exact ⟨outcome, same, unfolds.delivers⟩

/-- Whatever the store answers or refuses, an event whose decision was stored carries out what it has
collected, unless the timer jobs of a session that has ended cannot be marked: then all of it is
lost. -/
theorem committed_effects_carried_out_unless_unmarked
    (begun : Begun before middle index settings stimulus.operation)
    (onward : Onward index middle after) (ends : (after.worker index).Ends result) :
    ∃ outcome runs, result = outcome.map some ∧
      Event.Unfolds settings (after.worker index).past.reverse outcome runs ∧
      ∀ run ∈ runs, ¬Run.Unwritten run.calls → run.CarriesOutOrLoses := by
  obtain ⟨outcome, runs, same, unfolds⟩ := begun.unfolds onward ends
  exact ⟨outcome, runs, same, unfolds, fun run _ written => run.carriesOutOrLoses written⟩

end

/-- A conversation is about to be handed over: a manual start has begun. -/
def handOverStart : Stimulus :=
  .start "org_1" ⟨"flow-0001", "conv_1", none, none, none, []⟩ none

def handingOver : Workplace Unit := opened (shortFlow "org_1" handOver) handOverStart.operation

/-- Every call of the event was answered. -/
def handedOver : Workplace Unit := handingOver.play sampleSettings (List.replicate 12 (.go ()))

/-- What is delivered where a conversation is handed over. -/
def farewell : List Delivery :=
  [.sendMessage "conv_1" (some "Um momento") .text none, .transfer "conv_1" .agent (some "agent_7")]

theorem handedOver_onward : Onward () handingOver handedOver :=
  Alone.onward (alone_play sampleSettings handingOver () Nothing 12)

theorem handedOver_ends : ∃ report, (handedOver.worker ()).Ends (.ok (some report)) ∧
    report.status = .completed := by
  have known : (reportOf? (handedOver.worker ())).any (fun report =>
      report.status = .completed) = true := by decide +kernel
  obtain ⟨report, done, status⟩ := (Option.any_eq_true _ _).mp known
  refine ⟨report, ?_, of_decide_eq_true status⟩
  rw [reportOf?_eq_some done]
  rfl

theorem handedOver_delivers : deliveries (handedOver.worker ()).past.reverse = farewell := by
  decide +kernel

theorem effects_delivered_after_commit_handedOver :
    ∃ report, (handedOver.worker ()).Ends (.ok (some report)) ∧ report.status.isOfRun = true ∧
      Event.Delivers sampleSettings (handedOver.worker ()).past.reverse (.ok report) ∧
      deliveries (handedOver.worker ()).past.reverse = farewell := by
  obtain ⟨report, ends, status⟩ := handedOver_ends
  obtain ⟨outcome, same, delivers⟩ :=
    effects_delivered_after_commit (opened_begun _ handOverStart.operation) handedOver_onward ends
  refine ⟨report, ends, by rw [status]; rfl, ?_, handedOver_delivers⟩
  cases outcome with
  | error fault => cases same
  | ok found =>
      cases same
      exact delivers

theorem committed_effects_carried_out_unless_unmarked_handedOver :
    ∃ outcome runs, Event.Unfolds sampleSettings (handedOver.worker ()).past.reverse outcome runs ∧
      (∀ run ∈ runs, ¬Run.Unwritten run.calls → run.CarriesOutOrLoses) ∧
      deliveries (handedOver.worker ()).past.reverse = farewell := by
  obtain ⟨report, ends, _⟩ := handedOver_ends
  obtain ⟨outcome, runs, _, unfolds, kept⟩ := committed_effects_carried_out_unless_unmarked
    (opened_begun _ handOverStart.operation) handedOver_onward ends
  exact ⟨outcome, runs, unfolds, kept, handedOver_delivers⟩

/-- The store refuses to mark the timer jobs of the session that has ended. -/
def unmarkedHandOver : Workplace Unit :=
  handingOver.play sampleSettings
    (List.replicate 8 (.go ()) ++ [.refuse () .mixedClocks] ++ List.replicate 2 (.go ()))

/-- The session is stored as ended by the transfer, and neither the message nor the transfer was
tried, which are both delivered where nothing is refused. -/
theorem committed_effects_lost :
    Reached unmarkedHandOver ∧
    (∃ session, unmarkedHandOver.scene.store.getSession "session-0001" = some session ∧
      session.status = .completed ∧ session.endReason = some "transferred" ∧
      session.isActive = false) ∧
    (unmarkedHandOver.worker ()).Ends (.error .mixedClocks) ∧
    deliveries (unmarkedHandOver.worker ()).past.reverse = [] ∧
    deliveries (handedOver.worker ()).past.reverse = farewell ∧ farewell ≠ [] := by
  have reached : Reached handingOver :=
    (stocked_reached _).step (opened_begun _ handOverStart.operation).step
  have row : (unmarkedHandOver.scene.store.getSession "session-0001").any (fun session =>
      session.status = .completed && session.endReason = some "transferred" &&
        !session.isActive) = true := by decide +kernel
  obtain ⟨session, stands, known⟩ := (Option.any_eq_true _ _).mp row
  simp only [Bool.and_eq_true, decide_eq_true_eq, Bool.not_eq_true'] at known
  obtain ⟨⟨status, reason⟩, inactive⟩ := known
  refine ⟨reached.play _, ⟨session, stands, status, reason, inactive⟩, ?_, by decide +kernel,
    handedOver_delivers, by decide⟩
  rfl

end Workplace

end ChatFlow
