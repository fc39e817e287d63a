import ChatFlow.Engine.Run
import ChatFlow.Proofs.Deliveries
import ChatFlow.Proofs.ServiceCalls
/-
The course of a run. A run walks through its flow, stores what was decided, and then carries out what
the nodes on its way have asked for: nothing is delivered before the decision is stored, and when
that succeeds everything is tried, unless the timer jobs of an ended session cannot be marked.
-/

set_option autoImplicit false

namespace ChatFlow

open Program

/-- The statuses of events in which a session was run. -/
def EventStatus.isOfRun : EventStatus → Bool
  | .ignored | .noTrigger | .conflict => false
  | _ => true

/-- Whether a session goes on after a decision: it waits for a reply or for a timer. -/
def Decision.waits : Decision → Bool
  | .awaitInput _ | .suspend _ => true
  | _ => false

namespace Run

variable {settings : EngineSettings} {flow : Flow} {session : Session}
  {inboundText : Option String}

/-! ### The way through a flow -/

/-- The context of a node that is reached with some variables. -/
def contextAt (flow : Flow) (session : Session) (inboundText : Option String) (isResume : Bool)
    (now : Stamp) (id : String) (bag : Variables) : NodeContext :=
  contextOf flow session inboundText isResume now
    { Progress.ofSession session with node := id, bag := bag }

/-- A node of a flow was evaluated, with these calls and this outcome, after the clock was read. -/
inductive Evaluated (settings : EngineSettings) (flow : Flow) (session : Session)
    (inboundText : Option String) (isResume : Bool) (id : String) (bag : Variables) :
    List (Answered Call.Answer) → Except Fault NodeResult → Prop where
  | intro {now : Stamp} {node : Node} {calls : List (Answered Call.Answer)}
      {outcome : Except Fault NodeResult} (here : flow.node? id = some node)
      (ran : Transcript (Evaluation.evaluate settings.services node
        (contextAt flow session inboundText isResume now id bag)) calls outcome) :
      Evaluated settings flow session inboundText isResume id bag (⟨.clock, .ok now⟩ :: calls) outcome

/-- A way through a flow from a node on, of at most a number of moves and one more: its calls, the
results of the nodes that were evaluated, and the decision at its end. -/
inductive Route (settings : EngineSettings) (flow : Flow) (session : Session)
    (inboundText : Option String) : (moves : Nat) → (isResume : Bool) → (id : String) →
    Variables → List (Answered Call.Answer) → List NodeResult → Decision → Prop where
  | lost {moves : Nat} {isResume : Bool} {id : String} {bag : Variables} (now : Stamp)
      (absent : flow.node? id = none) :
      Route settings flow session inboundText moves isResume id bag [⟨.clock, .ok now⟩] []
        (.terminate .failed "node_not_found")
  | broken {moves : Nat} {isResume : Bool} {id : String} {bag : Variables}
      {calls : List (Answered Call.Answer)} {fault : Fault}
      (evaluated : Evaluated settings flow session inboundText isResume id bag calls
        (.error fault)) :
      Route settings flow session inboundText moves isResume id bag calls []
        (.terminate .failed "node_error")
  | halted {moves : Nat} {isResume : Bool} {id : String} {bag : Variables}
      {calls : List (Answered Call.Answer)} {result : NodeResult}
      (evaluated : Evaluated settings flow session inboundText isResume id bag calls (.ok result))
      (decided : ∀ target handle, result.next ≠ .advance target handle) :
      Route settings flow session inboundText moves isResume id bag calls [result] result.next
  | strayed {moves : Nat} {isResume : Bool} {id target : String} {bag : Variables}
      {handle : Option String} {calls : List (Answered Call.Answer)} {result : NodeResult}
      (evaluated : Evaluated settings flow session inboundText isResume id bag calls (.ok result))
      (goes : result.next = .advance target handle) (absent : flow.node? target = none) :
      Route settings flow session inboundText moves isResume id bag calls [result]
        (.terminate .failed "node_not_found")
  | exhausted {isResume : Bool} {id target : String} {bag : Variables} {handle : Option String}
      {calls : List (Answered Call.Answer)} {result : NodeResult} (now : Stamp)
      (evaluated : Evaluated settings flow session inboundText isResume id bag calls (.ok result))
      (goes : result.next = .advance target handle) (present : (flow.node? target).isSome = true) :
      Route settings flow session inboundText 0 isResume id bag (calls ++ [⟨.clock, .ok now⟩])
        [result] (.terminate .failed "flow_loop_detected")
  | moved {moves : Nat} {isResume : Bool} {id target : String} {bag : Variables}
      {handle : Option String} {calls later : List (Answered Call.Answer)} {result : NodeResult}
      {results : List NodeResult} {decision : Decision}
      (evaluated : Evaluated settings flow session inboundText isResume id bag calls (.ok result))
      (goes : result.next = .advance target handle) (present : (flow.node? target).isSome = true)
      (rest : Route settings flow session inboundText moves false target result.bag later results
        decision) :
      Route settings flow session inboundText (moves + 1) isResume id bag (calls ++ later)
        (result :: results) decision

/-- The effects of the nodes on a way, in order. -/
def collected (results : List NodeResult) : List Effect := results.flatMap NodeResult.effects

/-- What a visit has come to: it has halted on a way of one node at most, or has moved on. -/
inductive Visits (settings : EngineSettings) (flow : Flow) (session : Session)
    (inboundText : Option String) (isResume : Bool) (progress : Progress)
    (calls : List (Answered Call.Answer)) : Visit → Prop where
  | halted {results : List NodeResult} {decision : Decision} {last : Progress}
      (route : ∀ moves, Route settings flow session inboundText moves isResume progress.node
        progress.bag calls results decision)
      (effects : last.effects = progress.effects ++ collected results) :
      Visits settings flow session inboundText isResume progress calls (.halted decision last)
  | moved {result : NodeResult} {handle : Option String} {next : Progress}
      (evaluated : Evaluated settings flow session inboundText isResume progress.node progress.bag
        calls (.ok result))
      (goes : result.next = .advance next.node handle)
      (present : (flow.node? next.node).isSome = true) (bag : next.bag = result.bag)
      (effects : next.effects = progress.effects ++ result.effects) :
      Visits settings flow session inboundText isResume progress calls (.moved next)

theorem collected_cons (result : NodeResult) (results : List NodeResult) :
    collected (result :: results) = result.effects ++ collected results :=
  List.flatMap_cons

theorem follow_visits {progress shown : Progress} {isResume : Bool} {result : NodeResult}
    {calls : List (Answered Call.Answer)}
    (evaluated : Evaluated settings flow session inboundText isResume progress.node progress.bag
      calls (.ok result))
    (same : shown.effects = progress.effects) (subject : TraceSubject) (now : Stamp) :
    Visits settings flow session inboundText isResume progress calls
      (follow flow subject now result shown) := by
  have effects : shown.effects ++ result.effects = progress.effects ++ collected [result] := by
    rw [same, collected_cons]
    exact congrArg _ (List.append_nil _).symm
  unfold follow
  dsimp only
  split
  · next target handle goes =>
      split
      · next present =>
          exact .moved evaluated goes present rfl (congrArg (· ++ result.effects) same)
      · next absent =>
          refine .halted (fun _ => .strayed evaluated goes ?_) effects
          simpa using absent
  · next decided => exact .halted (fun _ => .halted evaluated decided) effects

theorem visit_visits {progress : Progress} {isResume : Bool} {visit : Visit}
    {calls : List (Answered Call.Answer)}
    (ran : Transcript (Run.visit settings flow session inboundText isResume progress) calls
      (.ok visit)) :
    Visits settings flow session inboundText isResume progress calls visit := by
  unfold Run.visit at ran
  rcases now_first ran with ⟨now, later, rfl, rest⟩ | ⟨fault, _, same⟩
  · clear ran
    cases found : flow.node? progress.node with
    | none =>
        rw [found] at rest
        obtain ⟨rfl, same⟩ := Transcript.of_done rest
        cases same
        exact .halted (fun _ => .lost now found) (List.append_nil _).symm
    | some node =>
        rw [found] at rest
        rcases Transcript.of_bind rest with ⟨outcome, earlier, last, rfl, evaluated, rest⟩ |
          ⟨fault, _, same⟩
        · obtain ⟨inner, same, evaluated⟩ := Transcript.of_outcome evaluated
          cases same
          have evaluated : Evaluated settings flow session inboundText isResume progress.node
              progress.bag (⟨.clock, .ok now⟩ :: earlier) outcome := .intro found evaluated
          cases outcome with
          | ok result =>
              obtain ⟨rfl, same⟩ := Transcript.of_done rest
              cases same
              rw [List.append_nil]
              apply follow_visits evaluated
              rfl
          | error fault =>
              obtain ⟨rfl, same⟩ := Transcript.of_done rest
              cases same
              rw [List.append_nil]
              exact .halted (fun _ => .broken evaluated) (List.append_nil _).symm
        · cases same
  · cases same

theorem walk_route {progress last : Progress} {moves : Nat} {isResume : Bool}
    {decision : Decision} {calls : List (Answered Call.Answer)}
    (ran : Transcript (walk settings flow session inboundText moves isResume progress) calls
      (.ok (decision, last))) :
    ∃ results, Route settings flow session inboundText moves isResume progress.node progress.bag
      calls results decision ∧ last.effects = progress.effects ++ collected results := by
  -- by induction on the moves that are left; each visit adds one node and its effects
  induction moves generalizing isResume progress calls with
  | zero =>
      rcases Transcript.of_bind ran with ⟨visit, earlier, later, rfl, visited, rest⟩ | ⟨_, _, same⟩
      · cases visit_visits visited with
        | halted route effects =>
            obtain ⟨rfl, same⟩ := Transcript.of_done rest
            cases same
            rw [List.append_nil]
            exact ⟨_, route 0, effects⟩
        | moved evaluated goes present bag effects =>
            rcases now_first rest with ⟨now, none_, rfl, ended⟩ | ⟨_, _, same⟩
            · obtain ⟨rfl, same⟩ := Transcript.of_done ended
              cases same
              refine ⟨_, .exhausted now evaluated goes present, effects.trans ?_⟩
              rw [collected_cons]
              exact congrArg _ (List.append_nil _).symm
            · cases same
      · cases same
  | succ moves ih =>
      rcases Transcript.of_bind ran with ⟨visit, earlier, later, rfl, visited, rest⟩ | ⟨_, _, same⟩
      · cases visit_visits visited with
        | halted route effects =>
            obtain ⟨rfl, same⟩ := Transcript.of_done rest
            cases same
            rw [List.append_nil]
            exact ⟨_, route (moves + 1), effects⟩
        | moved evaluated goes present bag effects =>
            obtain ⟨results, route, more⟩ := ih rest
            rw [bag] at route
            refine ⟨_, .moved evaluated goes present route, ?_⟩
            rw [more, effects, collected_cons, List.append_assoc]
      · cases same

theorem visit_keepsQuiet (isResume : Bool) (progress : Progress) :
    KeepsQuiet (visit settings flow session inboundText isResume progress) := by
  refine Makes.bind (.now rfl) fun now => ?_
  cases flow.node? progress.node with
  | none => exact .done _
  | some node =>
      apply (Evaluation.evaluate_quiet _ _ _).outcome.bind
      intro outcome
      cases outcome <;> exact .done _

theorem walk_keepsQuiet (moves : Nat) (isResume : Bool) (progress : Progress) :
    KeepsQuiet (walk settings flow session inboundText moves isResume progress) := by
  induction moves generalizing isResume progress with
  | zero =>
      apply (visit_keepsQuiet isResume progress).bind
      intro visit
      cases visit with
      | halted decision last => exact .done _
      | moved next => exact .bind (.now rfl) fun _ => .done _
  | succ moves ih =>
      apply (visit_keepsQuiet isResume progress).bind
      intro visit
      cases visit with
      | halted decision last => exact .done _
      | moved next => exact ih false next

theorem decide_keepsQuiet (flow : Option Flow) (isResume : Bool) :
    KeepsQuiet (decide settings flow session inboundText isResume) := by
  cases flow with
  | none => exact .bind (.now rfl) fun _ => .done _
  | some flow => exact walk_keepsQuiet _ _ _

/-- How a run comes to a decision: by a way through its flow, or at once where that is gone. -/
inductive Decides (settings : EngineSettings) (session : Session) (inboundText : Option String)
    (isResume : Bool) : Option Flow → List (Answered Call.Answer) → List NodeResult → Decision →
    Prop where
  | walked {flow : Flow} {calls : List (Answered Call.Answer)} {results : List NodeResult}
      {decision : Decision} (route : Route settings flow session inboundText
        settings.maxSteps.toNat isResume session.currentNode session.bag calls results decision) :
      Decides settings session inboundText isResume (some flow) calls results decision
  | gone (now : Stamp) :
      Decides settings session inboundText isResume none [⟨.clock, .ok now⟩] []
        (.terminate .failed "flow_not_found")

theorem decide_decides {flow : Option Flow} {isResume : Bool} {decision : Decision}
    {last : Progress} {calls : List (Answered Call.Answer)}
    (ran : Transcript (decide settings flow session inboundText isResume) calls
      (.ok (decision, last))) :
    ∃ results, Decides settings session inboundText isResume flow calls results decision ∧
      last.effects = collected results := by
  cases flow with
  | some flow =>
      obtain ⟨results, route, effects⟩ := walk_route ran
      exact ⟨results, .walked route, effects⟩
  | none =>
      rcases now_first ran with ⟨now, later, rfl, rest⟩ | ⟨_, _, same⟩
      · obtain ⟨rfl, same⟩ := Transcript.of_done rest
        cases same
        exact ⟨[], .gone now, rfl⟩
      · cases same

/-! ### Storing what was decided -/

/-- No session was written. -/
def Unwritten (calls : List (Answered Call.Answer)) : Prop :=
  ∀ written expected stored,
    (⟨.store (.updateSession written expected), .ok stored⟩ : Answered Call.Answer) ∉ calls

/-- The timer jobs of a session could not be marked. -/
def Unmarked (calls : List (Answered Call.Answer)) : Prop :=
  ∃ id fault, (⟨.store (.markSessionDelays id), .error fault⟩ : Answered Call.Answer) ∈ calls

theorem Unwritten.of_quiet {calls : List (Answered Call.Answer)} (quiet : Quiet calls) :
    Unwritten calls := fun _ _ _ member => nomatch quiet _ member

theorem Unwritten.append {earlier later : List (Answered Call.Answer)} (first : Unwritten earlier)
    (last : Unwritten later) : Unwritten (earlier ++ later) := by
  intro written expected stored member
  rcases List.mem_append.mp member with early | late
  · exact first written expected stored early
  · exact last written expected stored late

/-- What follows the write of a session that has not failed: its timer jobs are marked where it has
ended. -/
inductive Closing (stored : Session) : List (Answered Call.Answer) → Prop where
  | open_ : Closing stored []
  | marked (count : Nat) : Closing stored [⟨.store (.markSessionDelays stored.id), .ok count⟩]

/-- How storing a decision went. -/
inductive Storing (session : Session) (decision : Decision) (effects : List Effect) :
    List (Answered Call.Answer) → Except Fault Commit → Prop where
  | failed {calls : List (Answered Call.Answer)} {fault : Fault} (silent : deliveries calls = [])
      (unwritten : Unwritten calls) : Storing session decision effects calls (.error fault)
  | unmarked {before : List (Answered Call.Answer)} {written stored : Session} {fault : Fault}
      (quiet : Quiet before) (ends : decision.waits = false) :
      Storing session decision effects
        (before ++ [⟨.store (.updateSession written session.revision), .ok stored⟩,
          ⟨.store (.markSessionDelays stored.id), .error fault⟩]) (.error fault)
  | stored {before after : List (Answered Call.Answer)} {written stored : Session}
      {commit : Commit} (quiet : Quiet before) (closing : Closing stored after)
      (status : commit.report.status.isOfRun = true) (same : commit.report.effects = effects)
      (about : commit.report.session = stored.id) :
      Storing session decision effects
        (before ++ ⟨.store (.updateSession written session.revision), .ok stored⟩ :: after)
        (.ok commit)

section

variable {decision : Decision} {progress : Progress} {before calls : List (Answered Call.Answer)}
  {result : Except Fault Commit}

theorem unwritten_refused {written : Session} {expected : Int} {fault : Fault} :
    Unwritten [⟨.store (.updateSession written expected), .error fault⟩] := by
  intro _ _ _ member
  cases List.mem_singleton.mp member

theorem Storing.refused {written : Session} {fault : Fault} (quiet : Quiet before) :
    Storing session decision progress.effects
      (before ++ [⟨.store (.updateSession written session.revision), .error fault⟩])
      (.error fault) := by
  refine .failed ?_ ((Unwritten.of_quiet quiet).append unwritten_refused)
  rw [deliveries_append, quiet.silent]
  rfl

theorem finish_storing {outcome : Outcome} {reason : String} {subject : TraceSubject} {now : Stamp}
    (quiet : Quiet before) (ends : decision.waits = false)
    (ran : Transcript (commit.finish progress (placed session progress) outcome reason subject now)
      calls result) :
    Storing session decision progress.effects (before ++ calls) result := by
  unfold commit.finish at ran
  rcases store_first ran with ⟨stored, later, rfl, marking⟩ | ⟨fault, rfl, rfl⟩
  · rcases stored_first marking with ⟨count, last, rfl, ended⟩ | ⟨fault, rfl, rfl⟩
    · obtain ⟨rfl, rfl⟩ := Transcript.of_done ended
      refine .stored quiet (.marked count) ?_ rfl rfl
      cases outcome <;> rfl
    · exact .unmarked quiet ends
  · exact .refused quiet

theorem commit_storing (ran : Transcript (commit session decision progress) calls result) :
    Storing session decision progress.effects calls result := by
  unfold commit at ran
  rcases now_first ran with ⟨now, later, rfl, deciding⟩ | ⟨fault, rfl, rfl⟩
  · have clock : Quiet [⟨.clock, .ok now⟩] := by simp [Call.isQuiet, quiet_nil]
    cases decision with
    | terminate outcome reason => exact finish_storing clock rfl deciding
    | advance target handle => exact finish_storing clock rfl deciding
    | awaitInput kind =>
        rcases store_first deciding with ⟨stored, last, rfl, ended⟩ | ⟨fault, rfl, rfl⟩
        · obtain ⟨rfl, rfl⟩ := Transcript.of_done ended
          exact .stored clock .open_ rfl rfl rfl
        · exact .refused clock
    | suspend resumeAt =>
        -- the timer job comes first, so that there are two more ways to fail before the write
        rcases Transcript.of_bind deciding with ⟨job, earlier, last, rfl, made, saving⟩ |
          ⟨fault, made, rfl⟩
        · obtain ⟨rfl, _⟩ := Transcript.of_ofExcept made
          rcases stored_first saving with ⟨saved, last, rfl, writing⟩ | ⟨fault, rfl, rfl⟩
          · have armed : Quiet [⟨.clock, .ok now⟩, ⟨.store (.saveDelay job), .ok saved⟩] := by
              simp [Call.isQuiet, quiet_nil]
            rcases store_first writing with ⟨stored, last, rfl, ended⟩ | ⟨fault, rfl, rfl⟩
            · obtain ⟨rfl, rfl⟩ := Transcript.of_done ended
              exact .stored armed .open_ rfl rfl rfl
            · exact .refused armed
          · refine .failed rfl (.of_quiet ?_)
            simp [Call.isQuiet, quiet_nil]
        · obtain ⟨rfl, _⟩ := Transcript.of_ofExcept made
          exact .failed rfl (.of_quiet clock)
  · refine .failed rfl (.of_quiet ?_)
    simp [Call.isQuiet, quiet_nil]

end

/-! ### A whole run -/

/-- A run up to its decision: it comes with its flow, or reads that first. -/
inductive Approach (settings : EngineSettings) (session : Session) (inboundText : Option String)
    (isResume : Bool) : Option Flow → List (Answered Call.Answer) → List NodeResult → Decision →
    Prop where
  | given {flow : Flow} {calls : List (Answered Call.Answer)} {results : List NodeResult}
      {decision : Decision}
      (decides : Decides settings session inboundText isResume (some flow) calls results decision) :
      Approach settings session inboundText isResume (some flow) calls results decision
  | read {flow : Option Flow} {calls : List (Answered Call.Answer)} {results : List NodeResult}
      {decision : Decision}
      (decides : Decides settings session inboundText isResume flow calls results decision) :
      Approach settings session inboundText isResume none
        (⟨.store (.getFlow session.flow), .ok flow⟩ :: calls) results decision

/-- What became of a run: nothing was stored; or its timer jobs could not be marked after the
session was stored as ended, and then nothing is carried out; or the effects were carried out. -/
inductive Course (settings : EngineSettings) (session : Session) (inboundText : Option String)
    (isResume : Bool) (given : Option Flow) :
    List (Answered Call.Answer) → Except Fault EventReport → Prop where
  | unstored {calls : List (Answered Call.Answer)} {fault : Fault}
      (silent : deliveries calls = []) (unwritten : Unwritten calls) :
      Course settings session inboundText isResume given calls (.error fault)
  | unmarked {walking before last : List (Answered Call.Answer)} {written stored : Session}
      {results : List NodeResult} {decision : Decision} {fault : Fault}
      (approach : Approach settings session inboundText isResume given walking results decision)
      (quiet : Quiet (walking ++ before)) (ends : decision.waits = false) (quietly : Quiet last) :
      Course settings session inboundText isResume given
        (walking ++ before ++ ⟨.store (.updateSession written session.revision), .ok stored⟩ ::
          ⟨.store (.markSessionDelays stored.id), .error fault⟩ :: last) (.error fault)
  | settled {walking before after sending last : List (Answered Call.Answer)}
      {written stored : Session} {results : List NodeResult} {decision : Decision}
      {report : EventReport}
      (approach : Approach settings session inboundText isResume given walking results decision)
      (quiet : Quiet (walking ++ before)) (closing : Closing stored after)
      (effects : report.effects = collected results)
      (carried : Effect.CarriedOut session.organization session.conversation report.effects sending)
      (apart : ∀ entry ∈ sending, entry.request.isStore = false) (quietly : Quiet last)
      (status : report.status.isOfRun = true) (about : report.session = stored.id) :
      Course settings session inboundText isResume given
        (walking ++ before ++ ⟨.store (.updateSession written session.revision), .ok stored⟩ ::
          (after ++ sending ++ last)) (.ok report)

theorem flush_failed {rows : List LogEntry} {fault : Fault} {calls : List (Answered Call.Answer)}
    {result : Except Fault EventReport}
    (ran : Transcript (do
      Engine.flush rows
      .fail fault : Engine EventReport) calls result) :
    Quiet calls ∧ result = .error fault := by
  rcases Transcript.of_bind ran with ⟨_, earlier, later, rfl, flushed, failed⟩ | ⟨_, flushed, _⟩
  · obtain ⟨rfl, rfl⟩ := Transcript.of_fail failed
    rw [List.append_nil]
    exact ⟨(Engine.flush_keepsQuiet _).all flushed, rfl⟩
  · cases Engine.flush_result flushed

theorem course_of_storing {isResume : Bool} {given : Option Flow}
    {walking saving final : List (Answered Call.Answer)} {results : List NodeResult}
    {decision : Decision} {progress : Progress} {outcome : Except Fault Commit}
    {result : Except Fault EventReport}
    (approach : Approach settings session inboundText isResume given walking results decision)
    (quiet : Quiet walking) (stored : Storing session decision (collected results) saving outcome)
    (effects : progress.effects = collected results)
    (ending : Transcript (match outcome with
      | .error fault => do
          Engine.flush progress.trace
          .fail fault
      | .ok stored => do
          Effect.dispatchAll session.organization session.conversation progress.effects
          Engine.flush (progress.trace ++ [stored.row])
          return stored.report) final result) :
    Course settings session inboundText isResume given (walking ++ (saving ++ final)) result := by
  cases stored with
  | failed silent unwritten =>
      obtain ⟨quietly, rfl⟩ := flush_failed ending
      refine .unstored ?_ ((Unwritten.of_quiet quiet).append (unwritten.append (.of_quiet quietly)))
      simp [quiet.silent, silent, quietly.silent]
  | unmarked first ends =>
      obtain ⟨quietly, rfl⟩ := flush_failed ending
      have before := (quiet_append _ _).mpr ⟨quiet, first⟩
      simpa using Course.unmarked approach before ends quietly
  | @stored first after _ _ commit quietly closing status same about =>
      have before := (quiet_append _ _).mpr ⟨quiet, quietly⟩
      rcases Transcript.of_bind ending with ⟨_, sending, last, rfl, sent, logging⟩ | ⟨_, sent, _⟩
      · obtain ⟨carried, _⟩ := Effect.dispatchAll_carriedOut sent
        have apart := sent.allowed (Effect.dispatchAll_always _ _ _ [])
        rcases Transcript.of_bind logging with ⟨_, logs, rest, rfl, logged, done⟩ | ⟨_, logged, _⟩
        · obtain ⟨rfl, rfl⟩ := Transcript.of_done done
          rw [effects, ← same] at carried
          simpa using Course.settled approach before closing same carried apart
            ((Engine.flush_keepsQuiet _).all logged) status about
        · cases Engine.flush_result logged
      · cases (Effect.dispatchAll_carriedOut sent).2

theorem run_course {isResume : Bool} {given : Option Flow} {calls : List (Answered Call.Answer)}
    {result : Except Fault EventReport}
    (ran : Transcript (run settings session inboundText isResume given) calls result) :
    Course settings session inboundText isResume given calls result := by
  unfold run at ran
  extract_lets proceed at ran
  -- a flow that is given and one that is read are walked alike
  have going {flow : Option Flow} {fetching later : List (Answered Call.Answer)}
      (fetched : Quiet fetching)
      (approaches : ∀ {walking results decision},
        Decides settings session inboundText isResume flow walking results decision →
        Approach settings session inboundText isResume given (fetching ++ walking) results decision)
      (rest : Transcript (proceed flow) later result) :
      Course settings session inboundText isResume given (fetching ++ later) result := by
    rcases Transcript.of_bind rest with ⟨⟨decision, last⟩, walking, others, rfl, decided, storing⟩ |
      ⟨fault, decided, rfl⟩
    · have walked := (decide_keepsQuiet flow isResume).all decided
      obtain ⟨results, decides, effects⟩ := decide_decides decided
      have approach := approaches decides
      rw [← List.append_assoc]
      have quiet : Quiet (fetching ++ walking) := (quiet_append _ _).mpr ⟨fetched, walked⟩
      rcases Transcript.of_bind storing with ⟨outcome, saving, final, rfl, tried, ending⟩ |
        ⟨fault, tried, rfl⟩
      · obtain ⟨inner, same, saved⟩ := Transcript.of_outcome tried
        cases same
        have stored := commit_storing saved
        rw [effects] at stored
        exact course_of_storing approach quiet stored effects ending
      · obtain ⟨_, same, _⟩ := Transcript.of_outcome tried
        cases same
    · have quiet : Quiet (fetching ++ later) :=
        (quiet_append _ _).mpr ⟨fetched, (decide_keepsQuiet flow isResume).all decided⟩
      exact .unstored quiet.silent (.of_quiet quiet)
  cases given with
  | some flow => exact going quiet_nil .given ran
  | none =>
      rcases store_first ran with ⟨flow, later, rfl, rest⟩ | ⟨fault, rfl, rfl⟩
      · have fetched : Quiet [⟨.store (.getFlow session.flow), .ok flow⟩] := by
          simp [Call.isQuiet, quiet_nil]
        exact going fetched .read rest
      · refine .unstored rfl (.of_quiet ?_)
        simp [Call.isQuiet, quiet_nil]

theorem Closing.silent {stored : Session} {calls : List (Answered Call.Answer)}
    (closing : Closing stored calls) : deliveries calls = [] := by
  cases closing <;> rfl

theorem Closing.marked_ok {stored : Session} {calls : List (Answered Call.Answer)}
    (closing : Closing stored calls) : ¬Unmarked calls := by
  rintro ⟨id, fault, member⟩
  cases closing with
  | open_ => cases member
  | marked count => cases List.mem_singleton.mp member

theorem Course.error_silent {isResume : Bool} {given : Option Flow}
    {calls : List (Answered Call.Answer)} {fault : Fault}
    (course : Course settings session inboundText isResume given calls (.error fault)) :
    deliveries calls = [] := by
  cases course with
  | unstored silent unwritten => exact silent
  | unmarked approach quiet ends quietly =>
      rw [deliveries_append, quiet.silent, deliveries_cons_store rfl, deliveries_cons_store rfl,
        quietly.silent]
      rfl

end Run

end ChatFlow
