import ChatFlow.Proofs.Tour
import ChatFlow.Proofs.Transparency
/-
Calls to the outside in an event. All of them are made by the evaluations of its attempts, so that
there are no more of them than there are nodes among these that are there to call outside; and where
the first attempt meets nobody, these are the nodes of the one attempt. What an attempt has asked for
is not kept, however: an attempt that has met another writer is repeated from a fresh read, and its
nodes are evaluated and call outside once more.
-/

set_option autoImplicit false

namespace ChatFlow

open Program Surroundings

variable {settings : EngineSettings} {calls : List (Answered Call.Answer)}
  {outcome : Except Fault EventReport}

namespace Event

/-! ### The nodes of an attempt -/

/-- Calls that ask no service and trace the begin of no node. -/
def Inward (calls : List (Answered Call.Answer)) : Prop :=
  ∀ entry ∈ calls, IsInward entry.request

theorem Inward.unseen (inward : Inward calls) :
    outboundCalls calls = 0 ∧ tracedVisits calls = 0 := by
  constructor
  · refine outboundCalls_eq_zero fun entry member => ?_
    have kind := inward entry member
    cases asked : entry.request with
    | store | clock | history | deliver | sleep => rfl
    | complete | http =>
        rw [asked] at kind
        exact kind.elim
  · refine tracedVisits_eq_zero fun entry member => ?_
    have kind := inward entry member
    cases asked : entry.request with
    | store request =>
        rw [asked] at kind
        cases request with
        | saveLogs rows =>
            refine List.countP_eq_zero.mpr fun row present => ?_
            rw [LogEntry.beginsOutside_other (kind row present)]
            exact Bool.false_ne_true
        | _ => rfl
    | clock | complete | http | history | deliver | sleep => rfl

/-- An attempt with the nodes that it has evaluated: those at the stops of its run, if it has come to
one. -/
inductive Evaluates (settings : EngineSettings) :
    List (Answered Call.Answer) → Except Fault EventReport → List (Run.Stop settings) → Prop where
  | inward {calls : List (Answered Call.Answer)} (outcome : Except Fault EventReport)
      (inward : Inward calls) : Evaluates settings calls outcome []
  | ran {looking : List (Answered Call.Answer)} {stops : List (Run.Stop settings)}
      (inward : Inward looking) (run : Ran settings)
      (tours : Run.Tours settings run.session run.inboundText run.isResume run.given run.calls
        stops) :
      Evaluates settings (looking ++ run.calls) run.result stops

theorem Evaluates.asked {stops : List (Run.Stop settings)}
    (evaluates : Evaluates settings calls outcome stops) :
    outboundCalls calls = Run.askedAt stops := by
  cases evaluates with
  | inward _ inward => exact inward.unseen.1
  | ran inward run tours => rw [outboundCalls_append, inward.unseen.1, tours.asked, Nat.zero_add]

/-- Where an attempt comes to a report, its trace tells of the nodes that it has evaluated. -/
def IsTraced (settings : EngineSettings) (calls : List (Answered Call.Answer))
    (outcome : Except Fault EventReport) : Prop :=
  ∃ stops, Evaluates settings calls outcome stops ∧
    ∀ report, outcome = .ok report → tracedVisits calls = Run.outsideVisits stops

theorem isTraced_of_inward (inward : Inward calls) : IsTraced settings calls outcome :=
  ⟨[], .inward outcome inward, fun _ _ => inward.unseen.2⟩

theorem IsAttempt.traced (attempt : IsAttempt settings calls outcome) :
    IsTraced settings calls outcome := by
  obtain ⟨run, attempted⟩ := attempt
  cases attempted with
  | failed errands => exact isTraced_of_inward fun entry member => (errands entry member).inward
  | declined errands => exact isTraced_of_inward fun entry member => (errands entry member).inward
  | ran errands run =>
      have inward : Inward _ := fun entry member => (errands entry member).inward
      obtain ⟨stops, tours, _, tells⟩ := Run.run_tours run.recorded
      refine ⟨stops, .ran inward run tours, fun report same => ?_⟩
      exact ((tells report same).after inward.unseen.2).traced

theorem cancel_traced {organization conversation reason : String}
    (ran : Transcript (cancel organization conversation reason) calls outcome) :
    Twofold (IsTraced settings) calls outcome := by
  have looking : Makes IsInward (activeSession organization conversation) := by
    refine Makes.bind (.store trivial) fun found => ?_
    cases found with
    | none => exact .fail _
    | some session =>
        dsimp only
        split
        · exact .done _
        · exact .fail _
  have ending (found : Session) : Makes IsInward (cancelReport found reason) := by
    refine Makes.bind (endSession_makes trivial (fun _ => trivial) (fun _ => trivial) ?_)
      fun _ => .done _
    intro row complete entry member
    rw [List.mem_singleton.mp member, complete]
    exact LogKind.noConfusion
  refine (withRetry_twofold ran).mono fun calls outcome ran => isTraced_of_inward ?_
  exact Makes.all (.bind looking ending) ran

/-! ### The nodes of an event -/

/-- An event with the nodes that its attempts have evaluated: those of an attempt that has met another
writer, if there was one, and those of the attempt whose outcome it has. -/
inductive Visited (settings : EngineSettings) :
    List (Answered Call.Answer) → Except Fault EventReport → (earlier last : List (Run.Stop settings)) →
    Prop where
  | once {calls : List (Answered Call.Answer)} {outcome : Except Fault EventReport}
      {stops : List (Run.Stop settings)} (attempt : Evaluates settings calls outcome stops) :
      Visited settings calls outcome [] stops
  | twice {before after : List (Answered Call.Answer)} {fault : Fault}
      {outcome : Except Fault EventReport} {earlier last : List (Run.Stop settings)}
      (first : Evaluates settings before (.error fault) earlier)
      (conflict : fault.isConflict = true) (second : Evaluates settings after outcome last) :
      Visited settings (before ++ after) (settled outcome) earlier last

theorem Visited.asked {earlier last : List (Run.Stop settings)}
    (visited : Visited settings calls outcome earlier last) :
    outboundCalls calls = Run.askedAt earlier + Run.askedAt last := by
  cases visited with
  | once attempt => exact attempt.asked.trans (Nat.zero_add _).symm
  | twice first conflict second => rw [outboundCalls_append, first.asked, second.asked]

theorem Twofold.visited (twofold : Twofold (IsTraced settings) calls outcome) :
    ∃ earlier last, Visited settings calls outcome earlier last := by
  cases twofold with
  | once attempt =>
      obtain ⟨stops, evaluates, _⟩ := attempt
      exact ⟨[], stops, .once evaluates⟩
  | twice first conflict second =>
      obtain ⟨earlier, before, _⟩ := first
      obtain ⟨last, after, _⟩ := second
      exact ⟨earlier, last, .twice before conflict after⟩

end Event

theorem Occurrence.traced {occurrence : Occurrence}
    (ran : Transcript (occurrence.program settings) calls outcome) :
    Event.Twofold (Event.IsTraced settings) calls outcome := by
  cases occurrence with
  | run stimulus => exact (Stimulus.twofold ran).mono fun _ _ => Event.IsAttempt.traced
  | cancel organization conversation reason => exact Event.cancel_traced ran

namespace Workplace

section

variable {ι : Type} {index : ι} {before middle after : Workplace ι} {occurrence : Occurrence}
  {result : Except Fault (Option EventReport)}

/-- Whatever the store answers or refuses, and whatever other workers do meanwhile, an event calls
outside in the evaluations of its attempts only, in each of them once at most, and only at the nodes
that are there for it. -/
theorem outbound_calls_visited
    (begun : Begun before middle index settings occurrence.operation)
    (onward : Onward index middle after) (ends : (after.worker index).Ends result) :
    ∃ outcome earlier last, result = outcome.map some ∧
      Event.Visited settings (after.worker index).past.reverse outcome earlier last ∧
      (∀ stop ∈ earlier ++ last,
        outboundCalls stop.calls ≤ if stop.node.kind.asksOutside = true then 1 else 0) ∧
      outboundCalls (after.worker index).past ≤
        Run.outsideVisits earlier + Run.outsideVisits last := by
  have ran := begun.transcript onward ends
  rw [occurrence.operation_program settings] at ran
  obtain ⟨outcome, same, ran⟩ := Operation.reporting_calls ran
  obtain ⟨earlier, last, visited⟩ := (Occurrence.traced ran).visited
  refine ⟨outcome, earlier, last, same, visited, fun stop _ => stop.few, ?_⟩
  have asked := visited.asked
  rw [outboundCalls_reverse] at asked
  rw [asked]
  exact Nat.add_le_add (Run.askedAt_le earlier) (Run.askedAt_le last)

end

/-! ### A reply that is posted -/

/-- A service that takes what is posted. -/
def leadService : Content :=
  .webhook ⟨"https://api.example.com/leads", .post, [], none, none, none, Binary64.ofInt 30, false, []⟩

/-- A contact is asked a question, and the reply is posted. -/
def leadFlow : Flow :=
  let asking := shortFlow "org_1" question
  { asking with
    nodes := asking.nodes ++ [⟨"hook", none, Position.origin, leadService, []⟩]
    edges := asking.edges ++ [⟨"e2", "node", "hook", none, none, none, "default", []⟩] }

/-- The contact has been asked. -/
def awaiting : Workplace Unit :=
  (stocked leadFlow).play sampleSettings
    (.order () (.start "org_1" ⟨"flow-0001", "conv_1", none, none, none, []⟩ none) :: answered 10)

theorem awaiting_reached : Reached awaiting := (stocked_reached _).play _

theorem awaiting_idle : decide (awaiting.worker ()).IsIdle = true := by decide +kernel

/-- The contact replies. -/
def leadReply : Workplace Unit := awaiting.beginning (.inbound contactReply)

theorem leadReply_begun :
    Begun awaiting leadReply () sampleSettings (Occurrence.run (.inbound contactReply)).operation :=
  beginning_begun awaiting awaiting_idle (.inbound contactReply)

def posted : Workplace Unit := leadReply.play sampleSettings (answered 9)

theorem posted_onward : Onward () leadReply posted :=
  Alone.onward (alone_play sampleSettings leadReply () Nothing 9)

theorem outbound_calls_visited_posted :
    ∃ report earlier last, (posted.worker ()).Ends (.ok (some report)) ∧
      report.status = .completed ∧
      Event.Visited sampleSettings (posted.worker ()).past.reverse (.ok report) earlier last ∧
      outboundCalls (posted.worker ()).past = 1 ∧
      1 ≤ Run.outsideVisits earlier + Run.outsideVisits last := by
  have known : (reportOf? (posted.worker ())).any (fun report =>
      report.status = .completed) = true := by decide +kernel
  obtain ⟨report, done, status⟩ := (Option.any_eq_true _ _).mp known
  have ends : (posted.worker ()).Ends (.ok (some report)) := by
    rw [reportOf?_eq_some done]
    rfl
  have once : outboundCalls (posted.worker ()).past = 1 := by decide +kernel
  obtain ⟨outcome, earlier, last, same, visited, _, most⟩ :=
    outbound_calls_visited leadReply_begun posted_onward ends
  rw [once] at most
  cases outcome with
  | error fault => cases same
  | ok found =>
      cases same
      exact ⟨report, earlier, last, ends, of_decide_eq_true status, visited, once, most⟩

/-- One attempt at the reply. -/
def replied (solo : Solo) : Except Fault EventReport × Solo :=
  sampleSurroundings.carryOut (Event.attempt sampleSettings contactReply) solo

def repliedCalls (solo : Solo) : List (Answered Call.Answer) :=
  (Event.attempt sampleSettings contactReply).log sampleSurroundings.answer solo

theorem replied_eq (solo : Solo) :
    sampleSurroundings.carryOut (Event.attempt sampleSettings contactReply) solo =
      replied solo := rfl

theorem replied_traced {solo : Solo} {result : Except Fault EventReport}
    (same : (replied solo).1 = result) :
    Event.IsTraced sampleSettings (repliedCalls solo) result := by
  have ran := sampleSurroundings.carryOut_transcript
    (Event.attempt sampleSettings contactReply) solo
  rw [replied_eq, same] at ran
  exact ((Event.attempt_attempts contactReply).attempt _ _ ran).traced

/-- The first attempt begins; its write of the session is to meet another writer. -/
def leadStart : Solo := awaiting.scene.store.alone (some 0)

/-- The second attempt begins where the first one has ended. -/
def leadRetry : Solo := (replied leadStart).2

def failedByConflict : Except Fault EventReport → Bool
  | .ok _ => false
  | .error fault => fault.isConflict

theorem of_failedByConflict {result : Except Fault EventReport}
    (failed : failedByConflict result = true) :
    ∃ fault, result = .error fault ∧ fault.isConflict = true := by
  cases result with
  | ok report => cases failed
  | error fault => exact ⟨fault, rfl, failed⟩

theorem leadStart_conflicts :
    ∃ fault, (replied leadStart).1 = .error fault ∧ fault.isConflict = true :=
  of_failedByConflict (by decide +kernel)

theorem leadRetry_completes :
    ∃ report, (replied leadRetry).1 = .ok report ∧ report.status = .completed :=
  of_hasStatus (by decide +kernel)

/-- A message that has met another writer is handled in a second attempt. -/
theorem inbound_twice {around : Surroundings} {message : InboundMessage} {solo middle later : Solo}
    {fault : Fault} {report : EventReport}
    (first : around.carryOut (Event.attempt settings message) solo = (.error fault, middle))
    (conflict : fault.isConflict = true)
    (second : around.carryOut (Event.attempt settings message) middle = (.ok report, later)) :
    around.carryOut ((Stimulus.inbound message).program settings) solo = (.ok report, later) ∧
      ((Stimulus.inbound message).program settings).log around.answer solo =
        (Event.attempt settings message).log around.answer solo ++
          (Event.attempt settings message).log around.answer middle := by
  have attempts : (Stimulus.inbound message).program settings =
      Event.withRetry (Event.attempt settings message) := Event.inbound_attempts message
  rw [attempts]
  exact ⟨withRetry_twice first conflict second, log_withRetry_twice first conflict⟩

theorem reply_posted_again_after_conflict :
    ∃ (after : Workplace Unit) (report : EventReport)
      (earlier last : List (Run.Stop sampleSettings)),
      Reached awaiting ∧
      Begun awaiting leadReply () sampleSettings
        (Occurrence.run (.inbound contactReply)).operation ∧
      Alone () WritesSession leadReply after ∧
      isLoneClash (failures (after.worker ()).past) = true ∧
      (after.worker ()).Ends (.ok (some report)) ∧ report.status = .completed ∧
      Event.Visited sampleSettings (after.worker ()).past.reverse (.ok report) earlier last ∧
      Run.outsideVisits last = 1 ∧ outboundCalls (after.worker ()).past = 2 := by
  obtain ⟨fault, failed, conflict⟩ := leadStart_conflicts
  obtain ⟨report, completes, status⟩ := leadRetry_completes
  have first := carryOut_ended (replied_eq leadStart) failed
  have second := carryOut_ended (replied_eq leadRetry) completes
  obtain ⟨ran, logged⟩ := inbound_twice first conflict second
  have time : awaiting.scene.time = sampleSurroundings.time := by decide +kernel
  have begins : Begun awaiting leadReply () sampleSettings
      (Stimulus.inbound contactReply).operation := leadReply_begun
  obtain ⟨after, alone, ends, told, _⟩ := exists_lone begins time ran
  have told : (after.worker ()).past = (repliedCalls leadStart ++ repliedCalls leadRetry).reverse :=
    told.trans (congrArg List.reverse logged)
  obtain ⟨earlier, before, _⟩ := replied_traced failed
  obtain ⟨last, afterwards, traced⟩ := replied_traced completes
  refine ⟨after, report, earlier, last, awaiting_reached, leadReply_begun, alone, ?_, ends, status,
    ?_, ?_, ?_⟩
  · rw [told]
    decide +kernel
  · rw [told, List.reverse_reverse]
    exact .twice before conflict afterwards
  · rw [← traced report rfl]
    decide +kernel
  · rw [told, outboundCalls_reverse]
    decide +kernel

end Workplace

end ChatFlow
