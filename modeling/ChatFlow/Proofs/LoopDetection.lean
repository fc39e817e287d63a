import Mathlib.Data.List.Count
import Mathlib.Data.List.Dedup
import ChatFlow.Proofs.OutboundCalls
import ChatFlow.Proofs.WaitingNodes
/-
Ways that are too long. A run that makes more moves than it may has come back to some node, unless
its flow has more nodes than that; each of its stops is at a node of the flow, and an edge of the
flow leads from one stop to the next. On a flow without cycles no way is too long for its nodes.
-/

set_option autoImplicit false

namespace ChatFlow

open Program

namespace Flow

/-- How many nodes of a flow can be told apart. -/
def places (flow : Flow) : Nat := (flow.nodes.map Node.id).dedup.length

/-- An edge leads from one node to another. -/
def Links (flow : Flow) (here there : String) : Prop :=
  ∃ edge ∈ flow.edges, edge.source = here ∧ edge.target = there

/-- No way along the edges of a flow leads back to where it begins. -/
def IsAcyclic (flow : Flow) : Prop := ∀ id, ¬Relation.TransGen flow.Links id id

theorem mem_of_node? {flow : Flow} {id : String} {node : Node} (found : flow.node? id = some node) :
    node ∈ flow.nodes :=
  List.mem_reverse.mp (List.mem_of_find?_eq_some found)

end Flow

namespace Run

variable {settings : EngineSettings} {flow : Flow} {session : Session}
  {inboundText : Option String} {isResume : Bool} {id : String} {bag : Variables}
  {calls : List (Answered Call.Answer)} {stops : List (Stop settings)}

/-! ### Where stops are -/

/-- The nodes of some stops. -/
def stopped (stops : List (Stop settings)) : List String := stops.map fun stop => stop.node.id

theorem Stop.Stands.id_eq {stop : Stop settings} {now : Stamp}
    (stands : stop.Stands flow session inboundText isResume now id bag) : stop.node.id = id :=
  node?_id stands.here

theorem Stop.Leads.links {stop : Stop settings} {value : NodeResult} {now : Stamp}
    {target : String} (leads : stop.Leads flow value target)
    (stands : stop.Stands flow session inboundText isResume now id bag) : flow.Links id target := by
  obtain ⟨handle, goes⟩ := leads.goes
  exact stands.edge leads.done goes

namespace Tour

/-- Every stop is at a node of the flow. -/
theorem inside (tour : Tour settings flow session inboundText isResume id bag calls stops) :
    ∀ place ∈ stopped stops, place ∈ flow.nodes.map Node.id := by
  have placed {stop : Stop settings} {now : Stamp} {isResume : Bool} {id : String} {bag : Variables}
      (stands : stop.Stands flow session inboundText isResume now id bag) :
      stop.node.id ∈ flow.nodes.map Node.id :=
    List.mem_map_of_mem (Flow.mem_of_node? stands.here)
  induction tour with
  | unclocked | lost => exact fun _ member => nomatch member
  | ended stands => exact List.forall_mem_singleton.mpr (placed stands)
  | exhausted stands => exact List.forall_mem_singleton.mpr (placed stands)
  | moved stands leads rest ih => exact List.forall_mem_cons.mpr ⟨placed stands, ih⟩

/-- Every stop is reached along edges from where the way begins. -/
theorem reaches (tour : Tour settings flow session inboundText isResume id bag calls stops) :
    ∀ place ∈ stopped stops, Relation.ReflTransGen flow.Links id place := by
  induction tour with
  | unclocked | lost => exact fun _ member => nomatch member
  | ended stands => exact List.forall_mem_singleton.mpr (stands.id_eq ▸ .refl)
  | exhausted stands => exact List.forall_mem_singleton.mpr (stands.id_eq ▸ .refl)
  | moved stands leads rest ih =>
      refine List.forall_mem_cons.mpr ⟨stands.id_eq ▸ .refl, fun place later => ?_⟩
      exact .head (leads.links stands) (ih place later)

/-- Later stops are reached along edges from earlier ones. -/
theorem ordered (tour : Tour settings flow session inboundText isResume id bag calls stops) :
    (stopped stops).Pairwise (Relation.TransGen flow.Links) := by
  induction tour with
  | unclocked | lost => exact .nil
  | ended | exhausted => exact List.pairwise_singleton _ _
  | moved stands leads rest ih =>
      refine List.pairwise_cons.mpr ⟨fun place later => ?_, ih⟩
      dsimp only
      rw [stands.id_eq]
      exact .head' (leads.links stands) (rest.reaches place later)

/-- On a flow without cycles no node is visited twice. -/
theorem nodup_of_acyclic (acyclic : flow.IsAcyclic)
    (tour : Tour settings flow session inboundText isResume id bag calls stops) :
    (stopped stops).Nodup := by
  refine tour.ordered.imp ?_
  intro here there way same
  exact acyclic there (same ▸ way)

/-- Where there are more stops than nodes, some node is visited twice. -/
theorem repeats (tour : Tour settings flow session inboundText isResume id bag calls stops)
    (many : flow.places < stops.length) : ∃ place, 2 ≤ (stopped stops).count place := by
  have twice : ¬(stopped stops).Nodup := by
    intro distinct
    have among : stopped stops ⊆ (flow.nodes.map Node.id).dedup :=
      fun place member => List.mem_dedup.mpr (tour.inside place member)
    have few := (List.subperm_of_subset distinct among).length_le
    rw [stopped, List.length_map] at few
    exact absurd few (Nat.not_le.mpr many)
  rw [List.nodup_iff_count_le_one, not_forall] at twice
  obtain ⟨place, often⟩ := twice
  exact ⟨place, Nat.not_le.mp often⟩

end Tour

/-- A run with a flow goes along that flow. -/
theorem Tours.tour {given : Option Flow} {reading later : List (Answered Call.Answer)}
    (tours : Tours settings session inboundText isResume given calls stops)
    (split : calls = reading ++ later) (fetched : Fetches session given reading (some flow)) :
    ∃ walking, Tour settings flow session inboundText isResume session.currentNode session.bag walking
      stops := by
  cases fetched with
  | given =>
      cases tours with
      | given tour inside => exact ⟨_, tour⟩
  | read =>
      cases tours with
      | read tours =>
          cases split
          cases tours with
          | given tour inside => exact ⟨_, tour⟩
      | gone inside => cases split
      | unread fault => cases split

/-- A run that has stopped somewhere has a flow. -/
theorem Tours.fetched {given : Option Flow}
    (tours : Tours settings session inboundText isResume given calls stops) (present : stops ≠ []) :
    ∃ flow reading later, calls = reading ++ later ∧ Fetches session given reading (some flow) := by
  cases tours with
  | @given flow walking after _ tour inside => exact ⟨flow, [], walking ++ after, rfl, .given flow⟩
  | @read flow calls _ tours => exact ⟨flow, [_], calls, rfl, .read (some flow)⟩
  | gone | unread => exact absurd rfl present

end Run

namespace Event

variable {settings : EngineSettings} {calls : List (Answered Call.Answer)}
  {outcome : Except Fault EventReport}

/-! ### Runs -/

/-- The flow of a run: it is given to the run, or read first of all. -/
def Ran.HasFlow (run : Ran settings) (flow : Flow) : Prop :=
  ∃ reading later, run.calls = reading ++ later ∧
    Run.Fetches run.session run.given reading (some flow)

/-- What is reported of an attempt: it has made one move more than it may at most, and so many just
where it has failed since its way was too long. -/
structure IsBounded (settings : EngineSettings) (report : EventReport) : Prop where
  few : (report.steps : Int) ≤ settings.maxSteps + 1
  exhausts : (report.steps : Int) = settings.maxSteps + 1 ↔ report.IsTooLong

/-- A run evaluates one node more than it may make moves at most. Where it reports that its way was
too long, it had a flow, and if that has no more nodes than moves may be made, some node was
evaluated twice and the edges of the flow form a cycle. -/
structure Ran.Bounded (run : Ran settings) (stops : List (Run.Stop settings)) : Prop where
  tours : Run.Tours settings run.session run.inboundText run.isResume run.given run.calls stops
  few : (stops.length : Int) ≤ settings.maxSteps + 1
  reported : ∀ report, run.result = .ok report → IsBounded settings report
  flows : ∀ report, run.result = .ok report → report.IsTooLong → ∃ flow, run.HasFlow flow
  repeats : ∀ report flow, run.result = .ok report → report.IsTooLong → run.HasFlow flow →
    (flow.places : Int) ≤ settings.maxSteps → ∃ id, 2 ≤ (Run.stopped stops).count id
  cyclic : ∀ report flow, run.result = .ok report → report.IsTooLong → run.HasFlow flow →
    (flow.places : Int) ≤ settings.maxSteps → ¬flow.IsAcyclic

theorem Ran.bounded (run : Ran settings) (limited : 0 ≤ settings.maxSteps) :
    ∃ stops, run.Bounded stops := by
  obtain ⟨stops, tours, few, tells⟩ := Run.run_tours run.recorded
  have limit : (settings.maxSteps.toNat : Int) = settings.maxSteps := Int.toNat_of_nonneg limited
  have twice : ∀ report flow, run.result = .ok report → report.IsTooLong → run.HasFlow flow →
      (flow.places : Int) ≤ settings.maxSteps → ∃ id, 2 ≤ (Run.stopped stops).count id := by
    intro report flow same long has small
    obtain ⟨reading, later, split, fetched⟩ := has
    obtain ⟨walking, tour⟩ := tours.tour split fetched
    have all := (tells report same).all long
    exact tour.repeats (by omega)
  refine ⟨stops, tours, by omega, fun report same => ?_, fun report same long => ?_, twice, ?_⟩
  · have told := tells report same
    have few := told.few
    refine ⟨by omega, ?_⟩
    rw [← told.exhausts]
    omega
  · have all := (tells report same).all long
    obtain ⟨flow, fetched⟩ := tours.fetched (fun absent => by rw [absent] at all; cases all)
    exact ⟨flow, fetched⟩
  · intro report flow same long has small acyclic
    obtain ⟨id, often⟩ := twice report flow same long has small
    obtain ⟨reading, later, split, fetched⟩ := has
    obtain ⟨walking, tour⟩ := tours.tour split fetched
    have once := List.nodup_iff_count_le_one.mp (tour.nodup_of_acyclic acyclic) id
    omega

/-! ### Events -/

theorem isBounded_of_still {report : EventReport} (limited : 0 ≤ settings.maxSteps)
    (still : report.steps = 0) (status : report.status ≠ .failed) : IsBounded settings report := by
  refine ⟨by omega, fun far => by omega, fun long => ?_⟩
  exact absurd long.1 status

/-- An event reports what its last attempt does, or that it has met another writer twice. -/
theorem settled_reports {report : EventReport} (same : settled outcome = .ok report) :
    outcome = .ok report ∨ report = conflictReport := by
  cases outcome with
  | ok other => exact Or.inl same
  | error fault =>
      unfold settled at same
      dsimp only at same
      split at same
      · exact Or.inr (Except.ok.inj same).symm
      · cases same

/-- What attempts report, their event reports. -/
theorem Twofold.reports {kind : List (Answered Call.Answer) → Except Fault EventReport → Prop}
    {good : EventReport → Prop} (twofold : Twofold kind calls outcome)
    (each : ∀ calls report, kind calls (.ok report) → good report) (conflicts : good conflictReport) :
    ∀ report, outcome = .ok report → good report := by
  intro report same
  cases twofold with
  | once attempt =>
      subst same
      exact each _ _ attempt
  | twice first conflict second =>
      rcases settled_reports same with reported | met
      · subst reported
        exact each _ _ second
      · exact met ▸ conflicts

theorem Attempted.reports {run : Option (Ran settings)}
    (attempted : Attempted settings calls outcome run) (limited : 0 ≤ settings.maxSteps) :
    ∀ report, outcome = .ok report → IsBounded settings report := by
  intro report same
  cases attempted with
  | failed => cases same
  | declined errands status nothing still =>
      cases same
      refine isBounded_of_still limited still fun failed => ?_
      rw [failed] at status
      cases status
  | ran errands run =>
      obtain ⟨stops, bounded⟩ := run.bounded limited
      exact bounded.reported report same

theorem cancel_reports {organization conversation reason : String}
    (limited : 0 ≤ settings.maxSteps)
    (ran : Transcript (cancel organization conversation reason) calls outcome) :
    ∀ report, outcome = .ok report → IsBounded settings report := by
  refine (withRetry_twofold ran).reports (fun calls report ran => ?_)
    (isBounded_of_still limited rfl (by decide))
  rcases Transcript.of_bind ran with ⟨found, _, _, _, _, ending⟩ | ⟨_, _, same⟩
  · rcases Transcript.of_bind ending with ⟨ended, _, _, _, _, done⟩ | ⟨_, _, same⟩
    · obtain ⟨_, same⟩ := Transcript.of_done done
      cases same
      exact isBounded_of_still limited rfl EventStatus.noConfusion
    · cases same
  · cases same

/-- A report that a way was too long is the report of a run. -/
theorem Twofold.tooLong (twofold : Twofold (IsAttempt settings) calls outcome) :
    ∃ runs, Unfolds settings calls outcome runs ∧ ∀ report, outcome = .ok report →
      report.IsTooLong → ∃ run ∈ runs, run.result = .ok report := by
  have attempted {calls : List (Answered Call.Answer)} {outcome : Except Fault EventReport}
      {run : Option (Ran settings)} (attempted : Attempted settings calls outcome run)
      {report : EventReport} (same : outcome = .ok report) (long : report.IsTooLong) :
      ∃ one ∈ run.toList, one.result = .ok report := by
    cases attempted with
    | failed => cases same
    | declined errands status =>
        cases same
        rw [long.1] at status
        cases status
    | ran errands run => exact ⟨run, List.mem_singleton_self run, same⟩
  cases twofold with
  | once attempt =>
      obtain ⟨run, once⟩ := attempt
      exact ⟨_, .once once.attempt, fun report same long => attempted once same long⟩
  | twice first conflict second =>
      obtain ⟨run, once⟩ := first
      obtain ⟨again, twice⟩ := second
      refine ⟨_, .twice once.attempt conflict twice.attempt, fun report same long => ?_⟩
      rcases settled_reports same with reported | met
      · obtain ⟨one, member, result⟩ := attempted twice reported long
        exact ⟨one, List.mem_append_right _ member, result⟩
      · subst met
        cases long.1

/-- A loop is detected where there is one. Whatever flow a session is on, whatever starts or resumes
it and whatever the services and the store answer, each attempt of the event comes to one run at
most, which evaluates one node more than it may make moves at most. An event reports so many steps
just where it has failed since its way was too long; and on a flow with no more nodes than moves may
be made this says that a node was evaluated twice, and that the edges of the flow form a cycle. -/
theorem loops_detected (settings : EngineSettings) (limited : 0 ≤ settings.maxSteps) :
    (∀ (stimulus : Stimulus) (calls : List (Answered Call.Answer))
        (outcome : Except Fault EventReport), Transcript (stimulus.program settings) calls outcome →
      ∃ runs : List (Ran settings), Unfolds settings calls outcome runs ∧
        (∀ run ∈ runs, ∃ stops, run.Bounded stops) ∧
        ∀ report, outcome = .ok report → report.IsTooLong → ∃ run ∈ runs, run.result = .ok report) ∧
    ∀ (occurrence : Occurrence) (calls : List (Answered Call.Answer)) (report : EventReport),
      Transcript (occurrence.program settings) calls (.ok report) → IsBounded settings report := by
  refine ⟨fun stimulus calls outcome ran => ?_, fun occurrence calls report ran => ?_⟩
  · obtain ⟨runs, unfolds, reported⟩ := (Stimulus.twofold ran).tooLong
    exact ⟨runs, unfolds, fun run _ => run.bounded limited, reported⟩
  · cases occurrence with
    | run stimulus =>
        refine (Stimulus.twofold ran).reports (fun calls report attempt => ?_)
          (isBounded_of_still limited rfl (by decide)) report rfl
        obtain ⟨run, attempted⟩ := attempt
        exact attempted.reports limited report rfl
    | cancel organization conversation reason => exact cancel_reports limited ran report rfl

end Event

namespace Workplace

open Event

/-! ### A greeting that leads back to itself -/

def circlingFlow : Flow :=
  let greeting := shortFlow "org_1" (.message ⟨.text, some "Oi", none, none, [], false, []⟩)
  { greeting with
    edges := greeting.edges ++ [⟨"e2", "node", "node", none, none, none, "default", []⟩] }

def circlingSettings : EngineSettings := ⟨Services.all, 2⟩

def circlingStart : Stimulus := .start "org_1" ⟨"flow-0001", "conv_1", none, none, none, []⟩ none

def circlingAlone : Except Fault EventReport × Solo :=
  sampleSurroundings.carryOut (circlingStart.program circlingSettings)
    ((stocked circlingFlow).scene.store.alone none)

/-- The flow has two nodes, and the third move is one too many. -/
theorem loops_detected_circling :
    0 ≤ circlingSettings.maxSteps ∧ ∃ (calls : List (Answered Call.Answer)) (report : EventReport),
      Transcript (circlingStart.program circlingSettings) calls (.ok report) ∧
      report.IsTooLong ∧ report.steps = 3 ∧ IsBounded circlingSettings report ∧
      ∃ (run : Ran circlingSettings) (stops : List (Run.Stop circlingSettings)) (flow : Flow),
        run.result = .ok report ∧ run.Bounded stops ∧ run.HasFlow flow := by
  have limited : 0 ≤ circlingSettings.maxSteps := by decide
  have ran := sampleSurroundings.carryOut_transcript (circlingStart.program circlingSettings)
    ((stocked circlingFlow).scene.store.alone none)
  have known : circlingAlone.1.toOption.map (fun report =>
      (report.status, report.endReason, report.steps)) =
        some (.failed, some "flow_loop_detected", 3) := by decide +kernel
  rw [show sampleSurroundings.carryOut (circlingStart.program circlingSettings) _ = circlingAlone
    from rfl] at ran
  cases ended : circlingAlone.1 with
  | error fault => rw [ended] at known; cases known
  | ok report =>
      rw [ended] at ran known
      simp only [Except.toOption, Option.map_some, Option.some.injEq, Prod.mk.injEq] at known
      obtain ⟨failed, reason, steps⟩ := known
      obtain ⟨within, bounded⟩ := loops_detected circlingSettings limited
      obtain ⟨runs, _, each, reported⟩ := within circlingStart _ _ ran
      obtain ⟨run, member, result⟩ := reported report rfl ⟨failed, reason⟩
      obtain ⟨stops, told⟩ := each run member
      obtain ⟨flow, has⟩ := told.flows report result ⟨failed, reason⟩
      exact ⟨limited, _, report, ran, ⟨failed, reason⟩, steps, bounded (.run circlingStart) _ _ ran,
        run, stops, flow, result, told, has⟩

end Workplace

end ChatFlow
