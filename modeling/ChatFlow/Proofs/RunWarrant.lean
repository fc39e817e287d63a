import ChatFlow.Proofs.ServiceCalls
import ChatFlow.Proofs.Warrant
/-
The calls of a run are warranted: of a session that may be run, whatever its flow and its variables
are, and whatever is answered on the way.
-/

set_option autoImplicit false

namespace ChatFlow

open Program EnginePast

/-! ### Single calls -/

theorem warranted_of_service (past : EnginePast) (request : Call)
    (service : request.isStore = false) : Warranted past request := by
  cases request with
  | store request => cases service
  | clock | complete | http | history | deliver | sleep => trivial

theorem SparesStore.warranted {α : Type} {good : α → Prop} {program : Engine α}
    (spares : SparesStore good program) (past : EnginePast) :
    Follows Warranted (whenDone fun _ value => good value) program past :=
  spares.loosen warranted_of_service past

theorem store_follows {past : EnginePast} {request : StoreCall}
    (warranted : Warranted past (.store request)) :
    Follows Warranted (fun later reply => later = ⟨.store request, reply⟩ :: past)
      (Engine.store request) past :=
  Follows.perform warranted

/-- The store is asked, and where it does not fail its answer is known. -/
theorem told_follows {rule : EnginePast → Call → Prop} {past : EnginePast} {request : StoreCall}
    (allowed : rule past (.store request)) :
    Follows rule (whenDone fun later answer => Told later request answer) (Engine.store request)
      past := by
  refine (Follows.perform allowed).weaken fun later reply _ told => ?_
  cases reply with
  | error fault => trivial
  | ok answer =>
      rw [told]
      exact List.mem_cons_self

theorem now_follows (past : EnginePast) :
    Follows Warranted (fun later reply => later = ⟨.clock, reply⟩ :: past) Engine.now past :=
  Follows.perform trivial

theorem discarded_keeps {past : EnginePast} {request : StoreCall}
    (warranted : Warranted past (.store request)) :
    Keeps Warranted (discard (Engine.store request)) past :=
  Keeps.discarded (store_follows warranted).keeps

theorem update_follows {past : EnginePast} {found written : Session} {expected : Int}
    (rewrites : Rewrites past found written expected) :
    Follows Warranted
      (whenDone fun later stored => Told later (.updateSession written expected) stored)
      (Engine.store (.updateSession written expected)) past :=
  told_follows ⟨found, rewrites⟩

/-- A call of the store or the clock: it is the last one made, and it is to blame for a failure. -/
theorem asked_follows {rule : EnginePast → Call → Prop} {past : EnginePast} {request : Call}
    (allowed : rule past request) (asked : request.isService = false) :
    Follows rule (orDenied fun later reply => later = ⟨request, .ok reply⟩ :: past)
      (Program.perform request) past := by
  refine (Follows.perform allowed).weaken fun later reply _ told => ?_
  cases reply with
  | ok value => exact told
  | error fault => exact ⟨request, fault, told ▸ List.mem_cons_self, asked⟩

/-- Rows of a trace are kept by at most one call, which may fail without harm. -/
theorem flush_follows {rule : EnginePast → Call → Prop} {past : EnginePast} {rows : List LogEntry}
    (allowed : rule past (.store (.saveLogs rows))) :
    Follows rule
      (always fun later _ => rows = [] ∨ ∃ reply, later = ⟨.store (.saveLogs rows), reply⟩ :: past)
      (Engine.flush rows) past := by
  unfold Engine.flush
  split
  · next empty => exact Follows.done (Or.inl (List.isEmpty_iff.mp empty))
  · have saved : Follows rule
        (fun later reply => later = ⟨.store (.saveLogs rows), reply⟩ :: past)
        (Engine.store (.saveLogs rows)) past := Follows.perform allowed
    exact saved.outcome.bind (fun reply later _ told => Follows.done (Or.inr ⟨reply, told⟩))
      fun _ _ _ known => known.elim

theorem flush_keeps {past : EnginePast} {rows : List LogEntry}
    (about : ∀ row ∈ rows, row.kind = .nodeStart →
      ∃ found, Movable past found ∧ row.session = found.id) :
    Keeps Warranted (Engine.flush rows) past :=
  (flush_follows (show Warranted past (.store (.saveLogs rows)) from about)).keeps

/-! ### Visiting nodes -/

/-- Every row of a trace is about a session. -/
def Progress.Concerns (progress : Progress) (session : Session) : Prop :=
  ∀ row ∈ progress.trace, row.session = session.id

/-- A row on the begin of a node for a session stands in a trace. -/
def Progress.Began (progress : Progress) (session : Session) : Prop :=
  ∃ row ∈ progress.trace, row.kind = .nodeStart ∧ row.session = session.id

theorem Progress.Concerns.log {progress : Progress} {session : Session} {row : LogEntry}
    (concerns : progress.Concerns session) (about : row.session = session.id) :
    (progress.log row).Concerns session := by
  intro entry member
  rcases List.mem_append.mp member with old | new
  · exact concerns entry old
  · rw [List.mem_singleton.mp new]
    exact about

theorem Progress.Began.log {progress : Progress} {session : Session}
    (began : progress.Began session) (row : LogEntry) : (progress.log row).Began session := by
  obtain ⟨first, member, about⟩ := began
  exact ⟨first, List.mem_append_left _ member, about⟩

def Visit.progress : Visit → Progress
  | .halted _ progress => progress
  | .moved progress => progress

/-- A time was set, and is none before a reading of the clock since a given past. -/
def EnginePast.Deferred (start past : EnginePast) (resumeAt : Stamp) : Prop :=
  ∃ (now : Stamp) (earlier : EnginePast), ⟨.clock, .ok now⟩ :: earlier <:+ past ∧
    start <:+ earlier ∧ resumeAt.NotBefore now

theorem EnginePast.Deferred.planned {start past : EnginePast} {resumeAt : Stamp}
    (deferred : Deferred start past resumeAt) {found : Session} (movable : Movable start found) :
    Planned past found resumeAt := by
  obtain ⟨now, earlier, clocked, grown, ahead⟩ := deferred
  exact ⟨now, earlier, clocked, movable.grow grown, ahead⟩

namespace Run

variable {settings : EngineSettings} {session : Session}

/-- What is known of a run of a session from a given past on, after a visit: its trace is about the
session, the begin of a node is on record if there was one to begin, and a session is suspended for
no time that had gone by. -/
structure Visited (session : Session) (begins : Prop) (start past : EnginePast) (visit : Visit) :
    Prop where
  concerns : visit.progress.Concerns session
  began : begins → visit.progress.Began session
  deferred : ∀ resumeAt progress, visit = .halted (.suspend resumeAt) progress →
    Deferred start past resumeAt

theorem Visited.log {begins : Prop} {start past : EnginePast} {progress : Progress}
    (visited : Visited session begins start past (.moved progress)) {row : LogEntry}
    (about : row.session = session.id) (outcome : Outcome) (reason : String) (later : EnginePast) :
    Visited session begins start later
      (.halted (.terminate outcome reason) (progress.log row)) where
  concerns := Progress.Concerns.log visited.concerns about
  began begins := Progress.Began.log (visited.began begins) row
  deferred _ _ same := nomatch same

theorem follow_visited (flow : Flow) {now : Stamp} {result : NodeResult} {progress : Progress}
    {begins : Prop} {start past : EnginePast} (timed : result.Timed now)
    (clocked : ∀ resumeAt, resumeAt.NotBefore now → Deferred start past resumeAt)
    (concerns : progress.Concerns session) (began : progress.Began session) :
    Visited session begins start past
      (follow flow (TraceSubject.ofSession session) now result progress) := by
  unfold follow
  dsimp only
  split
  · split
    · exact ⟨Progress.Concerns.log concerns rfl, fun _ => Progress.Began.log began _,
        fun _ _ same => nomatch same⟩
    · exact ⟨Progress.Concerns.log concerns rfl, fun _ => Progress.Began.log began _,
        fun _ _ same => nomatch same⟩
  · refine ⟨concerns, fun _ => began, fun resumeAt _ halted => clocked resumeAt ?_⟩
    exact timed resumeAt (Visit.halted.inj halted).1

theorem visit_follows (flow : Flow) (inboundText : Option String) (isResume : Bool)
    {progress : Progress} {begins : Prop} {start past : EnginePast} (grown : start <:+ past)
    (concerns : progress.Concerns session)
    (first : begins → progress.Began session ∨ (flow.node? progress.node).isSome = true) :
    Follows (fun _ request => request.isStore = false) (orDenied (Visited session begins start))
      (visit settings flow session inboundText isResume progress) past := by
  unfold visit
  dsimp only
  refine (@asked_follows _ past .clock rfl rfl).bind (fun now later _ clocked => ?_)
    fun _ _ _ denied => denied
  cases found : flow.node? progress.node with
  | none =>
      refine Follows.done ⟨concerns.log rfl, fun begins => ?_, fun _ _ same => nomatch same⟩
      rcases first begins with began | present
      · exact began.log _
      · rw [found] at present
        cases present
  | some node =>
      dsimp only
      have began : (progress.log { (TraceSubject.ofSession session).row now .nodeStart with
          node := some node.id
          nodeType := some (wordOf node.kind)
          step := some progress.steps }).Began session :=
        ⟨_, List.mem_append_right _ List.mem_cons_self, rfl, rfl⟩
      have evaluated := Evaluation.evaluate_sparesStore settings.services node
        (contextOf flow session inboundText isResume now
          (progress.log { (TraceSubject.ofSession session).row now .nodeStart with
            node := some node.id
            nodeType := some (wordOf node.kind)
            step := some progress.steps }))
      refine (evaluated.follows later).outcome.bind (fun result last more timed => ?_)
        fun _ _ _ known => known.elim
      cases result with
      | error fault =>
          exact Follows.done ⟨(concerns.log rfl).log rfl, fun _ => began.log _,
            fun _ _ same => nomatch same⟩
      | ok result =>
          refine Follows.done (follow_visited flow timed (fun resumeAt ahead => ?_)
            (concerns.log rfl) began)
          -- the clock was read before the node was evaluated
          exact ⟨now, past, clocked ▸ more, grown, ahead⟩

theorem walk_follows (flow : Flow) (inboundText : Option String) (moves : Nat) (isResume : Bool)
    {progress : Progress} {begins : Prop} {start past : EnginePast} (grown : start <:+ past)
    (concerns : progress.Concerns session)
    (first : begins → progress.Began session ∨ (flow.node? progress.node).isSome = true) :
    Follows (fun _ request => request.isStore = false)
      (orDenied fun later reached =>
        Visited session begins start later (.halted reached.1 reached.2))
      (walk settings flow session inboundText moves isResume progress) past := by
  induction moves generalizing isResume progress past with
  | zero =>
      refine (visit_follows flow inboundText isResume grown concerns first).bind
        (fun visit later _ visited => ?_) fun _ _ _ denied => denied
      cases visit with
      | halted decision progress => exact Follows.done visited
      | moved progress =>
          refine (@asked_follows _ later .clock rfl rfl).bind (fun now last _ _ => ?_)
            fun _ _ _ denied => denied
          exact Follows.done (Visited.log visited rfl _ _ last)
  | succ moves ih =>
      refine (visit_follows flow inboundText isResume grown concerns first).bind
        (fun visit later more visited => ?_) fun _ _ _ denied => denied
      cases visit with
      | halted decision progress => exact Follows.done visited
      | moved progress =>
          exact ih false (grown.trans more) (Visited.concerns visited) fun begins =>
            Or.inl (Visited.began visited begins)

/-- Deciding what becomes of a session takes the clock and the services, and not the store. -/
theorem decide_follows (flow : Option Flow) (inboundText : Option String) (isResume : Bool)
    (past : EnginePast) :
    Follows (fun _ request => request.isStore = false)
      (orDenied fun later reached =>
        Visited session (∃ given, flow = some given ∧ (given.node? session.currentNode).isSome = true)
          past later (.halted reached.1 reached.2))
      (decide settings flow session inboundText isResume) past := by
  have start : (Progress.ofSession session).Concerns session := fun _ member => nomatch member
  cases flow with
  | some flow =>
      refine walk_follows flow inboundText settings.maxSteps.toNat isResume
        (List.suffix_refl past) start fun begins => Or.inr ?_
      obtain ⟨given, same, present⟩ := begins
      cases same
      exact present
  | none =>
      refine (@asked_follows _ past .clock rfl rfl).bind (fun now later _ _ => ?_)
        fun _ _ _ denied => denied
      refine Follows.done ⟨start.log rfl, fun begins => ?_, fun _ _ same => nomatch same⟩
      obtain ⟨given, same, _present⟩ := begins
      cases same

/-! ### Storing what was decided -/

theorem timerJob_ok {session : Session} {node : String} {resumeAt now : Stamp} {job : Delay}
    (made : timerJob session node resumeAt now = .ok job) :
    session.id = some job.session ∧ job.conversation = session.conversation ∧ job.node = node ∧
      job.resumeAt = resumeAt ∧ job.processed = false := by
  unfold timerJob at made
  split at made
  · cases made
  · next id known =>
      cases made
      exact ⟨known, rfl, rfl, rfl, rfl⟩

theorem eventStatus_ne_ignored (outcome : Outcome) : outcome.eventStatus ≠ .ignored := by
  cases outcome <;> decide

/-- What is known once a decision has been stored. -/
structure Stored (session : Session) (later : EnginePast) (commit : Commit) : Prop where
  row : commit.row.session = session.id
  wrote : Wrote later session.id
  status : commit.report.status ≠ .ignored

theorem finish_follows {past : EnginePast} {found : Session} (movable : Movable past found)
    (progress : Progress) (outcome : Outcome) (reason : String) (now : Stamp) :
    Follows Warranted (whenDone (Stored found))
      (commit.finish progress (placed found progress) outcome reason
        (TraceSubject.ofSession found) now) past := by
  have rewrites : Rewrites past found
      (ended (placed found progress) outcome.sessionStatus reason now) found.revision := {
    saw := movable.saw
    id := rfl
    place := rfl
    revision := rfl
    armed := fun active => by cases active
    reason := Or.inl movable }
  unfold commit.finish
  refine (update_follows rewrites).andThen fun stored later _ told => ?_
  have closing : Warranted later (.store (.markSessionDelays stored.id)) :=
    ⟨_, _, stored, told, rfl, rfl⟩
  refine (discarded_keeps closing).andThen fun _ last grown _ => ?_
  have known : Stored found last
      (committed progress stored (TraceSubject.ofSession found) now outcome.eventStatus
        .flowComplete (wordOf outcome.sessionStatus ++ ": " ++ reason) (some reason)) := {
    row := rfl
    wrote := ⟨_, _, stored, told.grow grown, rfl⟩
    status := eventStatus_ne_ignored outcome }
  exact Follows.done known

theorem commit_follows {past : EnginePast} {found : Session} (movable : Movable past found)
    {decision : Decision} (progress : Progress)
    (planned : ∀ resumeAt, decision = .suspend resumeAt → Planned past found resumeAt) :
    Follows Warranted (whenDone (Stored found)) (commit found decision progress) past := by
  unfold commit
  dsimp only
  refine (now_follows past).andThen fun now later grown _ => ?_
  have stillMovable := movable.grow grown
  cases decision with
  | terminate outcome reason => exact finish_follows stillMovable progress outcome reason now
  | advance target handle => exact finish_follows stillMovable progress .failed "" now
  | awaitInput kind =>
      have rewrites : Rewrites later found
          { placed found progress with status := .awaitingInput, resumeAt := none }
          found.revision := {
        saw := stillMovable.saw
        id := rfl
        place := rfl
        revision := rfl
        armed := fun _ waiting => by cases waiting
        reason := Or.inl stillMovable }
      refine (update_follows rewrites).andThen fun stored last _ told => ?_
      exact Follows.done ⟨rfl, ⟨_, _, stored, told, rfl⟩, nofun⟩
  | suspend resumeAt =>
      have made : Follows Warranted
          (fun last result => last = later ∧
            timerJob (placed found progress) progress.node resumeAt now = result)
          (Program.ofExcept (timerJob (placed found progress) progress.node resumeAt now))
          later := Follows.ofExcept ⟨rfl, rfl⟩
      refine made.andThen fun job last still given => ?_
      obtain ⟨rfl, built⟩ := given
      obtain ⟨owner, place, node, time, pending⟩ := timerJob_ok built
      -- the job is stored first, so that the session is armed by the time it is written
      have planned := (planned resumeAt rfl).grow (grown.trans still)
      have saving : Warranted last (.store (.saveDelay job)) :=
        ⟨pending, found, stillMovable, owner, time ▸ planned⟩
      have saved : Follows Warranted
          (whenDone fun (after : EnginePast) _ => ∃ stored, Armed after found job stored)
          (discard (Engine.store (.saveDelay job))) last := by
        refine Follows.discarded ((store_follows saving).weaken fun after result _ told => ?_)
        cases result with
        | error fault => trivial
        | ok stored =>
            have saved : ⟨.store (.saveDelay job), .ok stored⟩ :: last <:+ after :=
              told ▸ List.suffix_refl _
            exact ⟨stored, last, saved, stillMovable.saw⟩
      refine saved.andThen fun _ after more armed => ?_
      obtain ⟨stored, armed⟩ := armed
      have ready := stillMovable.grow more
      have rewrites : Rewrites after found
          { placed found progress with status := .awaitingTimer, resumeAt := some resumeAt }
          found.revision := {
        saw := ready.saw
        id := rfl
        place := rfl
        revision := rfl
        armed := fun _ _ => by
          refine ⟨job, stored, armed, ⟨owner, place.symm, node.symm, congrArg some time.symm⟩, ?_⟩
          exact time ▸ planned.grow more
        reason := Or.inl ready }
      refine (update_follows rewrites).andThen fun parked final _ told => ?_
      exact Follows.done ⟨rfl, ⟨_, _, parked, told, rfl⟩, nofun⟩

/-! ### A whole run -/

/-- A run of a session that may be run is warranted, writes the session where it succeeds, and does
not report that the event was ignored. -/
theorem run_follows {past : EnginePast} {found : Session} (movable : Movable past found)
    (settings : EngineSettings) (inboundText : Option String) (isResume : Bool)
    (flow : Option Flow) :
    Follows Warranted
      (whenDone fun later report => Wrote later found.id ∧ report.status ≠ .ignored)
      (run settings found inboundText isResume flow) past := by
  unfold run
  extract_lets proceed
  have rest (flow : Option Flow) (later : EnginePast) (grown : past <:+ later) :
      Follows Warranted
        (whenDone fun last report => Wrote last found.id ∧ report.status ≠ .ignored)
        (proceed flow) later := by
    have begun := movable.grow grown
    have decided := @decide_follows settings found flow inboundText isResume later
    refine (decided.loosen warranted_of_service).andThen fun reached after more visited => ?_
    obtain ⟨decision, progress⟩ := reached
    have about : progress.Concerns found := Visited.concerns visited
    have planned (resumeAt : Stamp) (suspends : decision = .suspend resumeAt) :
        Planned after found resumeAt :=
      (Visited.deferred visited resumeAt progress (suspends ▸ rfl)).planned begun
    have ready := begun.grow more
    refine (commit_follows ready progress planned).outcome.andThen
      fun result last farther known => ?_
    have stillMovable := ready.grow farther
    cases result with
    | error fault =>
        refine Follows.andThen (flush_keeps fun row member _ => ?_)
          fun _ _ _ _ => Follows.fail trivial
        exact ⟨found, stillMovable, about row member⟩
    | ok stored =>
        have known : Stored found last stored := known
        have dispatched := Effect.dispatchAll_always found.organization found.conversation
          progress.effects last
        refine (dispatched.loosen warranted_of_service).andThen fun _ sent beyond _ => ?_
        refine Follows.andThen (flush_keeps fun row member _ => ?_) fun _ final still _ => ?_
        · refine ⟨found, stillMovable.grow beyond, ?_⟩
          rcases List.mem_append.mp member with old | new
          · exact about row old
          · rw [List.mem_singleton.mp new]
            exact known.row
        · exact Follows.done ⟨known.wrote.grow (beyond.trans still), known.status⟩
  cases flow with
  | some flow => exact rest (some flow) past (List.suffix_refl past)
  | none =>
      -- a session that is taken up again comes without its flow
      have fetching : Warranted past (.store (.getFlow found.flow)) := trivial
      exact (store_follows fetching).andThen fun flow later grown _ => rest flow later grown

end Run

end ChatFlow
