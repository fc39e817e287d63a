import ChatFlow.Proofs.EventCourse
import ChatFlow.Proofs.Itinerary
import ChatFlow.Proofs.SessionShapes
/-
The journey of a run: the flow that it has, its itinerary there, and how it concludes. What a run
writes over its session and into the log is read off its itinerary; a run without a journey has not
moved.
-/

set_option autoImplicit false

namespace ChatFlow

open Program EnginePast

/-- How a session ends after a decision, if it does. -/
def Decision.ending? : Decision → Option (Outcome × String)
  | .terminate outcome reason => some (outcome, reason)
  | .advance _ _ => some (.failed, "")
  | _ => none

theorem Decision.waiting?_of_ending {decision : Decision} {ending : Outcome × String}
    (ends : decision.ending? = some ending) : decision.waiting? = none := by
  cases decision with
  | awaitInput | suspend => cases ends
  | terminate | advance => rfl

theorem Decision.ends_or_waits (decision : Decision) :
    (∃ outcome reason, decision.ending? = some (outcome, reason)) ∨
      ∃ status, decision.waiting? = some status ∧ status ≠ .failed := by
  cases decision with
  | terminate outcome reason => exact Or.inl ⟨outcome, reason, rfl⟩
  | advance target handle => exact Or.inl ⟨.failed, "", rfl⟩
  | awaitInput kind => exact Or.inr ⟨.awaitingInput, rfl, by decide⟩
  | suspend resumeAt => exact Or.inr ⟨.awaitingTimer, rfl, by decide⟩

/-- Only a decision to end a session gives a reason for it. -/
theorem Decision.terminate_of_ending {decision : Decision} {outcome : Outcome} {reason : String}
    (ends : decision.ending? = some (outcome, reason)) (given : reason ≠ "") :
    decision = .terminate outcome reason := by
  cases decision with
  | terminate => cases ends; rfl
  | advance => cases ends; exact absurd rfl given
  | awaitInput | suspend => cases ends

namespace Run

variable {session : Session} {decision : Decision} {progress : Progress}
  {calls : List (Answered Call.Answer)}

/-! ### Writing over a session -/

/-- A session as it is written after a decision. -/
structure Writes (session : Session) (decision : Decision) (progress : Progress)
    (written : Session) : Prop where
  id : written.id = session.id
  home : written.home = session.home
  node : written.currentNode = progress.node
  waits : ∀ status, decision.waiting? = some status →
    written.status = status ∧ written.isActive = session.isActive
  ends : ∀ outcome reason, decision.ending? = some (outcome, reason) →
    written.status = outcome.sessionStatus ∧ written.endReason = some reason ∧
      written.isActive = false

/-- A report on a session that was stored after a decision. -/
structure Answers (decision : Decision) (stored : Session) (report : EventReport) : Prop where
  session : report.session = stored.id
  node : report.node = some stored.currentNode
  waits : ∀ status, decision.waiting? = some status → status.reported? = some report.status
  ends : ∀ outcome reason, decision.ending? = some (outcome, reason) →
    report.status = outcome.eventStatus ∧ report.endReason = some reason

/-- How storing a decision went: a call of the store or of the clock has failed, or the session was
written and is reported on. -/
inductive Commits (session : Session) (decision : Decision) (progress : Progress) :
    List (Answered Call.Answer) → Except Fault Commit → Prop where
  | denied {calls : List (Answered Call.Answer)} {fault : Fault}
      (blame : Denied calls ∨ session.id = none) :
      Commits session decision progress calls (.error fault)
  | stored {calls : List (Answered Call.Answer)} {written stored : Session} {commit : Commit}
      (told : ⟨.store (.updateSession written session.revision), .ok stored⟩ ∈ calls)
      (writes : Writes session decision progress written)
      (answers : Answers decision stored commit.report) (other : commit.row.kind ≠ .transition) :
      Commits session decision progress calls (.ok commit)

theorem writes_ended {outcome : Outcome} {reason : String} (now : Stamp)
    (ends : decision.ending? = some (outcome, reason)) :
    Writes session decision progress
      (ended (placed session progress) outcome.sessionStatus reason now) := by
  refine ⟨rfl, rfl, rfl, fun status waits => ?_, fun other why same => ?_⟩
  · cases (Decision.waiting?_of_ending ends).symm.trans waits
  · cases ends.symm.trans same
    exact ⟨rfl, rfl, rfl⟩

theorem finish_commits {outcome : Outcome} {reason : String} {subject : TraceSubject} {now : Stamp}
    (before : List (Answered Call.Answer)) {result : Except Fault Commit}
    (ends : decision.ending? = some (outcome, reason))
    (ran : Transcript (commit.finish progress (placed session progress) outcome reason subject now)
      calls result) :
    Commits session decision progress (before ++ calls) result := by
  have blamed {request : StoreCall} {fault : Fault} {others : List (Answered Call.Answer)}
      (member : ⟨.store request, .error fault⟩ ∈ others) : Denied (before ++ others) :=
    ⟨_, fault, List.mem_append_right _ member, rfl⟩
  unfold commit.finish at ran
  rcases store_first ran with ⟨stored, later, rfl, marking⟩ | ⟨fault, rfl, rfl⟩
  · rcases stored_first marking with ⟨count, last, rfl, ended⟩ | ⟨fault, rfl, rfl⟩
    · obtain ⟨rfl, rfl⟩ := Transcript.of_done ended
      refine .stored (List.mem_append_right _ List.mem_cons_self) (writes_ended now ends) ?_ nofun
      refine ⟨rfl, rfl, fun status waits => ?_, fun other why same => ?_⟩
      · cases (Decision.waiting?_of_ending ends).symm.trans waits
      · cases ends.symm.trans same
        exact ⟨rfl, rfl⟩
    · exact .denied (Or.inl (blamed (List.mem_cons_of_mem _ List.mem_cons_self)))
  · exact .denied (Or.inl (blamed List.mem_cons_self))

theorem commit_commits {result : Except Fault Commit}
    (ran : Transcript (commit session decision progress) calls result) :
    Commits session decision progress calls result := by
  have blamed {request : Call} {fault : Fault} {others : List (Answered Call.Answer)}
      (member : ⟨request, .error fault⟩ ∈ others) (kind : request.isService = false) :
      Denied others := ⟨_, fault, member, kind⟩
  unfold commit at ran
  rcases now_first ran with ⟨now, later, rfl, deciding⟩ | ⟨fault, rfl, rfl⟩
  · cases decision with
    | terminate outcome reason => exact finish_commits [_] rfl deciding
    | advance target handle => exact finish_commits [_] rfl deciding
    | awaitInput kind =>
        rcases store_first deciding with ⟨stored, last, rfl, ended⟩ | ⟨fault, rfl, rfl⟩
        · obtain ⟨rfl, rfl⟩ := Transcript.of_done ended
          refine .stored (List.mem_cons_of_mem _ List.mem_cons_self)
            ⟨rfl, rfl, rfl, fun status waits => ?_, fun _ _ ends => nomatch ends⟩
            ⟨rfl, rfl, fun status waits => ?_, fun _ _ ends => nomatch ends⟩ nofun
          · cases waits
            exact ⟨rfl, rfl⟩
          · cases waits
            rfl
        · exact .denied (Or.inl (blamed (List.mem_cons_of_mem _ List.mem_cons_self) rfl))
    | suspend resumeAt =>
        rcases Transcript.of_bind deciding with ⟨job, earlier, last, rfl, made, saving⟩ |
          ⟨fault, made, rfl⟩
        · obtain ⟨rfl, _⟩ := Transcript.of_ofExcept made
          rcases stored_first saving with ⟨saved, last, rfl, writing⟩ | ⟨fault, rfl, rfl⟩
          · rcases store_first writing with ⟨stored, last, rfl, ended⟩ | ⟨fault, rfl, rfl⟩
            · obtain ⟨rfl, rfl⟩ := Transcript.of_done ended
              refine .stored (List.mem_cons_of_mem _ (List.mem_cons_of_mem _ List.mem_cons_self))
                ⟨rfl, rfl, rfl, fun status waits => ?_, fun _ _ ends => nomatch ends⟩
                ⟨rfl, rfl, fun status waits => ?_, fun _ _ ends => nomatch ends⟩ nofun
              · cases waits
                exact ⟨rfl, rfl⟩
              · cases waits
                rfl
            · exact .denied (Or.inl (blamed
                (List.mem_cons_of_mem _ (List.mem_cons_of_mem _ List.mem_cons_self)) rfl))
          · exact .denied (Or.inl (blamed (List.mem_cons_of_mem _ List.mem_cons_self) rfl))
        · -- only a session without an identifier has no timer job
          refine .denied (Or.inr ?_)
          obtain ⟨_, failed⟩ := Transcript.of_ofExcept made
          unfold timerJob at failed
          split at failed
          · next unnamed => exact unnamed
          · cases failed
  · exact .denied (Or.inl (blamed List.mem_cons_self rfl))

/-! ### Concluding -/

/-- What a run asks once it has come to a decision: the session is written as decided, and the log
tells of the moves in the trace. -/
def Concludes (session : Session) (decision : Decision) (progress : Progress) : Call → Prop
  | .store (.updateSession written expected) =>
      expected = session.revision ∧ Writes session decision progress written
  | .store (.saveLogs rows) => movesOf rows = movesOf progress.trace
  | .store (.createSession _) | .store (.getFlow _) | .store (.deleteLogs ..) => False
  | _ => True

theorem commit_makes : Makes (Concludes session decision progress)
    (commit session decision progress) := by
  have finished {outcome : Outcome} {reason : String} (subject : TraceSubject) (now : Stamp)
      (ends : decision.ending? = some (outcome, reason)) : Makes (Concludes session decision progress)
      (commit.finish progress (placed session progress) outcome reason subject now) :=
    (Makes.store ⟨rfl, writes_ended now ends⟩).bind fun _ =>
      (Makes.store trivial).discarded.bind fun _ => .done _
  unfold commit
  refine Makes.bind (.now trivial) fun now => ?_
  cases decision with
  | terminate outcome reason => exact finished _ now rfl
  | advance target handle => exact finished _ now rfl
  | awaitInput kind =>
      refine (Makes.store ⟨rfl, rfl, rfl, rfl, fun status waits => ?_, nofun⟩).bind fun _ => .done _
      cases waits
      exact ⟨rfl, rfl⟩
  | suspend resumeAt =>
      refine (Makes.ofExcept _).bind fun job => (Makes.store trivial).discarded.bind fun _ => ?_
      refine (Makes.store ⟨rfl, rfl, rfl, rfl, fun status waits => ?_, nofun⟩).bind fun _ => .done _
      cases waits
      exact ⟨rfl, rfl⟩

/-- How a run concludes: it has failed, for which a call of the store or of the clock is to blame, or
it reports on the session that it has written. -/
inductive Concluded (session : Session) (decision : Decision) (progress : Progress) :
    List (Answered Call.Answer) → Except Fault EventReport → Prop where
  | denied {calls : List (Answered Call.Answer)} {fault : Fault}
      (blame : Denied calls ∨ session.id = none) :
      Concluded session decision progress calls (.error fault)
  | reported {calls : List (Answered Call.Answer)} {written stored : Session} {report : EventReport}
      (told : ⟨.store (.updateSession written session.revision), .ok stored⟩ ∈ calls)
      (writes : Writes session decision progress written)
      (answers : Answers decision stored report) :
      Concluded session decision progress calls (.ok report)

theorem conclude_concluded {result : Except Fault EventReport}
    (ran : Transcript (conclude session decision progress) calls result) :
    Concluded session decision progress calls result ∧
      ∀ entry ∈ calls, Concludes session decision progress entry.request := by
  rcases Transcript.of_bind ran with ⟨outcome, saving, later, rfl, tried, rest⟩ | ⟨_, tried, _⟩
  · obtain ⟨inner, same, saved⟩ := Transcript.of_outcome tried
    cases same
    have asked := commit_makes.all saved
    cases commit_commits saved with
    | @denied fault blame =>
        rcases Transcript.of_bind rest with ⟨_, logging, none_, rfl, logged, failed⟩ | ⟨_, logged, _⟩
        · obtain ⟨rfl, rfl⟩ := Transcript.of_fail failed
          rw [List.append_nil]
          refine ⟨.denied (blame.imp_left ?_), List.forall_mem_append.mpr ⟨asked, ?_⟩⟩
          · rintro ⟨request, why, member, kind⟩
            exact ⟨request, why, List.mem_append_left _ member, kind⟩
          · have kept : Makes (Concludes session decision progress) (Engine.flush progress.trace) :=
              Engine.flush_makes rfl
            exact kept.all logged
        · cases Engine.flush_result logged
    | stored told writes answers other =>
        rcases Transcript.of_bind rest with ⟨_, sending, last, rfl, sent, logging⟩ | ⟨_, sent, _⟩
        · rcases Transcript.of_bind logging with ⟨_, logs, done, rfl, logged, ended⟩ | ⟨_, logged, _⟩
          · obtain ⟨rfl, rfl⟩ := Transcript.of_done ended
            rw [List.append_nil]
            refine ⟨.reported (List.mem_append_left _ told) writes answers, ?_⟩
            refine List.forall_mem_append.mpr ⟨asked, List.forall_mem_append.mpr ⟨?_, ?_⟩⟩
            · exact (Effect.dispatchAll_makes (fun _ => trivial) (fun _ => trivial) _ _ _).all sent
            · refine (Engine.flush_makes ?_).all logged
              exact (movesOf_append _ _).trans
                ((congrArg _ (movesOf_other other)).trans (List.append_nil _))
          · cases Engine.flush_result logged
        · cases (Effect.dispatchAll_carriedOut sent).2
  · obtain ⟨_, same, _⟩ := Transcript.of_outcome tried
    cases same

/-- How a run comes by its flow: it is given one, or asks the store for it. -/
inductive Fetches (session : Session) :
    Option Flow → List (Answered Call.Answer) → Option Flow → Prop where
  | given (flow : Flow) : Fetches session (some flow) [] (some flow)
  | read (found : Option Flow) :
      Fetches session none [⟨.store (.getFlow session.flow), .ok found⟩] found

theorem Fetches.reads {given found : Option Flow} (fetches : Fetches session given calls found) :
    ∀ entry ∈ calls, ∃ id, entry.request = .store (.getFlow id) := by
  cases fetches with
  | given => exact fun _ member => nomatch member
  | read => exact List.forall_mem_singleton.mpr ⟨_, rfl⟩

end Run

/-! ### Journeys -/

namespace Event

variable {settings : EngineSettings}

/-- The journey of a run: it walks through its flow to a decision, and concludes. -/
structure Journey (run : Ran settings) where
  flow : Flow
  fetching : List (Answered Call.Answer)
  walking : List (Answered Call.Answer)
  concluding : List (Answered Call.Answer)
  stops : List (Run.Stop settings)
  rows : List LogEntry
  decision : Decision
  last : Progress
  calls : run.calls = fetching ++ walking ++ concluding
  fetched : Run.Fetches run.session run.given fetching (some flow)
  outside : ∀ entry ∈ walking, entry.request.isStore = false
  itinerary : Run.Itinerary settings flow run.session run.inboundText settings.maxSteps.toNat
    run.isResume (Progress.ofSession run.session) walking stops rows decision last
  concluded : Run.Concluded run.session decision last concluding run.result
  asked : ∀ entry ∈ concluding, Run.Concludes run.session decision last entry.request

/-- A run has not set out: its flow could not be read or is gone, or the clock was refused on the
way. -/
inductive Astray (run : Ran settings) : Prop where
  | unread {fault : Fault}
      (calls : run.calls = [⟨.store (.getFlow run.session.flow), .error fault⟩])
      (result : run.result = .error fault)
  | unclocked {fault refusal : Fault} (result : run.result = .error fault)
      (refused : ⟨.clock, .error refusal⟩ ∈ run.calls)
      (reading : ∀ entry ∈ run.calls,
        entry.request.isStore = false ∨ ∃ id, entry.request = .store (.getFlow id))
  | gone {fetching concluding : List (Answered Call.Answer)} {now : Stamp} {last : Progress}
      (calls : run.calls = fetching ++ ⟨.clock, .ok now⟩ :: concluding)
      (fetched : Run.Fetches run.session run.given fetching none)
      (stays : (Progress.ofSession run.session).Stays last)
      (concluded : Run.Concluded run.session (.terminate .failed "flow_not_found") last concluding
        run.result)
      (asked : ∀ entry ∈ concluding,
        Run.Concludes run.session (.terminate .failed "flow_not_found") last entry.request)

/-- A run sets out on its journey, or has not. -/
theorem Ran.sets_out (run : Ran settings) : Nonempty (Journey run) ∨ Astray run := by
  have proceeding (fetching : List (Answered Call.Answer)) {later : List (Answered Call.Answer)}
      {flow : Option Flow} (calls : run.calls = fetching ++ later)
      (fetched : Run.Fetches run.session run.given fetching flow)
      (ran : Transcript (do
        let decided ← Run.decide settings flow run.session run.inboundText run.isResume
        Run.conclude run.session decided.1 decided.2) later run.result) :
      Nonempty (Journey run) ∨ Astray run := by
    rcases Transcript.of_bind ran with ⟨⟨decision, last⟩, walking, rest, rfl, decided, concluding⟩ |
      ⟨fault, decided, failed⟩
    · have outside := decided.allowed (Run.decide_follows flow run.inboundText run.isResume [])
      obtain ⟨concluded, asked⟩ := Run.conclude_concluded concluding
      cases flow with
      | some flow =>
          obtain ⟨stops, rows, itinerary⟩ := Run.walk_itinerary decided
          exact Or.inl ⟨⟨flow, fetching, walking, rest, stops, rows, decision, last,
            by rw [calls, List.append_assoc], fetched, outside, itinerary, concluded, asked⟩⟩
      | none =>
          rcases now_first decided with ⟨now, none_, rfl, done⟩ | ⟨_, _, same⟩
          · obtain ⟨rfl, same⟩ := Transcript.of_done done
            cases same
            exact Or.inr (.gone calls fetched (Progress.stays_log LogKind.noConfusion _) concluded
              asked)
          · cases same
    · have decides := @Run.decide_follows settings run.session flow run.inboundText run.isResume []
      have outside := decided.allowed decides
      have denied : Denied later := by
        have denied := decided.follows decides
        rw [List.append_nil] at denied
        obtain ⟨request, why, member, kind⟩ := denied
        exact ⟨request, why, List.mem_reverse.mp member, kind⟩
      obtain ⟨request, why, member, kind⟩ := denied
      cases request with
      | store => cases outside _ member
      | clock =>
          refine Or.inr (.unclocked failed (calls ▸ List.mem_append_right _ member)
            fun entry among => ?_)
          rw [calls] at among
          rcases List.mem_append.mp among with read | walked
          · exact Or.inr (fetched.reads entry read)
          · exact Or.inl (outside entry walked)
      | complete | http | history | deliver | sleep => cases kind
  have recorded := run.recorded
  unfold Run.run at recorded
  cases given : run.given with
  | some flow =>
      rw [given] at recorded
      exact proceeding [] (List.nil_append _).symm (by rw [given]; exact .given flow) recorded
  | none =>
      rw [given] at recorded
      rcases store_first recorded with ⟨found, later, calls, rest⟩ | ⟨fault, calls, failed⟩
      · exact proceeding [_] calls (by rw [given]; exact .read found) rest
      · exact Or.inr (.unread calls failed)

end Event

end ChatFlow
