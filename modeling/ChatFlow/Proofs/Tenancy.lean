import ChatFlow.Proofs.Ownership
import ChatFlow.Proofs.RunWarrant
/-
For whom an event acts. An event for an organization writes sessions that it found as its own: active
on a conversation and of the organization, made by the event itself of a flow of the organization, or
read on such a flow. A manual start may also end what is active on its conversation, whosever it is.
-/

set_option autoImplicit false

namespace ChatFlow

open Program EnginePast

namespace EnginePast

variable {past later : EnginePast}

/-! ### What an event found -/

/-- A flow was found for an organization. -/
inductive Offered (past : EnginePast) (organization : String) (flow : Flow) : Prop where
  | asked {id : String} (told : Told past (.getOwnedFlow organization id) (some flow))
  | triggered {flows : List Flow} (told : Told past (.triggerCandidates organization) flows)
      (member : flow ∈ flows)

/-- A session was found as one of an organization. -/
inductive Owns (past : EnginePast) (organization : String) (found : Session) : Prop where
  | active {conversation : String} (told : Told past (.activeSession conversation) (some found))
      (own : found.organization = organization)
  | made {flow : Flow} {given : Session} (offered : Offered past organization flow)
      (same : given.organization = flow.organization) (told : Told past (.createSession given) found)
  | onFlow {name : String} {flow : Flow}
      (owned : Told past (.getOwnedFlow organization found.flow) (some flow))
      (told : Told past (.getSession name) (some found))

theorem Offered.grow {organization : String} {flow : Flow} (offered : Offered past organization flow)
    (grown : past <:+ later) : Offered later organization flow := by
  cases offered with
  | asked told => exact .asked (told.grow grown)
  | triggered told member => exact .triggered (told.grow grown) member

theorem Owns.grow {organization : String} {found : Session} (owns : Owns past organization found)
    (grown : past <:+ later) : Owns later organization found := by
  cases owns with
  | active told own => exact .active (told.grow grown) own
  | made offered same told => exact .made (offered.grow grown) same (told.grow grown)
  | onFlow owned told => exact .onFlow (owned.grow grown) (told.grow grown)

end EnginePast

/-! ### Mandates -/

/-- For whom an event is carried out: for nobody in particular, or for one organization, which may
replace the session that is active on one conversation. -/
inductive Mandate where
  | anyone
  | tenant (organization : String) (replaces : Option String)

namespace Mandate

variable {mandate : Mandate} {past later : EnginePast} {found written : Session}
  {expected : Int}

/-- Whether an event may start flows of an organization. -/
def Serves : Mandate → String → Prop
  | .anyone, _ => True
  | .tenant organization _, owner => owner = organization

/-- Whether an event may do with a session what it wants. -/
def Entitles : Mandate → EnginePast → Session → Prop
  | .anyone, _, _ => True
  | .tenant organization _, past, found => Owns past organization found

theorem serves_own (organization : String) (replaces : Option String) :
    (tenant organization replaces).Serves organization := rfl

theorem anyone_entitles (past : EnginePast) (found : Session) :
    Mandate.anyone.Entitles past found := trivial

theorem entitles_own {organization : String} (owns : Owns past organization found)
    (replaces : Option String) : (tenant organization replaces).Entitles past found := owns

/-- A session is ended because another one takes its conversation. -/
def Displaces : Mandate → EnginePast → Session → Session → Prop
  | .anyone, _, _, _ => False
  | .tenant _ replaces, past, found, written => ∃ conversation now,
      replaces = some conversation ∧ Told past (.activeSession conversation) (some found) ∧
        written = Run.ended found .cancelled "replaced" now

theorem displaces_active {conversation : String}
    (told : Told past (.activeSession conversation) (some found)) (organization : String)
    (now : Stamp) : (tenant organization (some conversation)).Displaces past found
      (Run.ended found .cancelled "replaced" now) :=
  ⟨conversation, now, rfl, told, rfl⟩

/-- A session is written in place of one that was found, with the revision that was read. -/
structure Takes (mandate : Mandate) (past : EnginePast) (found written : Session) (expected : Int) :
    Prop where
  saw : Saw past found
  id : written.id = found.id
  home : written.home = found.home
  revision : expected = found.revision
  right : mandate.Entitles past found ∨ mandate.Displaces past found written

theorem Entitles.grow (entitled : mandate.Entitles past found) (grown : past <:+ later) :
    mandate.Entitles later found := by
  cases mandate with
  | anyone => trivial
  | tenant organization replaces => exact Owns.grow entitled grown

theorem Displaces.grow (displaces : mandate.Displaces past found written)
    (grown : past <:+ later) : mandate.Displaces later found written := by
  cases mandate with
  | anyone => exact displaces
  | tenant organization replaces =>
      obtain ⟨conversation, now, may, told, same⟩ := displaces
      exact ⟨conversation, now, may, told.grow grown, same⟩

theorem Takes.grow (takes : mandate.Takes past found written expected) (grown : past <:+ later) :
    mandate.Takes later found written expected where
  saw := takes.saw.grow grown
  id := takes.id
  home := takes.home
  revision := takes.revision
  right := takes.right.imp (·.grow grown) (·.grow grown)

/-- Whether a mandate covers a call of an event. -/
def Covers (mandate : Mandate) (past : EnginePast) : Call → Prop
  | .store (.createSession session) => ∃ organization flow, mandate.Serves organization ∧
      Offered past organization flow ∧ flow.id = some session.flow ∧
      session.organization = flow.organization
  | .store (.updateSession session expected) => ∃ found, mandate.Takes past found session expected
  | .store (.markDelay _) => mandate = .anyone
  | .store (.markSessionDelays id) => ∃ found written expected stored,
      mandate.Takes past found written expected ∧ Told past (.updateSession written expected) stored ∧
      stored.id = id
  | .store (.updateFlow _ _ settings) => KeepsOwner settings
  | _ => True

/-- What one organization may do may be done for anyone. -/
theorem Covers.anyone {request : Call} (covers : mandate.Covers past request) :
    Mandate.anyone.Covers past request := by
  have widen {found written : Session} {expected : Int}
      (takes : mandate.Takes past found written expected) :
      Mandate.anyone.Takes past found written expected :=
    ⟨takes.saw, takes.id, takes.home, takes.revision, Or.inl (anyone_entitles past found)⟩
  cases request with
  | store request =>
      cases request with
      | createSession session =>
          obtain ⟨organization, flow, _, rest⟩ := covers
          exact ⟨organization, flow, trivial, rest⟩
      | updateSession session expected =>
          obtain ⟨found, takes⟩ := covers
          exact ⟨found, widen takes⟩
      | markSessionDelays id =>
          obtain ⟨found, written, expected, stored, takes, rest⟩ := covers
          exact ⟨found, written, expected, stored, widen takes, rest⟩
      | markDelay id => rfl
      | updateFlow organization id settings => exact covers
      | _ => trivial
  | _ => trivial

end Mandate

/-! ### Single calls -/

section

variable {mandate : Mandate} {past : EnginePast}

theorem covers_of_service (past : EnginePast) (request : Call) (service : request.isStore = false) :
    mandate.Covers past request := by
  cases request with
  | store request => cases service
  | clock | complete | http | history | deliver | sleep => trivial

theorem clock_covered (past : EnginePast) : Keeps mandate.Covers Engine.now past :=
  (Follows.perform trivial).keeps

theorem flush_covered (rows : List LogEntry) (past : EnginePast) :
    Keeps mandate.Covers (Engine.flush rows) past :=
  (flush_follows (show mandate.Covers past (.store (.saveLogs rows)) from trivial)).keeps

theorem write_covered {found written : Session} {expected : Int}
    (takes : mandate.Takes past found written expected) :
    Follows mandate.Covers
      (whenDone fun later stored => Told later (.updateSession written expected) stored)
      (Engine.store (.updateSession written expected)) past :=
  told_follows ⟨found, takes⟩

theorem mark_covered {found written stored : Session} {expected : Int}
    (takes : mandate.Takes past found written expected)
    (told : Told past (.updateSession written expected) stored) :
    Keeps mandate.Covers (discard (Engine.store (.markSessionDelays stored.id))) past := by
  have marking : mandate.Covers past (.store (.markSessionDelays stored.id)) :=
    ⟨found, written, expected, stored, takes, told, rfl⟩
  exact Keeps.discarded (told_follows marking).keeps

end

/-! ### Reports -/

/-- A report says of a session what stands in it. -/
structure EventReport.Describes (report : EventReport) (row : Session) : Prop where
  session : report.session = row.id
  flow : report.flow = some row.flow
  node : report.node = some row.currentNode
  reason : report.endReason = row.endReason

/-- A report is on a session as it was written over; the reason is the one that was written. -/
def EnginePast.Concludes (past : EnginePast) (found : Session) (report : EventReport) : Prop :=
  ∃ written expected stored reason, Told past (.updateSession written expected) stored ∧
    written.id = found.id ∧ written.home = found.home ∧
    (reason = stored.endReason ∨ reason = written.endReason) ∧
    report.Describes { stored with endReason := reason }

theorem EnginePast.Concludes.grow {past later : EnginePast} {found : Session}
    {report : EventReport} (concludes : Concludes past found report) (grown : past <:+ later) :
    Concludes later found report := by
  obtain ⟨written, expected, stored, reason, told, rest⟩ := concludes
  exact ⟨written, expected, stored, reason, told.grow grown, rest⟩

/-! ### Runs -/

namespace Run

variable {mandate : Mandate} {past : EnginePast} {found : Session}

theorem finish_covered (saw : Saw past found) (entitled : mandate.Entitles past found)
    (progress : Progress) (outcome : Outcome) (reason : String) (subject : TraceSubject)
    (now : Stamp) :
    Follows mandate.Covers (whenDone fun later commit => Concludes later found commit.report)
      (commit.finish progress (placed found progress) outcome reason subject now) past := by
  have takes : mandate.Takes past found
      (ended (placed found progress) outcome.sessionStatus reason now) found.revision :=
    ⟨saw, rfl, rfl, rfl, Or.inl entitled⟩
  unfold commit.finish
  refine (write_covered takes).andThen fun stored later grown told => ?_
  refine (mark_covered (takes.grow grown) told).andThen fun _ last more _ => ?_
  have concludes : Concludes last found
      (committed progress stored subject now outcome.eventStatus .flowComplete
        (wordOf outcome.sessionStatus ++ ": " ++ reason) (some reason)).report :=
    ⟨_, _, stored, some reason, told.grow more, rfl, rfl, Or.inr rfl, rfl, rfl, rfl, rfl⟩
  exact Follows.done concludes

theorem commit_covered (saw : Saw past found) (entitled : mandate.Entitles past found)
    (decision : Decision) (progress : Progress) :
    Follows mandate.Covers (whenDone fun later commit => Concludes later found commit.report)
      (commit found decision progress) past := by
  unfold commit
  dsimp only
  refine (clock_covered past).andThen fun now later grown _ => ?_
  have saw := saw.grow grown
  have entitled := entitled.grow grown
  -- a session that goes on is reported with the reason that it has
  have concludes {last : EnginePast} {written stored : Session} {expected : Int}
      (told : Told last (.updateSession written expected) stored)
      (id : written.id = found.id) (home : written.home = found.home) (status : EventStatus)
      (kind : LogKind) (message : String) :
      Concludes last found (committed progress stored (TraceSubject.ofSession found) now status kind
        message none).report :=
    ⟨written, expected, stored, stored.endReason, told, id, home, Or.inl rfl, rfl, rfl, rfl, rfl⟩
  cases decision with
  | terminate outcome reason => exact finish_covered saw entitled progress outcome reason _ now
  | advance target handle => exact finish_covered saw entitled progress .failed "" _ now
  | awaitInput kind =>
      have takes : mandate.Takes later found
          { placed found progress with status := .awaitingInput, resumeAt := none }
          found.revision :=
        ⟨saw, rfl, rfl, rfl, Or.inl entitled⟩
      refine (write_covered takes).andThen fun stored last _ told => ?_
      exact Follows.done (concludes told rfl rfl .waitingInput .waitingInput (wordOf kind))
  | suspend resumeAt =>
      have made : Keeps mandate.Covers
          (Program.ofExcept (timerJob (placed found progress) progress.node resumeAt now)) later :=
        (SparesStore.given _).loosen covers_of_service later
      refine made.andThen fun job last more _ => ?_
      have saving : Keeps mandate.Covers (discard (Engine.store (.saveDelay job))) last :=
        Keeps.discarded (told_follows trivial).keeps
      refine saving.andThen fun _ after farther _ => ?_
      have takes : mandate.Takes after found
          { placed found progress with status := .awaitingTimer, resumeAt := some resumeAt }
          found.revision :=
        ⟨saw.grow (more.trans farther), rfl, rfl, rfl,
          Or.inl (entitled.grow (more.trans farther))⟩
      refine (write_covered takes).andThen fun stored final _ told => ?_
      exact Follows.done (concludes told rfl rfl .waitingTimer .waitingTimer resumeAt.numericText)

/-- A run of a session that an event may take is covered, and is reported as it was stored. -/
theorem run_covered (saw : Saw past found) (entitled : mandate.Entitles past found)
    (settings : EngineSettings) (inboundText : Option String) (isResume : Bool)
    (flow : Option Flow) :
    Follows mandate.Covers (whenDone fun later report => Concludes later found report)
      (run settings found inboundText isResume flow) past := by
  unfold run
  extract_lets proceed
  have rest (flow : Option Flow) (later : EnginePast) (grown : past <:+ later) :
      Follows mandate.Covers (whenDone fun last report => Concludes last found report)
        (proceed flow) later := by
    have decided := @decide_follows settings found flow inboundText isResume later
    refine (decided.loosen covers_of_service).andThen fun reached after more _ => ?_
    obtain ⟨decision, progress⟩ := reached
    have known := grown.trans more
    refine (commit_covered (saw.grow known) (entitled.grow known) decision
      progress).outcome.andThen fun result last _ stored => ?_
    cases result with
    | error fault =>
        exact (flush_covered progress.trace last).andThen fun _ _ _ _ => Follows.fail trivial
    | ok commit =>
        have stored : Concludes last found commit.report := stored
        have dispatched := Effect.dispatchAll_always found.organization found.conversation
          progress.effects last
        refine (dispatched.loosen covers_of_service).andThen fun _ sent beyond _ => ?_
        refine (flush_covered _ sent).andThen fun _ final still _ => ?_
        exact Follows.done (stored.grow (beyond.trans still))
  cases flow with
  | some flow => exact rest (some flow) past (List.suffix_refl past)
  | none =>
      have fetching : mandate.Covers past (.store (.getFlow found.flow)) := trivial
      exact (told_follows fetching).andThen fun flow later grown _ => rest flow later grown

end Run

end ChatFlow
