import ChatFlow.Proofs.Tenancy
import ChatFlow.Proofs.Workers
/-
Every event keeps to its mandate: messages, manual starts, cancellations and the management of flows
act for the organization that they come from. What a report says of a session it says of one that was
found as the organization's own, but for a message that meets the session of another organization.
-/

set_option autoImplicit false

namespace ChatFlow

open Program EnginePast

section

variable {past : EnginePast} {settings : EngineSettings} {mandate : Mandate}

/-! ### What is reported -/

namespace Mandate

/-- A report is on a session that the event was entitled to, as it was written over. -/
def Tells (mandate : Mandate) (past : EnginePast) (report : EventReport) : Prop :=
  ∃ found, mandate.Entitles past found ∧ Concludes past found report

theorem entitles_made {organization : String} {flow : Flow} {given found : Session}
    (serves : mandate.Serves organization) (offered : Offered past organization flow)
    (same : given.organization = flow.organization) (told : Told past (.createSession given) found) :
    mandate.Entitles past found := by
  cases mandate with
  | anyone => trivial
  | tenant own replaces =>
      have own : organization = own := serves
      subst own
      exact .made offered same told

end Mandate

/-- A report names nothing, or an own session: as it was read, or as it was written over. -/
inductive EnginePast.Discloses (past : EnginePast) (organization : String) (report : EventReport) :
    Prop where
  | nothing (blank : report = EventReport.bare .noTrigger ∨ report = Event.conflictReport)
  | read {conversation : String} {found : Session}
      (told : Told past (.activeSession conversation) (some found))
      (own : found.organization = organization) (describes : report.Describes found)
  | wrote {found : Session} (owns : Owns past organization found)
      (concludes : Concludes past found report)

/-- A report is on the session of another organization, which was left alone. -/
def EnginePast.Intrudes (past : EnginePast) (message : InboundMessage) (report : EventReport) :
    Prop :=
  ∃ foreign, Told past (.activeSession message.conversation) (some foreign) ∧
    foreign.organization ≠ message.organization ∧
    report = EventReport.ofSession .ignored foreign none

theorem EnginePast.discloses_of_tells {organization : String} {replaces : Option String}
    {report : EventReport} (tells : (Mandate.tenant organization replaces).Tells past report) :
    Discloses past organization report := by
  obtain ⟨found, owns, concludes⟩ := tells
  exact .wrote owns concludes

namespace Event

/-! ### Starting and ending sessions -/

theorem newSession_owner {flow : Flow} {start : Opening} {now : Stamp} {session : Session}
    (made : newSession flow start now = .ok session) :
    flow.id = some session.flow ∧ session.organization = flow.organization := by
  unfold newSession at made
  split at made
  · cases made
  · next id known =>
      cases made
      exact ⟨known, rfl⟩

theorem startSession_covered {organization : String} {flow : Flow}
    (serves : mandate.Serves organization) (offered : Offered past organization flow)
    (start : Opening) :
    Follows mandate.Covers (whenDone fun later report => mandate.Tells later report)
      (startSession settings flow start) past := by
  unfold startSession
  refine (clock_covered past).andThen fun now later grown _ => ?_
  have made : Follows mandate.Covers
      (fun last result => last = later ∧ newSession flow start now = result)
      (Program.ofExcept (newSession flow start now)) later := Follows.ofExcept ⟨rfl, rfl⟩
  refine made.andThen fun session last _ given => ?_
  obtain ⟨rfl, built⟩ := given
  obtain ⟨of, owner⟩ := newSession_owner built
  have offered := offered.grow grown
  have creating : mandate.Covers last (.store (.createSession session)) :=
    ⟨organization, flow, serves, offered, of, owner⟩
  refine (told_follows creating).andThen fun stored after more told => ?_
  have entitled := Mandate.entitles_made serves (offered.grow more) owner told
  have ran := Run.run_covered (.made told) entitled settings start.inboundText false (some flow)
  exact ran.weakenDone fun report final farther concludes =>
    ⟨stored, entitled.grow farther, concludes⟩

/-- A session is ended that the event is entitled to, or that it displaces. -/
theorem endSession_covered {found : Session} {status : SessionStatus} {reason : String}
    (saw : Saw past found)
    (right : ∀ now, mandate.Entitles past found ∨
      mandate.Displaces past found (Run.ended found status reason now)) :
    Follows mandate.Covers
      (whenDone fun later stored => ∃ now expected,
        Told later (.updateSession (Run.ended found status reason now) expected) stored)
      (endSession found status reason) past := by
  unfold endSession
  refine (clock_covered past).andThen fun now later grown _ => ?_
  have takes : mandate.Takes past found (Run.ended found status reason now) found.revision :=
    ⟨saw, rfl, rfl, rfl, right now⟩
  have takes := takes.grow grown
  refine (write_covered takes).andThen fun stored last more told => ?_
  refine (mark_covered (takes.grow more) told).andThen fun _ after farther _ => ?_
  refine (flush_covered _ after).andThen fun _ final still _ => ?_
  exact Follows.done ⟨now, _, told.grow (farther.trans still)⟩

theorem cancelReport_covered {found : Session} (saw : Saw past found)
    (entitled : mandate.Entitles past found) (reason : String) :
    Follows mandate.Covers (whenDone fun later report => mandate.Tells later report)
      (cancelReport found reason) past := by
  refine (endSession_covered saw fun _ => Or.inl entitled).andThen
    fun stored later grown written => ?_
  obtain ⟨now, expected, told⟩ := written
  have tells : mandate.Tells later (EventReport.ofSession .cancelled stored (some reason)) :=
    ⟨found, entitled.grow grown, _, expected, stored, some reason, told, rfl, rfl, Or.inr rfl, rfl,
      rfl, rfl, rfl⟩
  exact Follows.done tells

/-! ### Messages -/

theorem first?_mem {connection : Option String} {text : String} {flows : List Flow} {flow : Flow}
    (found : Trigger.first? connection text flows = .ok (some flow)) : flow ∈ flows := by
  induction flows with
  | nil => cases found
  | cons first rest ih =>
      unfold Trigger.first? at found
      split at found
      · split at found
        · cases found
          exact List.mem_cons_self
        · exact List.mem_cons_of_mem _ (ih found)
        · cases found
      · exact List.mem_cons_of_mem _ (ih found)

theorem flowFor_covered (organization : String) (connection text : Option String)
    (past : EnginePast) :
    Follows mandate.Covers
      (whenDone fun later found => ∀ flow, found = some flow → Offered later organization flow)
      (Trigger.flowFor organization connection text) past := by
  unfold Trigger.flowFor
  dsimp only
  split
  · exact Follows.done fun flow same => nomatch same
  · refine (told_follows trivial).andThen fun candidates later _ told => ?_
    apply Follows.ofExcept
    cases chosen : Trigger.first? connection (Text.trim (text.getD "")) candidates with
    | error fault => trivial
    | ok found =>
        intro flow same
        cases same
        exact .triggered told (first?_mem chosen)

theorem startTriggered_covered (message : InboundMessage) (replaces : Option String)
    (past : EnginePast) :
    Follows (Mandate.tenant message.organization replaces).Covers
      (whenDone fun later report => Discloses later message.organization report)
      (startTriggered settings message) past := by
  unfold startTriggered
  refine (flowFor_covered message.organization message.connection message.text past).andThen
    fun found later _ offered => ?_
  cases found with
  | none => exact Follows.done (.nothing (Or.inl rfl))
  | some flow =>
      have started := @startSession_covered later settings _ _ flow
        (Mandate.serves_own message.organization replaces) (offered flow rfl)
      exact (started _).weakenDone fun report last _ tells => discloses_of_tells tells

theorem handleOnSession_covered (message : InboundMessage) {found : Session}
    (told : Told past (.activeSession message.conversation) (some found)) :
    Follows (Mandate.tenant message.organization none).Covers
      (whenDone fun later report =>
        Discloses later message.organization report ∨ Intrudes later message report)
      (handleOnSession settings message found) past := by
  unfold handleOnSession
  dsimp only
  -- a stranger's session is left alone, but reported
  split
  · next foreign => exact Follows.done (Or.inr ⟨found, told, foreign, rfl⟩)
  · next own =>
      have own : found.organization = message.organization := Decidable.not_not.mp own
      have ignored (later : EnginePast) (grown : past <:+ later) :
          Discloses later message.organization (EventReport.ofSession .ignored found none) :=
        .read (told.grow grown) own ⟨rfl, rfl, rfl, rfl⟩
      -- an own session is running, waits for a reply, or waits for a timer
      split
      · refine (clock_covered past).andThen fun now later grown _ => ?_
        split
        · exact Follows.fail trivial
        · split
          · exact Follows.done (Or.inl (ignored later grown))
          · have owns : Owns later message.organization found := .active (told.grow grown) own
            have ending : Keeps (Mandate.tenant message.organization none).Covers
                (endSession found .failed "stale_session") later :=
              (endSession_covered (.owner (told.grow grown)) fun _ =>
                Or.inl (Mandate.entitles_own owns none)).keeps
            refine (Keeps.discarded ending).andThen fun _ last _ _ => ?_
            exact (startTriggered_covered message none last).weakenDone fun _ _ _ => Or.inl
      · have owns : Owns past message.organization found := .active told own
        have ran := Run.run_covered (.owner told) (Mandate.entitles_own owns none) settings
          message.text true none
        exact ran.weakenDone fun report later grown concludes =>
          Or.inl (.wrote (owns.grow grown) concludes)
      · exact Follows.done (Or.inl (ignored past (List.suffix_refl past)))

/-- An event that is tried twice tells what each attempt tells, or that there was a conflict. -/
theorem withRetry_covered {good : EnginePast → EventReport → Prop} {attempt : Engine EventReport}
    (covered : ∀ later, past <:+ later → Follows mandate.Covers (whenDone good) attempt later)
    (conflict : ∀ later, good later conflictReport) :
    Follows mandate.Covers (whenDone good) (withRetry attempt) past :=
  @withRetry_follows past _ (fun _ => True) _ _ (fun later grown _ => covered later grown)
    (fun later _ _ _ => ⟨trivial, conflict later⟩) trivial

theorem inbound_covered (message : InboundMessage) (past : EnginePast) :
    Follows (Mandate.tenant message.organization none).Covers
      (whenDone fun later report =>
        Discloses later message.organization report ∨ Intrudes later message report)
      (inbound settings message) past := by
  apply withRetry_covered
  · intro later _
    refine (told_follows trivial).andThen fun found last _ told => ?_
    cases found with
    | some found => exact handleOnSession_covered message told
    | none =>
        exact (startTriggered_covered message none last).weakenDone fun _ _ _ => Or.inl
  · exact fun later => Or.inl (.nothing (Or.inr rfl))

/-! ### Manual starts -/

theorem start_covered (organization : String) (request : StartRequest) (startedBy : Option String)
    (past : EnginePast) :
    Follows (Mandate.tenant organization (some request.conversation)).Covers
      (whenDone fun later report => Discloses later organization report)
      (start settings organization request startedBy) past := by
  unfold start
  refine (told_follows trivial).andThen fun found later _ asked => ?_
  cases found with
  | none => exact Follows.fail trivial
  | some flow =>
      dsimp only
      split
      · exact Follows.fail trivial
      · apply withRetry_covered
        · intro last grown
          have started (opening : Opening) (after : EnginePast) (more : last <:+ after) :
              Follows (Mandate.tenant organization (some request.conversation)).Covers
                (whenDone fun later report => Discloses later organization report)
                (startSession settings flow opening) after := by
            have offered : Offered after organization flow := .asked (asked.grow (grown.trans more))
            exact (startSession_covered (Mandate.serves_own _ _) offered opening).weakenDone
              fun report final _ tells => discloses_of_tells tells
          refine (told_follows trivial).andThen fun existing after more told => ?_
          cases existing with
          | none => exact started _ after more
          | some existing =>
              -- nobody has asked whose session this is: the mandate may only displace it
              have ending : Keeps (Mandate.tenant organization (some request.conversation)).Covers
                  (endSession existing .cancelled "replaced") after :=
                (endSession_covered (.owner told) fun now =>
                  Or.inr (Mandate.displaces_active told organization now)).keeps
              exact (Keeps.discarded ending).andThen fun _ final farther _ =>
                started _ final (more.trans farther)
        · exact fun later => .nothing (Or.inr rfl)

/-! ### Cancellation -/

theorem activeSession_covered (organization conversation : String) (past : EnginePast) :
    Follows mandate.Covers
      (whenDone fun later found => Told later (.activeSession conversation) (some found) ∧
        found.organization = organization)
      (activeSession organization conversation) past := by
  unfold activeSession
  refine (told_follows trivial).andThen fun found later _ told => ?_
  cases found with
  | none => exact Follows.fail trivial
  | some found =>
      dsimp only
      split
      · next own => exact Follows.done ⟨told, own⟩
      · exact Follows.fail trivial

theorem cancel_covered (organization conversation reason : String) (past : EnginePast) :
    Follows (Mandate.tenant organization none).Covers
      (whenDone fun later report => Discloses later organization report)
      (cancel organization conversation reason) past := by
  apply withRetry_covered
  · intro later _
    refine (activeSession_covered organization conversation later).andThen
      fun found last _ known => ?_
    obtain ⟨told, own⟩ := known
    have owns : Owns last organization found := .active told own
    have cancelled := @cancelReport_covered last (.tenant organization none) found (.owner told)
      (Mandate.entitles_own owns none) reason
    exact cancelled.weakenDone fun report after _ tells => discloses_of_tells tells
  · exact fun later => .nothing (Or.inr rfl)

/-- The sessions on a flow may be cancelled by an event that is entitled to whatever is read there. -/
theorem cancelOnFlow_covered {flow : String}
    (entitled : ∀ {later name found}, past <:+ later → Told later (.getSession name) (some found) →
      found.flow = flow → mandate.Entitles later found)
    (reason : String) (candidate : Session) :
    Keeps mandate.Covers (cancelOnFlow flow reason candidate) past := by
  refine withRetry_covered (fun later grown => ?_) fun _ => trivial
  dsimp only
  refine (told_follows trivial).andThen fun found last more told => ?_
  cases found with
  | none => exact Follows.done trivial
  | some found =>
      dsimp only
      split
      · next here =>
          rw [Bool.and_eq_true, decide_eq_true_eq] at here
          exact (cancelReport_covered (.row told here.1) (entitled (grown.trans more) told here.2)
            reason).keeps
      · exact Follows.done trivial

theorem cancelFlowSessions_covered {flow : String}
    (entitled : ∀ {later name found}, past <:+ later → Told later (.getSession name) (some found) →
      found.flow = flow → mandate.Entitles later found)
    (reason : String) : Keeps mandate.Covers (cancelFlowSessions flow reason) past := by
  have each (candidates : List Session) (later : EnginePast) (grown : past <:+ later) :
      Keeps mandate.Covers (cancelEach flow reason candidates) later := by
    induction candidates generalizing later with
    | nil => exact Follows.done trivial
    | cons candidate rest ih =>
        unfold cancelEach
        refine (cancelOnFlow_covered (fun more => entitled (grown.trans more)) reason
          candidate).andThen fun report last more _ => ?_
        refine (ih last (grown.trans more)).andThen fun others after _ _ => ?_
        split <;> exact Follows.done trivial
  exact (told_follows trivial).andThen fun candidates later grown _ => each candidates later grown

/-! ### Timers -/

theorem resume_covered (conversation session node : String) (past : EnginePast) :
    Keeps Mandate.anyone.Covers (resume settings conversation session node) past := by
  have task : TimerTask Mandate.anyone.Covers (fun _ => True) (whenDone fun _ _ => True) settings
      conversation session node := {
    asks := fun _ => trivial
    looks := fun _ => trivial
    read := fun _ _ => trivial
    clocked := fun _ _ => trivial
    unread := trivial
    untimed := trivial
    idle := fun _ _ _ => trivial
    mixed := fun _ _ => trivial
    moves := fun _ _ _ _ movable =>
      (Run.run_covered movable.saw (Mandate.anyone_entitles _ _) settings none true none).keeps
    again := fun _ _ _ _ => ⟨trivial, trivial⟩ }
  exact task.follows trivial

end Event

namespace Timer

theorem poll_covered (past : EnginePast) : Keeps Mandate.anyone.Covers (poll settings) past := by
  have handled (job : Delay) (later : EnginePast) :
      Keeps Mandate.anyone.Covers (handle settings job) later := by
    unfold handle
    refine (Event.resume_covered job.conversation job.session job.node later).andThen
      fun report last _ _ => ?_
    split
    · exact Follows.done trivial
    · have marking : Mandate.anyone.Covers last (.store (.markDelay (job.id.getD "None"))) := rfl
      exact (Keeps.discarded (told_follows marking).keeps).andThen fun _ _ _ _ => Follows.done trivial
  have each (jobs : List Delay) (later : EnginePast) :
      Keeps Mandate.anyone.Covers (handleEach settings jobs) later := by
    induction jobs generalizing later with
    | nil => exact Follows.done trivial
    | cons job rest ih =>
        unfold handleEach
        refine (handled job later).outcome.andThen fun result last _ _ => ?_
        refine (ih last).andThen fun others after _ _ => ?_
        split <;> exact Follows.done trivial
  unfold poll
  refine (clock_covered past).andThen fun now later _ _ => ?_
  exact (told_follows trivial).andThen fun jobs last _ _ => each jobs last

end Timer

/-! ### Management of flows -/

namespace Management

theorem shows_covered (organization id : String) : Shows mandate.Covers organization id :=
  ⟨fun _ => trivial, fun _ => trivial, fun _ _ => trivial⟩

theorem founds_covered : Founds mandate.Covers := fun _ _ _ => trivial

theorem saves_covered (organization id : String) : Saves mandate.Covers organization id :=
  ⟨fun _ _ _ _ _ => trivial, fun _ _ _ _ _ _ _ => trivial⟩

/-- The sessions of a flow that was found for an organization are its own. -/
theorem releases_covered (replaces : Option String) (hasEngine : Bool) (organization id : String) :
    Releases (Mandate.tenant organization replaces).Covers hasEngine organization id := by
  intro past flow reason told
  unfold cancelSessions
  split
  · refine Keeps.discarded (Event.cancelFlowSessions_covered (fun grown read on => ?_) reason)
    subst on
    exact .onFlow (told.grow grown) read
  · exact Follows.done trivial

end Management

/-- New settings name only fields that a caller may set. -/
theorem FlowUpdate.settings_absent (request : FlowUpdate) {name : String}
    (other : name ∉ Table.names request.toMembers) :
    Table.lookup? name request.settings = none := by
  rw [Table.lookup?_eq_none_iff]
  intro present
  obtain ⟨entry, member, same⟩ := List.mem_map.mp present
  exact other (same ▸ List.mem_map_of_mem (List.mem_filter.mp member).1)

theorem FlowUpdate.settings_keepsOwner (request : FlowUpdate) : KeepsOwner request.settings :=
  ⟨request.settings_absent (by simp [toMembers, Table.names]),
    request.settings_absent (by simp [toMembers, Table.names])⟩

end

/-! ### All events -/

namespace Operation

/-- For whom an event is carried out. -/
def mandate : Operation → Mandate
  | .inbound message => .tenant message.organization none
  | .start organization request _ => .tenant organization (some request.conversation)
  | .cancel organization _ _ | .update _ organization _ _ | .toggle _ organization _
  | .delete _ organization _ => .tenant organization none
  | _ => .anyone

/-- What the report of an event tells. -/
def Says (past : EnginePast) : Operation → Option EventReport → Prop
  | .inbound message, some report =>
      Discloses past message.organization report ∨ Intrudes past message report
  | .start organization _ _, some report | .cancel organization _ _, some report =>
      Discloses past organization report
  | _, _ => True

open Management in
/-- Every event keeps to its mandate, and its report tells what it may. -/
theorem program_covered (settings : EngineSettings) (operation : Operation) :
    Follows operation.mandate.Covers (whenDone fun later report => operation.Says later report)
      (operation.program settings) [] := by
  cases operation with
  | inbound message => exact reporting_follows (Event.inbound_covered message []) fun _ _ => id
  | start organization request startedBy =>
      exact reporting_follows (Event.start_covered organization request startedBy []) fun _ _ => id
  | cancel organization conversation reason =>
      exact reporting_follows (Event.cancel_covered organization conversation reason [])
        fun _ _ => id
  | resume conversation session node =>
      exact reporting_follows (Event.resume_covered conversation session node [])
        fun _ _ _ => trivial
  | cancelFlow flow reason =>
      exact silent_follows (Event.cancelFlowSessions_covered
        (fun _ _ _ => Mandate.anyone_entitles _ _) reason) fun _ => trivial
  | poll => exact silent_follows (Timer.poll_covered []) fun _ => trivial
  | install flow => exact silent_follows (told_follows trivial).keeps fun _ => trivial
  | create organization editor request =>
      exact silent_follows (create_keeps (fun _ => trivial) founds_covered organization editor
        request []) fun _ => trivial
  | update hasEngine organization id request =>
      exact silent_follows ((shows_covered organization id).update_keeps
        (releases_covered none hasEngine organization id) request
        (fun _ => request.settings_keepsOwner) []) fun _ => trivial
  | toggle hasEngine organization id =>
      exact silent_follows ((shows_covered organization id).toggle_keeps
        (releases_covered none hasEngine organization id) (fun _ _ => ⟨rfl, rfl⟩) [])
        fun _ => trivial
  | delete hasEngine organization id =>
      exact silent_follows ((shows_covered organization id).delete_keeps
        (releases_covered none hasEngine organization id) (fun _ => trivial) []) fun _ => trivial
  | saveCanvas organization id nodes edges editor =>
      exact silent_follows ((shows_covered organization id).saveCanvas_keeps
        (saves_covered organization id) nodes edges editor []) fun _ => trivial
  | duplicate organization id editor =>
      exact silent_follows ((shows_covered organization id).duplicate_keeps founds_covered
        editor []) fun _ => trivial
  | restore organization id number editor =>
      exact silent_follows ((shows_covered organization id).restore_keeps
        (saves_covered organization id) number editor []) fun _ => trivial

end Operation

end ChatFlow
