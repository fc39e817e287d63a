import ChatFlow.Engine.Reception
import ChatFlow.Proofs.EventDelivery
import ChatFlow.Proofs.Isolation
/-
What an organization is told of sessions. A report names a session of the organization that asked, or
none; but a message that meets the session of another organization is answered with a report on it.
-/

set_option autoImplicit false

namespace ChatFlow

open Program EnginePast

/-! ### What an answer names -/

/-- The session, the flow, the node and the reason of an end that an answer names. -/
structure Mention where
  session : Option String
  flow : Option String
  node : Option String
  reason : Option String
  deriving DecidableEq, Repr

def EventReport.mention (report : EventReport) : Mention :=
  ⟨report.session, report.flow, report.node, report.endReason⟩

def Receipt.mention (receipt : Receipt) : Mention :=
  ⟨receipt.session, receipt.flow, receipt.node, receipt.errorDetails⟩

namespace Mention

/-- Nothing of a session is named; that events met is no reason why a session ended. -/
def IsBlank (mention : Mention) : Prop :=
  mention.session = none ∧ mention.flow = none ∧ mention.node = none ∧
    (mention.reason = none ∨ mention.reason = some "concurrency_conflict")

/-- All that is named stands in a session. -/
structure IsOf (mention : Mention) (row : Session) : Prop where
  session : mention.session = row.id
  flow : mention.flow = some row.flow
  node : mention.node = none ∨ mention.node = some row.currentNode
  reason : mention.reason = none ∨ mention.reason = row.endReason

/-- Nothing is named, or what stands in a session of an organization that has its row. -/
def Within (mention : Mention) (store : Store) (organization : String) : Prop :=
  mention.IsBlank ∨ ∃ session id row, mention.IsOf session ∧
    session.organization = organization ∧ session.id = some id ∧
    store.getSession id = some row ∧ row.home = session.home

theorem Within.organization_eq {mention : Mention} {store : Store} {organization name : String}
    (within_ : mention.Within store organization) (named : mention.session = some name) :
    ∃ row, store.getSession name = some row ∧ row.organization = organization := by
  rcases within_ with ⟨unnamed, _⟩ | ⟨session, id, row, of, own, known, stands, home⟩
  · rw [unnamed] at named
    cases named
  · cases known.symm.trans (of.session.symm.trans named)
    exact ⟨row, stands, (congrArg Home.organization home).trans own⟩

end Mention

/-! ### Reports and receipts -/

theorem EventReport.Describes.isOf {report : EventReport} {row : Session}
    (describes : report.Describes row) :
    report.mention.IsOf row ∧ (Receipt.ofReport report).mention.IsOf row := by
  refine ⟨⟨describes.session, describes.flow, Or.inr describes.node, Or.inr describes.reason⟩,
    describes.session, describes.flow, ?_, ?_⟩
  · simp only [Receipt.mention, Receipt.ofReport]
    split
    · exact Or.inr describes.node
    · exact Or.inl rfl
  · simp only [Receipt.mention, Receipt.ofReport]
    split
    · exact Or.inr describes.reason
    · exact Or.inl rfl

variable {past : EnginePast} {register : Register} {store : Store} {organization : String}
  {report : EventReport}

theorem Mention.IsOf.within {mention : Mention} {session : Session} (of : mention.IsOf session)
    (owned : Store.Owned store register) (has : register.HasSession session)
    (own : session.organization = organization) : mention.Within store organization := by
  obtain ⟨id, row, named, stands, home⟩ := owned.exists_row has
  exact Or.inr ⟨session, id, row, of, own, named, stands, home⟩

/-- What a report tells of a session that was written over is what was stored. -/
theorem EnginePast.Concludes.describes {found : Session} (concludes : Concludes past found report)
    (vouched : Vouched past register) :
    ∃ stored, report.Describes stored ∧ register.HasSession stored ∧
      stored.organization = found.organization := by
  obtain ⟨written, expected, stored, reason, told, _, home, kept, describes⟩ := concludes
  obtain ⟨has, revision, updatedAt, same⟩ := vouched told
  have row : { stored with endReason := reason } = stored := by
    rw [same] at kept ⊢
    rcases kept with kept | kept
    · rw [kept]
    · rw [kept]
  rw [row] at describes
  refine ⟨stored, describes, has, ?_⟩
  rw [same]
  exact congrArg Home.organization home

theorem EnginePast.Discloses.within (discloses : Discloses past organization report)
    (owned : Store.Owned store register) (vouched : Vouched past register) :
    report.mention.Within store organization ∧
      (Receipt.ofReport report).mention.Within store organization := by
  have of_describes {session : Session} (describes : report.Describes session)
      (has : register.HasSession session) (own : session.organization = organization) :
      report.mention.Within store organization ∧
        (Receipt.ofReport report).mention.Within store organization := by
    obtain ⟨of, received⟩ := describes.isOf
    exact ⟨of.within owned has own, received.within owned has own⟩
  cases discloses with
  | nothing blank =>
      rcases blank with rfl | rfl
      · exact ⟨Or.inl ⟨rfl, rfl, rfl, Or.inl rfl⟩, Or.inl ⟨rfl, rfl, rfl, Or.inl rfl⟩⟩
      · exact ⟨Or.inl ⟨rfl, rfl, rfl, Or.inr rfl⟩, Or.inl ⟨rfl, rfl, rfl, Or.inr rfl⟩⟩
  | read told own describes => exact of_describes describes (vouched told _ rfl).1 own
  | wrote owns concludes =>
      obtain ⟨stored, describes, has, own⟩ := concludes.describes vouched
      exact of_describes describes has (own.trans (vouched.organization_eq owns))

/-! ### Events -/

/-- The organization that gets the report of an event. -/
def Operation.asker? : Operation → Option String
  | .inbound message => some message.organization
  | .start organization _ _ | .cancel organization _ _ => some organization
  | _ => none

/-- A message met a session of another organization, and is answered with a report on it. -/
def Operation.Exposes (operation : Operation) (store : Store) (report : EventReport) : Prop :=
  ∃ message foreign id row, operation = .inbound message ∧
    foreign.organization ≠ message.organization ∧ foreign.conversation = message.conversation ∧
    foreign.id = some id ∧ store.getSession id = some row ∧ row.home = foreign.home ∧
    report = EventReport.ofSession .ignored foreign none

namespace Workplace

variable {ι : Type} {index : ι} {before begun after : Workplace ι} {settings : EngineSettings}
  {operation : Operation}

/-- What an organization is told of its events, and of the session that it asks for, is about its own
sessions, whatever the store answers or refuses and whatever other workers do; but for a message that
meets the session of another organization. -/
theorem told_of_own_sessions_unless_exposed (reached : Reached before)
    (begins : Begun before begun index settings operation)
    (asks : operation.asker? = some organization) (onward : Onward index begun after)
    (ends : (after.worker index).Ends (.ok (some report))) :
    (report.mention.Within after.scene.store organization ∧
        (Receipt.ofReport report).mention.Within after.scene.store organization ∨
      operation.Exposes after.scene.store report) ∧
    ∀ conversation calls session,
      Transcript (Event.activeSession organization conversation) calls (.ok session) →
        session.organization = organization := by
  have known : Reached after := (reached.step begins.step).steps onward.steps
  obtain ⟨register, registered⟩ := known.registered
  have vouched : Vouched (after.worker index).past register := registered.vouched index
  have stated : operation.Says (after.worker index).past (some report) := by
    have follows := begins.follows onward (operation.program_covered settings)
    have rest : (after.worker index).rest = .done (some report) := ends
    rw [rest] at follows
    exact follows.at_done
  have own (discloses : Discloses (after.worker index).past organization report) :
      report.mention.Within after.scene.store organization ∧
        (Receipt.ofReport report).mention.Within after.scene.store organization :=
    discloses.within registered.owned vouched
  constructor
  · cases operation with
    | inbound message =>
        -- the only event whose report may be on a session that was found and not taken
        cases asks
        rcases stated with discloses | ⟨foreign, told, apart, same⟩
        · exact Or.inl (own discloses)
        · obtain ⟨has, here⟩ := vouched told foreign rfl
          obtain ⟨id, row, named, stands, home⟩ := registered.owned.exists_row has
          exact Or.inr ⟨message, foreign, id, row, rfl, apart, here, named, stands, home, same⟩
    | start | cancel =>
        cases asks
        exact Or.inl (own stated)
    | _ => cases asks
  · intro conversation calls session ran
    have covered : Follows Mandate.anyone.Covers (whenDone fun later found =>
        Told later (.activeSession conversation) (some found) ∧ found.organization = organization)
        (Event.activeSession organization conversation) [] :=
      Event.activeSession_covered organization conversation []
    exact (ran.follows covered).2

/-! ### Two organizations on one conversation -/

theorem takenOver_ends : ∃ report, (takenOver.worker ()).Ends (.ok (some report)) ∧
    report.session = some "session-0002" := by
  have known : (reportOf? (takenOver.worker ())).any (fun report =>
      report.session = some "session-0002") = true := by decide +kernel
  obtain ⟨report, done, session⟩ := (Option.any_eq_true _ _).mp known
  refine ⟨report, ?_, of_decide_eq_true session⟩
  rw [reportOf?_eq_some done]
  rfl

theorem told_of_own_sessions_unless_exposed_takenOver : ∃ report row,
    (takenOver.worker ()).Ends (.ok (some report)) ∧ report.session = some "session-0002" ∧
      takenOver.scene.store.getSession "session-0002" = some row ∧ row.organization = "org_2" := by
  obtain ⟨report, ends, session⟩ := takenOver_ends
  have onward : Onward () takingOver takenOver :=
    Alone.onward (alone_play sampleSettings takingOver () Nothing 14)
  have asks : takeOver.asker? = some "org_2" := rfl
  have told := (told_of_own_sessions_unless_exposed sharedConversation_reached takingOver_begun asks
    onward ends).1
  rcases told with ⟨within_, _⟩ | ⟨message, foreign, id, row, impossible, _⟩
  · obtain ⟨row, stands, owner⟩ := within_.organization_eq session
    exact ⟨report, row, ends, session, stands, owner⟩
  · cases impossible

/-- A message for one organization is answered with the session, the flow and the node of another
one, and the receipt names the session and the flow. -/
theorem session_exposed_to_stranger :
    Reached sharedConversation ∧
    Begun sharedConversation intruding () sampleSettings (.inbound strangerMessage) ∧
    Alone () (fun _ => False) intruding intruded ∧ strangerMessage.organization = "org_2" ∧
    (∃ row, intruded.scene.store.getSession "session-0001" = some row ∧
      row.organization = "org_1") ∧
    ∃ report, (intruded.worker ()).Ends (.ok (some report)) ∧
      report.mention = ⟨some "session-0001", some "flow-0001", some "node", none⟩ ∧
      (Receipt.ofReport report).mention =
        ⟨some "session-0001", some "flow-0001", none, none⟩ := by
  have row : (intruded.scene.store.getSession "session-0001").any (fun session =>
      session.organization = "org_1") = true := by decide +kernel
  obtain ⟨row, stands, owner⟩ := (Option.any_eq_true _ _).mp row
  have known : (reportOf? (intruded.worker ())).any (fun report =>
      report.mention = ⟨some "session-0001", some "flow-0001", some "node", none⟩ &&
      (Receipt.ofReport report).mention =
        ⟨some "session-0001", some "flow-0001", none, none⟩) = true := by decide +kernel
  obtain ⟨report, done, mentions⟩ := (Option.any_eq_true _ _).mp known
  rw [Bool.and_eq_true, decide_eq_true_eq, decide_eq_true_eq] at mentions
  refine ⟨sharedConversation_reached, intruding_begun, intruded_alone, rfl,
    ⟨row, stands, of_decide_eq_true owner⟩, report, ?_, mentions⟩
  rw [reportOf?_eq_some done]
  rfl

end Workplace

end ChatFlow
