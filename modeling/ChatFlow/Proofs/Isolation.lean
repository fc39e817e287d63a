import ChatFlow.Proofs.EventRecord
import ChatFlow.Proofs.Registry
/-
The sessions of one organization are safe from the events of another one, and so are their timer
jobs; but for a manual start, which ends whatever session is active on its conversation.
-/

set_option autoImplicit false

namespace ChatFlow

open Program EnginePast

/-- A row is a session that was ended because another one took its conversation. -/
def Session.DisplacedAs (session row : Session) : Prop :=
  ∃ now stamp, row = { Run.ended session .cancelled "replaced" now with
    revision := session.revision + 1
    updatedAt := stamp }

theorem Session.DisplacedAs.ended {session row : Session} (displaced : session.DisplacedAs row) :
    row.organization = session.organization ∧ row.isActive = false := by
  obtain ⟨now, stamp, rfl⟩ := displaced
  exact ⟨rfl, rfl⟩

namespace Store

/-- The sessions of all other organizations and their timer jobs are as they were, but for a session
that was active on a conversation on which it may be replaced. -/
structure SparesOthers (organization : String) (replaces : Option String) (before after : Store) :
    Prop where
  sessions : ∀ {id row}, before.getSession id = some row → row.organization ≠ organization →
    after.getSession id = some row ∨
      replaces = some row.conversation ∧ row.isActive = true ∧
        ∃ later, after.getSession id = some later ∧ row.DisplacedAs later
  jobs : ∀ {name job row}, Table.lookup? name before.delays = some job →
    before.getSession job.session = some row → row.organization ≠ organization →
    Table.lookup? name after.delays = some job ∨
      replaces = some row.conversation ∧ job.processed = false ∧
        (∃ stamp, Table.lookup? name after.delays = some (processed stamp job)) ∧
        ∃ later, after.getSession job.session = some later ∧ later.isActive = false

namespace SparesOthers

variable {organization : String} {replaces : Option String} {before middle after : Store}

theorem refl (organization : String) (replaces : Option String) (store : Store) :
    SparesOthers organization replaces store store :=
  ⟨fun stands _ => Or.inl stands, fun stands _ _ => Or.inl stands⟩

theorem trans (lower : SparesOthers organization replaces before middle)
    (upper : SparesOthers organization replaces middle after) :
    SparesOthers organization replaces before after := by
  -- a session that has ended stays as it is
  have stays {id : String} {row : Session} (stands : middle.getSession id = some row)
      (foreign : row.organization ≠ organization) (inactive : row.isActive = false) :
      after.getSession id = some row := by
    rcases upper.sessions stands foreign with same | ⟨_, active, _⟩
    · exact same
    · rw [inactive] at active
      cases active
  constructor
  case sessions =>
    intro id row stands foreign
    rcases lower.sessions stands foreign with same | ⟨may, active, later, found, displaced⟩
    · exact upper.sessions same foreign
    · obtain ⟨owner, inactive⟩ := displaced.ended
      exact Or.inr ⟨may, active, later, stays found (owner ▸ foreign) inactive, displaced⟩
  case jobs =>
    intro name job row stands held foreign
    -- the session of the job in between, and what it was before
    obtain ⟨between, found, owner, place⟩ : ∃ between, middle.getSession job.session = some between ∧
        between.organization = row.organization ∧ between.conversation = row.conversation := by
      rcases lower.sessions held foreign with same | ⟨_, _, later, found, now, stamp, rfl⟩
      · exact ⟨row, same, rfl, rfl⟩
      · exact ⟨_, found, rfl, rfl⟩
    have foreign' : between.organization ≠ organization := owner ▸ foreign
    rcases lower.jobs stands held foreign with
      same | ⟨may, pending, ⟨stamp, marked⟩, later, read, inactive⟩
    · rw [← place]
      exact upper.jobs same found foreign'
    · cases found.symm.trans read
      refine Or.inr ⟨may, pending, ⟨stamp, ?_⟩, between, stays found foreign' inactive, inactive⟩
      rcases upper.jobs marked read foreign' with same | ⟨_, unmarked, _⟩
      · exact same
      · cases unmarked

end SparesOthers

end Store

/-! ### One call -/

section

variable {past : EnginePast} {scene : Scene} {register : Register} {organization : String}
  {replaces : Option String}

/-- A session that is written in place of one that was found stands as it was found. -/
theorem Mandate.Takes.current {mandate : Mandate} {found written stored : Session} {expected : Int}
    {stamp : Stamp} {later : Store} (takes : mandate.Takes past found written expected)
    (holds : Holds past scene)
    (updated : Store.Updated scene.store written expected stamp stored later) :
    ∃ id, written.id = some id ∧ scene.store.getSession id = some found ∧
      found.isActive = true := by
  obtain ⟨id, current, named, active, row, aged⟩ := holds.saw takes.saw
  have name : written.id = some id := takes.id.trans named
  obtain ⟨present, stands, agreed⟩ := updated.found
  rw [Store.sessionName_of_id name, row] at stands
  cases stands
  refine ⟨id, name, ?_, active⟩
  rcases aged with same | older
  · rw [← same]
    exact row
  · rw [agreed, takes.revision] at older
    exact absurd older (Int.lt_irrefl _)

/-- What an organization takes is its own, or is displaced. -/
theorem Mandate.Takes.own_or_displaced {found written : Session} {expected : Int}
    (takes : (Mandate.tenant organization replaces).Takes past found written expected)
    (vouched : Vouched past register) :
    found.organization = organization ∨ replaces = some found.conversation ∧
      ∃ now, written = Run.ended found .cancelled "replaced" now := by
  rcases takes.right with entitled | ⟨conversation, now, may, told, same⟩
  · exact Or.inl (vouched.organization_eq entitled)
  · obtain ⟨_, here⟩ := vouched told found rfl
    exact Or.inr ⟨here ▸ may, now, same⟩

theorem sessions_spared (sound : Store.WellFormed scene.store) (holds : Holds past scene)
    (vouched : Vouched past register) {request : StoreCall}
    (covers : (Mandate.tenant organization replaces).Covers past (.store request)) (stamp : Stamp)
    {id : String} {row : Session} (stands : scene.store.getSession id = some row)
    (foreign : row.organization ≠ organization) :
    (scene.store.answer stamp request).2.getSession id = some row ∨
      replaces = some row.conversation ∧ row.isActive = true ∧
        ∃ later, (scene.store.answer stamp request).2.getSession id = some later ∧
          row.DisplacedAs later := by
  cases request with
  | updateSession written expected =>
      apply Store.changing_snd (fun later : Store => later.getSession id = some row ∨
        replaces = some row.conversation ∧ row.isActive = true ∧
          ∃ last, later.getSession id = some last ∧ row.DisplacedAs last) (Or.inl stands)
      intro stored later done
      have updated := Store.updateSession_ok done
      obtain ⟨found, takes⟩ := covers
      obtain ⟨own, named, current, active⟩ := takes.current holds updated
      rw [updated.rows, Store.sessionName_of_id named]
      by_cases same : own = id
      · subst same
        cases stands.symm.trans current
        rcases takes.own_or_displaced vouched with own | ⟨may, now, ended⟩
        · exact absurd own foreign
        · refine Or.inr ⟨may, active, stored, if_pos rfl, now, stamp, ?_⟩
          rw [updated.row, ended, takes.revision]
      · rw [if_neg same]
        exact Or.inl stands
  | saveDelay job => exact Or.inl stands
  | _ =>
      refine Or.inl (Store.getSession_of_untouched sound ?_ stands stamp)
      exact fun touches => touches

theorem jobs_spared (sound : Store.WellFormed scene.store) (holds : Holds past scene)
    (owned : Store.Owned scene.store register) (vouched : Vouched past register)
    {request : StoreCall}
    (covers : (Mandate.tenant organization replaces).Covers past (.store request)) (stamp : Stamp)
    {name : String} {job : Delay} {row : Session}
    (stands : Table.lookup? name scene.store.delays = some job)
    (held : scene.store.getSession job.session = some row)
    (foreign : row.organization ≠ organization) :
    Table.lookup? name (scene.store.answer stamp request).2.delays = some job ∨
      replaces = some row.conversation ∧ job.processed = false ∧
        (∃ stamp', Table.lookup? name (scene.store.answer stamp request).2.delays =
          some (Store.processed stamp' job)) ∧
        ∃ later, (scene.store.answer stamp request).2.getSession job.session = some later ∧
          later.isActive = false := by
  have kept (same : (scene.store.answer stamp request).2.delays = scene.store.delays) :
      Table.lookup? name (scene.store.answer stamp request).2.delays = some job := same ▸ stands
  cases writes : request.writesRows with
  | false => exact Or.inl (kept (Store.answer_sameRows writes stamp scene.store).delays)
  | true =>
      cases request with
      | createSession session =>
          exact Or.inl (kept (Store.changing_snd (fun later => later.delays = scene.store.delays) rfl
            fun stored later done => (Store.createSession_ok done).delays))
      | updateSession written expected =>
          exact Or.inl (kept (Store.changing_snd (fun later => later.delays = scene.store.delays) rfl
            fun stored later done => (Store.updateSession_ok done).delays))
      | saveDelay given =>
          have apart : scene.store.nextDelay ≠ name := by
            intro same
            rw [← same, sound.nextDelay_free] at stands
            cases stands
          exact Or.inl ((Store.lookup?_saveDelay name given scene.store).trans
            ((if_neg apart).trans stands))
      | markDelay id => cases covers
      | markSessionDelays id =>
          have marked := Store.lookup?_markSessionDelays name id stamp scene.store
          rw [stands] at marked
          by_cases waits : Store.isWaitingFor id job = true
          · obtain ⟨found, written, expected, stored, takes, told, same⟩ := covers
            obtain ⟨wanted, pending⟩ : some job.session = id ∧ job.processed = false := by
              simpa [Store.isWaitingFor] using waits
            obtain ⟨own, named, called, closed⟩ := holds.wrote told
            cases called.symm.trans (same.trans wanted.symm)
            -- the session of the job is the one that was found and written over
            have home := owned.home_eq held (vouched.hasSession takes.saw)
              (takes.id.symm.trans named)
            rcases takes.own_or_displaced vouched with own | ⟨may, now, ended⟩
            · exact absurd ((congrArg Home.organization home).trans own) foreign
            · obtain ⟨last, found', inactive⟩ := closed (by rw [ended]; rfl)
              refine Or.inr ⟨?_, pending, ⟨stamp, ?_⟩, last, found', inactive⟩
              · rw [may]
                exact congrArg some (congrArg Home.conversation home).symm
              · exact marked.trans (congrArg some (if_pos waits))
          · exact Or.inl (marked.trans (congrArg some (if_neg waits)))
      | _ => cases writes

end

/-! ### Events -/

namespace Workplace

variable {ι : Type} {index : ι} {before begun middle after : Workplace ι}
  {settings : EngineSettings} {operation : Operation} {organization : String}
  {replaces : Option String} {refusable : StoreCall → Prop}

/-- What one worker does within the mandate of an organization spares the others. -/
theorem GoesOn.spares (goes : GoesOn index refusable before after) (reached : Reached before)
    (covered : Keeps (Mandate.tenant organization replaces).Covers (before.worker index).rest
      (before.worker index).past) :
    Store.SparesOthers organization replaces before.scene.store after.scene.store := by
  cases goes with
  | tick later => exact .refl organization replaces _
  | refuse may calls same turn =>
      rw [same]
      exact .refl organization replaces _
  | @answer _ past request next reply calls answers turn =>
      rw [calls] at covered
      have covers := covered.at_call.1
      have informed := reached.informed
      obtain ⟨register, registered⟩ := reached.registered
      have holds := informed.holds index
      have vouched : Vouched (before.worker index).past register := registered.vouched index
      rw [calls] at holds vouched
      rcases answers.effect with same | ⟨asked, stamp, rfl, same⟩
      · rw [same]
        exact .refl organization replaces _
      · rw [same]
        exact ⟨sessions_spared informed.shape holds vouched covers stamp,
          jobs_spared informed.shape holds registered.owned vouched covers stamp⟩

/-- No call of an event for an organization touches a session of another one or its timer jobs,
whatever other workers do before and whatever the store refuses; but for a manual start, which ends
a session that is active on its conversation. -/
theorem others_spared_unless_replaced (reached : Reached before)
    (begins : Begun before begun index settings operation)
    (mandate : operation.mandate = .tenant organization replaces)
    (onward : Onward index begun middle) (alone : Alone index refusable middle after) :
    Store.SparesOthers organization replaces middle.scene.store after.scene.store := by
  have covered : Keeps (Mandate.tenant organization replaces).Covers
      (operation.program settings) [] := by
    rw [← mandate]
    exact (operation.program_covered settings).keeps
  -- by induction on the worker's steps; the others have moved before and do not matter here
  have known : Reached middle := (reached.step begins.step).steps onward.steps
  induction alone with
  | refl => exact .refl organization replaces _
  | @tail last after alone goes ih =>
      apply ih.trans
      apply goes.spares (known.steps (Alone.steps alone))
      exact begins.follows (onward.trans (Alone.onward alone)) covered

/-! ### Two organizations on one conversation -/

/-- The contact is asked for a word. -/
def question : Content := .input ⟨none, "nome", .text, none, false, []⟩

/-- The contact's reply to a question. -/
def contactReply : InboundMessage := ⟨"org_1", none, "conv_1", some "Ana", "text", none, none⟩

/-- A session of one organization waits for a reply, and another organization has a flow too. -/
def sharedConversation : Workplace Unit :=
  (stocked (shortFlow "org_1" question)).play sampleSettings
    ([.order () (.install (shortFlow "org_2" question)), .go (),
      .order () (.start "org_1" ⟨"flow-0001", "conv_1", none, none, none, []⟩ none)] ++
      List.replicate 10 (.go ()))

theorem sharedConversation_reached : Reached sharedConversation := (stocked_reached _).play _

theorem sharedConversation_waits : ∃ session,
    sharedConversation.scene.store.getSession "session-0001" = some session ∧
      session.organization = "org_1" ∧ session.status = .awaitingInput := by
  have row : (sharedConversation.scene.store.getSession "session-0001").any (fun session =>
      session.organization = "org_1" && session.status = .awaitingInput) = true := by
    decide +kernel
  obtain ⟨session, stands, known⟩ := (Option.any_eq_true _ _).mp row
  rw [Bool.and_eq_true, decide_eq_true_eq, decide_eq_true_eq] at known
  exact ⟨session, stands, known⟩

/-- The one worker of a place begins an event. -/
def beginning (place : Workplace Unit) (operation : Operation) : Workplace Unit :=
  place.set place.scene () ⟨[], operation.program sampleSettings⟩

theorem beginning_begun (place : Workplace Unit) (idle : decide (place.worker ()).IsIdle = true)
    (operation : Operation) :
    Begun place (place.beginning operation) () sampleSettings operation where
  idle := of_decide_eq_true idle
  same := rfl
  turn := place.set_turn _ () _

theorem sharedConversation_idle : decide (sharedConversation.worker ()).IsIdle = true := by
  decide +kernel

/-- A message on the conversation, forwarded for the other organization. -/
def strangerMessage : InboundMessage := ⟨"org_2", none, "conv_1", some "oi", "text", none, none⟩

def intruding : Workplace Unit := sharedConversation.beginning (.inbound strangerMessage)

def intruded : Workplace Unit := intruding.play sampleSettings (List.replicate 1 (.go ()))

theorem intruding_begun :
    Begun sharedConversation intruding () sampleSettings (.inbound strangerMessage) :=
  beginning_begun sharedConversation sharedConversation_idle (.inbound strangerMessage)

theorem intruded_alone : Alone () (fun _ => False) intruding intruded :=
  alone_play sampleSettings intruding () _ 1

theorem others_spared_unless_replaced_intruded : ∃ session,
    sharedConversation.scene.store.getSession "session-0001" = some session ∧
      session.organization = "org_1" ∧
      intruded.scene.store.getSession "session-0001" = some session := by
  obtain ⟨session, stands, owner, _⟩ := sharedConversation_waits
  have spared : Store.SparesOthers "org_2" none intruding.scene.store intruded.scene.store :=
    others_spared_unless_replaced sharedConversation_reached intruding_begun rfl .refl intruded_alone
  rw [intruding_begun.same] at spared
  have foreign : session.organization ≠ "org_2" := by
    rw [owner]
    decide
  rcases spared.sessions stands foreign with same | ⟨impossible, _⟩
  · exact ⟨session, stands, owner, same⟩
  · cases impossible

/-- The other organization starts its flow on the conversation. -/
def takeOver : Operation := .start "org_2" ⟨"flow-0002", "conv_1", none, none, none, []⟩ none

def takingOver : Workplace Unit := sharedConversation.beginning takeOver

def takenOver : Workplace Unit := takingOver.play sampleSettings (List.replicate 14 (.go ()))

theorem takingOver_begun : Begun sharedConversation takingOver () sampleSettings takeOver :=
  beginning_begun sharedConversation sharedConversation_idle takeOver

/-- A manual start for one organization ends the session of another one, with a store that refuses
nothing. -/
theorem session_replaced_by_stranger :
    Reached sharedConversation ∧
    Begun sharedConversation takingOver () sampleSettings takeOver ∧
    Alone () (fun _ => False) takingOver takenOver ∧
    (∃ session, sharedConversation.scene.store.getSession "session-0001" = some session ∧
      session.organization = "org_1" ∧ session.status = .awaitingInput) ∧
    ∃ row, takenOver.scene.store.getSession "session-0001" = some row ∧
      row.organization = "org_1" ∧ row.status = .cancelled ∧ row.endReason = some "replaced" := by
  have row : (takenOver.scene.store.getSession "session-0001").any (fun session =>
      session.organization = "org_1" && session.status = .cancelled &&
        session.endReason = some "replaced") = true := by decide +kernel
  obtain ⟨row, stands, known⟩ := (Option.any_eq_true _ _).mp row
  simp only [Bool.and_eq_true, decide_eq_true_eq] at known
  exact ⟨sharedConversation_reached, takingOver_begun,
    alone_play sampleSettings takingOver () _ 14, sharedConversation_waits, row, stands,
    known.1.1, known.1.2, known.2⟩

end Workplace

end ChatFlow
