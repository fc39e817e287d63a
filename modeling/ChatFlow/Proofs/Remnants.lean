import ChatFlow.Proofs.ActiveSessions
import ChatFlow.Proofs.EventDelivery
import ChatFlow.Proofs.Isolation
/-
What an event leaves behind that reports a conflict. Neither attempt has stored its decision, but what
an attempt has written before it met another writer is not taken back: a session may have been opened,
one may have been ended to make room for it, and one may have ended whose timer jobs could not be
marked. Where none of this has happened the sessions and their index are as they were; else they are
not.
-/

set_option autoImplicit false

namespace ChatFlow

open Program EnginePast

/-- The events that go through two attempts at most. -/
inductive Occurrence where
  | run (stimulus : Stimulus)
  | cancel (organization conversation reason : String)

namespace Occurrence

def operation : Occurrence → Operation
  | .run stimulus => stimulus.operation
  | .cancel organization conversation reason => .cancel organization conversation reason

def program (settings : EngineSettings) : Occurrence → Engine EventReport
  | .run stimulus => stimulus.program settings
  | .cancel organization conversation reason => Event.cancel organization conversation reason

theorem operation_program (settings : EngineSettings) (occurrence : Occurrence) :
    occurrence.operation.program settings =
      Operation.reporting (occurrence.program settings) := by
  cases occurrence with
  | run stimulus => exact stimulus.operation_program
  | cancel organization conversation reason => rfl

end Occurrence

/-- Whether a call has stored a session, a new one or one written over. -/
def wroteSession : Answered Call.Answer → Bool
  | ⟨request, .ok _⟩ => request.writesSession
  | ⟨_, .error _⟩ => false

namespace Event

variable {settings : EngineSettings} {calls : List (Answered Call.Answer)}
  {result : Except Fault EventReport}

/-- Among some calls are writes of sessions that are not decisions of runs, or whose timer jobs could
not be marked. -/
inductive Leaves (calls : List (Answered Call.Answer)) : Prop where
  | opened {given stored : Session} (told : ⟨.store (.createSession given), .ok stored⟩ ∈ calls)
  | displaced {found stored : Session} {status : SessionStatus} {reason : String} {now : Stamp}
      {expected : Int} (aside : reason = "replaced" ∨ reason = "stale_session")
      (told : ⟨.store (.updateSession (Run.ended found status reason now) expected), .ok stored⟩ ∈
        calls)
  | unmarked {written stored : Session} {expected : Int} {fault : Fault}
      (told : ⟨.store (.updateSession written expected), .ok stored⟩ ∈ calls)
      (refused : ⟨.store (.markSessionDelays stored.id), .error fault⟩ ∈ calls)

theorem Leaves.mono {later : List (Answered Call.Answer)} (leaves : Leaves calls)
    (subset : ∀ entry ∈ calls, entry ∈ later) : Leaves later := by
  cases leaves with
  | opened told => exact .opened (subset _ told)
  | displaced aside told => exact .displaced aside (subset _ told)
  | unmarked told refused => exact .unmarked (subset _ told) (subset _ refused)

theorem Leaves.wrote (leaves : Leaves calls) : ∃ entry ∈ calls, wroteSession entry = true := by
  cases leaves with
  | opened told => exact ⟨_, told, rfl⟩
  | displaced aside told => exact ⟨_, told, rfl⟩
  | unmarked told refused => exact ⟨_, told, rfl⟩

/-! ### Attempts that come to nothing -/

/-- An attempt has failed, or what it reports is a conflict. -/
def Fruitless : Except Fault EventReport → Prop
  | .ok report => report.status = .conflict
  | .error _ => True

theorem fruitless_error (fault : Fault) : Fruitless (.error fault) := trivial

/-- Every write that went through among some calls is one that an attempt leaves behind. -/
def LeavesIfWrote (calls : List (Answered Call.Answer)) : Prop :=
  ∀ entry ∈ calls, wroteSession entry = true → Leaves calls

theorem LeavesIfWrote.append {earlier later : List (Answered Call.Answer)}
    (first : LeavesIfWrote earlier) (second : LeavesIfWrote later) :
    LeavesIfWrote (earlier ++ later) := by
  intro entry member wrote
  rcases List.mem_append.mp member with early | late
  · exact (first entry early wrote).mono fun _ => List.mem_append_left later
  · exact (second entry late wrote).mono fun _ => List.mem_append_right earlier

/-- A write that went through has created a session or written one over. -/
theorem wroteSession_cases {entry : Answered Call.Answer} (wrote : wroteSession entry = true) :
    (∃ given stored, entry = ⟨.store (.createSession given), .ok stored⟩) ∨
      ∃ written expected stored, entry = ⟨.store (.updateSession written expected), .ok stored⟩ := by
  obtain ⟨request, reply⟩ := entry
  cases reply with
  | error fault => cases wrote
  | ok value =>
      cases request with
      | store asked =>
          cases asked with
          | createSession given => exact Or.inl ⟨given, value, rfl⟩
          | updateSession written expected => exact Or.inr ⟨written, expected, value, rfl⟩
          | _ => cases wrote
      | _ => cases wrote

theorem leavesIfWrote_of_aside (aside : Aside calls) : LeavesIfWrote calls := by
  intro entry member wrote
  rcases wroteSession_cases wrote with ⟨given, stored, rfl⟩ | ⟨written, expected, stored, rfl⟩
  · exact .opened member
  · obtain ⟨found, status, reason, now, rfl, outside⟩ := aside _ member
    exact .displaced outside member

theorem leavesIfWrote_of_unwritten (unwritten : Run.Unwritten calls) : LeavesIfWrote calls := by
  intro entry member wrote
  rcases wroteSession_cases wrote with ⟨given, stored, rfl⟩ | ⟨written, expected, stored, rfl⟩
  · exact .opened member
  · exact absurd member (unwritten written expected stored)

theorem Ran.leavesIfWrote (run : Ran settings) (fruitless : Fruitless run.result) :
    LeavesIfWrote run.calls := by
  have course := run.course
  generalize run.calls = calls at course ⊢
  generalize run.result = result at course fruitless
  cases course with
  | unstored silent unwritten => exact leavesIfWrote_of_unwritten unwritten
  | @unmarked walking before last written stored _ _ fault approach quiet ends quietly =>
      intro _ _ _
      exact .unmarked (List.mem_append_right _ List.mem_cons_self)
        (List.mem_append_right _ (List.mem_cons_of_mem _ List.mem_cons_self))
  | settled approach quiet closing effects carried apart quietly status about =>
      have conflict : _ = EventStatus.conflict := fruitless
      rw [conflict] at status
      cases status

theorem Attempt.leavesIfWrote {run : Option (Ran settings)}
    (attempt : Attempt settings calls result run) (fruitless : Fruitless result) :
    LeavesIfWrote calls := by
  cases attempt with
  | failed aside => exact leavesIfWrote_of_aside aside
  | declined aside status nothing => exact leavesIfWrote_of_aside aside
  | ran aside run => exact (leavesIfWrote_of_aside aside).append (run.leavesIfWrote fruitless)

theorem fruitless_of_settled (fruitless : Fruitless (settled result)) : Fruitless result := by
  cases result with
  | ok report => exact fruitless
  | error fault => trivial

/-- Where each attempt that comes to nothing leaves its writes behind, so does the event. -/
theorem Twofold.leavesIfWrote
    (twofold : Twofold (fun calls result => Fruitless result → LeavesIfWrote calls) calls result)
    (fruitless : Fruitless result) : LeavesIfWrote calls := by
  cases twofold with
  | once attempt => exact attempt fruitless
  | twice first conflict second =>
      have earlier := first (fruitless_error _)
      exact earlier.append (second (fruitless_of_settled fruitless))

/-! ### Cancellations -/

theorem leavesIfWrote_of_reads (reads : ∀ entry ∈ calls, wroteSession entry = false) :
    LeavesIfWrote calls := by
  intro entry member wrote
  rw [reads entry member] at wrote
  cases wrote

/-- A session whose end has failed was not written, or its timer jobs could not be marked. -/
theorem endSession_leaves {found : Session} {status : SessionStatus} {reason : String} {fault : Fault}
    (ran : Transcript (endSession found status reason) calls (.error fault)) :
    LeavesIfWrote calls := by
  unfold endSession at ran
  rcases now_first ran with ⟨now, later, rfl, rest⟩ | ⟨cause, rfl, _⟩
  · rcases store_first rest with ⟨stored, last, rfl, marking⟩ | ⟨cause, rfl, _⟩
    · rcases stored_first marking with ⟨count, tail, rfl, logging⟩ | ⟨cause, rfl, _⟩
      · rcases Transcript.of_bind logging with ⟨_, logs, done, rfl, _, ended⟩ | ⟨_, logged, _⟩
        · cases (Transcript.of_done ended).2
        · cases Engine.flush_result logged
      · intro _ _ _
        exact .unmarked (List.mem_cons_of_mem _ List.mem_cons_self)
          (List.mem_cons_of_mem _ (List.mem_cons_of_mem _ List.mem_cons_self))
    · exact leavesIfWrote_of_reads (by simp [wroteSession, Call.writesSession])
  · exact leavesIfWrote_of_reads (by simp [wroteSession])

theorem cancelReport_leaves {found : Session} {reason : String} (fruitless : Fruitless result)
    (ran : Transcript (cancelReport found reason) calls result) : LeavesIfWrote calls := by
  rcases Transcript.of_bind ran with ⟨stored, earlier, later, rfl, _, done⟩ | ⟨fault, ended, rfl⟩
  · obtain ⟨rfl, rfl⟩ := Transcript.of_done done
    have conflict : EventStatus.cancelled = EventStatus.conflict := fruitless
    cases conflict
  · exact endSession_leaves ended

theorem activeSession_leaves {organization conversation : String} {found : Except Fault Session}
    (ran : Transcript (activeSession organization conversation) calls found) :
    LeavesIfWrote calls := by
  have reads : Makes (fun request => request.writesSession = false)
      (activeSession organization conversation) := by
    refine Makes.bind (.store rfl) fun answer => ?_
    cases answer with
    | none => exact .fail _
    | some session =>
        dsimp only
        split
        · exact .done _
        · exact .fail _
  refine leavesIfWrote_of_reads fun entry member => ?_
  have kind := reads.all ran entry member
  unfold wroteSession
  split
  · exact kind
  · rfl

theorem cancel_leaves {organization conversation reason : String} (fruitless : Fruitless result)
    (ran : Transcript (cancel organization conversation reason) calls result) :
    LeavesIfWrote calls := by
  refine ((withRetry_twofold ran).mono fun calls result ran fruitless => ?_).leavesIfWrote fruitless
  rcases Transcript.of_bind ran with ⟨found, earlier, later, rfl, looked, ended⟩ | ⟨_, looked, _⟩
  · exact (activeSession_leaves looked).append (cancelReport_leaves fruitless ended)
  · exact activeSession_leaves looked

end Event

theorem Occurrence.leavesIfWrote {settings : EngineSettings} {occurrence : Occurrence}
    {calls : List (Answered Call.Answer)} {result : Except Fault EventReport}
    (ran : Transcript (occurrence.program settings) calls result)
    (fruitless : Event.Fruitless result) : Event.LeavesIfWrote calls := by
  cases occurrence with
  | run stimulus =>
      refine ((Stimulus.twofold ran).mono fun calls result attempt fruitless => ?_).leavesIfWrote
        fruitless
      obtain ⟨run, attempted⟩ := attempt
      exact attempted.attempt.leavesIfWrote fruitless
  | cancel organization conversation reason => exact Event.cancel_leaves fruitless ran

/-! ### Writes that stay -/

/-- The sessions and the index of the active ones are the same in two stores. -/
structure Store.SameSessions (store later : Store) : Prop where
  rows : later.sessions = store.sessions
  index : later.active = store.active

theorem Store.SameSessions.trans {first middle last : Store} (lower : SameSessions first middle)
    (upper : SameSessions middle last) : SameSessions first last :=
  ⟨upper.rows.trans lower.rows, upper.index.trans lower.index⟩

theorem Store.answer_sameSessions {request : StoreCall} {stamp : Stamp} {store : Store}
    (quiet : (Call.store request).writesSession = false) :
    SameSessions store (store.answer stamp request).2 := by
  cases writes : request.writesRows with
  | false =>
      have same := answer_sameRows writes stamp store
      exact ⟨same.sessions, same.active⟩
  | true =>
      cases request with
      | markDelay job =>
          refine ⟨markDelay_sessions job stamp store, ?_⟩
          show (store.markDelay job stamp).2.active = store.active
          unfold markDelay
          split <;> rfl
      | saveDelay | markSessionDelays => exact ⟨rfl, rfl⟩
      | createSession | updateSession => cases quiet
      | _ => cases writes

/-- A call that has stored no session leaves them all as they are. -/
theorem Scene.Answers.sameSessions {before after : Scene} {request : Call}
    {reply : Except Fault request.Answer} (answers : before.Answers request reply after)
    (read : wroteSession ⟨request, reply⟩ = false) : before.store.SameSessions after.store := by
  cases request with
  | store asked =>
      obtain ⟨stamp, told, rfl⟩ := answers
      cases reply with
      | ok value => exact Store.answer_sameSessions read
      | error fault =>
          show before.store.SameSessions (before.store.answer stamp asked).2
          rw [Store.answer_error told.symm]
          exact ⟨rfl, rfl⟩
  | clock =>
      obtain ⟨_, rfl⟩ := answers
      exact ⟨rfl, rfl⟩
  | complete | http | history | deliver | sleep =>
      cases answers
      exact ⟨rfl, rfl⟩

/-- Some session is stored with a revision that none had before under its name. -/
def Scene.Moved (before after : Scene) : Prop :=
  ∃ id row, after.store.getSession id = some row ∧
    ∀ old, before.store.getSession id = some old → old.revision < row.revision

theorem Scene.Moved.evolve {before middle after : Scene} (moved : before.Moved middle)
    (evolves : middle.Evolves after) : before.Moved after := by
  obtain ⟨id, row, stands, higher⟩ := moved
  obtain ⟨later, present, change⟩ := evolves.rows stands
  refine ⟨id, later, present, fun old stood => ?_⟩
  rcases change with rfl | ⟨_, raised⟩
  · exact higher old stood
  · exact Int.lt_trans (higher old stood) raised

theorem Scene.Moved.not_same {before after : Scene} (moved : before.Moved after) :
    ¬before.store.SameSessions after.store := by
  intro same
  obtain ⟨id, row, stands, higher⟩ := moved
  have stood : before.store.getSession id = some row := by
    unfold Store.getSession at stands ⊢
    rw [← same.rows]
    exact stands
  exact Int.lt_irrefl _ (higher row stood)

namespace Workplace

variable {ι : Type} {index : ι} {before begun middle after : Workplace ι}
  {settings : EngineSettings} {refusable : StoreCall → Prop}

/-- A write that goes through stores a revision that was not there before. -/
theorem Answering.moved {past : EnginePast} {request : Call} {reply : Except Fault request.Answer}
    (answering : Answering middle after index past request reply) (informed : Informed middle)
    (evolves : before.scene.Evolves middle.scene) (wrote : wroteSession ⟨request, reply⟩ = true) :
    before.scene.Moved after.scene := by
  have answers := answering.answers
  rcases Event.wroteSession_cases wrote with ⟨given, stored, same⟩ | ⟨written, expected, stored, same⟩
  · cases same
    obtain ⟨stamp, told, changed⟩ := answers
    have made := Store.createSession_ok (Store.changing_ok told.symm)
    refine ⟨middle.scene.store.nextSession, stored, ?_, fun old stood => ?_⟩
    · rw [changed]
      exact (made.rows _).trans (if_pos rfl)
    · obtain ⟨later, present, _⟩ := evolves.rows stood
      rw [informed.shape.nextSession_free] at present
      cases present
  · cases same
    obtain ⟨stamp, told, changed⟩ := answers
    have updated := Store.updateSession_ok (Store.changing_ok told.symm)
    obtain ⟨id, found, replaces⟩ :=
      replaces_of_updated (answering.holds informed) answering.warranted updated
    refine ⟨id, stored, ?_, fun old stood => ?_⟩
    · rw [changed]
      exact (replaces.rows id).trans (if_pos rfl)
    · obtain ⟨later, present, change⟩ := evolves.rows stood
      rw [replaces.current] at present
      cases present
      rcases change with same | ⟨_, raised⟩
      · rw [← same]
        exact replaces.higher
      · exact Int.lt_trans raised replaces.higher

/-- What a worker alone has written, and whether it has written anything. -/
theorem Alone.moved_iff (alone : Alone index refusable begun after) (reached : Reached begun)
    (start : (begun.worker index).past = []) :
    ((∃ entry ∈ (after.worker index).past, wroteSession entry = true) →
        begun.scene.Moved after.scene) ∧
      ((∀ entry ∈ (after.worker index).past, wroteSession entry = false) →
        begun.scene.store.SameSessions after.scene.store) := by
  induction alone with
  | refl =>
      rw [start]
      constructor
      · rintro ⟨_, member, _⟩
        cases member
      · exact fun _ => ⟨rfl, rfl⟩
  | @tail middle after alone goes ih =>
      have known := reached.steps (Alone.steps alone)
      have evolves := goes.step.evolves known
      cases goes with
      | tick later =>
          exact ⟨fun wrote => (ih.1 wrote).evolve evolves, fun reads => ih.2 reads⟩
      | refuse may calls same turn =>
          rw [turn.1, same]
          rw [calls] at ih
          constructor
          · rintro ⟨entry, member, wrote⟩
            rcases List.mem_cons.mp member with rfl | earlier
            · cases wrote
            · exact ih.1 ⟨entry, earlier, wrote⟩
          · intro reads
            exact ih.2 fun entry member => reads entry (List.mem_cons_of_mem _ member)
      | @answer _ past request next reply calls answers turn =>
          have answering := known.mannered.answering calls answers turn
          rw [turn.1]
          rw [calls] at ih
          constructor
          · rintro ⟨entry, member, wrote⟩
            rcases List.mem_cons.mp member with rfl | earlier
            · have since := Steps.evolves (Alone.steps alone) reached
              exact answering.moved known.informed since wrote
            · exact (ih.1 ⟨entry, earlier, wrote⟩).evolve evolves
          · intro reads
            refine (ih.2 fun entry member => reads entry (List.mem_cons_of_mem _ member)).trans ?_
            exact answers.sameSessions (reads _ List.mem_cons_self)

/-- An event that reports a conflict has left the sessions and the index of the active ones as they
were exactly where it leaves nothing behind. -/
theorem conflict_changes_nothing_unless_left {occurrence : Occurrence} {report : EventReport}
    (reached : Reached before)
    (begins : Begun before begun index settings occurrence.operation)
    (alone : Alone index refusable begun after)
    (ends : (after.worker index).Ends (.ok (some report))) (conflict : report.status = .conflict) :
    before.scene.store.SameSessions after.scene.store ↔
      ¬Event.Leaves (after.worker index).past := by
  have ran := begins.transcript (Alone.onward alone) ends
  rw [occurrence.operation_program settings] at ran
  obtain ⟨outcome, same, ran⟩ := Operation.reporting_calls ran
  have reported : outcome = .ok report := by
    cases outcome with
    | ok found => cases same; rfl
    | error fault => cases same
  have leaves := Occurrence.leavesIfWrote ran (by rw [reported]; exact conflict)
  have start : (begun.worker index).past = [] := by rw [begins.turn.1]
  obtain ⟨moved, still⟩ := Alone.moved_iff alone (reached.step begins.step) start
  rw [begins.same] at moved still
  constructor
  · intro same left
    exact (moved left.wrote).not_same same
  · intro clean
    refine still fun entry member => ?_
    cases wrote : wroteSession entry with
    | false => rfl
    | true =>
        have left := leaves entry (List.mem_reverse.mpr member) wrote
        exact absurd (left.mono fun _ => List.mem_reverse.mp) clean

/-! ### A conflict with and without traces -/

/-- The contact has been asked a question, and the session waits for the reply. -/
def questioned : Workplace Unit :=
  (stocked (shortFlow "org_1" question)).play sampleSettings
    (.order () (.start "org_1" ⟨"flow-0001", "conv_1", none, none, none, []⟩ none) ::
      List.replicate 10 (.go ()))

theorem questioned_reached : Reached questioned := (stocked_reached _).play _

theorem questioned_idle : decide (questioned.worker ()).IsIdle = true := by decide +kernel

/-- Another writer is met. -/
def clash : Cue Unit := .refuse () (.conflict (.activeSession "conv_1"))

def answered (count : Nat) : List (Cue Unit) := List.replicate count (.go ())

theorem clashes_alone (place : Workplace Unit) {cues : List (Cue Unit)}
    (own : cues.all (fun cue => match cue with
      | .go _ | .refuse _ _ => true
      | _ => false) = true) :
    Alone () (fun _ => True) place (place.play sampleSettings cues) := by
  apply alone_cues
  intro cue member
  have kind := List.all_eq_true.mp own cue member
  cases cue with
  | go => exact Or.inl rfl
  | refuse _ fault => exact Or.inr ⟨fault, rfl⟩
  | order | wait => cases kind

/-- The contact replies, and both attempts to store the reply meet another writer. -/
def replying : Workplace Unit := questioned.beginning (.inbound contactReply)

def unheard : Workplace Unit :=
  replying.play sampleSettings (answered 4 ++ clash :: answered 5 ++ clash :: answered 1)

theorem unheard_alone : Alone () (fun _ => True) replying unheard :=
  clashes_alone replying (by decide)

theorem conflict_changes_nothing_unless_left_unheard :
    ∃ report, (unheard.worker ()).Ends (.ok (some report)) ∧ report.status = .conflict ∧
      ¬Event.Leaves (unheard.worker ()).past ∧
      questioned.scene.store.SameSessions unheard.scene.store := by
  have known : (reportOf? (unheard.worker ())).any (fun report =>
      report.status = .conflict) = true := by decide +kernel
  have reads : (unheard.worker ()).past.all (fun entry => !wroteSession entry) = true := by
    decide +kernel
  obtain ⟨report, done, conflict⟩ := (Option.any_eq_true _ _).mp known
  have ends : (unheard.worker ()).Ends (.ok (some report)) := by
    rw [reportOf?_eq_some done]
    rfl
  have clean : ¬Event.Leaves (unheard.worker ()).past := by
    intro leaves
    obtain ⟨entry, member, wrote⟩ := leaves.wrote
    have read := List.all_eq_true.mp reads entry member
    rw [wrote] at read
    cases read
  have begins : Begun questioned replying () sampleSettings
      (Occurrence.run (.inbound contactReply)).operation :=
    beginning_begun questioned questioned_idle (.inbound contactReply)
  have unchanged := (conflict_changes_nothing_unless_left questioned_reached begins unheard_alone
    ends (of_decide_eq_true conflict)).mpr clean
  exact ⟨report, ends, of_decide_eq_true conflict, clean, unchanged⟩

/-- A flow that starts with a word of the contact, and asks a question. -/
def greetedFlow : Flow :=
  { shortFlow "org_1" question with triggerEnabled := true, keywords := ["oi"] }

def greeting : InboundMessage := ⟨"org_1", none, "conv_1", some "oi", "text", none, none⟩

/-- The contact says the word. The first attempt cannot open a session, and the second one cannot
store what it has decided in the session that it has opened. -/
def greeted : Workplace Unit := opened greetedFlow (.inbound greeting)

def abandoned : Workplace Unit :=
  greeted.play sampleSettings (answered 3 ++ clash :: answered 7 ++ clash :: answered 1)

theorem abandoned_alone : Alone () (fun _ => True) greeted abandoned :=
  clashes_alone greeted (by decide)

/-- A message that reports a conflict, with a store that has failed by conflicts only, has left a
session behind that is active and running, where no session was stored before. -/
theorem session_opened_under_conflict :
    Reached (stocked greetedFlow) ∧
    Begun (stocked greetedFlow) greeted () sampleSettings (.inbound greeting) ∧
    Alone () (fun _ => True) greeted abandoned ∧
    (∀ entry ∈ (abandoned.worker ()).past, ∀ fault, entry.reply = .error fault →
      fault.isConflict = true) ∧
    (∃ report, (abandoned.worker ()).Ends (.ok (some report)) ∧ report.status = .conflict) ∧
    (stocked greetedFlow).scene.store.activeSession "conv_1" = none ∧
    ∃ row, abandoned.scene.store.activeSession "conv_1" = some row ∧
      row.id = some "session-0001" ∧ row.status = .running ∧
      (stocked greetedFlow).scene.store.getSession "session-0001" = none := by
  have known : (reportOf? (abandoned.worker ())).any (fun report =>
      report.status = .conflict) = true := by decide +kernel
  have only : (abandoned.worker ()).past.all (fun entry =>
      match entry.reply with
      | .error fault => fault.isConflict
      | .ok _ => true) = true := by decide +kernel
  have row : (abandoned.scene.store.activeSession "conv_1").any (fun session =>
      session.id = some "session-0001" && session.status = .running) = true := by
    decide +kernel
  obtain ⟨report, done, conflict⟩ := (Option.any_eq_true _ _).mp known
  obtain ⟨session, stands, opened⟩ := (Option.any_eq_true _ _).mp row
  simp only [Bool.and_eq_true, decide_eq_true_eq] at opened
  refine ⟨stocked_reached _, opened_begun _ _, abandoned_alone, ?_,
    ⟨report, ?_, of_decide_eq_true conflict⟩, rfl, session, stands, opened.1, opened.2, rfl⟩
  · intro entry member fault failed
    have fits := List.all_eq_true.mp only entry member
    rw [failed] at fits
    exact fits
  · rw [reportOf?_eq_some done]
    rfl

end Workplace

end ChatFlow
