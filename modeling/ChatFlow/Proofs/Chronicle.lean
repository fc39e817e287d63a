import ChatFlow.Proofs.ActiveSessions
import ChatFlow.Proofs.Errands
import ChatFlow.Proofs.Isolation
/-
The chronicle of a workplace: every call that was answered there, whoever made it. By the chronicle
no write over a session is lost. The revision of a stored session counts the writes that went
through, no two of them were made for the same revision, a refused call changes nothing, and a
session that has ended is never written again.
-/

set_option autoImplicit false

namespace ChatFlow

open Program EnginePast

/-! ### Writes in a chronicle -/

/-- The revision for which a session was written over, if that went through. -/
def revisionWritten? (id : String) : Answered Call.Answer → Option Int
  | ⟨.store (.updateSession session expected), .ok _⟩ =>
      if Store.sessionName session = id then some expected else none
  | _ => none

/-- The revisions for which a session was written over, the latest first. -/
def EnginePast.revisions (log : EnginePast) (id : String) : List Int :=
  log.filterMap (revisionWritten? id)

/-- What a store holds agrees with the writes over its sessions. -/
structure Store.Tallies (store : Store) (log : EnginePast) : Prop where
  counted : ∀ {id row}, store.getSession id = some row →
    row.revision = (log.revisions id).length
  earlier : ∀ {id row}, store.getSession id = some row →
    ∀ revision ∈ log.revisions id, revision < row.revision
  missing : ∀ {id}, store.getSession id = none → log.revisions id = []
  distinct : ∀ id, (log.revisions id).Nodup

namespace Store.Tallies

variable {store later : Store} {log : EnginePast} {entry : Answered Call.Answer}

theorem nothing : Store.empty.Tallies [] where
  counted stored := nomatch stored
  earlier stored := nomatch stored
  missing _ := rfl
  distinct _ := List.nodup_nil

/-- An answer that tells of no write, and leaves the sessions as they are. -/
theorem unwritten (tallies : store.Tallies log)
    (silent : ∀ id, revisionWritten? id entry = none)
    (same : ∀ id, later.getSession id = store.getSession id) :
    later.Tallies (entry :: log) := by
  have kept (id : String) : EnginePast.revisions (entry :: log) id = log.revisions id :=
    List.filterMap_cons_none (silent id)
  constructor
  · intro id row stored
    rw [kept]
    exact tallies.counted ((same id).symm.trans stored)
  · intro id row stored
    rw [kept]
    exact tallies.earlier ((same id).symm.trans stored)
  · intro id absent
    rw [kept]
    exact tallies.missing ((same id).symm.trans absent)
  · intro id
    rw [kept]
    exact tallies.distinct id

/-- A session that is new has not been written over. -/
theorem created (tallies : store.Tallies log) (sound : Store.WellFormed store)
    {session stored : Session} (made : Store.Created store session stored later)
    (first : session.revision = 0) :
    later.Tallies (⟨.store (.createSession session), .ok stored⟩ :: log) := by
  have kept (id : String) :
      EnginePast.revisions (⟨.store (.createSession session), .ok stored⟩ :: log) id =
        log.revisions id :=
    List.filterMap_cons_none rfl
  have fresh : log.revisions store.nextSession = [] := tallies.missing sound.nextSession_free
  have zero : stored.revision = 0 := by
    rw [made.row]
    exact first
  constructor
  · intro id row present
    rw [kept]
    rw [made.rows] at present
    split at present
    · next same =>
        cases present
        rw [← same, fresh, zero]
        rfl
    · exact tallies.counted present
  · intro id row present revision member
    rw [kept] at member
    rw [made.rows] at present
    split at present
    · next same =>
        rw [← same, fresh] at member
        cases member
    · exact tallies.earlier present revision member
  · intro id absent
    rw [kept]
    rw [made.rows] at absent
    split at absent
    · cases absent
    · exact tallies.missing absent
  · intro id
    rw [kept]
    exact tallies.distinct id

/-- A write raises the revision for which it was made, which is higher than those of all writes
before. -/
theorem updated (tallies : store.Tallies log) {session stored : Session} {expected : Int}
    {now : Stamp} (done : Store.Updated store session expected now stored later) :
    later.Tallies (⟨.store (.updateSession session expected), .ok stored⟩ :: log) := by
  obtain ⟨current, found, agreed⟩ := done.found
  have raised : stored.revision = expected + 1 := by rw [done.row]
  have own : EnginePast.revisions (⟨.store (.updateSession session expected), .ok stored⟩ :: log)
      (Store.sessionName session) = expected :: log.revisions (Store.sessionName session) :=
    List.filterMap_cons_some (if_pos rfl)
  have other {id : String} (apart : Store.sessionName session ≠ id) :
      EnginePast.revisions (⟨.store (.updateSession session expected), .ok stored⟩ :: log) id =
        log.revisions id :=
    List.filterMap_cons_none (if_neg apart)
  have counted := tallies.counted found
  have below := tallies.earlier found
  rw [agreed] at counted below
  constructor
  · intro id row present
    rw [done.rows] at present
    split at present
    · next same =>
        cases present
        subst same
        rw [own, raised, counted, List.length_cons]
        rfl
    · next apart =>
        rw [other apart]
        exact tallies.counted present
  · intro id row present revision member
    rw [done.rows] at present
    split at present
    · next same =>
        cases present
        subst same
        rw [own] at member
        rw [raised]
        rcases List.mem_cons.mp member with same | before
        · rw [same]
          exact Int.lt_succ expected
        · exact Int.lt_trans (below revision before) (Int.lt_succ expected)
    · next apart =>
        rw [other apart] at member
        exact tallies.earlier present revision member
  · intro id absent
    rw [done.rows] at absent
    split at absent
    · cases absent
    · next apart =>
        rw [other apart]
        exact tallies.missing absent
  · intro id
    by_cases same : Store.sessionName session = id
    · subst same
      rw [own]
      refine List.nodup_cons.mpr ⟨fun member => ?_, tallies.distinct _⟩
      exact Int.lt_irrefl expected (below expected member)
    · rw [other same]
      exact tallies.distinct id

/-- Every warranted call keeps the tally. -/
theorem answered {before after : Scene} {past : EnginePast} {request : Call}
    {reply : Except Fault request.Answer} (tallies : before.store.Tallies log)
    (sound : Store.WellFormed before.store) (warranted : Warranted past request)
    (answers : before.Answers request reply after) :
    after.store.Tallies (⟨request, reply⟩ :: log) := by
  cases request with
  | clock =>
      obtain ⟨_, rfl⟩ := answers
      exact tallies.unwritten (fun _ => rfl) fun _ => rfl
  | complete | http | history | deliver | sleep =>
      cases answers
      exact tallies.unwritten (fun _ => rfl) fun _ => rfl
  | store asked =>
      obtain ⟨stamp, told, rfl⟩ := answers
      cases reply with
      | error fault =>
          have same := Store.answer_error told.symm
          refine tallies.unwritten (fun id => ?_) fun id => congrArg (·.getSession id) same
          cases asked <;> rfl
      | ok value =>
          cases asked with
          | createSession session =>
              have made := Store.createSession_ok (Store.changing_ok told.symm)
              exact tallies.created sound made warranted.2.2
          | updateSession session expected =>
              exact tallies.updated (Store.updateSession_ok (Store.changing_ok told.symm))
          | _ => exact tallies.unwritten (fun _ => rfl) (Store.answer_getSession rfl stamp)

end Store.Tallies

/-! ### Chronicles of workplaces -/

namespace Workplace

variable {ι : Type} {before after place : Workplace ι} {index : ι} {log : EnginePast}
  {entry : Answered Call.Answer}

/-- Every call that was answered or refused since the beginning, the latest first. -/
inductive Chronicle : Workplace ι → EnginePast → Prop where
  | start (time : Stamp) : Chronicle ⟨⟨Store.empty, time⟩, fun _ => Worker.fresh⟩ []
  | quiet {before after : Workplace ι} {log : EnginePast} (chronicle : Chronicle before log)
      (step : Step before after)
      (untold : ∀ index, (after.worker index).past <:+ (before.worker index).past) :
      Chronicle after log
  | told {before after : Workplace ι} {log : EnginePast} {index : ι}
      {entry : Answered Call.Answer} (chronicle : Chronicle before log) (step : Step before after)
      (told : (after.worker index).past = entry :: (before.worker index).past) :
      Chronicle after (entry :: log)

theorem Chronicle.reached (chronicle : Chronicle place log) : Reached place := by
  induction chronicle with
  | start time => exact .start time
  | quiet chronicle step untold ih => exact ih.step step
  | told chronicle step told ih => exact ih.step step

/-- In a step one worker is told something, or none is. -/
theorem Step.tells (step : Step before after) :
    (∀ index, (after.worker index).past <:+ (before.worker index).past) ∨
      ∃ index entry, (after.worker index).past = entry :: (before.worker index).past := by
  cases step with
  | tick later => exact Or.inl fun _ => List.suffix_refl _
  | @begin _ index settings operation idle same turn =>
      refine Or.inl fun other => ?_
      by_cases own : other = index
      · subst own
        rw [turn.1]
        exact List.nil_suffix
      · have same : (after.worker other).past = (before.worker other).past := by
          rw [turn.2 other own]
        exact same ▸ List.suffix_refl _
  | @answer _ index past request next reply calls answers turn =>
      exact Or.inr ⟨index, ⟨request, reply⟩, by rw [turn.1, calls]⟩
  | @refuse _ index past request next fault calls same turn =>
      exact Or.inr ⟨index, ⟨.store request, .error fault⟩, by rw [turn.1, calls]⟩

/-- A step in which a worker is told something adds it to the chronicle; the others add nothing. -/
theorem Step.chronicle (step : Step before after) (chronicle : Chronicle before log) :
    ∃ later, Chronicle after later := by
  rcases step.tells with untold | ⟨index, entry, told⟩
  · exact ⟨log, chronicle.quiet step untold⟩
  · exact ⟨entry :: log, chronicle.told step told⟩

theorem Reached.chronicle (reached : Reached place) : ∃ log, Chronicle place log := by
  induction reached with
  | start time => exact ⟨[], .start time⟩
  | step reached step ih =>
      obtain ⟨log, chronicle⟩ := ih
      exact step.chronicle chronicle

/-- What a worker is told is the answer to the call that it makes, or the refusal of the store. -/
theorem Step.told_call (step : Step before after)
    (told : (after.worker index).past = entry :: (before.worker index).past) :
    ∃ next, before.worker index = ⟨(before.worker index).past, .call entry.request next⟩ ∧
      (before.scene.Answers entry.request entry.reply after.scene ∧
          Turn before after index ⟨entry :: (before.worker index).past, next entry.reply⟩ ∨
        (∃ request fault, entry = ⟨.store request, .error fault⟩) ∧ after.scene = before.scene) := by
  cases step with
  | tick later => exact absurd told.symm (List.cons_ne_self _ _)
  | @begin _ mover settings operation idle same turn =>
      by_cases own : index = mover
      · subst own
        rw [turn.1] at told
        cases told
      · rw [turn.2 index own] at told
        exact absurd told.symm (List.cons_ne_self _ _)
  | @answer _ mover past request next reply calls answers turn =>
      by_cases own : index = mover
      · subst own
        rw [turn.1, calls] at told
        cases told
        exact ⟨next, by rw [calls], Or.inl ⟨answers, by rw [calls]; exact turn⟩⟩
      · rw [turn.2 index own] at told
        exact absurd told.symm (List.cons_ne_self _ _)
  | @refuse _ mover past request next fault calls same turn =>
      by_cases own : index = mover
      · subst own
        rw [turn.1, calls] at told
        cases told
        exact ⟨next, by rw [calls], Or.inr ⟨⟨request, fault, rfl⟩, same⟩⟩
      · rw [turn.2 index own] at told
        exact absurd told.symm (List.cons_ne_self _ _)

/-- Where a worker is told something, its call was answered, or the store refused it. -/
theorem Step.told_cases (step : Step before after) (mannered : Mannered before)
    (told : (after.worker index).past = entry :: (before.worker index).past) :
    Answering before after index (before.worker index).past entry.request entry.reply ∨
      (∃ request fault, entry = ⟨.store request, .error fault⟩) ∧ after.scene = before.scene := by
  obtain ⟨next, calls, ⟨answers, turn⟩ | refused⟩ := step.told_call told
  · exact Or.inl (mannered.answering calls answers turn)
  · exact Or.inr refused

theorem Step.untold_store (step : Step before after)
    (untold : ∀ index, (after.worker index).past <:+ (before.worker index).past) :
    after.scene.store = before.scene.store := by
  cases step with
  | tick later => rfl
  | begin settings operation idle same turn => rw [same]
  | refuse calls same turn => rw [same]
  | @answer _ index past request next reply calls answers turn =>
      have shorter := (untold index).length_le
      rw [turn.1, calls, List.length_cons] at shorter
      exact absurd shorter (Nat.not_succ_le_self _)

theorem Chronicle.tallies (chronicle : Chronicle place log) : place.scene.store.Tallies log := by
  induction chronicle with
  | start time => exact .nothing
  | quiet chronicle step untold ih =>
      rw [step.untold_store untold]
      exact ih
  | told chronicle step told ih =>
      have reached := chronicle.reached
      rcases step.told_cases reached.mannered told with
        answering | ⟨⟨request, fault, rfl⟩, same⟩
      · exact ih.answered reached.informed.shape answering.warranted answering.answers
      · rw [same]
        refine ih.unwritten (fun id => ?_) fun _ => rfl
        cases request <;> rfl

/-- A call that is told to have failed has changed nothing. -/
theorem Step.refused (step : Step before after) (reached : Reached before) {request : StoreCall}
    {fault : Fault}
    (told : (after.worker index).past =
      ⟨.store request, .error fault⟩ :: (before.worker index).past) :
    after.scene = before.scene := by
  rcases step.told_cases reached.mannered told with answering | ⟨_, same⟩
  · obtain ⟨stamp, refusal, same⟩ := answering.answers
    rw [same, Store.answer_error refusal.symm]
  · exact same

/-- A session that has ended is never written again. -/
theorem Steps.final (steps : Steps place after) (reached : Reached place) {id : String}
    {row : Session} (stands : place.scene.store.getSession id = some row)
    (ended : row.isActive = false) : after.scene.store.getSession id = some row := by
  obtain ⟨later, present, change⟩ := (steps.evolves reached).rows stands
  rcases change with rfl | ⟨active, _⟩
  · exact present
  · rw [ended] at active
    cases active

/-- However the calls of many workers follow upon each other, the revision of every session is the
number of the writes over it, which were made for different revisions; a refused call changes
nothing, and a session that has ended stays as it is. -/
theorem no_session_write_lost (reached : Reached place) :
    (∃ log, Chronicle place log) ∧
    (∀ log, Chronicle place log →
      (∀ id row, place.scene.store.getSession id = some row →
        row.revision = (log.revisions id).length) ∧
      (∀ id, place.scene.store.getSession id = none → log.revisions id = []) ∧
      ∀ id, (log.revisions id).Nodup) ∧
    (∀ after index request fault, Step place after →
      (after.worker index).past = ⟨.store request, .error fault⟩ :: (place.worker index).past →
      after.scene = place.scene) ∧
    ∀ after id row, Steps place after → place.scene.store.getSession id = some row →
      row.isActive = false → after.scene.store.getSession id = some row := by
  refine ⟨reached.chronicle, ?_, ?_, ?_⟩
  · intro log chronicle
    have tallies := chronicle.tallies
    exact ⟨fun _ _ stands => tallies.counted stands, fun _ absent => tallies.missing absent,
      tallies.distinct⟩
  · intro after index request fault step told
    exact step.refused reached told
  · intro after id row steps stands ended
    exact steps.final reached stands ended

/-! ### Two workers at one session -/

/-- Whether the store would turn down a write. -/
def rejects (scene : Scene) (write : Session × Int) : Bool :=
  match scene.store.updateSession write.1 write.2 scene.time with
  | .error _ => true
  | .ok _ => false

theorem rejected_write [DecidableEq ι] (settings : EngineSettings)
    (rejected : (writing? (place.worker index)).any (rejects place.scene) = true) :
    Step place (place.act settings (.go index)) ∧ ∃ request fault,
      ((place.act settings (.go index)).worker index).past =
        ⟨.store request, .error fault⟩ :: (place.worker index).past := by
  obtain ⟨⟨session, expected⟩, writes, rejected⟩ := (Option.any_eq_true _ _).mp rejected
  obtain ⟨past, next, calls⟩ := writing?_eq_some writes
  obtain ⟨fault, refusal⟩ :
      ∃ fault, (place.scene.respond (.store (.updateSession session expected))).1 =
        .error fault := by
    unfold rejects at rejected
    dsimp only at rejected
    split at rejected
    · next fault refusal => exact ⟨fault, congrArg (fun result => (Store.changing _ result).1) refusal⟩
    · cases rejected
  have turn := place.set_turn (place.scene.respond (.store (.updateSession session expected))).2
    index ⟨⟨.store (.updateSession session expected), .error fault⟩ :: past, next (.error fault)⟩
  rw [act_go settings calls, calls, refusal]
  refine ⟨.answer calls ?_ turn, _, fault, by rw [turn.1]⟩
  rw [← refusal]
  exact place.scene.answers_respond _

/-- Two workers have read the same waiting session, and one of them has ended it. -/
def racing : Workplace Bool :=
  (emptyPlace Bool).play sampleSettings
    ([.order true (.install (shortFlow "org_1" question)), .go true,
      .order true (.start "org_1" ⟨"flow-0001", "conv_1", none, none, none, []⟩ none)] ++
      List.replicate 10 (.go true) ++
      [.order true (.inbound contactReply), .order false (.inbound contactReply),
        .go true, .go false] ++
      List.replicate 6 (.go true) ++ List.replicate 3 (.go false))

/-- The other one has tried to write it as well. -/
def outrun : Workplace Bool := racing.act sampleSettings (.go false)

theorem racing_reached : Reached racing := Reached.play (.start default) _

theorem no_session_write_lost_racing : ∃ log row,
    Chronicle racing log ∧ racing.scene.store.getSession "session-0001" = some row ∧
      row.isActive = false ∧ row.revision = 2 ∧ (log.revisions "session-0001").length = 2 ∧
      (log.revisions "session-0001").Nodup ∧ Step racing outrun ∧
      outrun.scene = racing.scene ∧ outrun.scene.store.getSession "session-0001" = some row := by
  have known : (racing.scene.store.getSession "session-0001").any (fun row =>
      !row.isActive && row.revision = 2) = true := by decide +kernel
  have rejected : (writing? (racing.worker false)).any (rejects racing.scene) = true := by
    decide +kernel
  obtain ⟨row, stands, known⟩ := (Option.any_eq_true _ _).mp known
  simp only [Bool.and_eq_true, Bool.not_eq_true', decide_eq_true_eq] at known
  obtain ⟨step, request, fault, told⟩ := rejected_write sampleSettings rejected
  obtain ⟨⟨log, chronicle⟩, agrees, refuses, final⟩ := no_session_write_lost racing_reached
  obtain ⟨counted, _, distinct⟩ := agrees log chronicle
  have two := (counted "session-0001" row stands).symm.trans known.2
  have still := refuses _ false request fault step told
  have stays := final _ "session-0001" row (.single step) stands known.1
  unfold outrun
  exact ⟨log, row, chronicle, stands, known.1, known.2, Int.ofNat.inj two, distinct _, step,
    still, stays⟩

end Workplace

end ChatFlow
