import Mathlib.Data.List.Nodup
import ChatFlow.Engine.Timer
import ChatFlow.Proofs.JobMarks
import ChatFlow.Proofs.LoneEvents
import ChatFlow.Proofs.Suspension
/-
Polls. Every job that is due is resumed once, the earliest first, and is marked unless this fails or
meets another writer. What becomes of one job makes no difference to the others: neither to whether and
when they are resumed, nor to whether they are marked.
-/

set_option autoImplicit false

namespace ChatFlow

open Program

/-! ### Due jobs in order -/

/-- A timer job is still to be handled, and its time has come. -/
def Delay.isDue (now : Stamp) (job : Delay) : Bool :=
  !job.processed && now.before? job.resumeAt == some false

def Store.due (now : Stamp) (store : Store) : List Delay :=
  (store.delays.map Prod.snd).filter (Delay.isDue now)

/-- The time of a job on its clock. -/
def Delay.time (job : Delay) : Int := job.resumeAt.position

/-- Jobs are listed by their times, the earliest first; those of one time stand as they are given. -/
structure InOrder (given listed : List Delay) : Prop where
  perm : listed.Perm given
  ordered : listed.Pairwise fun first second => second.resumeAt.NotBefore first.resumeAt
  ties : ∀ time, listed.filter (fun job => job.time = time) = given.filter fun job => job.time = time

section

variable {α : Type} (key : α → Int)

def noLaterBy (first second : α) : Bool := decide (key first ≤ key second)

theorem noLaterBy_trans (first middle last : α) (lower : noLaterBy key first middle = true)
    (upper : noLaterBy key middle last = true) : noLaterBy key first last = true := by
  simp only [noLaterBy, decide_eq_true_eq] at *
  omega

theorem noLaterBy_total (first second : α) :
    (noLaterBy key first second || noLaterBy key second first) = true := by
  simp only [noLaterBy, Bool.or_eq_true, decide_eq_true_eq]
  omega

/-- A stable sort keeps the order of the items of one key. -/
theorem filter_mergeSort (items : List α) (value : Int) :
    (items.mergeSort (noLaterBy key)).filter (fun item => key item = value) =
      items.filter fun item => key item = value := by
  have level : (items.filter fun item => key item = value).Pairwise
      fun first second => noLaterBy key first second = true := by
    apply List.pairwise_of_forall_mem_list
    intro first member second present
    have here := of_decide_eq_true (List.mem_filter.mp member).2
    have there := of_decide_eq_true (List.mem_filter.mp present).2
    exact decide_eq_true (by omega)
  have within := (List.sublist_mergeSort (noLaterBy_trans key) (noLaterBy_total key) level
    List.filter_sublist).filter fun item => decide (key item = value)
  rw [List.filter_filter] at within
  simp only [Bool.and_self] at within
  have many := (List.mergeSort_perm items (noLaterBy key)).filter fun item => decide (key item = value)
  exact (within.eq_of_length many.length_eq.symm).symm

end

namespace Store

variable {store later : Store} {now : Stamp}

/-- Jobs that wait by the clock of a poll are listed, those that are due in order. -/
theorem pendingDelays_inOrder
    (oneClock : ∀ job ∈ store.delays.map Prod.snd, job.processed = false →
      now.offset.isSome = job.resumeAt.offset.isSome) :
    ∃ jobs, store.pendingDelays now = .ok jobs ∧ InOrder (store.due now) jobs := by
  have waits (job : Delay)
      (member : job ∈ (store.delays.map Prod.snd).filter fun job => !job.processed) :
      now.offset.isSome = job.resumeAt.offset.isSome := by
    obtain ⟨stored, open_⟩ := List.mem_filter.mp member
    exact oneClock job stored (by simpa using open_)
  have kinds (job : Delay) (member : job ∈ store.due now) :
      now.offset.isSome = job.resumeAt.offset.isSome := by
    obtain ⟨stored, due⟩ := List.mem_filter.mp member
    exact oneClock job stored (by simpa using (Bool.and_eq_true_iff.mp due).1)
  have listed : ((store.delays.map Prod.snd).filter fun job => !job.processed).filter
      (fun job => noLater job.resumeAt now) = store.due now := by
    unfold due
    rw [List.filter_filter]
    apply List.filter_congr
    intro job member
    unfold Delay.isDue
    cases open_ : job.processed with
    | true => simp
    | false =>
        have order := Stamp.before?_eq now job.resumeAt
        rw [if_pos (oneClock job member open_)] at order
        unfold noLater
        rw [order]
        cases decide (now.position < job.resumeAt.position) <;> rfl
  have first : areComparable (now :: ((store.delays.map Prod.snd).filter fun job =>
      !job.processed).map Delay.resumeAt) = true := by
    apply @areComparable_of_sameKind now
    intro stamp member
    rcases List.mem_cons.mp member with rfl | member
    · rfl
    · obtain ⟨job, present, rfl⟩ := List.mem_map.mp member
      exact waits job present
  have second : areComparable ((store.due now).map Delay.resumeAt) = true :=
    areComparable_iff.mpr fun job member other present =>
      (kinds job member).symm.trans (kinds other present)
  have byTime := @List.map_mergeSort _ _
    (fun job other : Delay => noLater job.resumeAt other.resumeAt)
    (noLaterBy Delay.time) id (store.due now)
    fun job member other present => noLater_eq ((kinds other present).symm.trans (kinds job member))
  rw [List.map_id, List.map_id] at byTime
  refine ⟨(store.due now).mergeSort (noLaterBy Delay.time),
    ?_, ?_, ?_, filter_mergeSort _ (store.due now)⟩
  · unfold pendingDelays sortByStamp
    dsimp only
    rw [if_pos first, listed, if_pos second, byTime]
  · exact List.mergeSort_perm _ _
  · refine (List.pairwise_mergeSort (noLaterBy_trans _) (noLaterBy_total _) _).imp_of_mem ?_
    intro job other member present before
    have place := List.mem_mergeSort.mp member
    have there := List.mem_mergeSort.mp present
    have before : job.resumeAt.position ≤ other.resumeAt.position := of_decide_eq_true before
    unfold Stamp.NotBefore
    rw [Stamp.before?_eq, if_pos ((kinds other there).symm.trans (kinds job place))]
    exact congrArg some (decide_eq_false (by omega))

end Store

/-! ### Polls with any way to resume -/

instance (result : Except Fault EventReport) : Decidable (Event.Fruitless result) :=
  match result with
  | .ok report => inferInstanceAs (Decidable (report.status = .conflict))
  | .error _ => isTrue trivial

namespace Timer

/-- Handles a job as `handle` does, with some way to resume its session. -/
def handleBy (resume : Delay → Engine EventReport) (job : Delay) : Engine Bool := do
  let report ← resume job
  if report.status = .conflict then return false
  else
    discard (Engine.store (.markDelay (job.id.getD "None")))
    return true

def handleEachBy (resume : Delay → Engine EventReport) : List Delay → Engine Nat
  | [] => return 0
  | job :: rest => do
      let handled ← Program.outcome (handleBy resume job)
      let others ← handleEachBy resume rest
      match handled with
      | .ok true => return others + 1
      | _ => return others

def pollBy (resume : Delay → Engine EventReport) : Engine Nat := do
  let now ← Engine.now
  handleEachBy resume (← Engine.store (.pendingDelays now))

/-- Who resumes the sessions of a poll: the engine, or someone whose reports and failures are given
beforehand for each job. -/
inductive Resumer where
  | engine (settings : EngineSettings)
  | foretold (fate : Delay → Except Fault EventReport)

namespace Resumer

def resume : Resumer → Delay → Engine EventReport
  | .engine settings, job => Event.resume settings job.conversation job.session job.node
  | .foretold fate, job => Program.ofExcept (fate job)

/-- A poll whose jobs are resumed by the one who is given. -/
def poll : Resumer → Engine Nat
  | .engine settings => Timer.poll settings
  | .foretold fate => pollBy (foretold fate).resume

theorem handleEach_eq (settings : EngineSettings) (jobs : List Delay) :
    handleEach settings jobs = handleEachBy (engine settings).resume jobs := by
  induction jobs with
  | nil => rfl
  | cons job rest ih =>
      unfold handleEach handleEachBy
      rw [ih]
      rfl

theorem poll_eq (resumer : Resumer) : resumer.poll = pollBy resumer.resume := by
  cases resumer with
  | engine settings =>
      have same : handleEach settings = handleEachBy (engine settings).resume :=
        funext (handleEach_eq settings)
      show Engine.now >>= (fun now => Engine.store (.pendingDelays now) >>= handleEach settings) = _
      rw [same]
      rfl
  | foretold fate => rfl

theorem marksOwn {resumer : Resumer} {job : Delay} {calls : List (Answered Call.Answer)}
    {outcome : Except Fault EventReport} (ran : Transcript (resumer.resume job) calls outcome) :
    Event.MarksOwn job.session calls outcome := by
  cases resumer with
  | engine settings => exact Event.resume_marksOwn ran
  | foretold fate =>
      obtain ⟨rfl, _⟩ := Transcript.of_ofExcept ran
      exact MarksNone.only fun _ member => nomatch member

end Resumer

/-! ### The course of a poll -/

/-- An attempt at a job: what came of resuming its session, and the calls that were made for it. -/
structure Attempt where
  job : Delay
  outcome : Except Fault EventReport
  calls : List (Answered Call.Answer)

namespace Attempt

/-- The name under which the job of an attempt is marked. -/
def name (attempt : Attempt) : String := attempt.job.id.getD "None"

/-- An attempt has come to something: neither has it failed nor has it met another writer. -/
def Succeeds (attempt : Attempt) : Prop := ¬Event.Fruitless attempt.outcome

instance (attempt : Attempt) : Decidable attempt.Succeeds :=
  inferInstanceAs (Decidable (¬Event.Fruitless attempt.outcome))

end Attempt

/-- Attempts have been made one after the other, each followed by the mark of its job if it has
succeeded. -/
inductive Handles (resumer : Resumer) : List Attempt → List (Answered Call.Answer) → Prop where
  | nil : Handles resumer [] []
  | left {attempt : Attempt} {attempts : List Attempt} {rest : List (Answered Call.Answer)}
      (ran : Transcript (resumer.resume attempt.job) attempt.calls attempt.outcome)
      (fails : ¬attempt.Succeeds) (others : Handles resumer attempts rest) :
      Handles resumer (attempt :: attempts) (attempt.calls ++ rest)
  | marked {attempt : Attempt} {attempts : List Attempt} {rest : List (Answered Call.Answer)}
      (ran : Transcript (resumer.resume attempt.job) attempt.calls attempt.outcome)
      (succeeds : attempt.Succeeds) (open_ : Bool) (others : Handles resumer attempts rest) :
      Handles resumer (attempt :: attempts)
        (attempt.calls ++ ⟨.store (.markDelay attempt.name), .ok open_⟩ :: rest)

section

variable {resumer : Resumer} {calls : List (Answered Call.Answer)} {attempts : List Attempt}

theorem handleBy_calls {job : Delay} {handled : Except Fault Bool}
    (ran : Transcript (handleBy resumer.resume job) calls handled)
    (marks : ∀ name fault, ⟨.store (.markDelay name), .error fault⟩ ∉ calls) :
    ∃ attempt : Attempt, attempt.job = job ∧
      Transcript (resumer.resume job) attempt.calls attempt.outcome ∧
      (¬attempt.Succeeds ∧ calls = attempt.calls ∧ handled ≠ .ok true ∨
        attempt.Succeeds ∧ handled = .ok true ∧ ∃ open_,
          calls = attempt.calls ++ [⟨.store (.markDelay attempt.name), .ok open_⟩]) := by
  rcases Transcript.of_bind ran with ⟨report, earlier, later, rfl, resumed, rest⟩ | ⟨fault, resumed, rfl⟩
  · refine ⟨⟨job, .ok report, earlier⟩, rfl, resumed, ?_⟩
    split at rest
    · next conflict =>
        obtain ⟨rfl, rfl⟩ := Transcript.of_done rest
        exact Or.inl ⟨fun succeeds => succeeds conflict, List.append_nil earlier, nofun⟩
    · next other =>
        rcases stored_first rest with ⟨open_, last, rfl, ended⟩ | ⟨fault, rfl, rfl⟩
        · obtain ⟨rfl, rfl⟩ := Transcript.of_done ended
          exact Or.inr ⟨other, rfl, open_, rfl⟩
        · exact absurd (List.mem_append_right earlier List.mem_cons_self) (marks _ fault)
  · exact ⟨⟨job, .error fault, calls⟩, rfl, resumed,
      Or.inl ⟨fun succeeds => succeeds trivial, rfl, nofun⟩⟩

/-- Every job is attempted once and in turn, and those that succeed are counted; nothing fails. -/
theorem handleEachBy_handles {jobs : List Delay} {result : Except Fault Nat}
    (ran : Transcript (handleEachBy resumer.resume jobs) calls result)
    (marks : ∀ name fault, ⟨.store (.markDelay name), .error fault⟩ ∉ calls) :
    ∃ attempts, attempts.map Attempt.job = jobs ∧ Handles resumer attempts calls ∧
      result = .ok (attempts.countP fun attempt => attempt.Succeeds) := by
  induction jobs generalizing calls result with
  | nil =>
      obtain ⟨rfl, rfl⟩ := Transcript.of_done ran
      exact ⟨[], rfl, .nil, rfl⟩
  | cons job rest ih =>
      rcases Transcript.of_bind ran with ⟨handled, earlier, later, rfl, tried, going⟩ | ⟨_, tried, _⟩
      · obtain ⟨inner, same, tried⟩ := Transcript.of_outcome tried
        cases same
        obtain ⟨attempt, rfl, resumed, course⟩ := handleBy_calls tried fun name fault member =>
          marks name fault (List.mem_append_left later member)
        have spared (name : String) (fault : Fault) :
            ⟨.store (.markDelay name), .error fault⟩ ∉ later := fun member =>
          marks name fault (List.mem_append_right earlier member)
        rcases Transcript.of_bind going with ⟨count, middle, last, rfl, others, ended⟩ |
          ⟨fault, others, _⟩
        · obtain ⟨attempts, rfl, handles, counted⟩ := ih others fun name fault member =>
            spared name fault (List.mem_append_left last member)
          cases counted
          refine ⟨attempt :: attempts, rfl, ?_⟩
          rcases course with ⟨fails, rfl, unhandled⟩ | ⟨succeeds, rfl, open_, rfl⟩
          · have done : last = [] ∧ result = .ok (attempts.countP fun attempt => attempt.Succeeds) := by
              split at ended
              · exact absurd rfl unhandled
              · exact Transcript.of_done ended
            obtain ⟨rfl, rfl⟩ := done
            rw [List.append_nil, List.countP_cons_of_neg (by simpa using fails)]
            exact ⟨.left resumed fails handles, rfl⟩
          · obtain ⟨rfl, rfl⟩ := Transcript.of_done ended
            rw [List.append_nil, List.countP_cons_of_pos (by simpa using succeeds), List.append_assoc]
            exact ⟨.marked resumed succeeds open_ handles, rfl⟩
        · obtain ⟨_, _, _, counted⟩ := ih others spared
          cases counted
      · obtain ⟨_, same, _⟩ := Transcript.of_outcome tried
        cases same

namespace Handles

/-- Every call is one of an attempt, or marks the job of one that has succeeded. -/
theorem entry (handles : Handles resumer attempts calls) {entry : Answered Call.Answer}
    (member : entry ∈ calls) :
    ∃ attempt ∈ attempts, entry ∈ attempt.calls ∨
      attempt.Succeeds ∧ ∃ open_, entry = ⟨.store (.markDelay attempt.name), .ok open_⟩ := by
  induction handles with
  | nil => cases member
  | @left attempt _ _ ran fails others ih =>
      rcases List.mem_append.mp member with own | later
      · exact ⟨attempt, List.mem_cons_self, Or.inl own⟩
      · obtain ⟨other, present, known⟩ := ih later
        exact ⟨other, List.mem_cons_of_mem _ present, known⟩
  | @marked attempt _ _ ran succeeds open_ others ih =>
      rcases List.mem_append.mp member with own | later
      · exact ⟨attempt, List.mem_cons_self, Or.inl own⟩
      · rcases List.mem_cons.mp later with mark | later
        · exact ⟨attempt, List.mem_cons_self, Or.inr ⟨succeeds, open_, mark⟩⟩
        · obtain ⟨other, present, known⟩ := ih later
          exact ⟨other, List.mem_cons_of_mem _ present, known⟩

theorem attempt (handles : Handles resumer attempts calls) {attempt : Attempt}
    (member : attempt ∈ attempts) :
    Transcript (resumer.resume attempt.job) attempt.calls attempt.outcome ∧
      (∀ entry ∈ attempt.calls, entry ∈ calls) ∧
      (attempt.Succeeds → ∃ open_, ⟨.store (.markDelay attempt.name), .ok open_⟩ ∈ calls) := by
  induction handles with
  | nil => cases member
  | left ran fails others ih =>
      rcases List.mem_cons.mp member with rfl | later
      · exact ⟨ran, fun _ => List.mem_append_left _, fun succeeds => absurd succeeds fails⟩
      · obtain ⟨known, within, marks⟩ := ih later
        refine ⟨known, fun entry own => List.mem_append_right _ (within entry own), fun succeeds => ?_⟩
        obtain ⟨open_, told⟩ := marks succeeds
        exact ⟨open_, List.mem_append_right _ told⟩
  | marked ran succeeds open_ others ih =>
      rcases List.mem_cons.mp member with rfl | later
      · refine ⟨ran, fun _ => List.mem_append_left _, fun _ => ⟨open_, ?_⟩⟩
        exact List.mem_append_right _ List.mem_cons_self
      · obtain ⟨known, within, marks⟩ := ih later
        refine ⟨known, fun entry own => ?_, fun succeeds => ?_⟩
        · exact List.mem_append_right _ (List.mem_cons_of_mem _ (within entry own))
        · obtain ⟨open_, told⟩ := marks succeeds
          exact ⟨open_, List.mem_append_right _ (List.mem_cons_of_mem _ told)⟩

/-- A job is marked after its own attempt only, or in an attempt at a job of its session; either
attempt has succeeded. -/
theorem marksJob (handles : Handles resumer attempts calls) {store later : Store}
    (serves : store.Serves calls later) (named : store.Named) {name session : String}
    {entry : Answered Call.Answer} (member : entry ∈ calls) (marks : MarksJob name session entry) :
    ∃ attempt ∈ attempts, attempt.Succeeds ∧ (attempt.name = name ∨ attempt.job.session = session ∧
      ∃ count, ⟨.store (.markSessionDelays (some session)), .ok count⟩ ∈ attempt.calls) := by
  obtain ⟨attempt, present, own | ⟨succeeds, open_, rfl⟩⟩ := handles.entry member
  · obtain ⟨ran, within, _⟩ := handles.attempt present
    have owner := Resumer.marksOwn ran
    unfold MarksJob at marks
    split at marks
    · exact absurd own (owner.single _ _)
    · next id count =>
        obtain ⟨same, succeeds⟩ := Event.MarksOwn.session owner within serves named own
        rw [marks] at own same
        exact ⟨attempt, present, succeeds, Or.inr ⟨(Option.some.inj same).symm, count, own⟩⟩
    · exact marks.elim
  · exact ⟨attempt, present, succeeds, Or.inl marks⟩

end Handles

end

/-! ### Independence -/

/-- What a poll has done: it has attempted the jobs that were due, and told how many attempts have
succeeded. The jobs of the others are left as they were; so are those that were not due, unless an
attempt has ended their session. -/
structure Polled (resumer : Resumer) (now : Stamp) (store later : Store)
    (calls : List (Answered Call.Answer)) (result : Except Fault Nat) (attempts : List Attempt) :
    Prop where
  listed : InOrder (store.due now) (attempts.map Attempt.job)
  handled : ∃ handling, calls =
      ⟨.store (.pendingDelays now), .ok (attempts.map Attempt.job)⟩ :: handling ∧
    Handles resumer attempts handling
  counted : result = .ok (attempts.countP fun attempt => attempt.Succeeds)
  stored : ∀ attempt ∈ attempts, Table.lookup? attempt.name store.delays = some attempt.job
  left : ∀ attempt ∈ attempts, ¬attempt.Succeeds →
    Table.lookup? attempt.name later.delays = some attempt.job
  marked : ∀ attempt ∈ attempts, attempt.Succeeds →
    ∃ row, Table.lookup? attempt.name later.delays = some row ∧ row.processed = true
  undue : ∀ name row, Table.lookup? name store.delays = some row → row.isDue now = false →
    Table.lookup? name later.delays = some row ∨
      ∃ attempt ∈ attempts, attempt.Succeeds ∧ attempt.job.session = row.session ∧
        ∃ count, ⟨.store (.markSessionDelays (some row.session)), .ok count⟩ ∈ attempt.calls

section

variable {resumer : Resumer} {now : Stamp} {store later : Store} {attempts : List Attempt}
  {calls : List (Answered Call.Answer)}

theorem stored_of_due (sound : store.WellFormed) {job : Delay} (due : job ∈ store.due now) :
    ∃ name, job.id = some name ∧ Table.lookup? name store.delays = some job := by
  obtain ⟨member, _⟩ := List.mem_filter.mp due
  obtain ⟨⟨name, row⟩, present, rfl⟩ := List.mem_map.mp member
  have stands := Table.lookup?_of_mem sound.delaysDistinct present
  exact ⟨name, sound.delayNamed stands, stands⟩

theorem lookup?_attempt (sound : store.WellFormed)
    (perm : (attempts.map Attempt.job).Perm (store.due now)) {attempt : Attempt}
    (member : attempt ∈ attempts) :
    Table.lookup? attempt.name store.delays = some attempt.job := by
  have due := perm.mem_iff.mp (List.mem_map_of_mem (f := Attempt.job) member)
  obtain ⟨name, named, stands⟩ := stored_of_due sound due
  unfold Attempt.name
  rw [named]
  exact stands

/-- What has become of the row of any job after the attempts. -/
theorem kept_after (sound : store.WellFormed) (serves : store.Serves calls later) {name : String}
    {row : Delay} (stands : Table.lookup? name store.delays = some row) :
    ∃ last, Table.lookup? name later.delays = some last ∧ Store.Kept name calls row last :=
  serves.kept (sound.delayNumbered stands) stands

/-- Jobs of different sessions are not marked for one another. -/
theorem Handles.left_alone (handles : Handles resumer attempts calls) (sound : store.WellFormed)
    (serves : store.Serves calls later) (perm : (attempts.map Attempt.job).Perm (store.due now))
    (apart : ((store.due now).map Delay.session).Nodup) {attempt : Attempt}
    (member : attempt ∈ attempts) (fails : ¬attempt.Succeeds) :
    Table.lookup? attempt.name later.delays = some attempt.job := by
  have stands := lookup?_attempt sound perm member
  obtain ⟨last, found, kept⟩ := kept_after sound serves stands
  have distinct : (attempts.map fun attempt => attempt.job.session).Nodup := by
    have sessions := (perm.map Delay.session).nodup_iff.mpr apart
    rwa [List.map_map] at sessions
  have spared : ∀ entry ∈ calls, ¬MarksJob attempt.name attempt.job.session entry := by
    intro entry present marks
    obtain ⟨other, among, succeeds, cause⟩ := handles.marksJob serves sound.named present marks
    have same : other.job.session = attempt.job.session := by
      rcases cause with named | ⟨owner, _⟩
      · have row := lookup?_attempt sound perm among
        rw [named, stands] at row
        rw [Option.some.inj row]
      · exact owner
    rw [List.inj_on_of_nodup_map distinct among member same] at succeeds
    exact fails succeeds
  rw [kept.unmarked spared] at found
  exact found

theorem Handles.undue_alone (handles : Handles resumer attempts calls) (sound : store.WellFormed)
    (serves : store.Serves calls later) (perm : (attempts.map Attempt.job).Perm (store.due now))
    {name : String} {row : Delay} (stands : Table.lookup? name store.delays = some row)
    (early : row.isDue now = false) :
    Table.lookup? name later.delays = some row ∨
      ∃ attempt ∈ attempts, attempt.Succeeds ∧ attempt.job.session = row.session ∧
        ∃ count, ⟨.store (.markSessionDelays (some row.session)), .ok count⟩ ∈ attempt.calls := by
  obtain ⟨last, found, kept⟩ := kept_after sound serves stands
  by_cases spared : ∀ entry ∈ calls, ¬MarksJob name row.session entry
  · rw [kept.unmarked spared] at found
    exact Or.inl found
  · simp only [not_forall, not_not] at spared
    obtain ⟨entry, present, marks⟩ := spared
    obtain ⟨attempt, among, succeeds, named | owner⟩ :=
      handles.marksJob serves sound.named present marks
    · -- a job that was marked after its own attempt was due
      have same := lookup?_attempt sound perm among
      rw [named, stands] at same
      cases same
      have due := perm.mem_iff.mp (List.mem_map_of_mem (f := Attempt.job) among)
      rw [(List.mem_filter.mp due).2] at early
      cases early
    · exact Or.inr ⟨attempt, among, succeeds, owner⟩

end

/-- A poll handles its jobs independently of one another, whatever comes of resuming their sessions and
whatever else the store refuses meanwhile: each job that is due is attempted once, in the order of their
times; the jobs that stay unmarked are those whose attempts have failed or met another writer, the others
are counted, and the poll does not fail. Where resuming a session touches no jobs itself, those that are
not due stay as they are. -/
theorem due_jobs_handled_independently {resumer : Resumer} {now : Stamp} {store later : Store}
    {calls : List (Answered Call.Answer)} {result : Except Fault Nat} (sound : store.WellFormed)
    (oneClock : ∀ job ∈ store.delays.map Prod.snd, job.processed = false →
      now.offset.isSome = job.resumeAt.offset.isSome)
    (apart : ((store.due now).map Delay.session).Nodup)
    (serves : store.Serves (⟨.clock, .ok now⟩ :: calls) later)
    (ran : Transcript resumer.poll (⟨.clock, .ok now⟩ :: calls) result) :
    ∃ attempts, Polled resumer now store later calls result attempts ∧
      ∀ fate, resumer = .foretold fate →
        (∀ attempt ∈ attempts, attempt.outcome = fate attempt.job) ∧
        ∀ name row, Table.lookup? name store.delays = some row → row.isDue now = false →
          Table.lookup? name later.delays = some row := by
  have serving : store.Serves calls later := by
    cases serves with
    | clocked _ rest => exact rest
    | served service _ rest => cases service
  obtain ⟨jobs, listing, order⟩ := store.pendingDelays_inOrder oneClock
  rw [Resumer.poll_eq] at ran
  rcases now_first ran with ⟨time, following, same, polling⟩ | ⟨fault, same, _⟩
  · cases same
    have answered {reply : Except Fault (List Delay)} {handling : List (Answered Call.Answer)}
        (told : store.Serves (⟨.store (.pendingDelays now), reply⟩ :: handling) later) :
        reply = .ok jobs ∧ store.Serves handling later := by
      cases told with
      | answered stamp answers rest => exact ⟨answers.symm.trans listing, rest⟩
      | refused may _ rest => cases may
      | served service _ rest => cases service
    rcases store_first polling with ⟨found, handling, rfl, going⟩ | ⟨fault, rfl, _⟩
    · obtain ⟨same, served⟩ := answered serving
      cases same
      obtain ⟨attempts, rfl, handles, counted⟩ :=
        handleEachBy_handles going fun _ fault => served.marks sound.named fault
      have polled : Polled resumer now store later
          (⟨.store (.pendingDelays now), .ok (attempts.map Attempt.job)⟩ :: handling) result
          attempts := {
        listed := order
        handled := ⟨handling, rfl, handles⟩
        counted := counted
        stored := fun attempt member => lookup?_attempt sound order.perm member
        left := fun attempt member fails =>
          handles.left_alone sound served order.perm apart member fails
        marked := fun attempt member succeeds => by
          obtain ⟨last, found, kept⟩ :=
            kept_after sound served (lookup?_attempt sound order.perm member)
          obtain ⟨open_, told⟩ := (handles.attempt member).2.2 succeeds
          exact ⟨last, found, kept.marked open_ told⟩
        undue := fun name row stands early =>
          handles.undue_alone sound served order.perm stands early }
      refine ⟨attempts, polled, ?_⟩
      rintro fate rfl
      have silent (attempt : Attempt) (member : attempt ∈ attempts) :
          attempt.calls = [] ∧ attempt.outcome = fate attempt.job :=
        Transcript.of_ofExcept (handles.attempt member).1
      refine ⟨fun attempt member => (silent attempt member).2, fun name row stands early => ?_⟩
      rcases polled.undue name row stands early with untouched | ⟨attempt, member, _, _, count, told⟩
      · exact untouched
      · rw [(silent attempt member).1] at told
        cases told
    · obtain ⟨same, _⟩ := answered serving
      cases same
  · cases same

/-! ### Two polls -/

/-- A store that answers every call at one time, among services that know nothing. -/
def attend (now : Stamp) (request : Call) (store : Store) : Except Fault request.Answer × Store :=
  let told := (Scene.mk store now).respond request
  (told.1, told.2.store)

theorem serves_log {α : Type} (now : Stamp) (program : Engine α) (store : Store) :
    store.Serves (program.log (attend now) store) (program.run (attend now) store).2 := by
  induction program generalizing store with
  | done value => exact .nil store
  | fail fault => exact .nil store
  | call request next ih =>
      cases request with
      | store request => exact .answered now rfl (ih _ _)
      | clock => exact .clocked now (ih _ _)
      | complete | http | history | deliver | sleep => exact .served rfl _ (ih _ _)

/-- A job of a session, due some seconds after the start of the calendar. -/
def sampleJob (session : String) (seconds : Int) : Delay where
  id := none
  conversation := "on " ++ session
  session := session
  flow := "flow-0001"
  node := "pause"
  resumeAt := ⟨seconds * Stamp.microsPerSecond, none⟩
  processed := false
  processedAt := none
  createdAt := default

/-- Four jobs, of which two are due at one time, one later and one later still. -/
def crowded : Store :=
  ["ready", "busy", "broken", "early"].zip [3, 1, 1, 9] |>.foldl
    (fun store given => (store.saveDelay (sampleJob given.1 given.2)).2) Store.empty

/-- One session is resumed, one meets another writer, and one cannot be resumed. -/
def sampleFate (job : Delay) : Except Fault EventReport :=
  if job.session = "busy" then .ok Event.conflictReport
  else if job.session = "broken" then .error .mixedClocks
  else .ok (EventReport.bare .completed)

def fiveSeconds : Stamp := ⟨5 * Stamp.microsPerSecond, none⟩

theorem due_jobs_handled_independently_crowded :
    (∃ calls later attempts,
      Polled (.foretold sampleFate) fiveSeconds crowded later calls (.ok 1) attempts) ∧
    ∃ calls later attempts, Polled (.engine sampleSettings) fiveSeconds
      Workplace.parked.scene.store later calls (.ok 1) attempts := by
  have sound : crowded.WellFormed :=
    (((Store.wellFormed_empty.saveDelay _).saveDelay _).saveDelay _).saveDelay _
  have reached : Workplace.Reached Workplace.parked := Workplace.Reached.play (.start default) _
  constructor
  · let poll := (Resumer.foretold sampleFate).poll
    have ran : Transcript poll (poll.log (attend fiveSeconds) crowded)
        (poll.run (attend fiveSeconds) crowded).1 := transcript_log poll crowded
    obtain ⟨attempts, polled, fates⟩ := due_jobs_handled_independently sound (by decide +kernel)
      (by decide +kernel) (serves_log fiveSeconds poll crowded) ran
    have outcomes := (fates sampleFate rfl).1
    have jobs : (attempts.map Attempt.job).countP (fun job => ¬Event.Fruitless (sampleFate job)) = 1 :=
      (polled.listed.perm.countP_eq _).trans (by decide +kernel)
    have one : attempts.countP (fun attempt => attempt.Succeeds) = 1 := by
      rw [← jobs, List.countP_map]
      apply List.countP_congr
      intro attempt member
      simp [Attempt.Succeeds, outcomes attempt member]
    have counted := polled.counted
    rw [one] at counted
    rw [counted] at polled
    exact ⟨_, _, attempts, polled⟩
  · let poll := (Resumer.engine sampleSettings).poll
    have ran : Transcript poll (poll.log (attend fiveSeconds) Workplace.parked.scene.store)
        (poll.run (attend fiveSeconds) Workplace.parked.scene.store).1 :=
      transcript_log poll Workplace.parked.scene.store
    have one : (poll.run (attend fiveSeconds) Workplace.parked.scene.store).1 = .ok 1 := by decide +kernel
    rw [one] at ran
    obtain ⟨attempts, polled, _⟩ := due_jobs_handled_independently reached.informed.shape
      (by decide +kernel) (by decide +kernel)
      (serves_log fiveSeconds poll Workplace.parked.scene.store) ran
    exact ⟨_, _, attempts, polled⟩

end Timer

end ChatFlow
