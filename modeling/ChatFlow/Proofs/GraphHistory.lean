import ChatFlow.Proofs.Archive
import ChatFlow.Proofs.Chronicle
/-
The history of a flow's graph. From the creation of a flow on its version counts the saves that went
through, however the calls of many workers follow upon each other; for each earlier version there is
one snapshot, of the graph that the flow had then; of the saves that read one version at most one goes
through; and a save that fails changes nothing.
-/

set_option autoImplicit false

namespace ChatFlow

open Program EnginePast

/-! ### One call -/

/-- What was read and filed is remembered by the store. -/
structure EnginePast.Traces (past : EnginePast) (store : Store) : Prop where
  read : ∀ {organization id flow}, Told past (.getOwnedFlow organization id) (some flow) →
    store.Recalls id flow
  filed : ∀ {version kept}, Told past (.saveVersion version) kept →
    store.Filed version.flow version.version

section

variable {past : EnginePast} {scene later : Scene} {request : Call}
  {reply : Except Fault request.Answer} {operation : Operation}

/-- What the answer to a call that an event may make changes. -/
theorem edited_of_answers (traces : past.Traces scene.store) (edits : operation.Edits past request)
    (answers : scene.Answers request reply later) :
    scene.store.Edited (replacement? ⟨request, reply⟩) later.store := by
  cases request with
  | store asked =>
      obtain ⟨stamp, rfl, rfl⟩ := answers
      cases asked with
      | createFlow given => exact .created given
      | updateFlow organization id settings =>
          simp only [Store.answer]
          cases done : scene.store.updateFlow organization id settings stamp with
          | error fault => exact .spared (.refl _)
          | ok pair =>
              rcases Store.updateFlow_rewrites done with
                ⟨_, _, same⟩ | ⟨flow, changed, _, _, takes, rewrites⟩
              · exact .spared (same ▸ .refl _)
              · have keeps : KeepsGraph settings := edits
                exact .rewritten rewrites (takes.sameGraph (keeps.put stamp))
      | deleteFlow organization id => exact .deleted organization id
      | replaceGraph id expected nodes edges editor =>
          simp only [Store.answer]
          cases done : scene.store.replaceGraph id expected nodes edges editor stamp with
          | error fault => exact .spared (.refl _)
          | ok pair =>
              obtain ⟨found, last⟩ := pair
              rcases Store.replaceGraph_rewrites done with
                ⟨_, rfl, rfl⟩ | ⟨flow, changed, rfl, rfl, renews, rewrites⟩
              · exact .spared (.refl _)
              · obtain ⟨_, _, read, _, _, _, _, same, kept⟩ := edits
                have filed := traces.filed kept
                exact .replaced rewrites renews.version (same ▸ filed)
      | saveVersion version =>
          obtain ⟨organization, id, flow, editor, now, told, rfl⟩ := edits
          exact .filed editor now (traces.read told)
      | _ => exact .spared (Store.answer_sameFlows rfl stamp scene.store)
  | clock => exact answers.2 ▸ .spared (.refl _)
  | complete | http | history | deliver | sleep =>
      have same : later = scene := answers
      exact same ▸ .spared (.refl _)

/-- What is told is remembered from then on. -/
theorem EnginePast.Traces.answer (traces : past.Traces scene.store)
    (archived : scene.store.Archived) (edits : operation.Edits past request)
    (answers : scene.Answers request reply later) :
    EnginePast.Traces (⟨request, reply⟩ :: past) later.store := by
  have edited := edited_of_answers traces edits answers
  constructor
  case read =>
    intro organization id flow told
    rcases Holds.told_cons told with head | tail
    · cases head
      obtain ⟨stamp, found, rfl⟩ := answers
      have owned : scene.store.getOwnedFlow organization id = some flow :=
        (Except.ok.inj found).symm
      exact archived.recalls (Option.filter_eq_some_iff.mp owned).1
    · exact (traces.read tail).edited edited archived
  case filed =>
    intro version kept told
    rcases Holds.told_cons told with head | tail
    · cases head
      obtain ⟨stamp, _, rfl⟩ := answers
      obtain ⟨organization, id, flow, editor, now, read, rfl⟩ := edits
      refine ⟨edited.numbered (traces.read read).numbered, fun _ _ => ?_⟩
      have present : (id, flow.version) ∈ (scene.store.saveVersion
          (Management.snapshot id flow editor now)).2.versions.map Prod.fst := by
        rcases Store.saveVersion_cases (Management.snapshot id flow editor now) scene.store with
          ⟨present, same⟩ | ⟨_, stored, _, versions, _⟩
        · exact same.symm ▸ present
        · rw [versions, List.map_append]
          exact List.mem_append_right _ List.mem_cons_self
      obtain ⟨⟨key, snapshot⟩, member, same⟩ := List.mem_map.mp present
      cases same
      exact ⟨snapshot, member⟩
    · exact (traces.filed tail).edited edited

end

theorem EnginePast.Fewer.traces {later past : EnginePast} (fewer : Fewer later past) {store : Store}
    (traces : past.Traces store) : later.Traces store where
  read told := traces.read (fewer.told told)
  filed told := traces.filed (fewer.told told)

/-! ### Places -/

namespace Workplace

variable {ι : Type} {before after place start : Workplace ι} {index : ι} {log : EnginePast}
  {entry : Answered Call.Answer} {id : String} {flow : Flow}

theorem Reached.edits (reached : Reached place) (index : ι) :
    Keeps (fun past request => ∃ operation : Operation, operation.Edits past request)
      (place.worker index).rest (place.worker index).past :=
  reached.keeps (fun settings operation =>
    ((operation.program_saves settings).loosen fun _ _ saving => ⟨operation, saving.1⟩).keeps) index

/-- The archive is in order, and remembers what every worker was told. -/
structure Versioned (place : Workplace ι) : Prop where
  archived : place.scene.store.Archived
  traces : ∀ index, (place.worker index).past.Traces place.scene.store

theorem Step.told_edits (step : Step before after) (reached : Reached before)
    (told : (after.worker index).past = entry :: (before.worker index).past) :
    ∃ operation : Operation, operation.Edits (before.worker index).past entry.request := by
  have keeps := reached.edits index
  obtain ⟨next, calls, _⟩ := step.told_call told
  rw [calls] at keeps
  exact keeps.at_call.1

theorem Reached.versioned (reached : Reached place) : Versioned place := by
  induction reached with
  | start time => exact ⟨Store.archived_empty, fun _ => ⟨nofun, nofun⟩⟩
  | @step before after reached step versioned =>
      rcases step.cases reached.mannered with still | ⟨index, past, request, reply, answering⟩
      · refine ⟨still.store ▸ versioned.archived, fun index => ?_⟩
        rw [still.store]
        exact (still.fewer index).traces (versioned.traces index)
      · have traces : past.Traces before.scene.store := answering.asks ▸ versioned.traces index
        have told : (after.worker index).past = ⟨request, reply⟩ :: (before.worker index).past :=
          answering.asks ▸ answering.told
        obtain ⟨operation, edits⟩ := step.told_edits reached told
        rw [answering.asks] at edits
        have edited := edited_of_answers traces edits answering.answers
        refine ⟨versioned.archived.edited edited, fun other => ?_⟩
        by_cases own : other = index
        · subst own
          rw [answering.told]
          exact traces.answer versioned.archived edits answering.answers
        · rw [answering.others other own]
          exact ⟨fun told => ((versioned.traces other).read told).edited edited versioned.archived,
            fun told => ((versioned.traces other).filed told).edited edited⟩

theorem Step.told_edited (step : Step before after) (reached : Reached before)
    (told : (after.worker index).past = entry :: (before.worker index).past) :
    before.scene.store.Edited (replacement? entry) after.scene.store := by
  rcases step.told_cases reached.mannered told with answering | ⟨⟨request, fault, rfl⟩, same⟩
  · obtain ⟨operation, edits⟩ := step.told_edits reached told
    exact edited_of_answers (reached.versioned.traces index) edits answering.answers
  · have untold : replacement? ⟨.store request, .error fault⟩ = none := by
      cases request <;> rfl
    rw [untold, same]
    exact .spared (.refl _)

/-! ### Courses -/

/-- The calls that were answered or refused on the way between two places, the latest first. -/
inductive Course : Workplace ι → EnginePast → Workplace ι → Prop where
  | refl (place : Workplace ι) : Course place [] place
  | quiet {start before after : Workplace ι} {log : EnginePast} (course : Course start log before)
      (step : Step before after)
      (untold : ∀ index, (after.worker index).past <:+ (before.worker index).past) :
      Course start log after
  | told {start before after : Workplace ι} {log : EnginePast} {index : ι}
      {entry : Answered Call.Answer} (course : Course start log before) (step : Step before after)
      (told : (after.worker index).past = entry :: (before.worker index).past) :
      Course start (entry :: log) after

theorem Course.reached (course : Course start log place) (reached : Reached start) :
    Reached place := by
  induction course with
  | refl => exact reached
  | quiet course step untold ih => exact ih.step step
  | told course step told ih => exact ih.step step

/-- Every path is a course. -/
theorem Steps.course (steps : Steps start place) : ∃ log, Course start log place := by
  induction steps with
  | refl => exact ⟨[], .refl start⟩
  | tail _ step ih =>
      obtain ⟨log, course⟩ := ih
      rcases step.tells with untold | ⟨index, entry, told⟩
      · exact ⟨log, course.quiet step untold⟩
      · exact ⟨entry :: log, course.told step told⟩

theorem Course.trans {middle : Workplace ι} {more : EnginePast} (lower : Course start log middle)
    (upper : Course middle more place) : Course start (more ++ log) place := by
  induction upper with
  | refl => exact lower
  | quiet course step untold ih => exact ih.quiet step untold
  | told course step told ih => exact ih.told step told

/-- What one step of a course does to a flow: its graph stays, or is replaced by a save. -/
structure Advance (id : String) (before : Workplace ι) (log : EnginePast) (after : Workplace ι)
    (later : EnginePast) : Prop where
  entries : ∃ entries, later = entries ++ log ∧ Course before entries after
  edited : ∃ replaced, before.scene.store.Edited replaced after.scene.store
  stood : before.scene.store.Numbered id → ∀ flow, after.scene.store.getFlow id = some flow →
    ∃ old, before.scene.store.getFlow id = some old ∧
      (old.SameGraph flow ∧ later.replacements id = log.replacements id ∨
        flow.version = old.version + 1 ∧
          later.replacements id = old.version :: log.replacements id)

theorem Step.advance_quiet (step : Step before after)
    (untold : ∀ index, (after.worker index).past <:+ (before.worker index).past) :
    Advance id before log after log where
  entries := ⟨[], rfl, (Course.refl before).quiet step untold⟩
  edited := ⟨none, .spared (step.untold_store untold ▸ .refl _)⟩
  stood _ flow stands :=
    ⟨flow, step.untold_store untold ▸ stands, Or.inl ⟨.refl flow, rfl⟩⟩

theorem Step.advance_told (step : Step before after) (reached : Reached before)
    (told : (after.worker index).past = entry :: (before.worker index).past) :
    Advance id before log after (entry :: log) where
  entries := ⟨[entry], rfl, (Course.refl before).told step told⟩
  edited := ⟨replacement? entry, step.told_edited reached told⟩
  stood numbered flow stands := by
    have edited := step.told_edited reached told
    obtain ⟨old, stood, change⟩ := edited.stood numbered stands
    refine ⟨old, stood, ?_⟩
    rcases change with ⟨other, same⟩ | ⟨label, raised⟩
    · refine Or.inl ⟨same, ?_⟩
      cases shown : replacement? entry with
      | none => exact replacements_cons_none shown id
      | some pair =>
          refine replacements_cons_other shown fun own => other pair.2 ?_
          rw [shown, ← own]
    · exact Or.inr ⟨raised, replacements_cons_own label⟩

/-- Whatever each step of a course keeps holds at its end. -/
theorem Course.keeps {motive : EnginePast → Workplace ι → Prop} (course : Course start log place)
    (reached : Reached start) (base : motive [] start)
    (advance : ∀ {before log after later}, Course start log before → Course start later after →
      Advance id before log after later → motive log before → motive later after) :
    motive log place := by
  induction course with
  | refl => exact base
  | quiet course step untold ih =>
      exact advance course (course.quiet step untold) (step.advance_quiet untold) ih
  | told course step told ih =>
      exact advance course (course.told step told)
        (step.advance_told (course.reached reached) told) ih

theorem Course.numbered (course : Course start log place) (reached : Reached start)
    (numbered : start.scene.store.Numbered id) : place.scene.store.Numbered id :=
  @Course.keeps _ _ _ _ id (fun _ place => place.scene.store.Numbered id) course reached numbered
    fun _ _ advance known => advance.edited.elim fun _ edited => edited.numbered known

/-- What was read of a flow is recalled from then on. -/
theorem Course.recalls (course : Course start log place) (reached : Reached start) {read : Flow}
    (recalls : start.scene.store.Recalls id read) : place.scene.store.Recalls id read := by
  refine @Course.keeps _ _ _ _ id (fun _ place => place.scene.store.Recalls id read) course reached
    recalls fun {before _ _ _} lower _ advance known => ?_
  obtain ⟨_, edited⟩ := advance.edited
  exact known.edited edited (lower.reached reached).versioned.archived

/-- The version of a flow counts the replacements of its graph, each of another version. -/
theorem Course.counted (course : Course start log place) (reached : Reached start)
    (numbered : start.scene.store.Numbered id)
    (stands : place.scene.store.getFlow id = some flow) :
    ∃ first, start.scene.store.getFlow id = some first ∧
      flow.version = first.version + (log.replacements id).length ∧
      (log.replacements id).Nodup ∧ ∀ number ∈ log.replacements id, number < flow.version := by
  refine @Course.keeps _ _ _ _ id (fun log place => ∀ flow,
    place.scene.store.getFlow id = some flow → ∃ first, start.scene.store.getFlow id = some first ∧
      flow.version = first.version + (log.replacements id).length ∧
      (log.replacements id).Nodup ∧ ∀ number ∈ log.replacements id, number < flow.version)
    course reached ?_ ?_ flow stands
  · exact fun flow stands => ⟨flow, stands, by simp [replacements], List.nodup_nil, nofun⟩
  · intro before log after later lower _ advance ih flow stands
    obtain ⟨old, stood, change⟩ := advance.stood (lower.numbered reached numbered) flow stands
    obtain ⟨first, began, counted, distinct, below⟩ := ih old stood
    refine ⟨first, began, ?_⟩
    rcases change with ⟨same, listed⟩ | ⟨raised, listed⟩
    · rw [listed, same.version]
      exact ⟨counted, distinct, below⟩
    · rw [listed]
      refine ⟨?_, List.nodup_cons.mpr ⟨fun member => Int.lt_irrefl _ (below _ member), distinct⟩,
        fun number member => ?_⟩
      · rw [List.length_cons]
        omega
      · rcases List.mem_cons.mp member with same | earlier
        · omega
        · have := below number earlier
          omega

/-- How a flow stood at some point of a course. -/
def Had (start : Workplace ι) (log : EnginePast) (place : Workplace ι) (id : String)
    (flow : Flow) : Prop :=
  ∃ middle earlier later, Course start earlier middle ∧ Course middle later place ∧
    log = later ++ earlier ∧ middle.scene.store.getFlow id = some flow

theorem Had.advance {later : EnginePast} (had : Had start log before id flow)
    (advance : Advance id before log after later) : Had start later after id flow := by
  obtain ⟨middle, lower, upper, toMiddle, fromMiddle, rfl, stood⟩ := had
  obtain ⟨entries, rfl, last⟩ := advance.entries
  exact ⟨middle, lower, entries ++ upper, toMiddle, fromMiddle.trans last,
    (List.append_assoc entries upper lower).symm, stood⟩

/-- A flow has been in every version from its first one to its present one. -/
theorem Course.passed (course : Course start log place) (reached : Reached start) {first : Flow}
    (began : start.scene.store.getFlow id = some first)
    (stands : place.scene.store.getFlow id = some flow) {number : Int}
    (lower : first.version ≤ number) (upper : number ≤ flow.version) :
    ∃ old, Had start log place id old ∧ old.version = number := by
  have numbered := reached.enrolled.numbered began
  refine @Course.keeps _ _ _ _ id (fun log place => ∀ flow,
    place.scene.store.getFlow id = some flow → number ≤ flow.version →
      ∃ old, Had start log place id old ∧ old.version = number) course reached ?_ ?_ flow stands upper
  · intro flow stands upper
    cases began.symm.trans stands
    exact ⟨first, ⟨start, [], [], .refl start, .refl start, rfl, began⟩, Int.le_antisymm lower upper⟩
  · intro before log after later toBefore toAfter advance ih flow stands upper
    obtain ⟨old, stood, change⟩ := advance.stood (toBefore.numbered reached numbered) flow stands
    have earlier (bound : number ≤ old.version) :
        ∃ old, Had start later after id old ∧ old.version = number := by
      obtain ⟨past, had, same⟩ := ih old stood bound
      exact ⟨past, had.advance advance, same⟩
    rcases change with ⟨same, _⟩ | ⟨raised, _⟩
    · exact earlier (same.version ▸ upper)
    · by_cases bound : number ≤ old.version
      · exact earlier bound
      · exact ⟨flow, ⟨after, later, [], toAfter, .refl after, rfl, stands⟩, by omega⟩

/-- The snapshots of a flow that is not deleted are kept as they are. -/
theorem Course.snapshot_kept (course : Course start log place) (reached : Reached start)
    {number : Int} {snapshot : FlowVersion}
    (member : ((id, number), snapshot) ∈ start.scene.store.versions)
    (stands : place.scene.store.getFlow id = some flow) :
    ((id, number), snapshot) ∈ place.scene.store.versions := by
  have numbered : start.scene.store.Numbered id := reached.versioned.archived.numbered member
  refine @Course.keeps _ _ _ _ id (fun _ place => ∀ flow,
    place.scene.store.getFlow id = some flow → ((id, number), snapshot) ∈ place.scene.store.versions)
    course reached (fun _ _ => member) ?_ flow stands
  intro before log after later toBefore _ advance ih flow stands
  obtain ⟨old, stood, _⟩ := advance.stood (toBefore.numbered reached numbered) flow stands
  obtain ⟨_, edited⟩ := advance.edited
  exact edited.keeps stands (ih old stood)

/-- The graph that a flow had under an earlier version is on file. -/
theorem Had.dumped (had : Had start log place id flow) (reached : Reached start) {now : Flow}
    (stands : place.scene.store.getFlow id = some now) (older : flow.version < now.version) :
    ∃ snapshot, ((id, flow.version), snapshot) ∈ place.scene.store.versions ∧
      snapshot.Dumps flow := by
  obtain ⟨middle, _, _, toMiddle, fromMiddle, _, stood⟩ := had
  have known := toMiddle.reached reached
  have recalls := fromMiddle.recalls known (known.versioned.archived.recalls stood)
  rcases recalls.standing now stands with same | ⟨_, filed⟩
  · exact absurd same.version (Int.ne_of_gt older)
  · exact filed

/-! ### Creation -/

/-- A worker has just stored a new flow, in an event that creates or duplicates one. -/
inductive Founded (place : Workplace ι) (id : String) : Prop where
  | intro {before begun asked : Workplace ι} {index : ι} {settings : EngineSettings}
      {operation : Operation} {given stored : Flow} (reached : Reached before)
      (begins : Begun before begun index settings operation) (founds : operation.FoundsFlow)
      (onward : Onward index begun asked) (step : Step asked place)
      (told : (place.worker index).past =
        ⟨.store (.createFlow given), .ok stored⟩ :: (asked.worker index).past)
      (named : stored.id = some id)

/-- A new flow stands in its first version. -/
theorem Founded.stands (founded : Founded place id) :
    Reached place ∧ ∃ flow, place.scene.store.getFlow id = some flow ∧ flow.version = 1 := by
  obtain ⟨reached, begins, founds, onward, step, told, named⟩ := founded
  next before begun asked index settings operation given stored =>
    have known : Reached asked := (reached.step begins.step).steps onward.steps
    refine ⟨known.step step, ?_⟩
    obtain ⟨next, calls, _⟩ := step.told_call told
    have saving := begins.follows onward (operation.program_saves settings)
    rw [calls] at saving
    have first : given.version = 1 := saving.at_call.1.1 founds
    rcases step.told_cases known.mannered told with answering | ⟨⟨_, _, refused⟩, _⟩
    · obtain ⟨stamp, replied, scene⟩ := answering.answers
      have made : stored = (asked.scene.store.createFlow given).1 := Except.ok.inj replied
      have own : rowId "flow" (asked.scene.store.counts.flows + 1) = id := by
        rw [made] at named
        exact Option.some.inj named
      refine ⟨{ given with id := some id }, ?_, first⟩
      rw [scene]
      refine (Store.getFlow_createFlow given asked.scene.store id).trans ?_
      rw [own, if_pos rfl]
    · cases refused

/-! ### Events -/

/-- A worker has carried out a save of a flow's graph, and the save has gone through. -/
def Saves (operation : Operation) (worker : Worker) (id : String) : Prop :=
  operation.saves? = some id ∧ ∃ report, worker.Ends (.ok report)

theorem Onward.past_suffix (onward : Onward index before after) :
    (before.worker index).past <:+ (after.worker index).past := by
  induction onward with
  | refl => exact List.suffix_refl _
  | tail _ stays ih =>
      rcases stays.same with same | ⟨entry, grown⟩
      · rw [same]
        exact ih
      · rw [grown]
        exact ih.trans (List.suffix_cons _ _)

/-- A save that has gone through has replaced the graph that it read, once; every other event, and a
save that fails or is still under way, has replaced none. -/
theorem Begun.deals {begun : Workplace ι} {settings : EngineSettings} {operation : Operation}
    (begins : Begun before begun index settings operation) (onward : Onward index begun after) :
    (∃ id, Saves operation (after.worker index) id ∧ (after.worker index).past.ReplacesOnce id) ∨
      (∀ id, ¬Saves operation (after.worker index) id) ∧ (after.worker index).past.Unreplaced := by
  have saving := begins.follows onward (operation.program_saves settings)
  cases rest : (after.worker index).rest with
  | call request next =>
      rw [rest] at saving
      refine Or.inr ⟨fun id saves => ?_, saving.at_call.1.2⟩
      obtain ⟨_, report, ends⟩ := saves
      cases rest.symm.trans ends
  | fail fault =>
      rw [rest] at saving
      have settled := saving.at_fail
      refine Or.inr ⟨fun id saves => ?_, ?_⟩
      · obtain ⟨_, report, ends⟩ := saves
        cases rest.symm.trans ends
      · unfold Operation.Settles at settled
        split at settled <;> exact settled
  | done report =>
      rw [rest] at saving
      have settled := saving.at_done
      unfold Operation.Settles at settled
      split at settled
      · next id saves => exact Or.inl ⟨id, ⟨saves, report, rest⟩, settled⟩
      · next unsaving =>
          refine Or.inr ⟨fun id saves => ?_, settled⟩
          cases unsaving.symm.trans saves.1

/-- A call in an event that saves no graph, or that fails, leaves every graph as it is. -/
theorem Begun.spares {begun asked told last : Workplace ι} {settings : EngineSettings}
    {operation : Operation} (reached : Reached before)
    (begins : Begun before begun index settings operation) (first : Onward index begun asked)
    (step : Step asked told)
    (tells : (told.worker index).past = entry :: (asked.worker index).past)
    (rest : Onward index told last)
    (unsaved : operation.saves? = none ∨ ∃ fault, (last.worker index).Ends (.error fault))
    {old : Flow} (stood : asked.scene.store.getFlow id = some old)
    (stands : told.scene.store.getFlow id = some flow) : old.SameGraph flow := by
  have known : Reached asked := (reached.step begins.step).steps first.steps
  have onward : Onward index begun last :=
    (first.tail ⟨step, Or.inr ⟨entry, tells⟩⟩).trans rest
  have unreplaced : (last.worker index).past.Unreplaced := by
    rcases begins.deals onward with ⟨own, ⟨saves, report, ends⟩, _⟩ | ⟨_, unreplaced⟩
    · rcases unsaved with none_ | ⟨fault, fails⟩
      · cases none_.symm.trans saves
      · cases Eq.symm (fails : (last.worker index).rest = .fail fault) |>.trans ends
    · exact unreplaced
  have untold : replacement? entry = none :=
    unreplaced entry (rest.past_suffix.mem (tells ▸ List.mem_cons_self))
  have edited := step.told_edited known tells
  rw [untold] at edited
  obtain ⟨before, present, change⟩ := edited.stood (known.enrolled.numbered stood) stands
  cases stood.symm.trans present
  rcases change with ⟨_, same⟩ | ⟨impossible, _⟩
  · exact same
  · cases impossible

/-! ### The history of a flow -/

theorem filter_versions {versions : List ((String × Int) × FlowVersion)}
    (distinct : (versions.map Prod.fst).Nodup) {key : String × Int} {snapshot : FlowVersion}
    (member : (key, snapshot) ∈ versions) :
    versions.filter (fun entry => entry.1 = key) = [(key, snapshot)] := by
  induction versions with
  | nil => cases member
  | cons entry rest ih =>
      obtain ⟨fresh, distinct⟩ := List.nodup_cons.mp distinct
      rcases List.mem_cons.mp member with same | later
      · subst same
        rw [List.filter_cons_of_pos (by simp), List.filter_eq_nil_iff.mpr]
        intro other present equal
        exact fresh (List.mem_map.mpr ⟨other, present, of_decide_eq_true equal⟩)
      · have apart : entry.1 ≠ key := fun same => fresh (same ▸ List.mem_map_of_mem later)
        rw [List.filter_cons_of_neg (by simpa using apart)]
        exact ih distinct later

/-- From the creation of a flow on, whatever many workers do meanwhile and whatever the store refuses,
its version counts the saves that went through, and for each earlier version there is one snapshot,
of the graph that the flow had then; no snapshot ever changes. The saves that went through had read
different versions, and an event that saves nothing or fails changes no graph. -/
theorem graph_history_faithful (founded : Founded start id) (course : Course start log place)
    (stands : place.scene.store.getFlow id = some flow) :
    flow.version = 1 + (log.replacements id).length ∧
    (∀ number, 1 ≤ number → number < flow.version → ∃ snapshot,
      place.scene.store.versions.filter (fun entry => entry.1 = (id, number)) =
          [((id, number), snapshot)] ∧
        (∃ old, Had start log place id old ∧ old.version = number) ∧
        ∀ old, Had start log place id old → old.version = number → snapshot.Dumps old) ∧
    (∀ (middle : Workplace ι) (earlier later : EnginePast),
      Course start earlier middle → Course middle later place →
      ∀ entry ∈ middle.scene.store.versions, entry.1.1 = id →
        entry ∈ place.scene.store.versions) ∧
    (log.replacements id).Nodup ∧
    (∀ (before begun after : Workplace ι) (index : ι) (settings : EngineSettings)
      (operation : Operation), Reached before →
      Begun before begun index settings operation → Onward index begun after →
        (∃ own, Saves operation (after.worker index) own ∧
            (after.worker index).past.ReplacesOnce own) ∨
          (∀ own, ¬Saves operation (after.worker index) own) ∧
            (after.worker index).past.Unreplaced) ∧
    ∀ (before begun asked told last : Workplace ι) (index : ι) (settings : EngineSettings)
      (operation : Operation) (entry : Answered Call.Answer), Reached before →
      Begun before begun index settings operation → Onward index begun asked → Step asked told →
      (told.worker index).past = entry :: (asked.worker index).past → Onward index told last →
      (operation.saves? = none ∨ ∃ fault, (last.worker index).Ends (.error fault)) →
      ∀ old new, asked.scene.store.getFlow id = some old →
        told.scene.store.getFlow id = some new → old.SameGraph new := by
  obtain ⟨reached, first, began, one⟩ := founded.stands
  have known := course.reached reached
  have distinct := known.versioned.archived.distinct
  obtain ⟨_, same, counted, single, _⟩ :=
    course.counted reached (reached.enrolled.numbered began) stands
  cases began.symm.trans same
  refine ⟨one ▸ counted, ?_, ?_, single, ?_, ?_⟩
  · intro number lower upper
    obtain ⟨old, had, rfl⟩ :=
      course.passed reached began stands (one.symm ▸ lower) (Int.le_of_lt upper)
    obtain ⟨snapshot, member, _⟩ := had.dumped reached stands upper
    refine ⟨snapshot, filter_versions distinct member, ⟨old, had, rfl⟩, fun other had same => ?_⟩
    obtain ⟨twin, present, dumps⟩ := had.dumped reached stands (same.symm ▸ upper)
    rw [same] at present
    have lists := (filter_versions distinct present).symm.trans (filter_versions distinct member)
    cases lists
    exact dumps
  · rintro middle earlier later toMiddle fromMiddle ⟨⟨own, number⟩, snapshot⟩ member same
    cases same
    exact fromMiddle.snapshot_kept (toMiddle.reached reached) member stands
  · intro before begun after index settings operation _ begins onward
    exact begins.deals onward
  · intro before begun asked told last index settings operation entry reached begins first step
      tells rest unsaved old new stood stands
    exact begins.spares reached first step tells rest unsaved stood stands

/-! ### A flow that is saved once -/

def leadRequest : NewFlow := ⟨"lead", none, false, [], .exact, []⟩

/-- The clock has been looked at, and the flow is about to be stored. -/
def drafting : Workplace Unit :=
  ((emptyPlace Unit).beginning (.create "org_1" none leadRequest)).play sampleSettings [.go ()]

def drafted : Workplace Unit := drafting.act sampleSettings (.go ())

def namedStart : Value :=
  .obj [("node_id", .str "start"), ("node_type", .str "start"), ("name", .str "Oi")]

def redrawn : Workplace Unit :=
  drafted.carryingOut (.saveCanvas "org_1" "flow-0001" [namedStart] [] none) 4

theorem drafted_founded : Founded drafted "flow-0001" := by
  have begins : Begun (emptyPlace Unit) _ () sampleSettings (.create "org_1" none leadRequest) :=
    beginning_begun _ (by decide) _
  have onward :
      Onward () ((emptyPlace Unit).beginning (.create "org_1" none leadRequest)) drafting :=
    Alone.onward (alone_play sampleSettings _ () Nothing 1)
  have told : (drafted.worker ()).past =
      ⟨.store (.createFlow (leadRequest.flow "org_1" none default)),
        .ok (Store.empty.createFlow (leadRequest.flow "org_1" none default)).1⟩ ::
        (drafting.worker ()).past := rfl
  have step : Step drafting drafted := by
    rcases act_step sampleSettings drafting (.go ()) with same | step
    · have grown := told
      rw [show drafted = drafting from same] at grown
      exact absurd grown.symm (List.cons_ne_self _ _)
    · exact step
  exact ⟨.start default, begins, trivial, onward, step, told, by decide +kernel⟩

theorem graph_history_faithful_redrawn : ∃ log flow snapshot,
    Course drafted log redrawn ∧ redrawn.scene.store.getFlow "flow-0001" = some flow ∧
      flow.version = 2 ∧ (log.replacements "flow-0001").length = 1 ∧
      redrawn.scene.store.versions.filter (fun entry => entry.1 = ("flow-0001", 1)) =
        [(("flow-0001", 1), snapshot)] ∧
      ∃ old, Had drafted log redrawn "flow-0001" old ∧ old.version = 1 ∧ snapshot.Dumps old := by
  obtain ⟨result, performs⟩ := performs_carryingOut drafted
    (.saveCanvas "org_1" "flow-0001" [namedStart] [] none) 4 (by decide +kernel) (by decide +kernel)
  obtain ⟨log, course⟩ := performs.steps.course
  have row : (redrawn.scene.store.getFlow "flow-0001").any (fun flow =>
      flow.version = 2) = true := by decide +kernel
  obtain ⟨flow, stands, second⟩ := (Option.any_eq_true _ _).mp row
  have second : flow.version = 2 := of_decide_eq_true second
  obtain ⟨counts, kept, _⟩ := graph_history_faithful drafted_founded course stands
  obtain ⟨snapshot, single, ⟨old, had, first⟩, dumps⟩ := kept 1 (by omega) (by omega)
  exact ⟨log, flow, snapshot, course, stands, second, by omega, single, old, had, first,
    dumps old had first⟩

end Workplace

end ChatFlow
