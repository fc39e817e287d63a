import Mathlib.Logic.Relation
import ChatFlow.Proofs.Rehearsal
import ChatFlow.Proofs.StoreFrame
import ChatFlow.Proofs.TimerCalls
/-
Runs of many steps, and runs in which one worker goes on while the others stand still. A worker that
is answered comes to the end of its event, whatever the event is.
-/

set_option autoImplicit false

namespace ChatFlow

open EnginePast

theorem Scene.Answers.time {scene later : Scene} {request : Call}
    {reply : Except Fault request.Answer} (answers : scene.Answers request reply later) :
    later.time = scene.time := by
  rcases answers.effect with same | ⟨_, _, _, same⟩
  · rw [same]
  · rw [same]

namespace Workplace

variable {ι : Type}

/-- Steps, one after the other. -/
abbrev Steps : Workplace ι → Workplace ι → Prop := Relation.ReflTransGen Step

theorem Reached.steps {place after : Workplace ι} (reached : Reached place)
    (steps : Steps place after) : Reached after := by
  induction steps with
  | refl => exact reached
  | tail _ step ih => exact ih.step step

theorem Steps.evolves {place after : Workplace ι} (steps : Steps place after)
    (reached : Reached place) : place.scene.Evolves after.scene := by
  induction steps with
  | refl => exact .refl _
  | tail earlier step ih => exact ih.trans (step.evolves (reached.steps earlier))

/-- A worker has begun an event. -/
structure Begun (before after : Workplace ι) (index : ι) (settings : EngineSettings)
    (operation : Operation) : Prop where
  idle : (before.worker index).IsIdle
  same : after.scene = before.scene
  turn : Turn before after index ⟨[], operation.program settings⟩

theorem Begun.step {before after : Workplace ι} {index : ι} {settings : EngineSettings}
    {operation : Operation} (begun : Begun before after index settings operation) :
    Step before after :=
  .begin settings operation begun.idle begun.same begun.turn

/-- One worker goes on: time passes, or its call is answered, or is refused by the store if that is
a call that it may refuse. -/
inductive GoesOn (index : ι) (refusable : StoreCall → Prop) : Workplace ι → Workplace ι → Prop where
  | tick {place : Workplace ι} {time : Stamp} (later : time.NotBefore place.scene.time) :
      GoesOn index refusable place { place with scene := { place.scene with time := time } }
  | answer {place after : Workplace ι} {past : EnginePast} {request : Call}
      {next : Except Fault request.Answer → Engine (Option EventReport)}
      {reply : Except Fault request.Answer}
      (calls : place.worker index = ⟨past, .call request next⟩)
      (answers : place.scene.Answers request reply after.scene)
      (turn : Turn place after index ⟨⟨request, reply⟩ :: past, next reply⟩) :
      GoesOn index refusable place after
  | refuse {place after : Workplace ι} {past : EnginePast} {request : StoreCall}
      {next : Except Fault request.Answer → Engine (Option EventReport)} {fault : Fault}
      (may : refusable request)
      (calls : place.worker index = ⟨past, .call (.store request) next⟩)
      (same : after.scene = place.scene)
      (turn : Turn place after index ⟨⟨.store request, .error fault⟩ :: past, next (.error fault)⟩) :
      GoesOn index refusable place after

theorem GoesOn.step {index : ι} {refusable : StoreCall → Prop} {before after : Workplace ι}
    (goes : GoesOn index refusable before after) : Step before after := by
  cases goes with
  | tick later => exact .tick later
  | answer calls answers turn => exact .answer calls answers turn
  | refuse may calls same turn => exact .refuse calls same turn

/-- One worker goes on for a while. -/
abbrev Alone (index : ι) (refusable : StoreCall → Prop) : Workplace ι → Workplace ι → Prop :=
  Relation.ReflTransGen (GoesOn index refusable)

theorem Alone.steps {index : ι} {refusable : StoreCall → Prop} {before after : Workplace ι}
    (alone : Alone index refusable before after) : Steps before after := by
  induction alone with
  | refl => exact .refl
  | tail _ goes ih => exact ih.tail goes.step

theorem exists_turn (place : Workplace ι) (scene : Scene) (index : ι) (worker : Worker) :
    ∃ after : Workplace ι, after.scene = scene ∧ Turn place after index worker := by
  classical
  exact ⟨place.set scene index worker, rfl, place.set_turn scene index worker⟩

/-- A worker that is answered, but for what the store may refuse, comes to the end of its event, and
what every answer and every refusal keeps holds there. -/
theorem exists_idle {index : ι} {refusable : StoreCall → Prop} {keeps : Workplace ι → Prop}
    (answered : ∀ {before after : Workplace ι} {past : EnginePast} {request : Call}
      {next : Except Fault request.Answer → Engine (Option EventReport)}
      {reply : Except Fault request.Answer}, keeps before →
      before.worker index = ⟨past, .call request next⟩ →
      (∀ asked, request = .store asked → ¬refusable asked) →
      before.scene.Answers request reply after.scene →
      Turn before after index ⟨⟨request, reply⟩ :: past, next reply⟩ → keeps after)
    (refused : ∀ {before after : Workplace ι} {past : EnginePast} {request : StoreCall}
      {next : Except Fault request.Answer → Engine (Option EventReport)} {fault : Fault},
      keeps before → before.worker index = ⟨past, .call (.store request) next⟩ →
      refusable request → after.scene = before.scene →
      Turn before after index ⟨⟨.store request, .error fault⟩ :: past, next (.error fault)⟩ →
      keeps after)
    {place : Workplace ι} (start : keeps place) :
    ∃ after, Alone index refusable place after ∧ keeps after ∧ (after.worker index).IsIdle := by
  obtain ⟨worker, same⟩ : ∃ worker, place.worker index = worker := ⟨_, rfl⟩
  obtain ⟨past, rest⟩ := worker
  -- by induction on what is left of the event, whose next call is refused where that may be
  induction rest generalizing place past with
  | done value => exact ⟨place, .refl, start, by rw [same]; trivial⟩
  | fail fault => exact ⟨place, .refl, start, by rw [same]; trivial⟩
  | call request next ih =>
      by_cases refuses : ∃ asked, request = .store asked ∧ refusable asked
      · obtain ⟨asked, rfl, may⟩ := refuses
        obtain ⟨middle, scene, turn⟩ := place.exists_turn place.scene index
          ⟨⟨.store asked, .error .mixedClocks⟩ :: past, next (.error .mixedClocks)⟩
        obtain ⟨after, alone, known, idle⟩ :=
          ih _ (refused start same may scene turn) _ turn.1
        exact ⟨after, .head (.refuse may same scene turn) alone, known, idle⟩
      · have open_ : ∀ asked, request = .store asked → ¬refusable asked :=
          fun asked equal may => refuses ⟨asked, equal, may⟩
        obtain ⟨middle, scene, turn⟩ := place.exists_turn (place.scene.respond request).2 index
          ⟨⟨request, (place.scene.respond request).1⟩ :: past, next (place.scene.respond request).1⟩
        have answers : place.scene.Answers request (place.scene.respond request).1 middle.scene := by
          rw [scene]
          exact place.scene.answers_respond request
        obtain ⟨after, alone, known, idle⟩ :=
          ih _ (answered start same open_ answers turn) _ turn.1
        exact ⟨after, .head (.answer same answers turn) alone, known, idle⟩

/-! ### The clock and the jobs -/

/-- The clock and the timer jobs are of one kind. -/
def OneClock (scene : Scene) : Prop :=
  ∀ name job, Table.lookup? name scene.store.delays = some job →
    scene.time.offset.isSome = job.resumeAt.offset.isSome

theorem Reached.oneClock {place : Workplace ι} (reached : Reached place) : OneClock place.scene := by
  induction reached with
  | start time => exact fun name job present => nomatch present
  | @step before after reached step ih =>
      have informed := reached.informed
      rcases step.cases reached.mannered with still | ⟨index, past, request, reply, answering⟩
      · intro name job present
        rw [still.store] at present
        have kind := ((Stamp.notBefore_iff _ _).mp still.time).1
        exact kind.trans (ih name job present)
      · have holds := answering.holds informed
        rcases answering.answers.effect with same | ⟨asked, stamp, rfl, same⟩
        · rw [same]
          exact ih
        · rw [same]
          intro name job present
          rcases Store.job_of_answer asked stamp present with
            ⟨old, stood, like, _⟩ | ⟨given, rfl, saved⟩
          · rw [like]
            exact ih name old stood
          · -- its time was planned after a reading of the clock, and so is of the clock's kind
            obtain ⟨_, found, _, _, now, earlier, clocked, _, ahead⟩ := answering.warranted
            have shown : Clocked past now := clocked.mem List.mem_cons_self
            have kind := ((Stamp.notBefore_iff _ _).mp (holds.clocked shown)).1
            have other := ((Stamp.notBefore_iff _ _).mp ahead).1
            rw [saved]
            exact kind.trans other.symm

/-- What is asked when jobs are looked at or marked is answered. -/
theorem Reached.reply_ok {place : Workplace ι} (reached : Reached place) {index : ι}
    {past : EnginePast} {request : Call}
    {next : Except Fault request.Answer → Engine (Option EventReport)}
    {reply : Except Fault request.Answer} {later : Scene}
    (calls : place.worker index = ⟨past, .call request next⟩)
    (answers : place.scene.Answers request reply later) (asked : request.isOfPoll = true) :
    ∃ value, reply = .ok value := by
  cases request with
  | clock => exact ⟨_, answers.1⟩
  | complete | http | history | deliver | sleep => cases asked
  | store request =>
      obtain ⟨stamp, replied, _⟩ := answers
      cases request with
      | getSession | markDelay => exact ⟨_, replied⟩
      | pendingDelays now =>
          have informed := reached.informed
          have holds := informed.holds index
          have first : past = [⟨.clock, .ok now⟩] := (reached.mannered.at_call calls).1
          rw [calls, first] at holds
          have later := holds.clocked List.mem_cons_self
          have kind := ((Stamp.notBefore_iff _ _).mp later).1
          obtain ⟨jobs, listed⟩ : ∃ jobs, place.scene.store.pendingDelays now = .ok jobs := by
            refine Store.pendingDelays_succeeds fun name job stored => ?_
            have present := Table.lookup?_of_mem informed.shape.delaysDistinct stored
            exact kind.symm.trans (reached.oneClock name job present)
          exact ⟨jobs, replied.trans listed⟩
      | _ => cases asked

/-! ### Rehearsals as runs -/

section Rehearsal

variable [DecidableEq ι]

theorem act_time (settings : EngineSettings) (place : Workplace ι) {cue : Cue ι}
    (still : ∀ time, cue ≠ .wait time) :
    (place.act settings cue).scene.time = place.scene.time := by
  cases cue with
  | wait time => exact absurd rfl (still time)
  | order index operation =>
      unfold act
      dsimp only
      split <;> rfl
  | go index =>
      unfold act
      dsimp only
      split
      · next request _ _ => exact (place.scene.answers_respond request).time
      · rfl
  | refuse index fault =>
      unfold act
      dsimp only
      split <;> rfl

theorem act_go_alone (settings : EngineSettings) (place : Workplace ι) (index : ι)
    (refusable : StoreCall → Prop) :
    place.act settings (.go index) = place ∨
      GoesOn index refusable place (place.act settings (.go index)) := by
  unfold act
  dsimp only
  split
  · next past request next calls =>
      exact Or.inr (.answer calls (place.scene.answers_respond request)
        (place.set_turn _ index _))
  · exact Or.inl rfl

theorem act_refuse_alone (settings : EngineSettings) (place : Workplace ι) (index : ι)
    (fault : Fault) :
    place.act settings (.refuse index fault) = place ∨
      GoesOn index (fun _ => True) place (place.act settings (.refuse index fault)) := by
  unfold act
  dsimp only
  split
  · next calls => exact Or.inr (.refuse trivial calls rfl (place.set_turn _ index _))
  · exact Or.inl rfl

theorem alone_play_cons (settings : EngineSettings) (place : Workplace ι) {index : ι}
    {refusable : StoreCall → Prop} {cue : Cue ι} {rest : List (Cue ι)}
    (first : place.act settings cue = place ∨ GoesOn index refusable place (place.act settings cue))
    (alone : Alone index refusable (place.act settings cue)
      ((place.act settings cue).play settings rest)) :
    Alone index refusable place (place.play settings (cue :: rest)) := by
  rcases first with same | goes
  · show Alone index refusable place ((place.act settings cue).play settings rest)
    rw [same] at alone ⊢
    exact alone
  · exact .head goes alone

theorem alone_play (settings : EngineSettings) (place : Workplace ι) (index : ι)
    (refusable : StoreCall → Prop) (count : Nat) :
    Alone index refusable place (place.play settings (List.replicate count (.go index))) := by
  induction count generalizing place with
  | zero => exact .refl
  | succ count ih =>
      exact alone_play_cons settings place (act_go_alone settings place index refusable) (ih _)

/-- One worker goes on, and the store refuses what it is told to refuse. -/
theorem alone_cues (settings : EngineSettings) (place : Workplace ι) {index : ι}
    {cues : List (Cue ι)}
    (own : ∀ cue ∈ cues, cue = .go index ∨ ∃ fault, cue = .refuse index fault) :
    Alone index (fun _ => True) place (place.play settings cues) := by
  induction cues generalizing place with
  | nil => exact .refl
  | cons cue rest ih =>
      have others := ih (place.act settings cue) fun cue member =>
        own cue (List.mem_cons_of_mem _ member)
      rcases own cue List.mem_cons_self with rfl | ⟨fault, rfl⟩
      · exact alone_play_cons settings place (act_go_alone settings place index _) others
      · exact alone_play_cons settings place (act_refuse_alone settings place index fault) others

end Rehearsal

end Workplace

end ChatFlow
