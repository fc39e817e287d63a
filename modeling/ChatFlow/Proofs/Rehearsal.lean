import ChatFlow.Proofs.Workers
/-
Acting out steps of workers, for runs that can be looked at: the store answers what it answers, and
the services around do what they are asked for and know nothing.
-/

set_option autoImplicit false

namespace ChatFlow

/-- The answer to a call, and the scene afterwards. -/
def Scene.respond (scene : Scene) :
    (request : Call) → Except Fault request.Answer × Scene
  | .store request =>
      let answered := scene.store.answer scene.time request
      (answered.1, { scene with store := answered.2 })
  | .clock => (.ok scene.time, scene)
  | .deliver _ | .sleep _ => (.ok (), scene)
  | .history .. => (.ok [], scene)
  | .complete _ => (.ok .null, scene)
  | .http _ => (.ok ⟨200, "", .null⟩, scene)

theorem Scene.answers_respond (scene : Scene) (request : Call) :
    scene.Answers request (scene.respond request).1 (scene.respond request).2 := by
  cases request with
  | store request => exact ⟨scene.time, rfl, rfl⟩
  | clock => exact ⟨rfl, rfl⟩
  | complete | http | history | deliver | sleep => rfl

/-- What is to happen next: a worker begins an event, is answered, or is refused by the store, or
time passes. -/
inductive Cue (ι : Type) where
  | order (index : ι) (operation : Operation)
  | go (index : ι)
  | refuse (index : ι) (fault : Fault)
  | wait (time : Stamp)

namespace Workplace

variable {ι : Type} [DecidableEq ι]

def set (place : Workplace ι) (scene : Scene) (index : ι) (worker : Worker) : Workplace ι where
  scene := scene
  worker other := if other = index then worker else place.worker other

theorem set_turn (place : Workplace ι) (scene : Scene) (index : ι) (worker : Worker) :
    Turn place (place.set scene index worker) index worker :=
  ⟨if_pos rfl, fun _ apart => if_neg apart⟩

/-- Follows a cue; one that cannot be followed changes nothing. -/
def act (settings : EngineSettings) (place : Workplace ι) : Cue ι → Workplace ι
  | .order index operation =>
      match (place.worker index).rest with
      | .call .. => place
      | _ => place.set place.scene index ⟨[], operation.program settings⟩
  | .go index =>
      match place.worker index with
      | ⟨past, .call request next⟩ =>
          let (reply, later) := place.scene.respond request
          place.set later index ⟨⟨request, reply⟩ :: past, next reply⟩
      | _ => place
  | .refuse index fault =>
      match place.worker index with
      | ⟨past, .call (.store request) next⟩ =>
          place.set place.scene index ⟨⟨.store request, .error fault⟩ :: past, next (.error fault)⟩
      | _ => place
  | .wait time =>
      if time.before? place.scene.time = some false then
        { place with scene := { place.scene with time := time } }
      else place

/-- Follows cues one after the other. -/
def play (settings : EngineSettings) (cues : List (Cue ι)) (place : Workplace ι) : Workplace ι :=
  cues.foldl (act settings) place

variable {settings : EngineSettings} {place : Workplace ι}

/-- Following a cue is a step, unless the cue cannot be followed. -/
theorem act_step (settings : EngineSettings) (place : Workplace ι) (cue : Cue ι) :
    place.act settings cue = place ∨ Step place (place.act settings cue) := by
  cases cue with
  | order index operation =>
      unfold act
      dsimp only
      split
      · exact Or.inl rfl
      · next free =>
          have idle : (place.worker index).IsIdle := by
            unfold Worker.IsIdle
            split
            · next same => exact absurd same (free _ _)
            · trivial
          exact Or.inr (.begin settings operation idle rfl (place.set_turn _ index _))
  | go index =>
      unfold act
      dsimp only
      split
      · next past request next calls =>
          exact Or.inr (.answer calls (place.scene.answers_respond request)
            (place.set_turn _ index _))
      · exact Or.inl rfl
  | refuse index fault =>
      unfold act
      dsimp only
      split
      · next calls => exact Or.inr (.refuse calls rfl (place.set_turn _ index _))
      · exact Or.inl rfl
  | wait time =>
      unfold act
      dsimp only
      split
      · next later => exact Or.inr (.tick later)
      · exact Or.inl rfl

theorem act_go (settings : EngineSettings) {index : ι} {past : EnginePast} {request : Call}
    {next : Except Fault request.Answer → Engine (Option EventReport)}
    (calls : place.worker index = ⟨past, .call request next⟩) :
    place.act settings (.go index) = place.set (place.scene.respond request).2 index
      ⟨⟨request, (place.scene.respond request).1⟩ :: past,
        next (place.scene.respond request).1⟩ := by
  simp only [act, calls]

theorem Reached.act (reached : Reached place) (cue : Cue ι) :
    Reached (place.act settings cue) := by
  rcases act_step settings place cue with same | step
  · rw [same]
    exact reached
  · exact reached.step step

theorem Reached.play (reached : Reached place) (cues : List (Cue ι)) :
    Reached (place.play settings cues) := by
  induction cues generalizing place with
  | nil => exact reached
  | cons cue rest ih => exact ih (reached.act cue)

/-- The session that a worker is about to write, and the revision that it expects. -/
def writing? (worker : Worker) : Option (Session × Int) :=
  match worker.rest with
  | .call (.store (.updateSession session expected)) _ => some (session, expected)
  | _ => none

theorem writing?_eq_some {worker : Worker} {session : Session} {expected : Int}
    (writes : writing? worker = some (session, expected)) :
    ∃ (past : EnginePast) (next : Except Fault (Call.store (.updateSession session expected)).Answer →
        Engine (Option EventReport)),
      worker = ⟨past, .call (.store (.updateSession session expected)) next⟩ := by
  obtain ⟨past, rest⟩ := worker
  unfold writing? at writes
  dsimp only at writes
  split at writes
  · next next =>
      cases writes
      exact ⟨past, next, rfl⟩
  · cases writes

end Workplace

/-! ### A flow that pauses -/

/-- A flow that waits for some seconds and ends. -/
def pausingFlow (seconds : Nat) : Flow where
  id := none
  organization := "org_1"
  name := "pause"
  description := none
  triggerEnabled := false
  keywords := []
  matchMode := .exact
  connections := []
  isActive := true
  isDraft := false
  version := 1
  nodes := [
    ⟨"start", none, Position.origin, .start ⟨[]⟩, []⟩,
    ⟨"pause", none, Position.origin, .delay ⟨seconds, .seconds, false, []⟩, []⟩,
    ⟨"end", none, Position.origin, .finish ⟨[]⟩, []⟩]
  edges := [
    ⟨"e1", "start", "pause", none, none, none, "default", []⟩,
    ⟨"e2", "pause", "end", none, none, none, "default", []⟩]
  lastEditedBy := none
  createdAt := default
  updatedAt := default

def sampleSettings : EngineSettings := ⟨Services.all, 50⟩

/-- The flow is stored, and started by hand on a conversation. -/
def openingCues {ι : Type} (index : ι) (seconds : Nat) : List (Cue ι) :=
  [.order index (.install (pausingFlow seconds)), .go index,
    .order index (.start "org_1" ⟨"flow-0001", "conv_1", none, none, none, []⟩ none)]

def emptyPlace (ι : Type) : Workplace ι := ⟨⟨Store.empty, default⟩, fun _ => Worker.fresh⟩

end ChatFlow
