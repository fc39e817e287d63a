import ChatFlow.Engine.Run
import ChatFlow.Proofs.Clock
import ChatFlow.Proofs.ProgramPast
/-
What warrants a call of the engine. A session is written only after it was read while active, with
the revision that was read; it waits for a timer only after its timer job was stored; a timer job is
marked only after its session was looked at. The rule speaks of what one event has asked and been
told, and not of the store, so that it says the same whoever else writes to the store meanwhile.
-/

set_option autoImplicit false

namespace ChatFlow

/-- A timer job is the one that a session waits for. -/
structure Delay.IsFor (job : Delay) (session : Session) : Prop where
  owner : session.id = some job.session
  place : session.conversation = job.conversation
  node : session.currentNode = job.node
  time : session.resumeAt = some job.resumeAt

/-- A session waits for a timer at a node. -/
structure Session.WaitsAt (session : Session) (conversation node : String) : Prop where
  active : session.isActive = true
  status : session.status = .awaitingTimer
  place : session.conversation = conversation
  node : session.currentNode = node

/-- Whether a call goes to a service, and not to the store or the clock. -/
def Call.isService : Call → Bool
  | .store _ | .clock => false
  | _ => true

def Call.writesSession : Call → Bool
  | .store (.createSession _) | .store (.updateSession ..) => true
  | _ => false

abbrev EnginePast := Program.Past Call.Answer

namespace EnginePast

variable {past later : EnginePast}

/-! ### What an event has been told -/

def Told (past : EnginePast) (request : StoreCall) (answer : request.Answer) : Prop :=
  (⟨.store request, .ok answer⟩ : Program.Answered Call.Answer) ∈ past

def Clocked (past : EnginePast) (now : Stamp) : Prop :=
  (⟨.clock, .ok now⟩ : Program.Answered Call.Answer) ∈ past

/-- A session was read while it was active. -/
inductive Saw (past : EnginePast) : Session → Prop where
  | owner {conversation : String} {found : Session}
      (told : Told past (.activeSession conversation) (some found)) : Saw past found
  | row {id : String} {found : Session} (told : Told past (.getSession id) (some found))
      (active : found.isActive = true) : Saw past found
  | made {given found : Session} (told : Told past (.createSession given) found) : Saw past found

/-- A session may be run: it is new, it waits for the reply at hand, or its timer is due. -/
inductive Movable (past : EnginePast) : Session → Prop where
  | made {given found : Session} (told : Told past (.createSession given) found) :
      Movable past found
  | answered {conversation : String} {found : Session}
      (told : Told past (.activeSession conversation) (some found))
      (waiting : found.status = .awaitingInput) : Movable past found
  | due {id : String} {found : Session} (told : Told past (.getSession id) (some found))
      (active : found.isActive = true) (waiting : found.status = .awaitingTimer)
      (reached : ∀ resumeAt, found.resumeAt = some resumeAt →
        ∃ now, Clocked past now ∧ now.NotBefore resumeAt) : Movable past found

/-- A timer job was stored after a session was read. -/
def Armed (past : EnginePast) (found : Session) (given stored : Delay) : Prop :=
  ∃ earlier : EnginePast, ⟨.store (.saveDelay given), .ok stored⟩ :: earlier <:+ past ∧
    Saw earlier found

def Wrote (past : EnginePast) (id : Option String) : Prop :=
  ∃ session expected stored, Told past (.updateSession session expected) stored ∧ session.id = id

/-- The time for which a session is suspended is none before a reading of the clock that followed
when the session was found fit to be run. -/
def Planned (past : EnginePast) (found : Session) (resumeAt : Stamp) : Prop :=
  ∃ (now : Stamp) (earlier : EnginePast), ⟨.clock, .ok now⟩ :: earlier <:+ past ∧
    Movable earlier found ∧ resumeAt.NotBefore now

def Ended (past : EnginePast) (id : Option String) : Prop :=
  ∃ session expected stored, Told past (.updateSession session expected) stored ∧
    session.isActive = false ∧ stored.id = id

/-- A timer job was among those that were due. -/
def Listed (past : EnginePast) (job : Delay) : Prop :=
  ∃ (now : Stamp) (jobs : List Delay), Told past (.pendingDelays now) jobs ∧ job ∈ jobs

/-- The session of a timer job was looked at, and did not wait at the node of the job, or not for a
time that had come, or was written. -/
inductive Handled (past : EnginePast) (conversation session node : String) : Prop where
  | missing (told : Told past (.getSession session) none)
  | elsewhere {found : Session} (told : Told past (.getSession session) (some found))
      (apart : found.conversation ≠ conversation ∨ found.isActive = false ∨
        found.status ≠ .awaitingTimer ∨ found.currentNode ≠ node)
  | early {found : Session} {resumeAt now : Stamp}
      (told : Told past (.getSession session) (some found))
      (later : found.resumeAt = some resumeAt) (clocked : Clocked past now)
      (ahead : now.Before resumeAt)
  | moved {found : Session} (told : Told past (.getSession session) (some found))
      (wrote : Wrote past found.id)

/-- A session was read, and no session has been written since. -/
def Fresh (past : EnginePast) (found : Session) : Prop :=
  ∃ (id : String) (since earlier : EnginePast),
    past = since ++ ⟨.store (.getSession id), .ok (some found)⟩ :: earlier ∧
      ∀ entry ∈ since, entry.request.writesSession = false

def Denied (past : EnginePast) : Prop :=
  ∃ (request : Call) (fault : Fault),
    (⟨request, .error fault⟩ : Program.Answered Call.Answer) ∈ past ∧ request.isService = false

/-- A value is as asserted, and for a failure the store or the clock is to blame. -/
def orDenied {α : Type} (good : EnginePast → α → Prop) (past : EnginePast) : Except Fault α → Prop
  | .ok value => good past value
  | .error _ => Denied past

/-! ### What a longer past knows -/

theorem Told.grow {request : StoreCall} {answer : request.Answer}
    (told : Told past request answer) (grown : past <:+ later) : Told later request answer :=
  grown.mem told

theorem Clocked.grow {now : Stamp} (clocked : Clocked past now) (grown : past <:+ later) :
    Clocked later now :=
  grown.mem clocked

theorem Saw.grow {found : Session} (saw : Saw past found) (grown : past <:+ later) :
    Saw later found := by
  cases saw with
  | owner told => exact .owner (told.grow grown)
  | row told active => exact .row (told.grow grown) active
  | made told => exact .made (told.grow grown)

theorem Movable.saw {found : Session} (movable : Movable past found) : Saw past found := by
  cases movable with
  | made told => exact .made told
  | answered told => exact .owner told
  | due told active => exact .row told active

theorem Movable.grow {found : Session} (movable : Movable past found) (grown : past <:+ later) :
    Movable later found := by
  cases movable with
  | made told => exact .made (told.grow grown)
  | answered told waiting => exact .answered (told.grow grown) waiting
  | due told active waiting reached =>
      refine .due (told.grow grown) active waiting fun resumeAt known => ?_
      obtain ⟨now, clocked, due⟩ := reached resumeAt known
      exact ⟨now, clocked.grow grown, due⟩

theorem Armed.told {found : Session} {given stored : Delay}
    (armed : Armed past found given stored) : Told past (.saveDelay given) stored := by
  obtain ⟨earlier, saved, _saw⟩ := armed
  exact saved.mem List.mem_cons_self

theorem Armed.saw {found : Session} {given stored : Delay}
    (armed : Armed past found given stored) : Saw past found := by
  obtain ⟨earlier, saved, saw⟩ := armed
  exact saw.grow ((List.suffix_cons _ earlier).trans saved)

theorem Planned.grow {found : Session} {resumeAt : Stamp}
    (planned : Planned past found resumeAt) (grown : past <:+ later) :
    Planned later found resumeAt := by
  obtain ⟨now, earlier, clocked, movable, ahead⟩ := planned
  exact ⟨now, earlier, clocked.trans grown, movable, ahead⟩

theorem Wrote.grow {id : Option String} (wrote : Wrote past id) (grown : past <:+ later) :
    Wrote later id := by
  obtain ⟨session, expected, stored, told, same⟩ := wrote
  exact ⟨session, expected, stored, told.grow grown, same⟩

theorem Listed.grow {job : Delay} (listed : Listed past job) (grown : past <:+ later) :
    Listed later job := by
  obtain ⟨now, jobs, told, member⟩ := listed
  exact ⟨now, jobs, told.grow grown, member⟩

theorem Denied.grow (denied : Denied past) (grown : past <:+ later) : Denied later := by
  obtain ⟨request, fault, member, kind⟩ := denied
  exact ⟨request, fault, grown.mem member, kind⟩

/-! ### Pasts that know no more -/

/-- Every answer of one past was given in another one, after the same calls. -/
structure Fewer (later past : EnginePast) : Prop where
  given : ∀ {request : Call} {value : request.Answer} {earlier : EnginePast},
    ⟨request, .ok value⟩ :: earlier <:+ later → ⟨request, .ok value⟩ :: earlier <:+ past

namespace Fewer

theorem refl (past : EnginePast) : Fewer past past := ⟨id⟩

theorem nothing (past : EnginePast) : Fewer [] past :=
  ⟨fun given => by cases List.suffix_nil.mp given⟩

theorem refused (past : EnginePast) (request : StoreCall) (fault : Fault) :
    Fewer (⟨.store request, .error fault⟩ :: past) past := by
  constructor
  intro _ _ _ given
  rcases List.suffix_cons_iff.mp given with head | tail
  · cases head
  · exact tail

variable (fewer : Fewer later past)
include fewer

theorem member {request : Call} {value : request.Answer}
    (given : (⟨request, .ok value⟩ : Program.Answered Call.Answer) ∈ later) :
    (⟨request, .ok value⟩ : Program.Answered Call.Answer) ∈ past := by
  obtain ⟨after, earlier, parts⟩ := List.append_of_mem given
  exact (fewer.given ⟨after, parts.symm⟩).mem List.mem_cons_self

theorem told {request : StoreCall} {answer : request.Answer} (told : Told later request answer) :
    Told past request answer :=
  fewer.member told

theorem clocked {now : Stamp} (clocked : Clocked later now) : Clocked past now :=
  fewer.member clocked

theorem armed {found : Session} {given stored : Delay} (armed : Armed later found given stored) :
    Armed past found given stored := by
  obtain ⟨earlier, saved, saw⟩ := armed
  exact ⟨earlier, fewer.given saved, saw⟩

theorem listed {job : Delay} (listed : Listed later job) : Listed past job := by
  obtain ⟨now, jobs, told, member⟩ := listed
  exact ⟨now, jobs, fewer.told told, member⟩

theorem saw {found : Session} (saw : Saw later found) : Saw past found := by
  cases saw with
  | owner told => exact .owner (fewer.told told)
  | row told active => exact .row (fewer.told told) active
  | made told => exact .made (fewer.told told)

end Fewer

/-! ### The rule -/

/-- A session is written in place of one that was read. It goes on only if it may, and is ended from
outside only as cancelled or when it was left behind running. -/
structure Rewrites (past : EnginePast) (found session : Session) (expected : Int) : Prop where
  saw : Saw past found
  id : session.id = found.id
  place : session.conversation = found.conversation
  revision : expected = found.revision
  armed : session.isActive = true → session.status = .awaitingTimer →
    ∃ given stored, Armed past found given stored ∧ given.IsFor session ∧
      Planned past found given.resumeAt
  reason : Movable past found ∨ ∃ status reason now,
    session = Run.ended found status reason now ∧
      (status = .cancelled ∨ found.status = .running)

/-- Whether a past warrants a call of an event. -/
def Warranted (past : EnginePast) : Call → Prop
  | .store (.createSession session) =>
      session.isActive = true ∧ session.status = .running ∧ session.revision = 0
  | .store (.updateSession session expected) => ∃ found, Rewrites past found session expected
  | .store (.saveDelay job) => job.processed = false ∧
      ∃ found, Movable past found ∧ found.id = some job.session ∧ Planned past found job.resumeAt
  | .store (.pendingDelays now) => past = [⟨.clock, .ok now⟩]
  | .store (.markDelay id) => ∃ job, Listed past job ∧ id = job.id.getD "None" ∧
      Handled past job.conversation job.session job.node
  | .store (.markSessionDelays id) => Ended past id
  | .store (.saveLogs rows) => ∀ row ∈ rows, row.kind = .nodeStart →
      ∃ found, Movable past found ∧ row.session = found.id
  | .store (.deleteLogs ..) => False
  | _ => True

end EnginePast

end ChatFlow
