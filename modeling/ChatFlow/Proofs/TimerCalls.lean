import ChatFlow.Proofs.EventWarrant
/-
The calls of timer events. A timer event reads a session by its identifier, and writes it only while
nothing else was written since; it meets a conflict only where the store or the clock failed. A poll
deals with every job that it lists.
-/

set_option autoImplicit false

namespace ChatFlow

open Program EnginePast

/-! ### Kinds of calls -/

namespace Call

def isLook : Call → Bool
  | .store (.getSession _) | .clock => true
  | _ => false

def isOfPoll : Call → Bool
  | .store (.getSession _) | .clock | .store (.pendingDelays _) | .store (.markDelay _) => true
  | _ => false

/-- Whether timer events make calls of this kind. -/
def isOfTimers : Call → Bool
  | .store request =>
      match request with
      | .getSession _ | .getFlow _ | .pendingDelays _ | .saveDelay _ | .updateSession .. |
        .markDelay _ | .markSessionDelays _ | .saveLogs _ => true
      | _ => false
  | _ => true

theorem writesSession_of_isStore {request : Call} (service : request.isStore = false) :
    request.writesSession = false := by
  cases request with
  | store request => cases service
  | clock | complete | http | history | deliver | sleep => rfl

end Call

namespace EnginePast

variable {past later : EnginePast}

/-- A call by which jobs are looked at or marked has failed. -/
def Unanswered (past : EnginePast) : Prop :=
  ∃ (request : Call) (fault : Fault),
    (⟨request, .error fault⟩ : Program.Answered Call.Answer) ∈ past ∧ request.isOfPoll = true

theorem Unanswered.grow (failed : Unanswered past) (grown : past <:+ later) : Unanswered later := by
  obtain ⟨request, fault, member, kind⟩ := failed
  exact ⟨request, fault, grown.mem member, kind⟩

theorem Fresh.extend {found : Session} (fresh : Fresh past found)
    (since : ∃ since, later = since ++ past ∧ ∀ entry ∈ since, entry.request.writesSession = false) :
    Fresh later found := by
  obtain ⟨id, between, earlier, parts, quiet⟩ := fresh
  obtain ⟨after, same, calm⟩ := since
  refine ⟨id, after ++ between, earlier, by rw [same, parts, List.append_assoc], ?_⟩
  intro entry member
  rcases List.mem_append.mp member with new | old
  · exact calm entry new
  · exact quiet entry old

theorem Fresh.add {found : Session} (fresh : Fresh past found) {request : Call}
    (reply : Except Fault request.Answer) (quiet : request.writesSession = false) :
    Fresh (⟨request, reply⟩ :: past) found := by
  refine fresh.extend ⟨[⟨request, reply⟩], rfl, ?_⟩
  intro entry member
  rw [List.mem_singleton.mp member]
  exact quiet

/-- The rule of timer events: a session is written in place of the one that was read just before. -/
def OfTimer (past : EnginePast) : Call → Prop
  | .store (.updateSession session expected) => ∃ found, Movable past found ∧ Fresh past found ∧
      session.id = found.id ∧ session.conversation = found.conversation ∧
      expected = found.revision
  | request => request.isOfTimers = true

theorem ofTimer_of_isStore (past : EnginePast) (request : Call)
    (service : request.isStore = false) : OfTimer past request := by
  cases request with
  | store request => cases service
  | clock | complete | http | history | deliver | sleep => rfl

theorem OfTimer.isOfTimers {request : Call} (allowed : OfTimer past request) :
    request.isOfTimers = true := by
  unfold OfTimer at allowed
  split at allowed
  · rfl
  · exact allowed

/-- A conflict comes from a call that failed. -/
def Excused {α : Type} (past : EnginePast) : Except Fault α → Prop
  | .ok _ => True
  | .error fault => fault.isConflict = true → Denied past

theorem excused_of_orDenied {α : Type} {good : EnginePast → α → Prop} {result : Except Fault α}
    (known : orDenied good past result) : Excused past result := by
  cases result with
  | ok value => trivial
  | error fault => exact fun _ => known

end EnginePast

/-! ### Programs whose conflicts are excused -/

section Excused

variable {α β : Type} {rule : EnginePast → Call → Prop} {past : EnginePast}

theorem excused_bind {first : Engine β} {next : β → Engine α}
    (follows : Follows rule Excused first past)
    (rest : ∀ value later, past <:+ later → Follows rule Excused (next value) later) :
    Follows rule Excused (first >>= next) past :=
  follows.bind (fun value later grown _ => rest value later grown) fun _ _ _ known => known

theorem excused_store {request : StoreCall} (allowed : rule past (.store request)) :
    Follows rule Excused (Engine.store request) past :=
  (asked_follows allowed rfl).weaken fun _ _ _ known => excused_of_orDenied known

end Excused

/-! ### Runs -/

namespace Run

variable {found : Session} {past : EnginePast}

theorem finish_ofTimer (movable : Movable past found) (fresh : Fresh past found)
    (progress : Progress) (outcome : Outcome) (reason : String) (subject : TraceSubject)
    (now : Stamp) :
    Follows OfTimer Excused
      (commit.finish progress (placed found progress) outcome reason subject now) past := by
  unfold commit.finish
  have writing : OfTimer past (.store (.updateSession
      (ended (placed found progress) outcome.sessionStatus reason now) found.revision)) :=
    ⟨found, movable, fresh, rfl, rfl, rfl⟩
  refine excused_bind (excused_store writing) fun stored later _ => ?_
  have closing : OfTimer later (.store (.markSessionDelays stored.id)) := rfl
  refine excused_bind ((excused_store closing).discards (fun _ _ _ => trivial) fun _ _ known => known)
    fun _ _ _ => Follows.done trivial

theorem commit_ofTimer (movable : Movable past found) (fresh : Fresh past found)
    (decision : Decision) (progress : Progress) :
    Follows OfTimer Excused (commit found decision progress) past := by
  unfold commit
  dsimp only
  have looking : OfTimer past .clock := rfl
  refine (@asked_follows _ past .clock looking rfl).bind (fun now later grown told => ?_)
    fun _ _ _ denied _ => denied
  have ready := movable.grow grown
  have still : Fresh later found := told ▸ fresh.add (.ok now) rfl
  cases decision with
  | terminate outcome reason => exact finish_ofTimer ready still progress outcome reason _ now
  | advance target handle => exact finish_ofTimer ready still progress .failed "" _ now
  | awaitInput kind =>
      have writing : OfTimer later (.store (.updateSession
          { placed found progress with status := .awaitingInput, resumeAt := none }
          found.revision)) :=
        ⟨found, ready, still, rfl, rfl, rfl⟩
      exact excused_bind (excused_store writing) fun _ _ _ => Follows.done trivial
  | suspend resumeAt =>
      have made : Follows OfTimer (fun last result => last = later ∧
          timerJob (placed found progress) progress.node resumeAt now = result)
          (Program.ofExcept (timerJob (placed found progress) progress.node resumeAt now))
          later := Follows.ofExcept ⟨rfl, rfl⟩
      refine made.bind (fun job last _ given => ?_) fun fault last _ given => ?_
      · obtain ⟨rfl, built⟩ := given
        have saving : OfTimer last (.store (.saveDelay job)) := rfl
        have saved : Follows OfTimer
            (orDenied fun after _ => ∃ stored, after = ⟨.store (.saveDelay job), .ok stored⟩ :: last)
            (discard (Engine.store (.saveDelay job))) last :=
          (asked_follows saving rfl).discards (fun stored _ told => ⟨stored, told⟩)
            fun _ _ denied => denied
        refine saved.bind (fun _ after more known => ?_) fun _ _ _ denied _ => denied
        obtain ⟨stored, told⟩ := known
        have writing : OfTimer after (.store (.updateSession
            { placed found progress with status := .awaitingTimer, resumeAt := some resumeAt }
            found.revision)) :=
          ⟨found, ready.grow more, told ▸ still.add (.ok stored) rfl, rfl, rfl, rfl⟩
        exact excused_bind (excused_store writing) fun _ _ _ => Follows.done trivial
      · intro conflict
        have failed := given.2
        unfold timerJob at failed
        split at failed
        · cases failed
          cases conflict
        · cases failed

/-- A run that starts while its session is as it was read makes the calls of timers. -/
theorem run_ofTimer (movable : Movable past found) (fresh : Fresh past found)
    (settings : EngineSettings) (inboundText : Option String) (isResume : Bool) :
    Follows OfTimer Excused (run settings found inboundText isResume none) past := by
  unfold run
  extract_lets proceed
  have fetching : OfTimer past (.store (.getFlow found.flow)) := rfl
  refine (@asked_follows _ past (.store (.getFlow found.flow)) fetching rfl).bind
    (fun flow later grown told => ?_) fun _ _ _ denied _ => denied
  have ready := movable.grow grown
  have still : Fresh later found := told ▸ fresh.add (.ok flow) rfl
  have decided := @decide_follows settings found flow inboundText isResume later
  have quiet := decided.since fun _ _ service => Call.writesSession_of_isStore service
  refine (quiet.loosen ofTimer_of_isStore).bind (fun reached after more known => ?_)
    fun _ _ _ known _ => known.1
  obtain ⟨decision, progress⟩ := reached
  refine (commit_ofTimer (ready.grow more) (still.extend known.2) decision progress).outcome.bind
    (fun result last _ known => ?_) fun _ _ _ known => known.elim
  have keeping (rows : List LogEntry) (later : EnginePast) :
      OfTimer later (.store (.saveLogs rows)) := rfl
  cases result with
  | error fault =>
      refine (flush_follows (keeping _ last)).bind (fun _ final farther _ => Follows.fail ?_)
        fun _ _ _ known => known.elim
      exact fun conflict => (known conflict).grow farther
  | ok stored =>
      refine ((Effect.dispatchAll_always _ _ _ last).loosen ofTimer_of_isStore).bind
        (fun _ sent _ _ => ?_) fun _ _ _ known => known.elim
      exact (flush_follows (keeping _ sent)).bind (fun _ _ _ _ => Follows.done trivial)
        fun _ _ _ known => known.elim

end Run

/-! ### Timer events -/

namespace Event

variable {settings : EngineSettings} {past : EnginePast}

/-- A past has only been added to by looking at sessions and at the clock. -/
def Looked (past later : EnginePast) : Prop :=
  ∃ since, later = since ++ past ∧ ∀ entry ∈ since, entry.request.isLook = true

theorem Looked.add {later : EnginePast} (looked : Looked past later) {request : Call}
    (reply : Except Fault request.Answer) (look : request.isLook = true) :
    Looked past (⟨request, reply⟩ :: later) := by
  obtain ⟨since, same, looks⟩ := looked
  refine ⟨⟨request, reply⟩ :: since, by rw [same]; rfl, ?_⟩
  intro entry member
  rcases List.mem_cons.mp member with new | old
  · rw [new]
    exact look
  · exact looks entry old

/-- The session was read while it waited at the node, or a look at it failed. -/
def Waited (past : EnginePast) (session conversation node : String) : Prop :=
  (∃ found, Told past (.getSession session) (some found) ∧ found.WaitsAt conversation node) ∨
    Unanswered past

theorem Waited.grow {later : EnginePast} {session conversation node : String}
    (waited : Waited past session conversation node) (grown : past <:+ later) :
    Waited later session conversation node := by
  rcases waited with ⟨found, told, waits⟩ | failed
  · exact Or.inl ⟨found, told.grow grown, waits⟩
  · exact Or.inr (failed.grow grown)

/-- How a timer event ends. If it is ignored, it has only looked, unless the store failed; if there
was a conflict or a failure, its session was waiting. -/
def TimerEnd (past : EnginePast) (conversation session node : String) (later : EnginePast) :
    Except Fault EventReport → Prop
  | .ok report => (report.status = .ignored → Denied later ∨ Looked past later) ∧
      (report.status = .conflict → Waited later session conversation node)
  | .error fault => (fault.isConflict = true → Denied later) ∧
      Waited later session conversation node

theorem resume_ofTimer (conversation session node : String) (past : EnginePast) :
    Follows OfTimer (TimerEnd past conversation session node)
      (resume settings conversation session node) past := by
  have task : TimerTask OfTimer (fun later => Denied later ∨ Looked past later)
      (TimerEnd past conversation session node) settings conversation session node := {
    asks := fun _ => rfl
    looks := fun _ => rfl
    read := fun {later} reply ready => by
      rcases ready with denied | looked
      · exact Or.inl (denied.grow (List.suffix_cons _ later))
      · exact Or.inr (looked.add reply rfl)
    clocked := fun {later} reply ready => by
      rcases ready with denied | looked
      · exact Or.inl (denied.grow (List.suffix_cons _ later))
      · exact Or.inr (looked.add reply rfl)
    unread := fun {later fault} => by
      refine ⟨fun _ => ⟨_, fault, List.mem_cons_self, rfl⟩, Or.inr ?_⟩
      exact ⟨_, fault, List.mem_cons_self, rfl⟩
    untimed := fun {later fault} => by
      refine ⟨fun _ => ⟨.clock, fault, List.mem_cons_self, rfl⟩, Or.inr ?_⟩
      exact ⟨.clock, fault, List.mem_cons_self, rfl⟩
    idle := fun {later report} ready ignored _ => by
      refine ⟨fun _ => ready, fun conflict => ?_⟩
      rw [ignored] at conflict
      cases conflict
    mixed := fun {later found} told waits => by
      refine ⟨fun conflict => ?_, Or.inl ⟨found, told, waits⟩⟩
      cases conflict
    moves := fun {later found} _ fresh told waits movable => by
      have calls := (Run.run_ofTimer movable fresh settings none true).both
        (Run.run_follows movable settings none true none)
      have waited (last : EnginePast) (grown : later <:+ last) :
          Waited last session conversation node := Or.inl ⟨found, told.grow grown, waits⟩
      refine (calls.loosen fun _ _ allowed => allowed.1).weaken fun last result grown known => ?_
      cases result with
      | ok report =>
          refine ⟨fun ignored => absurd ignored known.2.2, fun _ => waited last grown⟩
      | error fault => exact ⟨known.1, waited last grown⟩
    again := fun later fault conflict known => by
      refine ⟨Or.inl (known.1 conflict), ?_, fun _ => known.2⟩
      intro ignored
      cases ignored }
  exact task.follows (Or.inr ⟨[], rfl, fun _ member => nomatch member⟩)

end Event

/-! ### Polls -/

namespace Timer

variable {settings : EngineSettings} {past : EnginePast}

/-- A job was marked, or its session was read while it waited at the node of the job, or a look at
it failed. -/
inductive Dealt (past : EnginePast) (job : Delay) : Prop where
  | marked {answer : Bool} (told : Told past (.markDelay (job.id.getD "None")) answer)
  | waited (waited : Event.Waited past job.session job.conversation job.node)

theorem Dealt.grow {later : EnginePast} {job : Delay} (dealt : Dealt past job)
    (grown : past <:+ later) : Dealt later job := by
  cases dealt with
  | marked told => exact .marked (told.grow grown)
  | waited waited => exact .waited (waited.grow grown)

theorem handle_ofTimer (job : Delay) (past : EnginePast) :
    Follows OfTimer (fun later _ => Dealt later job) (handle settings job) past := by
  unfold handle
  refine (Event.resume_ofTimer job.conversation job.session job.node past).bind
    (fun report later _ known => ?_) fun _ _ _ known => .waited known.2
  split
  · next conflict => exact Follows.done (.waited (known.2 conflict))
  · have marking : OfTimer later (.store (.markDelay (job.id.getD "None"))) := rfl
    have marked : Follows OfTimer (fun last _ => Dealt last job)
        (discard (Engine.store (.markDelay (job.id.getD "None")))) later := by
      refine (Follows.perform marking).discards (fun answer last told => ?_) fun fault last told => ?_
      · exact @Dealt.marked last job answer (told ▸ List.mem_cons_self)
      · exact .waited (Or.inr ⟨_, fault, told ▸ List.mem_cons_self, rfl⟩)
    exact marked.bind (fun _ _ _ dealt => Follows.done dealt) fun _ _ _ dealt => dealt

theorem handleEach_ofTimer (jobs : List Delay) (past : EnginePast) :
    Follows OfTimer (fun later _ => ∀ job ∈ jobs, Dealt later job) (handleEach settings jobs)
      past := by
  induction jobs generalizing past with
  | nil => exact Follows.done fun _ member => nomatch member
  | cons job rest ih =>
      unfold handleEach
      refine (handle_ofTimer job past).outcome.bind (fun handled later _ dealt => ?_)
        fun _ _ _ known => known.elim
      have all (last : EnginePast) (grown : later <:+ last)
          (others : ∀ other ∈ rest, Dealt last other) : ∀ other ∈ job :: rest, Dealt last other := by
        intro other member
        rcases List.mem_cons.mp member with same | tail
        · rw [same]
          exact Dealt.grow dealt grown
        · exact others other tail
      refine (ih later).bind (fun count last grown others => ?_)
        fun _ last grown others => all last grown others
      split
      · exact Follows.done (all last grown others)
      · exact Follows.done (all last grown others)

/-- A poll deals with the jobs that it was told of, if it was told of any. -/
theorem poll_ofTimer (past : EnginePast) :
    Follows OfTimer
      (fun later _ => Unanswered later ∨ ∃ (now : Stamp) (jobs : List Delay),
        Told later (.pendingDelays now) jobs ∧ ∀ job ∈ jobs, Dealt later job)
      (poll settings) past := by
  unfold poll
  have looking : OfTimer past .clock := rfl
  refine (Follows.perform looking).bind (fun now later _ told => ?_) fun fault later _ told => ?_
  · have listing : OfTimer later (.store (.pendingDelays now)) := rfl
    refine (Follows.perform listing).bind (fun jobs last _ told => ?_) fun fault last _ told => ?_
    · refine (handleEach_ofTimer jobs last).weaken fun final _ grown dealt => Or.inr ?_
      have listed : Told last (.pendingDelays now) jobs := told ▸ List.mem_cons_self
      exact ⟨now, jobs, listed.grow grown, dealt⟩
    · exact Or.inl ⟨.store (.pendingDelays now), fault, told ▸ List.mem_cons_self, rfl⟩
  · exact Or.inl ⟨.clock, fault, told ▸ List.mem_cons_self, rfl⟩

end Timer

end ChatFlow
