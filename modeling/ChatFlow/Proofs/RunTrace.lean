import ChatFlow.Proofs.TimerCalls
/-
The trace of a run. Whatever becomes of a run, the node at which it begins is on record for its
session when it ends, unless the store or the clock has failed.
-/

set_option autoImplicit false

namespace ChatFlow

open Program EnginePast

/-- The store was asked to keep a row on the begin of a node for a session. -/
def EnginePast.Logged (past : EnginePast) (session : Session) : Prop :=
  ∃ (rows : List LogEntry) (reply : Except Fault Unit),
    (⟨.store (.saveLogs rows), reply⟩ : Program.Answered Call.Answer) ∈ past ∧
      ∃ row ∈ rows, row.kind = .nodeStart ∧ row.session = session.id

namespace Run

variable {settings : EngineSettings} {session : Session}

theorem flush_logged {rows : List LogEntry} (past : EnginePast)
    (began : ∃ row ∈ rows, row.kind = .nodeStart ∧ row.session = session.id) :
    Follows (fun _ _ => True) (always fun later _ => Logged later session) (Engine.flush rows)
      past := by
  refine (@flush_follows _ past rows trivial).weaken fun later result _ known => ?_
  cases result with
  | error fault => exact known.elim
  | ok done =>
      rcases known with empty | ⟨reply, told⟩
      · obtain ⟨row, member, _⟩ := began
        rw [empty] at member
        cases member
      · exact ⟨rows, reply, told ▸ List.mem_cons_self, began⟩

/-- The flow that was read for a session is missing, or lacks the node where the session stands. -/
def Lost (past : EnginePast) (session : Session) : Prop :=
  ∃ stored : Option Flow, Told past (.getFlow session.flow) stored ∧
    ∀ given, stored = some given → (given.node? session.currentNode).isSome = false

/-- A run that begins at a node of its flow has put that on record when it ends. -/
theorem run_logged (flow : Option Flow) (inboundText : Option String) (isResume : Bool)
    (here : ∀ given, flow = some given → (given.node? session.currentNode).isSome = true)
    (past : EnginePast) :
    Follows (fun _ _ => True)
      (fun later _ => Logged later session ∨ Denied later ∨ Lost later session)
      (run settings session inboundText isResume flow) past := by
  unfold run
  extract_lets proceed
  have rest (given : Flow) (later : EnginePast)
      (present : (given.node? session.currentNode).isSome = true) :
      Follows (fun _ _ => True)
        (fun last _ => Logged last session ∨ Denied last ∨ Lost last session)
        (proceed (some given)) later := by
    have decided := @decide_follows settings session (some given) inboundText isResume later
    refine (decided.loosen fun _ _ _ => trivial).bind (fun reached last _ visited => ?_)
      fun _ _ _ denied => Or.inr (Or.inl denied)
    obtain ⟨decision, progress⟩ := reached
    obtain ⟨row, member, about⟩ := Visited.began visited ⟨given, rfl, present⟩
    have committed : Follows (fun _ _ => True) (always fun _ (_ : Except Fault Commit) => True)
        (Program.outcome (commit session decision progress)) last :=
      Follows.outcome (Follows.unruled fun _ _ _ => trivial)
    refine committed.bind (fun result after _ _ => ?_) fun _ _ _ known => known.elim
    cases result with
    | error fault =>
        refine (flush_logged after ⟨row, member, about⟩).bind (fun _ final _ logged => ?_)
          fun _ _ _ known => known.elim
        exact Follows.fail (Or.inl logged)
    | ok stored =>
        have dispatched := (Effect.dispatchAll_always session.organization session.conversation
          progress.effects after).loosen fun _ _ _ => trivial
        refine dispatched.bind (fun _ sent _ _ => ?_) fun _ _ _ known => known.elim
        refine (flush_logged sent ⟨row, List.mem_append_left _ member, about⟩).bind
          (fun _ final _ logged => ?_) fun _ _ _ known => known.elim
        exact Follows.done (Or.inl logged)
  cases flow with
  | some given => exact rest given past (here given rfl)
  | none =>
      have asked : Follows (fun _ _ => True)
          (fun later reply => later = ⟨.store (.getFlow session.flow), reply⟩ :: past)
          (Engine.store (.getFlow session.flow)) past := Follows.perform trivial
      refine asked.bind (fun stored later _ told => ?_) fun fault later _ told => ?_
      · have told : Told later (.getFlow session.flow) stored := told ▸ List.mem_cons_self
        have lost (lacks : ∀ given, stored = some given →
            (given.node? session.currentNode).isSome = false) :
            Follows (fun _ _ => True)
              (fun last _ => Logged last session ∨ Denied last ∨ Lost last session)
              (proceed stored) later :=
          Follows.unruled fun last _ grown => Or.inr (Or.inr ⟨stored, told.grow grown, lacks⟩)
        cases stored with
        | none =>
            refine lost fun given same => ?_
            cases same
        | some given =>
            cases present : (given.node? session.currentNode).isSome with
            | true => exact rest given later present
            | false =>
                refine lost fun other same => ?_
                cases same
                exact present
      · exact Or.inr (Or.inl ⟨_, fault, told ▸ List.mem_cons_self, rfl⟩)

end Run

end ChatFlow
