import ChatFlow.Proofs.FlowRows
/-
How the management of flows writes graphs. A graph is replaced only after the flow was read, and
after a snapshot of what was read has been filed; settings leave graphs alone, and new flows are of
the first version. A save replaces one graph, as its last call, or none when it fails.
-/

set_option autoImplicit false

namespace ChatFlow

open Program EnginePast

/-! ### Replacements in a past -/

/-- The flow and the version whose graph was replaced, if an answer tells of one. -/
def replacement? : Answered Call.Answer → Option (String × Int)
  | ⟨.store (.replaceGraph id expected ..), .ok (some _)⟩ => some (id, expected)
  | _ => none

namespace EnginePast

/-- The versions of a flow whose graphs were replaced, the latest first. -/
def replacements (past : EnginePast) (id : String) : List Int :=
  past.filterMap fun entry =>
    (replacement? entry).bind fun replaced => if replaced.1 = id then some replaced.2 else none

def Unreplaced (past : EnginePast) : Prop := ∀ entry ∈ past, replacement? entry = none

variable {past : EnginePast} {entry : Answered Call.Answer} {id : String}

theorem replacements_cons_none (untold : replacement? entry = none) (id : String) :
    replacements (entry :: past) id = past.replacements id :=
  List.filterMap_cons_none (by rw [untold]; rfl)

theorem replacements_cons_own {expected : Int} (told : replacement? entry = some (id, expected)) :
    replacements (entry :: past) id = expected :: past.replacements id :=
  List.filterMap_cons_some (by rw [told]; exact if_pos rfl)

theorem replacements_cons_other {other : String} {expected : Int}
    (told : replacement? entry = some (other, expected)) (apart : other ≠ id) :
    replacements (entry :: past) id = past.replacements id :=
  List.filterMap_cons_none (by rw [told]; exact if_neg apart)

theorem Unreplaced.replacements (unreplaced : past.Unreplaced) (id : String) :
    past.replacements id = [] :=
  List.filterMap_eq_nil_iff.mpr fun entry member => by rw [unreplaced entry member]; rfl

theorem Unreplaced.nothing : Unreplaced [] := fun _ member => nomatch member

theorem Unreplaced.add (unreplaced : past.Unreplaced) (untold : replacement? entry = none) :
    Unreplaced (entry :: past) := by
  intro other member
  rcases List.mem_cons.mp member with same | earlier
  · exact same ▸ untold
  · exact unreplaced other earlier

/-- One graph was replaced, in the version in which its flow had been read before. -/
def ReplacesOnce (past : EnginePast) (id : String) : Prop :=
  ∃ organization flow, Told past (.getOwnedFlow organization id) (some flow) ∧
    past.replacements id = [flow.version] ∧ ∀ other, other ≠ id → past.replacements other = []

end EnginePast

/-! ### What each event may write -/

namespace Operation

/-- The flow whose graph an event saves. -/
def saves? : Operation → Option String
  | .saveCanvas _ id .. | .restore _ id .. => some id
  | _ => none

/-- An event that makes a new flow for a caller. -/
def FoundsFlow : Operation → Prop
  | .create .. | .duplicate .. => True
  | _ => False

/-- What an event may ask of the store about flows and their graphs. -/
def Edits (operation : Operation) (past : EnginePast) : Call → Prop
  | .store (.createFlow flow) => operation.FoundsFlow → flow.version = 1
  | .store (.updateFlow _ _ settings) => KeepsGraph settings
  | .store (.saveVersion version) => ∃ organization id flow editor now,
      Told past (.getOwnedFlow organization id) (some flow) ∧
        version = Management.snapshot id flow editor now
  | .store (.replaceGraph id expected ..) => operation.saves? = some id ∧
      ∃ organization flow editor now kept,
        Told past (.getOwnedFlow organization id) (some flow) ∧ flow.version = expected ∧
        Told past (.saveVersion (Management.snapshot id flow editor now)) kept
  | _ => True

end Operation

section

variable {operation : Operation} {past : EnginePast} {settings : EngineSettings}

theorem edits_of_sparesFlows (past : EnginePast) (request : Call)
    (spares : SparesFlows past request) : operation.Edits past request := by
  cases request with
  | store request => cases request <;> trivial
  | _ => trivial

namespace Management

theorem shows_edits (organization id : String) : Shows operation.Edits organization id :=
  ⟨fun _ => trivial, fun _ => trivial, fun _ _ => trivial⟩

theorem founds_edits : Founds operation.Edits := fun _ _ founded _ => founded.first

theorem releases_edits (hasEngine : Bool) (organization id : String) :
    Releases operation.Edits hasEngine organization id := by
  intro past flow reason _
  unfold cancelSessions
  split
  · exact Keeps.discarded
      ((Event.cancelFlowSessions_sparesFlows id reason past).loosen edits_of_sparesFlows)
  · exact Follows.done trivial

end Management

/-! ### A save replaces once -/

/-- What a save may ask of the store: nothing any more once it has replaced a graph. -/
def Operation.Saving (operation : Operation) (past : EnginePast) (request : Call) : Prop :=
  operation.Edits past request ∧ past.Unreplaced

/-- Nothing has been replaced yet, and a value is as asserted. -/
def whileUnreplaced {α : Type} (good : EnginePast → α → Prop) (past : EnginePast) :
    Except Fault α → Prop
  | .ok value => past.Unreplaced ∧ good past value
  | .error _ => past.Unreplaced

/-- A save that goes through has replaced a graph; one that fails has replaced none. -/
def Saved {α : Type} (id : String) (past : EnginePast) : Except Fault α → Prop
  | .ok _ => past.ReplacesOnce id
  | .error _ => past.Unreplaced

namespace Management

/-- A call that replaces nothing. -/
theorem look_saves {request : StoreCall} (edits : operation.Edits past (.store request))
    (unreplaced : past.Unreplaced)
    (looks : ∀ reply, replacement? ⟨.store request, reply⟩ = none) :
    Follows operation.Saving (whileUnreplaced fun later answer => Told later request answer)
      (Engine.store request) past := by
  have allowed : operation.Saving past (.store request) := ⟨edits, unreplaced⟩
  refine (Follows.perform allowed).weaken fun later reply _ told => ?_
  cases reply with
  | error fault => exact told ▸ unreplaced.add (looks _)
  | ok answer =>
      rw [told]
      exact ⟨unreplaced.add (looks _), List.mem_cons_self⟩

theorem owned_saves (unreplaced : past.Unreplaced) (organization id : String) :
    Follows operation.Saving
      (whileUnreplaced fun later flow => Told later (.getOwnedFlow organization id) (some flow))
      (owned organization id) past := by
  have allowed : operation.Edits past (.store (.getOwnedFlow organization id)) := trivial
  refine (look_saves allowed unreplaced fun _ => rfl).bind (fun found later _ known => ?_)
    fun _ _ _ known => known
  cases found with
  | none => exact Follows.fail known.1
  | some flow => exact Follows.done known

theorem reporting_saves {α : Type} (kind : FlowOperation) {id : String} {program : Engine α}
    (follows : Follows operation.Saving (Saved id) program past) :
    Follows operation.Saving (Saved id) (reporting kind program) past := by
  unfold reporting
  refine follows.outcome.bind (fun result later _ known => ?_)
    fun _ _ _ impossible => impossible.elim
  cases result with
  | ok value => exact Follows.done known
  | error fault =>
      dsimp only
      split <;> exact Follows.fail known

/-- The graph that was read is filed, and then replaced in the version in which it was read. -/
theorem replace_saves (organization : String) {id : String} (saves : operation.saves? = some id)
    (unreplaced : past.Unreplaced) {flow : Flow}
    (told : Told past (.getOwnedFlow organization id) (some flow)) (nodes edges : List Value)
    (editor : Option String) (now : Stamp) :
    Follows operation.Saving (Saved id)
      (do
        discard (Engine.store (.saveVersion (snapshot id flow editor now)))
        orFail (.conflict (.flowVersion id flow.version))
          (← Engine.store (.replaceGraph id flow.version nodes edges editor))) past := by
  have files : operation.Edits past (.store (.saveVersion (snapshot id flow editor now))) :=
    ⟨organization, id, flow, editor, now, told, rfl⟩
  have filed : Follows operation.Saving
      (whileUnreplaced fun later _ => past <:+ later ∧
        ∃ kept, Told later (.saveVersion (snapshot id flow editor now)) kept)
      (discard (Engine.store (.saveVersion (snapshot id flow editor now)))) past :=
    (look_saves files unreplaced fun _ => rfl).bind
      (fun kept later grown known => Follows.done ⟨known.1, grown, kept, known.2⟩)
      fun _ _ _ known => known
  refine filed.bind (fun _ later _ known => ?_) fun _ _ _ known => known
  obtain ⟨free, grown, kept, put⟩ := known
  have replaces :
      operation.Saving later (.store (.replaceGraph id flow.version nodes edges editor)) :=
    ⟨⟨saves, organization, flow, editor, now, kept, told.grow grown, rfl, put⟩, free⟩
  refine (Follows.perform replaces).bind (fun found last more asked => ?_)
    fun fault last _ asked => ?_
  · cases found with
    | none => exact Follows.fail (asked ▸ free.add rfl)
    | some changed =>
        refine Follows.done
          ⟨organization, flow, (told.grow grown).grow more, ?_, fun other apart => ?_⟩
        · rw [asked, replacements_cons_own rfl, free.replacements id]
        · rw [asked, replacements_cons_other rfl (Ne.symm apart), free.replacements other]
  · exact asked ▸ free.add rfl

theorem saveCanvas_saves (organization : String) {id : String} (saves : operation.saves? = some id)
    (unreplaced : past.Unreplaced) (nodes edges : List Value) (editor : Option String) :
    Follows operation.Saving (Saved id) (saveCanvas organization id nodes edges editor) past := by
  refine reporting_saves .saveCanvas ((owned_saves unreplaced organization id).bind
    (fun flow later _ known => ?_) fun _ _ _ known => known)
  obtain ⟨free, told⟩ := known
  have checked : Follows operation.Saving (fun last _ => last = later)
      (Program.ofExcept (Graph.ofValues nodes edges)) later := Follows.ofExcept rfl
  refine checked.bind (fun graph last _ same => ?_) fun _ _ _ same => same ▸ free
  subst same
  have clocked : operation.Saving last .clock := ⟨trivial, free⟩
  refine (Follows.perform clocked).bind (fun now after grown asked => ?_)
    fun _ _ _ asked => asked ▸ free.add rfl
  exact replace_saves organization saves (asked ▸ free.add rfl) (told.grow grown) _ _ editor now

theorem restore_saves (organization : String) {id : String} (saves : operation.saves? = some id)
    (unreplaced : past.Unreplaced) (number : Int) (editor : Option String) :
    Follows operation.Saving (Saved id) (restore organization id number editor) past := by
  have found : Follows operation.Saving (whileUnreplaced fun _ _ => True)
      (discard (owned organization id)) past :=
    (owned_saves unreplaced organization id).discards (fun _ _ known => ⟨known.1, trivial⟩)
      fun _ _ known => known
  have fetched : Follows operation.Saving (whileUnreplaced fun _ _ => True)
      (version organization id number) past := by
    refine found.bind (fun _ later _ known => ?_) fun _ _ _ known => known
    have allowed : operation.Edits later (.store (.getVersion id number)) := trivial
    refine (look_saves allowed known.1 fun _ => rfl).bind (fun found last _ known => ?_)
      fun _ _ _ known => known
    cases found with
    | none => exact Follows.fail known.1
    | some kept => exact Follows.done ⟨known.1, trivial⟩
  exact fetched.bind (fun kept later _ known =>
    saveCanvas_saves organization saves known.1 _ _ editor) fun _ _ _ known => known

end Management

/-! ### All events -/

namespace Operation

theorem spares_edits {program : Engine EventReport} (spares : Keeps SparesFlows program past) :
    Keeps operation.Edits (reporting program) past :=
  reporting_keeps (spares.loosen edits_of_sparesFlows)

theorem silent_saves {α : Type} {id : String} {program : Engine α}
    (follows : Follows operation.Saving (Saved id) program past) :
    Follows operation.Saving (Saved id) (silent program) past := by
  have discarded : Follows operation.Saving (Saved id) (discard program) past :=
    follows.discards (fun _ _ known => known) fun _ _ known => known
  exact discarded.bind (fun _ _ _ known => Follows.done known) fun _ _ _ known => known

/-- What an event has done to graphs when it is over. -/
def Settles (operation : Operation) (past : EnginePast)
    (result : Except Fault (Option EventReport)) : Prop :=
  match operation.saves? with
  | some id => Saved id past result
  | none => past.Unreplaced

/-- An event that saves no graph replaces none. -/
theorem program_unsaving (unsaving : operation.saves? = none)
    (keeps : Keeps operation.Edits (operation.program settings) []) :
    Follows operation.Saving operation.Settles (operation.program settings) [] := by
  have kind (past : EnginePast) (request : Call) (edits : operation.Edits past request) :
      ∀ reply, replacement? ⟨request, reply⟩ = none := by
    cases request with
    | store request =>
        cases request with
        | replaceGraph => exact absurd (unsaving.symm.trans edits.1) (by simp)
        | _ => exact fun _ => rfl
    | _ => exact fun _ => rfl
  have known : ∀ past : EnginePast,
      (∀ entry ∈ past, ∀ reply, replacement? ⟨entry.request, reply⟩ = none) → past.Unreplaced :=
    fun past kinds entry member => kinds entry member entry.reply
  have recalled := keeps.recalled kind (fun _ member => nomatch member)
  refine (recalled.loosen fun past request allowed => ⟨allowed.1, known past allowed.2⟩).weaken
    fun later result _ reached => ?_
  unfold Settles
  rw [unsaving]
  exact known later reached.2

open Management in
/-- Every event edits as it may, and has replaced one graph if it is a save that went through. -/
theorem program_saves (settings : EngineSettings) (operation : Operation) :
    Follows operation.Saving operation.Settles (operation.program settings) [] := by
  cases operation with
  | inbound message =>
      exact program_unsaving rfl (spares_edits (Event.inbound_sparesFlows message []))
  | start organization request startedBy =>
      exact program_unsaving rfl
        (spares_edits (Event.start_sparesFlows organization request startedBy []))
  | resume conversation session node =>
      exact program_unsaving rfl
        (spares_edits (Event.resume_sparesFlows conversation session node []))
  | cancel organization conversation reason =>
      exact program_unsaving rfl
        (spares_edits (Event.cancel_sparesFlows organization conversation reason []))
  | cancelFlow flow reason =>
      exact program_unsaving rfl (silent_keeps
        ((Event.cancelFlowSessions_sparesFlows flow reason []).loosen edits_of_sparesFlows))
  | poll =>
      exact program_unsaving rfl
        (silent_keeps ((Timer.poll_sparesFlows []).loosen edits_of_sparesFlows))
  | install flow =>
      exact program_unsaving rfl (silent_keeps (told_follows False.elim).keeps)
  | create organization editor request =>
      exact program_unsaving rfl (silent_keeps
        (create_keeps (fun _ => trivial) founds_edits organization editor request []))
  | update hasEngine organization id request =>
      exact program_unsaving rfl (silent_keeps ((shows_edits organization id).update_keeps
        (releases_edits hasEngine organization id) request (fun _ => request.settings_keepsGraph) []))
  | toggle hasEngine organization id =>
      exact program_unsaving rfl (silent_keeps ((shows_edits organization id).toggle_keeps
        (releases_edits hasEngine organization id) (fun _ _ => ⟨rfl, rfl, rfl⟩) []))
  | delete hasEngine organization id =>
      exact program_unsaving rfl (silent_keeps ((shows_edits organization id).delete_keeps
        (releases_edits hasEngine organization id) (fun _ => trivial) []))
  | duplicate organization id editor =>
      exact program_unsaving rfl (silent_keeps ((shows_edits organization id).duplicate_keeps
        founds_edits editor []))
  | saveCanvas organization id nodes edges editor =>
      exact silent_saves (saveCanvas_saves organization rfl .nothing nodes edges editor)
  | restore organization id number editor =>
      exact silent_saves (restore_saves organization rfl .nothing number editor)

end Operation

end

end ChatFlow
