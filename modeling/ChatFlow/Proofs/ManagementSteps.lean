import ChatFlow.Proofs.FlowRows
/-
What the management of flows preserves. Each operation preserves what its own writes preserve, be they
of flows, of snapshots, or of the sessions that it cancels; reading and reporting change nothing.
-/

set_option autoImplicit false

namespace ChatFlow.Management

open Program

variable {holds : Store → Prop}

theorem reporting_preserves {α : Type} (operation : FlowOperation) {program : Engine α}
    (preserves : Preserves holds program) : Preserves holds (reporting operation program) := by
  refine preserves.outcome.bind fun result => ?_
  cases result with
  | ok value => exact .done value
  | error fault =>
      dsimp only
      split <;> exact .fail _

theorem orFail_preserves {α : Type} (fault : Fault) (value : Option α) :
    Preserves holds (orFail fault value) := by
  cases value with
  | none => exact .fail fault
  | some value => exact .done value

theorem owned_preserves (organization id : String) : Preserves holds (owned organization id) :=
  (Preserves.read fun _ _ => rfl).bind (orFail_preserves _)

theorem create_preserves {organization : String} {editor : Option String} {request : NewFlow}
    (creates : ∀ now,
      Preserves holds (Engine.store (.createFlow (request.flow organization editor now)))) :
    Preserves holds (create organization editor request) :=
  reporting_preserves .create (.now creates)

theorem duplicate_preserves
    (creates : ∀ flow, Preserves holds (Engine.store (.createFlow flow)))
    (organization id : String) (editor : Option String) :
    Preserves holds (duplicate organization id editor) :=
  reporting_preserves .duplicate ((owned_preserves organization id).bind fun _ =>
    .now fun _ => creates _)

section Graphs

variable (keeps : ∀ version, Preserves holds (Engine.store (.saveVersion version)))
  (replaces : ∀ id expected nodes edges editor,
    Preserves holds (Engine.store (.replaceGraph id expected nodes edges editor)))

include keeps replaces

theorem saveCanvas_preserves (organization id : String) (nodes edges : List Value)
    (editor : Option String) : Preserves holds (saveCanvas organization id nodes edges editor) := by
  refine reporting_preserves .saveCanvas ((owned_preserves organization id).bind fun flow => ?_)
  refine (Preserves.ofExcept _).bind fun graph => .now fun now => ?_
  refine (keeps _).discard.bind fun _ => ?_
  exact (replaces _ _ _ _ _).bind (orFail_preserves _)

theorem restore_preserves (organization id : String) (number : Int) (editor : Option String) :
    Preserves holds (restore organization id number editor) := by
  have fetched : Preserves holds (version organization id number) :=
    (owned_preserves organization id).discard.bind fun _ =>
      (Preserves.read fun _ _ => rfl).bind (orFail_preserves _)
  exact fetched.bind fun kept => saveCanvas_preserves keeps replaces organization id _ _ editor

end Graphs

section Cancelling

variable (cancels : ∀ flow reason, Preserves holds (Event.cancelFlowSessions flow reason))

include cancels

theorem cancelSessions_preserves (hasEngine : Bool) (flow reason : String) :
    Preserves holds (cancelSessions hasEngine flow reason) := by
  unfold cancelSessions
  split
  · exact (cancels flow reason).discard
  · exact .done ()

theorem update_preserves
    (updates : ∀ organization id settings, KeepsGraph settings →
      Preserves holds (Engine.store (.updateFlow organization id settings)))
    (hasEngine : Bool) (organization id : String) (request : FlowUpdate) :
    Preserves holds (update hasEngine organization id request) := by
  refine reporting_preserves .update ((owned_preserves organization id).bind fun existing => ?_)
  dsimp only
  split
  · exact .done existing
  · refine (updates _ _ _ request.settings_keepsGraph).bind fun found =>
      (orFail_preserves _ found).bind fun changed => ?_
    split
    · exact (cancelSessions_preserves cancels hasEngine id _).bind fun _ => .done changed
    · exact .done changed

theorem toggle_preserves
    (updates : ∀ organization id settings, KeepsGraph settings →
      Preserves holds (Engine.store (.updateFlow organization id settings)))
    (hasEngine : Bool) (organization id : String) :
    Preserves holds (toggle hasEngine organization id) := by
  refine reporting_preserves .toggle ((owned_preserves organization id).bind fun existing => ?_)
  dsimp only
  refine (updates _ _ _ ⟨rfl, rfl, rfl⟩).bind fun found =>
    (orFail_preserves _ found).bind fun changed => ?_
  split
  · exact (cancelSessions_preserves cancels hasEngine id _).bind fun _ => .done changed
  · exact .done changed

theorem delete_preserves
    (deletes : ∀ organization id, Preserves holds (Engine.store (.deleteFlow organization id)))
    (hasEngine : Bool) (organization id : String) :
    Preserves holds (delete hasEngine organization id) := by
  refine reporting_preserves .delete ((owned_preserves organization id).discard.bind fun _ => ?_)
  refine (cancelSessions_preserves cancels hasEngine id _).bind fun _ => ?_
  refine (deletes _ _).bind fun removed => ?_
  split
  · exact .fail _
  · exact .done ()

end Cancelling

end ChatFlow.Management
