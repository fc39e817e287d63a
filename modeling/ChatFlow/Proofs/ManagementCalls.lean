import ChatFlow.Flow.Management
import ChatFlow.Proofs.RunWarrant
/-
What the management of flows asks, under any rule. An operation keeps to a rule that allows it to look
at the clock and at the flow, and to make the writes that are its own.
-/

set_option autoImplicit false

namespace ChatFlow.Management

open Program EnginePast

variable {rule : EnginePast → Call → Prop} {past : EnginePast}

theorem reporting_keeps {α : Type} (operation : FlowOperation) {program : Engine α}
    (keeps : Keeps rule program past) : Keeps rule (reporting operation program) past := by
  unfold reporting
  refine keeps.outcome.andThen fun result later _ _ => ?_
  cases result with
  | ok value => exact Follows.done trivial
  | error fault =>
      dsimp only
      split <;> exact Follows.fail trivial

theorem orFail_keeps {α : Type} (fault : Fault) (value : Option α) (past : EnginePast) :
    Keeps rule (orFail fault value) past := by
  cases value with
  | none => exact Follows.fail trivial
  | some value => exact Follows.done trivial

/-- A rule allows a flow to be looked at. -/
structure Shows (rule : EnginePast → Call → Prop) (organization id : String) : Prop where
  clocks : ∀ past, rule past .clock
  finds : ∀ past, rule past (.store (.getOwnedFlow organization id))
  fetches : ∀ past number, rule past (.store (.getVersion id number))

/-- A rule allows the sessions of a flow to be cancelled once the flow was found. -/
def Releases (rule : EnginePast → Call → Prop) (hasEngine : Bool) (organization id : String) :
    Prop :=
  ∀ {past flow} (reason : String), Told past (.getOwnedFlow organization id) (some flow) →
    Keeps rule (cancelSessions hasEngine id reason) past

/-- A new flow is one that was asked for, or has the graph of a flow that was found. -/
inductive Founded (past : EnginePast) : Flow → Prop where
  | asked (request : NewFlow) (organization : String) (editor : Option String) (now : Stamp) :
      Founded past (request.flow organization editor now)
  | copied {organization id : String} {source flow : Flow}
      (told : Told past (.getOwnedFlow organization id) (some source)) (first : flow.version = 1)
      (nodes : flow.nodes = source.nodes) (edges : flow.edges = source.edges) : Founded past flow

/-- New flows are of the first version. -/
theorem Founded.first {past : EnginePast} {flow : Flow} (founded : Founded past flow) :
    flow.version = 1 := by
  cases founded with
  | asked => rfl
  | copied told first => exact first

def Founds (rule : EnginePast → Call → Prop) : Prop :=
  ∀ past flow, Founded past flow → rule past (.store (.createFlow flow))

/-- A rule allows the graph of a flow that was found to be filed, and to be replaced by one that was
checked. -/
structure Saves (rule : EnginePast → Call → Prop) (organization id : String) : Prop where
  files : ∀ past flow editor now, Told past (.getOwnedFlow organization id) (some flow) →
    rule past (.store (.saveVersion (snapshot id flow editor now)))
  replaces : ∀ past expected nodes edges graph editor, Graph.ofValues nodes edges = .ok graph →
    rule past (.store (.replaceGraph id expected graph.nodeValues graph.edgeValues editor))

variable {organization id : String} {hasEngine : Bool}

theorem create_keeps (clocks : ∀ past, rule past .clock) (founds : Founds rule)
    (organization : String) (editor : Option String) (request : NewFlow) (past : EnginePast) :
    Keeps rule (create organization editor request) past := by
  refine reporting_keeps .create ((Follows.perform (clocks past)).keeps.andThen
    fun now later _ _ => ?_)
  exact (told_follows (founds later _ (.asked request organization editor now))).keeps

namespace Shows

variable (shows : Shows rule organization id)

include shows

theorem now_keeps (past : EnginePast) : Keeps rule Engine.now past :=
  (Follows.perform (shows.clocks past)).keeps

theorem owned_follows (past : EnginePast) :
    Follows rule (whenDone fun later flow => Told later (.getOwnedFlow organization id) (some flow))
      (owned organization id) past := by
  refine (told_follows (shows.finds past)).andThen fun found later _ told => ?_
  cases found with
  | none => exact Follows.fail trivial
  | some flow => exact Follows.done told

theorem duplicate_keeps (founds : Founds rule) (editor : Option String) (past : EnginePast) :
    Keeps rule (duplicate organization id editor) past := by
  refine reporting_keeps .duplicate ((shows.owned_follows past).andThen
    fun source later _ told => ?_)
  refine (shows.now_keeps later).andThen fun now last grown _ => ?_
  refine (told_follows (founds last _ ?_)).keeps
  exact .copied (told.grow grown) rfl rfl rfl

theorem update_keeps (releases : Releases rule hasEngine organization id) (request : FlowUpdate)
    (writes : ∀ past, rule past (.store (.updateFlow organization id request.settings)))
    (past : EnginePast) : Keeps rule (update hasEngine organization id request) past := by
  refine reporting_keeps .update ((shows.owned_follows past).andThen
    fun existing later _ told => ?_)
  dsimp only
  split
  · exact Follows.done trivial
  · refine (told_follows (writes later)).andThen fun found last grown _ => ?_
    refine (orFail_keeps _ found last).andThen fun changed after more _ => ?_
    split
    · exact (releases _ (told.grow (grown.trans more))).andThen fun _ _ _ _ => Follows.done trivial
    · exact Follows.done trivial

theorem toggle_keeps (releases : Releases rule hasEngine organization id)
    (writes : ∀ past active,
      rule past (.store (.updateFlow organization id [("is_active", .bool active)])))
    (past : EnginePast) : Keeps rule (toggle hasEngine organization id) past := by
  refine reporting_keeps .toggle ((shows.owned_follows past).andThen
    fun existing later _ told => ?_)
  dsimp only
  refine (told_follows (writes later _)).andThen fun found last grown _ => ?_
  refine (orFail_keeps _ found last).andThen fun changed after more _ => ?_
  split
  · exact (releases _ (told.grow (grown.trans more))).andThen fun _ _ _ _ => Follows.done trivial
  · exact Follows.done trivial

theorem delete_keeps (releases : Releases rule hasEngine organization id)
    (deletes : ∀ past, rule past (.store (.deleteFlow organization id))) (past : EnginePast) :
    Keeps rule (delete hasEngine organization id) past := by
  have found : Follows rule
      (whenDone fun later _ => ∃ flow, Told later (.getOwnedFlow organization id) (some flow))
      (discard (owned organization id)) past :=
    (shows.owned_follows past).discards (fun flow _ told => ⟨flow, told⟩) fun _ _ _ => trivial
  refine reporting_keeps .delete (found.andThen fun _ later _ known => ?_)
  obtain ⟨flow, told⟩ := known
  refine (releases _ told).andThen fun _ last _ _ => ?_
  refine (told_follows (deletes last)).andThen fun removed after _ _ => ?_
  split
  · exact Follows.fail trivial
  · exact Follows.done trivial

section Graphs

variable (saves : Saves rule organization id)

include saves

theorem saveCanvas_keeps (nodes edges : List Value) (editor : Option String) (past : EnginePast) :
    Keeps rule (saveCanvas organization id nodes edges editor) past := by
  refine reporting_keeps .saveCanvas ((shows.owned_follows past).andThen
    fun flow later _ told => ?_)
  have checked : Follows rule (whenDone fun _ graph => Graph.ofValues nodes edges = .ok graph)
      (Program.ofExcept (Graph.ofValues nodes edges)) later := by
    refine Follows.ofExcept ?_
    cases Graph.ofValues nodes edges with
    | ok graph => rfl
    | error fault => trivial
  refine checked.andThen fun graph last grown checked => ?_
  refine (shows.now_keeps last).andThen fun now after more _ => ?_
  have kept := told.grow (grown.trans more)
  refine (Keeps.discarded (told_follows (saves.files after flow editor now kept)).keeps).andThen
    fun _ final _ _ => ?_
  exact (told_follows (saves.replaces final _ nodes edges graph editor checked)).andThen
    fun found farther _ _ => orFail_keeps _ found farther

theorem restore_keeps (number : Int) (editor : Option String) (past : EnginePast) :
    Keeps rule (restore organization id number editor) past := by
  have fetched : Keeps rule (version organization id number) past := by
    refine (Keeps.discarded (shows.owned_follows past).keeps).andThen fun _ later _ _ => ?_
    exact (told_follows (shows.fetches later number)).andThen fun found last _ _ =>
      orFail_keeps _ found last
  exact fetched.andThen fun kept later _ _ =>
    shows.saveCanvas_keeps saves _ _ editor later

end Graphs

end Shows

end ChatFlow.Management
