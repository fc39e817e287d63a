import ChatFlow.Proofs.GraphWrites
/-
The archive of graphs. Whoever has read a flow finds its graph again, in the flow itself or as the
snapshot of its version; so that a snapshot that comes late holds what is on file already, and
nothing but the latest graph is missing from the archive.
-/

set_option autoImplicit false

namespace ChatFlow

open Program EnginePast

/-- A snapshot holds the graph of a flow, written out. -/
structure FlowVersion.Dumps (snapshot : FlowVersion) (flow : Flow) : Prop where
  nodes : snapshot.nodes = flow.nodes.map Node.toMembers
  edges : snapshot.edges = flow.edges.map Edge.toMembers

theorem FlowVersion.Dumps.of_same {snapshot : FlowVersion} {first second : Flow}
    (dumps : snapshot.Dumps first) (same : first.SameGraph second) : snapshot.Dumps second where
  nodes := by rw [same.nodes]; exact dumps.nodes
  edges := by rw [same.edges]; exact dumps.edges

namespace Store

variable {store later : Store} {id : String} {flow changed read : Flow}

/-- An identifier that was given out to a flow. -/
def Numbered (store : Store) (id : String) : Prop :=
  ∃ number, number ≤ store.counts.flows ∧ id = rowId "flow" number

theorem Numbered.ne_next (numbered : store.Numbered id) :
    rowId "flow" (store.counts.flows + 1) ≠ id := by
  obtain ⟨number, bound, same⟩ := numbered
  intro next
  have equal := rowId_injective (next.trans same)
  omega

/-- Snapshots stand once for each version, and none is newer than its flow; one of the version that a
flow is in holds its graph. -/
structure Archived (store : Store) : Prop where
  enrolled : store.Enrolled
  distinct : (store.versions.map Prod.fst).Nodup
  numbered : ∀ {key snapshot}, (key, snapshot) ∈ store.versions → store.Numbered key.1
  current : ∀ {id number snapshot flow}, ((id, number), snapshot) ∈ store.versions →
    store.getFlow id = some flow →
    number ≤ flow.version ∧ (number = flow.version → snapshot.Dumps flow)

/-- A flow that was read once stands with the graph that it had, or the graph is on file; but for a
flow that has been deleted. -/
structure Recalls (store : Store) (id : String) (read : Flow) : Prop where
  numbered : store.Numbered id
  standing : ∀ flow, store.getFlow id = some flow → read.SameGraph flow ∨
    read.version < flow.version ∧
      ∃ snapshot, ((id, read.version), snapshot) ∈ store.versions ∧ snapshot.Dumps read

/-- A version of a flow is on file; but for a flow that has been deleted. -/
structure Filed (store : Store) (id : String) (number : Int) : Prop where
  numbered : store.Numbered id
  standing : ∀ flow, store.getFlow id = some flow →
    ∃ snapshot, ((id, number), snapshot) ∈ store.versions

theorem archived_empty : Store.empty.Archived where
  enrolled := enrolled_empty
  distinct := List.nodup_nil
  numbered member := nomatch member
  current member := nomatch member

/-- A flow that stands is recalled. -/
theorem Archived.recalls (archived : store.Archived) (stands : store.getFlow id = some flow) :
    store.Recalls id flow where
  numbered := archived.enrolled.numbered stands
  standing other found := by
    cases stands.symm.trans found
    exact Or.inl (.refl flow)

/-! ### What one call does to flows and snapshots -/

/-- The changes that events make, with the flow and the version whose graph was replaced. -/
inductive Edited (store : Store) : Option (String × Int) → Store → Prop where
  | spared {later : Store} (same : store.SameFlows later) : Edited store none later
  | created (given : Flow) : Edited store none (store.createFlow given).2
  | rewritten {later : Store} {id : String} {flow changed : Flow}
      (rewrites : store.Rewrites id flow changed later) (same : flow.SameGraph changed) :
      Edited store none later
  | deleted (organization id : String) : Edited store none (store.deleteFlow organization id).2
  | filed {id : String} {flow : Flow} (editor : Option String) (now : Stamp)
      (recalls : store.Recalls id flow) :
      Edited store none (store.saveVersion (Management.snapshot id flow editor now)).2
  | replaced {later : Store} {id : String} {flow changed : Flow}
      (rewrites : store.Rewrites id flow changed later)
      (raised : changed.version = flow.version + 1) (filed : store.Filed id flow.version) :
      Edited store (some (id, flow.version)) later

theorem deleteFlow_counts (organization id : String) (store : Store) :
    (store.deleteFlow organization id).2.counts = store.counts := by
  unfold deleteFlow
  split <;> rfl

/-- The snapshots of a flow that still stands are kept when flows are deleted. -/
theorem mem_deleteFlow {organization deleted : String} {key : String × Int}
    {snapshot : FlowVersion} {flow : Flow}
    (stands : (store.deleteFlow organization deleted).2.getFlow key.1 = some flow) :
    (key, snapshot) ∈ (store.deleteFlow organization deleted).2.versions ↔
      (key, snapshot) ∈ store.versions := by
  rw [getFlow_deleteFlow] at stands
  split at stands
  · cases stands
  · next kept =>
      unfold deleteFlow
      split
      · exact Iff.rfl
      · next owned =>
          rw [owned] at kept
          have apart : key.1 ≠ deleted := fun same => kept ⟨rfl, same.symm⟩
          simp [List.mem_filter, apart]

theorem saveVersion_cases (version : FlowVersion) (store : Store) :
    ((version.flow, version.version) ∈ store.versions.map Prod.fst ∧
        (store.saveVersion version).2 = store) ∨
      ((version.flow, version.version) ∉ store.versions.map Prod.fst ∧
        ∃ stored, (∀ flow, version.Dumps flow → stored.Dumps flow) ∧
          (store.saveVersion version).2.versions =
            store.versions ++ [((version.flow, version.version), stored)] ∧
          (store.saveVersion version).2.flows = store.flows ∧
          (store.saveVersion version).2.counts.flows = store.counts.flows) := by
  unfold saveVersion
  dsimp only
  split
  · next present =>
      obtain ⟨entry, member, same⟩ := List.any_eq_true.mp present
      exact Or.inl ⟨List.mem_map.mpr ⟨entry, member, of_decide_eq_true same⟩, rfl⟩
  · next absent =>
      refine Or.inr ⟨fun member => absent ?_,
        { version with id := some (rowId "version" (store.counts.versions + 1)) },
        fun flow dumps => ⟨dumps.nodes, dumps.edges⟩, rfl, rfl, rfl⟩
      obtain ⟨entry, member, same⟩ := List.mem_map.mp member
      exact List.any_eq_true.mpr ⟨entry, member, decide_eq_true same⟩

theorem mem_saveVersion {version : FlowVersion} {key : String × Int} {snapshot : FlowVersion}
    (member : (key, snapshot) ∈ store.versions) :
    (key, snapshot) ∈ (store.saveVersion version).2.versions := by
  rcases saveVersion_cases version store with ⟨_, same⟩ | ⟨_, _, _, versions, _⟩
  · exact same.symm ▸ member
  · rw [versions]
    exact List.mem_append_left _ member

theorem getFlow_saveVersion (version : FlowVersion) (store : Store) (other : String) :
    (store.saveVersion version).2.getFlow other = store.getFlow other := by
  rcases saveVersion_cases version store with ⟨_, same⟩ | ⟨_, _, _, _, flows, _⟩
  · rw [same]
  · exact congrArg (Table.lookup? other) flows

theorem saveVersion_flowCount (version : FlowVersion) (store : Store) :
    (store.saveVersion version).2.counts.flows = store.counts.flows := by
  rcases saveVersion_cases version store with ⟨_, same⟩ | ⟨_, _, _, _, _, counts⟩
  · rw [same]
  · exact counts

namespace Edited

variable {replaced : Option (String × Int)}

theorem numbered (edited : store.Edited replaced later) (numbered : store.Numbered id) :
    later.Numbered id := by
  obtain ⟨number, bound, same⟩ := numbered
  have grown : store.counts.flows ≤ later.counts.flows := by
    cases edited with
    | spared still => exact Nat.le_of_eq still.flowCount.symm
    | created given => exact Nat.le_succ _
    | rewritten rewrites => exact Nat.le_of_eq rewrites.flowCount.symm
    | deleted organization deleted => exact Nat.le_of_eq (by rw [deleteFlow_counts])
    | filed editor now recalls => exact Nat.le_of_eq (saveVersion_flowCount _ _).symm
    | replaced rewrites => exact Nat.le_of_eq rewrites.flowCount.symm
  exact ⟨number, Nat.le_trans bound grown, same⟩

/-- How a flow that stands afterwards stood before: with the same graph, unless its graph was
replaced. -/
theorem stood (edited : store.Edited replaced later) (numbered : store.Numbered id)
    (stands : later.getFlow id = some flow) :
    ∃ before, store.getFlow id = some before ∧
      ((∀ expected, replaced ≠ some (id, expected)) ∧ before.SameGraph flow ∨
        replaced = some (id, before.version) ∧ flow.version = before.version + 1) := by
  have untouched {r : Option (String × Int)} (same : store.getFlow id = some flow)
      (other : ∀ expected, r ≠ some (id, expected)) : ∃ before, store.getFlow id = some before ∧
      ((∀ expected, r ≠ some (id, expected)) ∧ before.SameGraph flow ∨
        r = some (id, before.version) ∧ flow.version = before.version + 1) :=
    ⟨flow, same, Or.inl ⟨other, .refl flow⟩⟩
  cases edited with
  | spared same => exact untouched ((same.getFlow id).symm.trans stands) (fun _ => nofun)
  | created given =>
      rw [getFlow_createFlow, if_neg numbered.ne_next] at stands
      exact untouched stands (fun _ => nofun)
  | @rewritten _ own old changed rewrites same =>
      rw [rewrites.rows] at stands
      split at stands
      · next equal =>
          subst equal
          cases stands
          exact ⟨old, rewrites.found, Or.inl ⟨fun _ => nofun, same⟩⟩
      · exact untouched stands (fun _ => nofun)
  | deleted organization gone =>
      rw [getFlow_deleteFlow] at stands
      split at stands
      · cases stands
      · exact untouched stands (fun _ => nofun)
  | filed editor now recalls =>
      exact untouched ((getFlow_saveVersion _ store id).symm.trans stands) (fun _ => nofun)
  | @replaced _ own old changed rewrites raised filed =>
      rw [rewrites.rows] at stands
      split at stands
      · next equal =>
          subst equal
          cases stands
          exact ⟨old, rewrites.found, Or.inr ⟨rfl, raised⟩⟩
      · next apart =>
          refine untouched stands fun expected same => apart ?_
          exact congrArg Prod.fst (Option.some.inj same)

/-- The snapshots of a flow that stands afterwards are kept as they are. -/
theorem keeps (edited : store.Edited replaced later) (stands : later.getFlow id = some flow)
    {number : Int} {snapshot : FlowVersion} (member : ((id, number), snapshot) ∈ store.versions) :
    ((id, number), snapshot) ∈ later.versions := by
  cases edited with
  | spared same => exact same.versions.symm ▸ member
  | created given => exact member
  | rewritten rewrites => exact rewrites.versions.symm ▸ member
  | deleted organization deleted => exact (mem_deleteFlow stands).mpr member
  | filed editor now recalls => exact mem_saveVersion member
  | replaced rewrites => exact rewrites.versions.symm ▸ member

/-- Where a snapshot comes from: it was on file, or holds the graph of a flow that was read. -/
theorem kept (edited : store.Edited replaced later) {key : String × Int} {snapshot : FlowVersion}
    (member : (key, snapshot) ∈ later.versions) :
    (key, snapshot) ∈ store.versions ∨
      ∃ read, store.Recalls key.1 read ∧ key.2 = read.version ∧ snapshot.Dumps read := by
  cases edited with
  | spared same => exact Or.inl (same.versions ▸ member)
  | created given => exact Or.inl member
  | rewritten rewrites => exact Or.inl (rewrites.versions ▸ member)
  | deleted organization gone =>
      left
      unfold deleteFlow at member
      split at member
      · exact member
      · exact (List.mem_filter.mp member).1
  | @filed own flow editor now recalls =>
      rcases saveVersion_cases (Management.snapshot own flow editor now) store with
        ⟨_, same⟩ | ⟨_, stored, dumps, versions, _⟩
      · exact Or.inl (same ▸ member)
      · rw [versions] at member
        rcases List.mem_append.mp member with old | new
        · exact Or.inl old
        · cases List.mem_singleton.mp new
          exact Or.inr ⟨flow, recalls, rfl, dumps flow ⟨rfl, rfl⟩⟩
  | replaced rewrites => exact Or.inl (rewrites.versions ▸ member)

theorem enrolled (edited : store.Edited replaced later) (enrolled : store.Enrolled) :
    later.Enrolled := by
  cases edited with
  | spared same => exact enrolled.sameFlows same
  | created given => exact enrolled.answer default (.createFlow given)
  | rewritten rewrites => exact enrolled.rewrites rewrites
  | deleted organization gone => exact enrolled.answer default (.deleteFlow organization gone)
  | filed editor now recalls => exact enrolled.answer default (.saveVersion _)
  | replaced rewrites => exact enrolled.rewrites rewrites

theorem distinct (edited : store.Edited replaced later)
    (distinct : (store.versions.map Prod.fst).Nodup) : (later.versions.map Prod.fst).Nodup := by
  cases edited with
  | spared same => exact same.versions ▸ distinct
  | created given => exact distinct
  | rewritten rewrites => exact rewrites.versions ▸ distinct
  | deleted organization gone =>
      unfold deleteFlow
      split
      · exact distinct
      · exact distinct.sublist (List.filter_sublist.map Prod.fst)
  | @filed own flow editor now recalls =>
      rcases saveVersion_cases (Management.snapshot own flow editor now) store with
        ⟨_, same⟩ | ⟨new, stored, _, versions, _⟩
      · exact same.symm ▸ distinct
      · rw [versions, List.map_append]
        refine List.nodup_append.mpr
          ⟨distinct, List.nodup_cons.mpr ⟨List.not_mem_nil, List.nodup_nil⟩, ?_⟩
        intro old present added last same
        subst same
        cases List.mem_singleton.mp last
        exact new present
  | replaced rewrites => exact rewrites.versions ▸ distinct

/-- Only a version that is on file is replaced. -/
theorem filed_of_replaced {number : Int} (edited : store.Edited (some (id, number)) later) :
    store.Filed id number := by
  cases edited with
  | replaced rewrites raised filed => exact filed

end Edited

/-! ### What changes leave of an archive -/

section

variable {replaced : Option (String × Int)} (edit : store.Edited replaced later)

include edit

theorem Filed.edited {number : Int} (filed : store.Filed id number) : later.Filed id number where
  numbered := edit.numbered filed.numbered
  standing flow stands := by
    obtain ⟨before, stood, _⟩ := edit.stood filed.numbered stands
    obtain ⟨snapshot, member⟩ := filed.standing before stood
    exact ⟨snapshot, edit.keeps stands member⟩

theorem Recalls.edited (recalls : store.Recalls id read) (archived : store.Archived) :
    later.Recalls id read where
  numbered := edit.numbered recalls.numbered
  standing flow stands := by
    obtain ⟨before, stood, change⟩ := edit.stood recalls.numbered stands
    rcases recalls.standing before stood with same | ⟨older, snapshot, member, dumps⟩
    · rcases change with ⟨_, kept⟩ | ⟨label, raised⟩
      · exact Or.inl (same.trans kept)
      · -- the graph that was read is replaced, and its snapshot is on file
        subst label
        obtain ⟨snapshot, member⟩ := edit.filed_of_replaced.standing before stood
        have dumps := (archived.current member stood).2 rfl
        have agree : read.version = before.version := same.version.symm
        refine Or.inr ⟨by omega, snapshot, ?_, dumps.of_same same.symm⟩
        rw [agree]
        exact edit.keeps stands member
    · refine Or.inr ⟨?_, snapshot, edit.keeps stands member, dumps⟩
      rcases change with ⟨_, kept⟩ | ⟨_, raised⟩
      · rw [kept.version]
        exact older
      · omega

/-- Every change keeps the archive. -/
theorem Archived.edited (archived : store.Archived) : later.Archived where
  enrolled := edit.enrolled archived.enrolled
  distinct := edit.distinct archived.distinct
  numbered member := by
    apply edit.numbered
    rcases edit.kept member with old | ⟨read, recalls, _⟩
    · exact archived.numbered old
    · exact recalls.numbered
  current {id number snapshot flow} member stands := by
    rcases edit.kept member with old | ⟨read, recalls, same, dumps⟩
    · obtain ⟨before, stood, change⟩ := edit.stood (archived.numbered old) stands
      obtain ⟨bound, holds⟩ := archived.current old stood
      rcases change with ⟨_, kept⟩ | ⟨_, raised⟩
      · rw [kept.version]
        exact ⟨bound, fun equal => (holds equal).of_same kept⟩
      · exact ⟨by omega, fun equal => by omega⟩
    · rw [show number = read.version from same]
      rcases (recalls.edited edit archived).standing flow stands with agree | ⟨older, _⟩
      · exact ⟨Int.le_of_eq agree.version.symm, fun _ => dumps.of_same agree⟩
      · exact ⟨Int.le_of_lt older, fun equal => absurd equal (Int.ne_of_lt older)⟩

end

end Store

end ChatFlow
