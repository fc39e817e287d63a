import ChatFlow.Proofs.FlowWrites
/-
What the writes over flows do to the rows. A flow is created under an identifier that was never given
out before; settings and graphs are written over one row and leave all fields alone that they do not
name; a flow is deleted together with its snapshots.
-/

set_option autoImplicit false

namespace ChatFlow

open Program EnginePast Schema

/-! ### Records read field by field -/

section

variable {α β : Type}

theorem Checked.seq_accepted {first : Checked (α → β)} {second : Checked α} {value : β}
    (done : (first <*> second) = .accepted value) :
    ∃ change given, first = .accepted change ∧ second = .accepted given ∧ value = change given := by
  cases first with
  | rejected issues => cases second <;> cases done
  | accepted change =>
      cases second with
      | rejected issues => cases done
      | accepted given =>
          cases done
          exact ⟨change, given, rfl, rfl, rfl⟩

theorem Checked.map_accepted {change : α → β} {checked : Checked α} {value : β}
    (done : (change <$> checked) = .accepted value) :
    ∃ given, checked = .accepted given ∧ value = change given := by
  cases checked with
  | rejected issues => cases done
  | accepted given =>
      cases done
      exact ⟨given, rfl, rfl⟩

theorem Checked.of_under {checked : Checked α} {step : PathStep} {value : α}
    (done : checked.under step = .accepted value) : checked = .accepted value := by
  cases checked with
  | rejected issues => cases done
  | accepted given =>
      cases done
      rfl

/-- A field that is named is read from its value. -/
theorem withDefault_present {codec : Codec α} {name : String} {absent value : α}
    {members : Table Value} {given : Value} (named : Table.lookup? name members = some given)
    (done : withDefault codec name absent members = .accepted value) :
    codec.decode given = .accepted value := by
  unfold withDefault at done
  rw [named] at done
  exact Checked.of_under done

/-- A field that is not named takes its default. -/
theorem withDefault_absent {codec : Codec α} {name : String} {absent value : α}
    {members : Table Value} (unnamed : Table.lookup? name members = none)
    (done : withDefault codec name absent members = .accepted value) : value = absent := by
  unfold withDefault at done
  rw [unnamed] at done
  cases done
  rfl

end

/-- What settings make of the fields of a flow that others rely on. -/
structure Flow.Takes (flow : Flow) (settings : Table Value) (changed : Flow) : Prop where
  id : withDefault (.optional .text) "id" flow.id settings = .accepted changed.id
  organization :
    withDefault .text "organization_id" flow.organization settings = .accepted changed.organization
  isActive : withDefault .boolean "is_active" flow.isActive settings = .accepted changed.isActive
  version : withDefault .integer "version" flow.version settings = .accepted changed.version
  nodes : withDefault (.list Node.codec) "nodes" flow.nodes settings = .accepted changed.nodes
  edges : withDefault (.list Edge.codec) "edges" flow.edges settings = .accepted changed.edges

theorem Flow.withSettings_takes {flow changed : Flow} {settings : Table Value}
    (done : flow.withSettings settings = .accepted changed) : flow.Takes settings changed := by
  unfold withSettings at done
  -- the record is taken apart from its last field to its first
  obtain ⟨_, _, upToCreatedAt, _, rfl⟩ := Checked.seq_accepted done
  obtain ⟨_, _, upToLastEditedBy, _, rfl⟩ := Checked.seq_accepted upToCreatedAt
  obtain ⟨_, _, upToEdges, _, rfl⟩ := Checked.seq_accepted upToLastEditedBy
  obtain ⟨_, _, upToNodes, edges, rfl⟩ := Checked.seq_accepted upToEdges
  obtain ⟨_, _, upToVersion, nodes, rfl⟩ := Checked.seq_accepted upToNodes
  obtain ⟨_, _, upToIsDraft, version, rfl⟩ := Checked.seq_accepted upToVersion
  obtain ⟨_, _, upToIsActive, _, rfl⟩ := Checked.seq_accepted upToIsDraft
  obtain ⟨_, _, upToConnections, isActive, rfl⟩ := Checked.seq_accepted upToIsActive
  obtain ⟨_, _, upToMatchMode, _, rfl⟩ := Checked.seq_accepted upToConnections
  obtain ⟨_, _, upToKeywords, _, rfl⟩ := Checked.seq_accepted upToMatchMode
  obtain ⟨_, _, upToTriggerEnabled, _, rfl⟩ := Checked.seq_accepted upToKeywords
  obtain ⟨_, _, upToDescription, _, rfl⟩ := Checked.seq_accepted upToTriggerEnabled
  obtain ⟨_, _, upToName, _, rfl⟩ := Checked.seq_accepted upToDescription
  obtain ⟨_, _, upToOrganization, _, rfl⟩ := Checked.seq_accepted upToName
  obtain ⟨_, _, upToId, organization, rfl⟩ := Checked.seq_accepted upToOrganization
  obtain ⟨_, id, rfl⟩ := Checked.map_accepted upToId
  exact ⟨id, organization, isActive, version, nodes, edges⟩

/-- Settings that name nothing of a flow's graph. -/
structure KeepsGraph (settings : Table Value) : Prop where
  version : Table.lookup? "version" settings = none
  nodes : Table.lookup? "nodes" settings = none
  edges : Table.lookup? "edges" settings = none

/-- Two flows have the same graph under the same version. -/
structure Flow.SameGraph (first second : Flow) : Prop where
  version : second.version = first.version
  nodes : second.nodes = first.nodes
  edges : second.edges = first.edges

theorem Flow.SameGraph.refl (flow : Flow) : flow.SameGraph flow := ⟨rfl, rfl, rfl⟩

theorem Flow.SameGraph.trans {first middle last : Flow} (lower : first.SameGraph middle)
    (upper : middle.SameGraph last) : first.SameGraph last where
  version := upper.version.trans lower.version
  nodes := upper.nodes.trans lower.nodes
  edges := upper.edges.trans lower.edges

theorem Flow.SameGraph.symm {first second : Flow} (same : first.SameGraph second) :
    second.SameGraph first :=
  ⟨same.version.symm, same.nodes.symm, same.edges.symm⟩

namespace Flow.Takes

variable {flow changed : Flow} {settings : Table Value}

theorem sameGraph (takes : flow.Takes settings changed) (keeps : KeepsGraph settings) :
    flow.SameGraph changed where
  version := withDefault_absent keeps.version takes.version
  nodes := withDefault_absent keeps.nodes takes.nodes
  edges := withDefault_absent keeps.edges takes.edges

theorem owner (takes : flow.Takes settings changed) (keeps : KeepsOwner settings) :
    changed.id = flow.id ∧ changed.organization = flow.organization :=
  ⟨withDefault_absent keeps.1 takes.id, withDefault_absent keeps.2 takes.organization⟩

end Flow.Takes

theorem KeepsGraph.put {settings : Table Value} (keeps : KeepsGraph settings) (now : Stamp) :
    KeepsGraph (Table.put "updated_at" (.stamp now) settings) where
  version := by
    rw [Table.lookup?_put, if_neg (by decide)]
    exact keeps.version
  nodes := by
    rw [Table.lookup?_put, if_neg (by decide)]
    exact keeps.nodes
  edges := by
    rw [Table.lookup?_put, if_neg (by decide)]
    exact keeps.edges

theorem FlowUpdate.settings_keepsGraph (request : FlowUpdate) : KeepsGraph request.settings where
  version := request.settings_absent (by simp [toMembers, Table.names])
  nodes := request.settings_absent (by simp [toMembers, Table.names])
  edges := request.settings_absent (by simp [toMembers, Table.names])

/-- What a graph is replaced with: the values as they are read, under the next version. -/
structure Flow.Renews (flow changed : Flow) (nodes edges : List Value) : Prop where
  id : changed.id = flow.id
  organization : changed.organization = flow.organization
  isActive : changed.isActive = flow.isActive
  version : changed.version = flow.version + 1
  nodes : (Codec.list Node.codec).decode (.arr nodes) = .accepted changed.nodes
  edges : (Codec.list Edge.codec).decode (.arr edges) = .accepted changed.edges

namespace Store

variable {store later : Store} {id : String} {flow changed : Flow}

/-! ### Writes over a row -/

/-- One flow is written over, and nothing else. -/
structure Rewrites (store : Store) (id : String) (flow changed : Flow) (later : Store) : Prop where
  found : store.getFlow id = some flow
  rows : ∀ other, later.getFlow other = if id = other then some changed else store.getFlow other
  distinct : (Table.names store.flows).Nodup → (Table.names later.flows).Nodup
  versions : later.versions = store.versions
  flowCount : later.counts.flows = store.counts.flows

theorem setFields_rewrites {settings : Table Value} {now : Stamp}
    (found : store.getFlow id = some flow)
    (done : store.setFields id settings now flow = .ok (changed, later)) :
    flow.Takes (Table.put "updated_at" (.stamp now) settings) changed ∧
      store.Rewrites id flow changed later := by
  have same := setFields_ok done
  unfold setFields at done
  split at done
  · next accepted =>
      cases done
      refine ⟨Flow.withSettings_takes accepted, found, fun other => ?_, fun distinct => ?_, rfl, rfl⟩
      · exact Table.lookup?_put other id changed store.flows
      · exact Table.names_put_nodup distinct id changed
  · cases done

theorem updateFlow_rewrites {organization : String} {settings : Table Value} {now : Stamp}
    {found : Option Flow}
    (done : store.updateFlow organization id settings now = .ok (found, later)) :
    store.getOwnedFlow organization id = none ∧ found = none ∧ later = store ∨
      ∃ flow changed, store.getOwnedFlow organization id = some flow ∧ found = some changed ∧
        flow.Takes (Table.put "updated_at" (.stamp now) settings) changed ∧
        store.Rewrites id flow changed later := by
  unfold updateFlow at done
  split at done
  · next absent =>
      cases done
      exact Or.inl ⟨absent, rfl, rfl⟩
  · next flow present =>
      cases result : store.setFields id settings now flow with
      | error fault =>
          rw [result] at done
          cases done
      | ok pair =>
          rw [result] at done
          cases done
          obtain ⟨takes, rewrites⟩ :=
            setFields_rewrites (Option.filter_eq_some_iff.mp present).1 result
          exact Or.inr ⟨flow, pair.1, present, rfl, takes, rewrites⟩

theorem replaceGraph_rewrites {expected : Int} {nodes edges : List Value} {editor : Option String}
    {now : Stamp} {found : Option Flow}
    (done : store.replaceGraph id expected nodes edges editor now = .ok (found, later)) :
    (∀ flow, store.getFlow id = some flow → flow.version ≠ expected) ∧ found = none ∧
        later = store ∨
      ∃ flow changed, flow.version = expected ∧ found = some changed ∧
        flow.Renews changed nodes edges ∧ store.Rewrites id flow changed later := by
  unfold replaceGraph at done
  split at done
  · next absent =>
      cases done
      refine Or.inl ⟨fun flow found same => ?_, rfl, rfl⟩
      have present := Option.filter_eq_none_iff.mp absent flow found
      exact present (decide_eq_true same)
  · next flow present =>
      obtain ⟨stands, agreed⟩ := Option.filter_eq_some_iff.mp present
      dsimp only at done
      generalize settled : store.setFields id _ now flow = result at done
      cases result with
      | error fault => cases done
      | ok pair =>
          cases done
          obtain ⟨takes, rewrites⟩ := setFields_rewrites stands settled
          have expects := of_decide_eq_true agreed
          refine Or.inr ⟨flow, pair.1, expects, rfl, ?_, rewrites⟩
          obtain ⟨id, organization⟩ := takes.owner ⟨rfl, rfl⟩
          have version : Codec.integer.decode (.int (expected + 1)) = .accepted pair.1.version :=
            withDefault_present rfl takes.version
          refine ⟨id, organization, withDefault_absent rfl takes.isActive, ?_,
            withDefault_present rfl takes.nodes, withDefault_present rfl takes.edges⟩
          rw [expects]
          exact (Checked.accepted.inj version).symm

theorem getFlow_createFlow (flow : Flow) (store : Store) (other : String) :
    (store.createFlow flow).2.getFlow other =
      if rowId "flow" (store.counts.flows + 1) = other
      then some { flow with id := some (rowId "flow" (store.counts.flows + 1)) }
      else store.getFlow other :=
  Table.lookup?_put other _ _ store.flows

theorem getFlow_deleteFlow (organization id other : String) (store : Store) :
    (store.deleteFlow organization id).2.getFlow other =
      if (store.getOwnedFlow organization id).isSome ∧ id = other then none
      else store.getFlow other := by
  unfold deleteFlow
  split
  · next absent => rw [absent, if_neg (by simp)]
  · next flow present =>
      rw [present]
      simp only [Option.isSome_some, true_and]
      exact Table.lookup?_remove other id store.flows

/-! ### Identifiers that were given out -/

/-- Every flow stands once, under an identifier that was given out. -/
structure Enrolled (store : Store) : Prop where
  distinct : (Table.names store.flows).Nodup
  numbered : ∀ {id flow}, store.getFlow id = some flow →
    ∃ number, number ≤ store.counts.flows ∧ id = rowId "flow" number

theorem enrolled_empty : Enrolled Store.empty where
  distinct := List.nodup_nil
  numbered found := nomatch found

namespace Enrolled

theorem next_free (enrolled : store.Enrolled) :
    store.getFlow (rowId "flow" (store.counts.flows + 1)) = none := by
  cases found : store.getFlow (rowId "flow" (store.counts.flows + 1)) with
  | none => rfl
  | some flow =>
      obtain ⟨number, bound, same⟩ := enrolled.numbered found
      have equal := rowId_injective same
      omega

theorem sameFlows (enrolled : store.Enrolled) (same : store.SameFlows later) : later.Enrolled where
  distinct := same.flows ▸ enrolled.distinct
  numbered {id _} found := by
    rw [same.flowCount]
    exact enrolled.numbered ((same.getFlow id).symm.trans found)

theorem rewrites (enrolled : store.Enrolled) (rewrites : store.Rewrites id flow changed later) :
    later.Enrolled where
  distinct := rewrites.distinct enrolled.distinct
  numbered {other row} found := by
    rw [rewrites.flowCount]
    rw [rewrites.rows] at found
    split at found
    · next same => exact same ▸ enrolled.numbered rewrites.found
    · exact enrolled.numbered found

/-- Every call keeps the flows enrolled. -/
theorem answer (enrolled : store.Enrolled) (stamp : Stamp) (request : StoreCall) :
    (store.answer stamp request).2.Enrolled := by
  cases writes : request.writesFlows with
  | false => exact enrolled.sameFlows (answer_sameFlows writes stamp store)
  | true =>
      cases request with
      | createFlow flow =>
          refine ⟨Table.names_put_nodup enrolled.distinct _ _, fun {id row} found => ?_⟩
          rw [show (store.answer stamp (.createFlow flow)).2 = (store.createFlow flow).2 from rfl,
            getFlow_createFlow] at found
          split at found
          · next same => exact ⟨_, Nat.le_refl _, same.symm⟩
          · obtain ⟨number, bound, same⟩ := enrolled.numbered found
            exact ⟨number, Nat.le_succ_of_le bound, same⟩
      | updateFlow organization id settings =>
          refine changing_snd Enrolled enrolled fun found later done => ?_
          rcases updateFlow_rewrites done with ⟨_, _, rfl⟩ | ⟨_, _, _, _, _, rewrites⟩
          · exact enrolled
          · exact enrolled.rewrites rewrites
      | replaceGraph id expected nodes edges editor =>
          refine changing_snd Enrolled enrolled fun found later done => ?_
          rcases replaceGraph_rewrites done with ⟨_, _, rfl⟩ | ⟨_, _, _, _, _, rewrites⟩
          · exact enrolled
          · exact enrolled.rewrites rewrites
      | deleteFlow organization id =>
          have counts : (store.deleteFlow organization id).2.counts = store.counts := by
            unfold deleteFlow
            split <;> rfl
          refine ⟨?_, fun {other row} found => ?_⟩
          · simp only [Store.answer, Store.changed, deleteFlow]
            split
            · exact enrolled.distinct
            · exact enrolled.distinct.sublist (List.filter_sublist.map Prod.fst)
          · rw [show (store.answer stamp (.deleteFlow organization id)).2 =
              (store.deleteFlow organization id).2 from rfl] at found ⊢
            rw [getFlow_deleteFlow] at found
            rw [counts]
            split at found
            · cases found
            · exact enrolled.numbered found
      | saveVersion version =>
          simp only [Store.answer, Store.changed, saveVersion]
          split
          · exact enrolled
          · exact ⟨enrolled.distinct, enrolled.numbered⟩
      | _ => cases writes

end Enrolled

end Store

/-! ### What every call keeps -/

theorem Workplace.Reached.keepsStore {ι : Type} {place : Workplace ι} {holds : Store → Prop}
    (kept : ∀ (store : Store) stamp request, holds store → holds (store.answer stamp request).2)
    (start : holds Store.empty) (reached : Reached place) : holds place.scene.store := by
  induction reached with
  | start time => exact start
  | @step before after reached step ih =>
      cases step with
      | tick later => exact ih
      | begin settings operation idle same turn => exact same ▸ ih
      | refuse calls same turn => exact same ▸ ih
      | answer calls answers turn =>
          rcases answers.effect with same | ⟨asked, stamp, rfl, changed⟩
          · exact same ▸ ih
          · rw [changed]
            exact kept before.scene.store stamp asked ih

theorem Workplace.Reached.enrolled {ι : Type} {place : Workplace ι} (reached : Reached place) :
    place.scene.store.Enrolled :=
  reached.keepsStore (fun _ stamp request enrolled => enrolled.answer stamp request)
    Store.enrolled_empty

end ChatFlow
