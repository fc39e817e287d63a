import ChatFlow.Proofs.Clock
import ChatFlow.Proofs.Ownership
import ChatFlow.Proofs.Transcript
import ChatFlow.Trigger
/-
The flow that a message triggers. The candidates are listed with the latest edit first, and those of one
edit time in the order of their identifiers; the first one that runs on the connection and has a keyword
matching the message is the best of all such flows, however they are stored.
-/

set_option autoImplicit false

namespace ChatFlow

open Program Text

/-! ### Identifiers in order -/

theorem Issue.noLater_iff (first second : List Char) :
    Issue.noLater first second = true ↔ ¬second < first := by
  induction first generalizing second with
  | nil => simp [noLater]
  | cons letter rest ih =>
      cases second with
      | nil => simp [noLater]
      | cons other later =>
          rw [List.cons_lt_cons_iff, noLater]
          by_cases same : letter = other
          · subst same
            rw [if_pos rfl, ih]
            simp
          · have less : other < letter ↔ other.toNat < letter.toNat := Iff.rfl
            have apart : letter.toNat ≠ other.toNat := fun equal => same (Char.toNat_inj.mp equal)
            rw [if_neg same, decide_eq_true_iff, less]
            have different : other ≠ letter := fun equal => same equal.symm
            simp only [different, false_and, or_false]
            omega

namespace Store

theorem noLaterId_iff (first second : Option String) :
    noLaterId first second = true ↔ first.getD "" ≤ second.getD "" := by
  unfold noLaterId
  rw [Issue.noLater_iff]
  rfl

end Store

namespace Flow

/-- The identifier of a flow, empty where it has none. -/
def key (flow : Flow) : String := flow.id.getD ""

/-- A flow is listed before another one: it was edited later, or at the same time and is under a smaller
identifier. -/
abbrev Leads (first second : Flow) : Prop :=
  Store.Precedes Flow.updatedAt (fun left right => left.key ≤ right.key) first second

end Flow

namespace Store

variable {flows sorted : List Flow}

theorem byId_ordered (apart : (flows.map Flow.key).Nodup) :
    (flows.mergeSort fun left right => noLaterId left.id right.id).Pairwise fun first second =>
      first.key ≤ second.key ∧ ¬second.key ≤ first.key := by
  have sorted : (flows.mergeSort fun left right => noLaterId left.id right.id).Pairwise
      fun first second => noLaterId first.id second.id = true := by
    apply List.pairwise_mergeSort
    · intro first middle last upper lower
      rw [noLaterId_iff] at upper lower ⊢
      exact String.le_trans upper lower
    · intro first second
      rw [Bool.or_eq_true, noLaterId_iff, noLaterId_iff]
      exact String.le_total _ _
  have distinct : (flows.mergeSort fun left right => noLaterId left.id right.id).Pairwise
      fun first second => first.key ≠ second.key := by
    have names := ((List.mergeSort_perm flows fun left right =>
      noLaterId left.id right.id).map Flow.key).nodup_iff.mpr apart
    exact List.pairwise_map.mp names
  refine (sorted.and distinct).imp ?_
  rintro first second ⟨before, different⟩
  have below : first.key ≤ second.key := (noLaterId_iff _ _).mp before
  exact ⟨below, fun above => different (String.le_antisymm below above)⟩

/-- Flows under identifiers of their own are listed each before those that it leads. -/
theorem sortFlows_leads (apart : (flows.map Flow.key).Nodup) (done : sortFlows flows = .ok sorted) :
    sorted.Perm flows ∧ sorted.Pairwise Flow.Leads := by
  unfold sortFlows at done
  split at done
  · cases done
    exact ⟨.refl _, .nil⟩
  · cases done
    exact ⟨.refl _, List.pairwise_singleton _ _⟩
  · split at done
    · constructor
      · exact (sortLatestFirst_perm done).trans (List.mergeSort_perm _ _)
      · exact sortLatestFirst_precedes (fun _ => String.le_refl _) String.le_trans
          (fun _ _ => String.le_total _ _) (byId_ordered apart) done
    · cases done

/-- Flows with identifiers are listed where their edit times are of one kind of clock. -/
theorem sortFlows_named (named : ∀ flow ∈ flows, flow.id.isSome = true) :
    if areComparable (flows.map Flow.updatedAt) = true then ∃ sorted, sortFlows flows = .ok sorted
    else sortFlows flows = .error .mixedClocks := by
  rcases flows with _ | ⟨flow, _ | ⟨other, rest⟩⟩
  · exact ⟨_, rfl⟩
  · rw [if_pos (areComparable_iff.mpr (by simp))]
    exact ⟨_, rfl⟩
  · have same : areComparable (((flow :: other :: rest).mergeSort fun left right =>
        noLaterId left.id right.id).map Flow.updatedAt) =
        areComparable ((flow :: other :: rest).map Flow.updatedAt) := by
      rw [Bool.eq_iff_iff, areComparable_iff, areComparable_iff]
      simp only [List.mem_mergeSort]
    unfold sortFlows sortLatestFirst
    dsimp only
    rw [if_pos (List.all_eq_true.mpr named), same]
    split
    · exact ⟨_, rfl⟩
    · rfl

end Store

/-! ### The first match -/

namespace Trigger

variable {mode : MatchMode} {connection : Option String} {text : String}

theorem anyMatches_passed {keyword : String} (rest : List String)
    (passed : keywordMatches (some keyword) text mode = .ok false) :
    anyMatches mode text (keyword :: rest) = anyMatches mode text rest := by
  rw [anyMatches, passed]

theorem anyMatches_decided {keyword : String} (rest : List String)
    (decides : keywordMatches (some keyword) text mode ≠ .ok false) :
    anyMatches mode text (keyword :: rest) = keywordMatches (some keyword) text mode := by
  unfold anyMatches
  split
  · next passed => exact absurd passed decides
  · rfl

/-- Keywords are tried up to the first one that does more than not match, and it decides. -/
theorem anyMatches_splits (mode : MatchMode) (text : String) (keywords : List String) :
    (anyMatches mode text keywords = .ok false ∧
      ∀ keyword ∈ keywords, keywordMatches (some keyword) text mode = .ok false) ∨
    ∃ before keyword after, keywords = before ++ keyword :: after ∧
      (∀ other ∈ before, keywordMatches (some other) text mode = .ok false) ∧
      keywordMatches (some keyword) text mode ≠ .ok false ∧
      anyMatches mode text keywords = keywordMatches (some keyword) text mode := by
  induction keywords with
  | nil => exact Or.inl ⟨rfl, List.forall_mem_nil _⟩
  | cons keyword rest ih =>
      by_cases passed : keywordMatches (some keyword) text mode = .ok false
      · rw [anyMatches_passed rest passed]
        rcases ih with ⟨none, others⟩ | ⟨before, found, after, rfl, others, decides, same⟩
        · exact Or.inl ⟨none, List.forall_mem_cons.mpr ⟨passed, others⟩⟩
        · exact Or.inr ⟨keyword :: before, found, after, rfl,
            List.forall_mem_cons.mpr ⟨passed, others⟩, decides, same⟩
      · exact Or.inr ⟨[], keyword, rest, rfl, List.forall_mem_nil _, passed,
          anyMatches_decided rest passed⟩

/-- What a flow makes of a message on a connection: not a match where it does not run there. -/
def verdict (connection : Option String) (text : String) (flow : Flow) : Except Fault Bool :=
  if flow.acceptsConnection connection then matchesText flow text else .ok false

theorem first?_passed {flow : Flow} (rest : List Flow)
    (passed : verdict connection text flow = .ok false) :
    first? connection text (flow :: rest) = first? connection text rest := by
  unfold verdict at passed
  rw [first?]
  split
  · next runs =>
      rw [if_pos runs] at passed
      rw [passed]
  · rfl

theorem first?_decided {flow : Flow} (rest : List Flow)
    (decides : verdict connection text flow ≠ .ok false) :
    first? connection text (flow :: rest) =
      (verdict connection text flow).map fun _ => some flow := by
  unfold verdict at decides ⊢
  rw [first?]
  split at decides
  · next runs =>
      rw [if_pos runs, if_pos runs]
      cases decided : matchesText flow text with
      | error fault => rfl
      | ok found =>
          cases found with
          | true => rfl
          | false => exact absurd decided decides
  · exact absurd rfl decides

/-- Flows are tried up to the first one that does more than not match, and it decides. -/
theorem first?_splits (connection : Option String) (text : String) (flows : List Flow) :
    (first? connection text flows = .ok none ∧
      ∀ flow ∈ flows, verdict connection text flow = .ok false) ∨
    ∃ before flow after, flows = before ++ flow :: after ∧
      (∀ other ∈ before, verdict connection text other = .ok false) ∧
      verdict connection text flow ≠ .ok false ∧
      first? connection text flows = (verdict connection text flow).map fun _ => some flow := by
  induction flows with
  | nil => exact Or.inl ⟨rfl, List.forall_mem_nil _⟩
  | cons flow rest ih =>
      by_cases passed : verdict connection text flow = .ok false
      · rw [first?_passed rest passed]
        rcases ih with ⟨none, others⟩ | ⟨before, found, after, rfl, others, decides, same⟩
        · exact Or.inl ⟨none, List.forall_mem_cons.mpr ⟨passed, others⟩⟩
        · exact Or.inr ⟨flow :: before, found, after, rfl,
            List.forall_mem_cons.mpr ⟨passed, others⟩, decides, same⟩
      · exact Or.inr ⟨[], flow, rest, rfl, List.forall_mem_nil _, passed,
          first?_decided rest passed⟩

/-- A flow runs on a connection, and has a keyword that matches a text. -/
structure Matches (connection : Option String) (text : String) (flow : Flow) : Prop where
  runs : flow.acceptsConnection connection = true
  keyword : ∃ keyword ∈ flow.keywords, keywordMatches (some keyword) text flow.matchMode = .ok true

/-- Every keyword of a flow has been read, and matches a text or does not. -/
def Heeds (text : String) (flow : Flow) : Prop :=
  ∀ keyword ∈ flow.keywords, ∃ found, keywordMatches (some keyword) text flow.matchMode = .ok found

theorem verdict_of_heeds {flow : Flow} (heeds : Heeds text flow) :
    (verdict connection text flow = .ok true ∧ Matches connection text flow) ∨
      (verdict connection text flow = .ok false ∧ ¬Matches connection text flow) := by
  unfold verdict
  split
  · next runs =>
      rcases anyMatches_splits flow.matchMode text flow.keywords with
        ⟨none, others⟩ | ⟨before, keyword, after, split, _, decides, same⟩
      · refine Or.inr ⟨none, ?_⟩
        rintro ⟨_, keyword, member, found⟩
        rw [others keyword member] at found
        cases found
      · have member : keyword ∈ flow.keywords := by simp [split]
        obtain ⟨found, told⟩ := heeds keyword member
        cases found with
        | false => exact absurd told decides
        | true => exact Or.inl ⟨same.trans told, runs, keyword, member, told⟩
  · next stands =>
      exact Or.inr ⟨rfl, fun fits => stands fits.runs⟩

/-- Among flows whose keywords are all read, the first match is found, if there is one. -/
theorem first?_of_heeds {flows : List Flow} (heeds : ∀ flow ∈ flows, Heeds text flow) :
    (first? connection text flows = .ok none ∧ ∀ flow ∈ flows, ¬Matches connection text flow) ∨
    ∃ before flow after, flows = before ++ flow :: after ∧
      (∀ other ∈ before, ¬Matches connection text other) ∧ Matches connection text flow ∧
      first? connection text flows = .ok (some flow) := by
  have unmatched {flow : Flow} (member : flow ∈ flows)
      (passed : verdict connection text flow = .ok false) : ¬Matches connection text flow := by
    rcases verdict_of_heeds (heeds flow member) with ⟨found, _⟩ | ⟨_, none⟩
    · rw [found] at passed
      cases passed
    · exact none
  rcases first?_splits connection text flows with
    ⟨none, others⟩ | ⟨before, flow, after, rfl, others, decides, same⟩
  · exact Or.inl ⟨none, fun flow member => unmatched member (others flow member)⟩
  · refine Or.inr ⟨before, flow, after, rfl, ?_, ?_⟩
    · intro other member
      exact unmatched (List.mem_append_left _ member) (others other member)
    · rcases verdict_of_heeds (heeds flow (by simp)) with ⟨found, fits⟩ | ⟨passed, _⟩
      · rw [found] at same
        exact ⟨fits, same⟩
      · exact absurd passed decides

end Trigger

/-! ### The flow that is triggered -/

namespace Store

/-- The replies of a store at a point in time; no service is there. -/
def replies (now : Stamp) (store : Store) : (request : Call) → Except Fault request.Answer
  | .store request => (store.answer now request).1
  | .clock => .ok now
  | _ => .error (.runtime "out of service")

/-- What the search for the flow of a message comes to at a store. -/
def triggered (now : Stamp) (store : Store) (organization : String) (connection text : Option String) :
    Except Fault (Option Flow) :=
  (consult (store.replies now) (Trigger.flowFor organization connection text)).2

/-- A stored flow that messages to an organization may start. -/
structure Candidate (store : Store) (organization : String) (flow : Flow) : Prop where
  stored : ∃ id, (id, flow) ∈ store.flows
  owned : flow.organization = organization
  active : flow.isActive = true
  published : flow.isDraft = false
  enabled : flow.triggerEnabled = true

/-- A stored flow that a message starts on a connection, unless a better one does. -/
structure Eligible (store : Store) (organization : String) (connection text : Option String)
    (flow : Flow) : Prop where
  candidate : store.Candidate organization flow
  fits : Trigger.Matches connection (trim (text.getD "")) flow

/-- Every flow stands once, under its identifier. -/
structure Identified (store : Store) : Prop where
  named : ∀ id flow, (id, flow) ∈ store.flows → flow.id = some id
  apart : (Table.names store.flows).Nodup

/-- The edit times of an organization's candidates are of one kind of clock. -/
def Comparable (store : Store) (organization : String) : Prop :=
  ∀ first second, store.Candidate organization first → store.Candidate organization second →
    first.updatedAt.offset.isSome = second.updatedAt.offset.isSome

/-- Every keyword that is stored has been read. -/
def Heeds (store : Store) (text : Option String) : Prop :=
  ∀ id flow, (id, flow) ∈ store.flows → Trigger.Heeds (trim (text.getD "")) flow

variable {store : Store} {organization : String} {connection text : Option String} {now : Stamp}

/-- The candidates as they stand in the store. -/
def candidates (organization : String) (store : Store) : List Flow :=
  (store.flows.map Prod.snd).filter fun flow =>
    flow.organization = organization && flow.isActive && !flow.isDraft && flow.triggerEnabled

theorem mem_candidates {flow : Flow} :
    flow ∈ store.candidates organization ↔ store.Candidate organization flow := by
  unfold candidates
  simp only [List.mem_filter, List.mem_map, Prod.exists, exists_eq_right, Bool.and_eq_true,
    decide_eq_true_eq, Bool.not_eq_true']
  constructor
  · rintro ⟨stored, ⟨⟨owned, active⟩, published⟩, enabled⟩
    exact ⟨stored, owned, active, published, enabled⟩
  · intro candidate
    exact ⟨candidate.stored, ⟨⟨candidate.owned, candidate.active⟩, candidate.published⟩,
      candidate.enabled⟩

theorem Identified.isSome_id (identified : store.Identified) :
    ∀ flow ∈ store.candidates organization, flow.id.isSome = true := by
  intro flow member
  obtain ⟨id, stored⟩ := (mem_candidates.mp member).stored
  rw [identified.named id flow stored]
  rfl

theorem Identified.keys_nodup (identified : store.Identified) :
    ((store.candidates organization).map Flow.key).Nodup := by
  have keys : (store.flows.map Prod.snd).map Flow.key = Table.names store.flows := by
    unfold Table.names
    rw [List.map_map]
    apply List.map_congr_left
    intro entry member
    show entry.2.id.getD "" = entry.1
    rw [identified.named entry.1 entry.2 member]
    rfl
  have all : ((store.flows.map Prod.snd).map Flow.key).Nodup := keys ▸ identified.apart
  exact all.sublist (List.filter_sublist.map Flow.key)

theorem comparable_iff : store.Comparable organization ↔
    areComparable ((store.candidates organization).map Flow.updatedAt) = true := by
  rw [areComparable_iff]
  constructor
  · intro comparable first member second present
    exact comparable first second (mem_candidates.mp member) (mem_candidates.mp present)
  · intro comparable first second candidate other
    exact comparable first (mem_candidates.mpr candidate) second (mem_candidates.mpr other)

theorem triggered_blank (blank : (trim (text.getD "")).isEmpty = true) :
    store.triggered now organization connection text = .ok none := by
  unfold triggered Trigger.flowFor
  dsimp only
  rw [if_pos blank]
  rfl

/-- A message that is not blank is looked up among the candidates as they are listed. -/
theorem triggered_spoken (spoken : (trim (text.getD "")).isEmpty = false) :
    store.triggered now organization connection text =
      (sortFlows (store.candidates organization)).bind
        (Trigger.first? connection (trim (text.getD ""))) := by
  unfold triggered Trigger.flowFor
  dsimp only
  rw [if_neg (Bool.eq_false_iff.mp spoken)]
  have listed : (consult (store.replies now) (Engine.store (.triggerCandidates organization))).2 =
      sortFlows (store.candidates organization) :=
    consult_perform (store.replies now) _
  show (consult (store.replies now) (Engine.store (.triggerCandidates organization) >>= _)).2 = _
  rw [consult_bind, listed]
  exact congrArg _ (funext fun flows => consult_ofExcept _ _)

end Store

/-- A flow is to be started before another one: it was edited later, or at the same time and is under a
smaller identifier. -/
def Flow.Outranks (first second : Flow) : Prop :=
  second.updatedAt.Before first.updatedAt ∨
    second.updatedAt.NotBefore first.updatedAt ∧ first.updatedAt.NotBefore second.updatedAt ∧
      first.key < second.key

theorem Flow.Leads.outranks {first second : Flow} (leads : first.Leads second)
    (sameKind : first.updatedAt.offset.isSome = second.updatedAt.offset.isSome)
    (apart : first.key ≠ second.key) : first.Outranks second := by
  rcases leads with later | ⟨level, below⟩
  · left
    unfold Stamp.Before
    rw [Stamp.before?_eq, if_pos sameKind.symm, decide_eq_true later]
  · right
    rw [Stamp.notBefore_iff, Stamp.notBefore_iff]
    refine ⟨⟨sameKind.symm, Int.le_of_eq level.symm⟩, ⟨sameKind, Int.le_of_eq level⟩, ?_⟩
    exact String.not_le.mp fun above => apart (String.le_antisymm below above)

theorem Flow.Outranks.asymm {first second : Flow} (outranks : first.Outranks second) :
    ¬second.Outranks first := by
  rcases outranks with later | ⟨_, level, below⟩ <;> rintro (earlier | ⟨_, flat, above⟩)
  · exact (Stamp.Before.notBefore later).not_before earlier
  · exact flat.not_before later
  · exact level.not_before earlier
  · exact String.lt_asymm below above

namespace Store

variable {store later : Store} {organization : String} {connection text : Option String}
  {now time : Stamp}

/-- The result of a search for the best of some flows. -/
structure Best (store : Store) (organization : String) (connection text : Option String)
    (found : Option Flow) : Prop where
  none_iff : found = none ↔ ∀ flow, ¬store.Eligible organization connection text flow
  best : ∀ flow, found = some flow → store.Eligible organization connection text flow ∧
    ∀ other, store.Eligible organization connection text other → other ≠ flow → flow.Outranks other

theorem exists_best (identified : store.Identified) (comparable : store.Comparable organization)
    (heeds : store.Heeds text) (spoken : (trim (text.getD "")).isEmpty = false) :
    ∃ found, store.triggered now organization connection text = .ok found ∧
      store.Best organization connection text found := by
  have listed := sortFlows_named (@Identified.isSome_id _ organization identified)
  rw [if_pos (comparable_iff.mp comparable)] at listed
  obtain ⟨sorted, listed⟩ := listed
  obtain ⟨perm, leads⟩ := sortFlows_leads identified.keys_nodup listed
  have member {flow : Flow} : flow ∈ sorted ↔ store.Candidate organization flow :=
    perm.mem_iff.trans mem_candidates
  have read : ∀ flow ∈ sorted, Trigger.Heeds (trim (text.getD "")) flow := by
    intro flow inside
    obtain ⟨id, stored⟩ := (member.mp inside).stored
    exact heeds id flow stored
  rw [triggered_spoken spoken, listed]
  show ∃ found, Trigger.first? connection (trim (text.getD "")) sorted = .ok found ∧ _
  rcases @Trigger.first?_of_heeds connection _ _ read with
    ⟨nothing, others⟩ | ⟨before, flow, after, rfl, others, fits, chosen⟩
  · refine ⟨none, nothing, ⟨fun _ flow eligible => ?_, fun _ => rfl⟩, ?_⟩
    · exact others flow (member.mpr eligible.candidate) eligible.fits
    · intro flow none
      cases none
  · have own : store.Eligible organization connection text flow :=
      ⟨member.mp (by simp), fits⟩
    refine ⟨some flow, chosen, ⟨fun none => ?_, fun none => absurd own (none flow)⟩, ?_⟩
    · cases none
    intro _ same
    cases same
    refine ⟨own, fun other eligible different => ?_⟩
    have behind : other ∈ after := by
      rcases List.mem_append.mp (member.mpr eligible.candidate) with ahead | rest
      · exact absurd eligible.fits (others other ahead)
      · exact (List.mem_cons.mp rest).resolve_left different
    have leading := (List.pairwise_cons.mp (List.pairwise_append.mp leads).2.1).1 other behind
    refine leading.outranks (comparable _ _ own.candidate eligible.candidate) ?_
    have apart := (perm.map Flow.key).nodup_iff.mpr identified.keys_nodup
    rw [List.map_append, List.map_cons, List.nodup_append, List.nodup_cons] at apart
    intro same
    exact apart.2.1.1 (same ▸ List.mem_map_of_mem behind)

/-- Stores with the same eligible flows have the same best one. -/
theorem Best.unique {found other : Option Flow}
    (best : store.Best organization connection text found)
    (also : later.Best organization connection text other)
    (same : ∀ flow, later.Eligible organization connection text flow ↔
      store.Eligible organization connection text flow) : other = found := by
  cases found with
  | none =>
      apply also.none_iff.mpr
      intro flow eligible
      exact best.none_iff.mp rfl flow ((same flow).mp eligible)
  | some flow =>
      cases other with
      | none => exact absurd ((same flow).mpr (best.best flow rfl).1) (also.none_iff.mp rfl flow)
      | some rival =>
          obtain ⟨own, leads⟩ := best.best flow rfl
          obtain ⟨theirs, beats⟩ := also.best rival rfl
          by_cases equal : rival = flow
          · rw [equal]
          · have outranks := leads rival ((same rival).mp theirs) equal
            have reversed := beats flow ((same flow).mpr own) fun back => equal back.symm
            exact absurd reversed outranks.asymm

/-- The search at a store that is asked for the flow of a message. A blank message triggers nothing, and
the search fails where edit times cannot be compared. Else the best of all eligible flows is found, and
none where there is none; so that no other store with the same eligible flows has another answer, in
whatever order its flows stand and whatever other flows there are. -/
theorem best_eligible_flow_triggered (identified : store.Identified) (heeds : store.Heeds text) :
    ((trim (text.getD "")).isEmpty = true →
      store.triggered now organization connection text = .ok none) ∧
    ((trim (text.getD "")).isEmpty = false → ¬store.Comparable organization →
      store.triggered now organization connection text = .error .mixedClocks) ∧
    ((trim (text.getD "")).isEmpty = false → store.Comparable organization →
      ∃ found, store.triggered now organization connection text = .ok found ∧
        store.Best organization connection text found ∧
        ∀ (later : Store) time, later.Identified → later.Heeds text → later.Comparable organization →
          (∀ flow, later.Eligible organization connection text flow ↔
            store.Eligible organization connection text flow) →
          later.triggered time organization connection text = .ok found) := by
  refine ⟨triggered_blank, ?_, ?_⟩
  · intro spoken mixed
    have listed := sortFlows_named (@Identified.isSome_id _ organization identified)
    rw [if_neg fun comparable => mixed (comparable_iff.mpr comparable)] at listed
    rw [triggered_spoken spoken, listed]
    rfl
  · intro spoken comparable
    obtain ⟨found, chosen, best⟩ := @exists_best _ _ connection _ now identified comparable heeds spoken
    refine ⟨found, chosen, best, ?_⟩
    intro later time apart read compared same
    obtain ⟨other, also, better⟩ := @exists_best _ _ connection _ time apart compared read spoken
    rw [also, best.unique better same]

/-- An active flow that answers to a keyword. -/
def answering (id keyword : String) (mode : MatchMode) (updatedAt : Stamp) : Flow where
  id := some id
  organization := "org_1"
  name := "Olá"
  description := none
  triggerEnabled := true
  keywords := [keyword]
  matchMode := mode
  connections := []
  isActive := true
  isDraft := false
  version := 1
  nodes := []
  edges := []
  lastEditedBy := none
  createdAt := default
  updatedAt

/-- Two flows of one edit time, the one under the smaller identifier stored last. -/
def rivals : Store :=
  { Store.empty with
    flows := [("flow-0002", answering "flow-0002" "oi" .contains default),
      ("flow-0001", answering "flow-0001" "oi" .contains default)] }

theorem best_eligible_flow_triggered_rivals :
    rivals.Identified ∧ rivals.Heeds (some " Oi! ") ∧ rivals.Comparable "org_1" ∧
      rivals.triggered default "org_1" none (some " Oi! ") =
        .ok (some (answering "flow-0001" "oi" .contains default)) ∧
      rivals.Best "org_1" none (some " Oi! ")
        (some (answering "flow-0001" "oi" .contains default)) := by
  have among {id : String} {flow : Flow} (member : (id, flow) ∈ rivals.flows) :
      flow = answering id "oi" .contains default := by
    simp only [rivals, List.mem_cons, Prod.mk.injEq, List.not_mem_nil, or_false] at member
    rcases member with ⟨rfl, rfl⟩ | ⟨rfl, rfl⟩ <;> rfl
  have identified : rivals.Identified := by
    constructor
    · intro id flow member
      rw [among member]
      rfl
    · decide
  have heeds : rivals.Heeds (some " Oi! ") := by
    intro id flow member keyword held
    rw [among member] at held ⊢
    rw [List.mem_singleton.mp held]
    exact ⟨_, rfl⟩
  have comparable : rivals.Comparable "org_1" := by
    intro first second candidate other
    obtain ⟨_, stored⟩ := candidate.stored
    obtain ⟨_, also⟩ := other.stored
    rw [among stored, among also]
    rfl
  have eligible : rivals.Eligible "org_1" none (some " Oi! ")
      (answering "flow-0001" "oi" .contains default) :=
    ⟨⟨⟨_, List.mem_cons_of_mem _ List.mem_cons_self⟩, rfl, rfl, rfl, rfl⟩, rfl, "oi",
      List.mem_cons_self, rfl⟩
  obtain ⟨found, chosen, best, _⟩ := (@best_eligible_flow_triggered _ _ none _ default
    identified heeds).2.2 (by decide) comparable
  cases found with
  | none => exact absurd eligible (best.none_iff.mp rfl _)
  | some flow =>
      obtain ⟨own, leads⟩ := best.best flow rfl
      obtain ⟨id, stored⟩ := own.candidate.stored
      simp only [rivals, List.mem_cons, Prod.mk.injEq, List.not_mem_nil, or_false] at stored
      rcases stored with ⟨_, rfl⟩ | ⟨_, rfl⟩
      · have leading : (answering "flow-0001" "oi" .contains default).Outranks
            (answering "flow-0002" "oi" .contains default) :=
          Or.inr ⟨rfl, rfl, by decide⟩
        exact absurd (leads _ eligible (by decide)) leading.asymm
      · exact ⟨identified, heeds, comparable, chosen, best⟩

/-- A flow that answers to any text at all, edited at a point in time. -/
def talkative (id : String) (updatedAt : Stamp) : Flow := answering id ".*" .regex updatedAt

/-- One flow that answers to any text. -/
def listening : Store :=
  { Store.empty with flows := [("flow-0001", talkative "flow-0001" default)] }

/-- Two flows that answer to any text, the edit time of one of them with its distance from universal
time. -/
def mixed : Store :=
  { Store.empty with
    flows := [("flow-0001", talkative "flow-0001" default),
      ("flow-0002", talkative "flow-0002" ⟨0, some 0⟩)] }

/-- A blank message triggers nothing, though its text matches; and the search fails where edit times
cannot be compared. -/
theorem eligible_flow_not_triggered :
    listening.Eligible "org_1" none (some "   ") (talkative "flow-0001" default) ∧
      listening.triggered default "org_1" none (some "   ") = .ok none ∧
      mixed.Eligible "org_1" none (some "oi") (talkative "flow-0001" default) ∧
      mixed.triggered default "org_1" none (some "oi") = .error .mixedClocks := by
  have failed : sortFlows (mixed.candidates "org_1") = .error .mixedClocks := by
    have named : ∀ flow ∈ mixed.candidates "org_1", flow.id.isSome = true := by decide
    have listed := sortFlows_named named
    rwa [if_neg (by decide)] at listed
  refine ⟨⟨⟨⟨_, List.mem_cons_self⟩, rfl, rfl, rfl, rfl⟩, rfl, ".*", List.mem_cons_self, rfl⟩,
    triggered_blank rfl,
    ⟨⟨⟨_, List.mem_cons_self⟩, rfl, rfl, rfl, rfl⟩, rfl, ".*", List.mem_cons_self, rfl⟩, ?_⟩
  rw [triggered_spoken (by decide), failed]
  rfl

end Store

end ChatFlow
