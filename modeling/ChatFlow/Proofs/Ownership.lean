import ChatFlow.Proofs.StoreShape
/-
Whom flows and sessions belong to. Identifiers are given once, so that a register of owners only
grows: a flow never changes hands, not even when it is deleted, and a session belongs to the
organization of its flow for good.
-/

set_option autoImplicit false

namespace ChatFlow

/-! ### What a session is tied to -/

/-- What never changes about a session. -/
structure Home where
  organization : String
  conversation : String
  flow : String
  deriving DecidableEq, Repr

def Session.home (session : Session) : Home :=
  ⟨session.organization, session.conversation, session.flow⟩

/-- Owners by the identifiers of flows, and homes by the identifiers of sessions. -/
structure Register where
  flow : String → Option String
  session : String → Option Home

namespace Register

def empty : Register := ⟨fun _ => none, fun _ => none⟩

/-- One register says all that another one says. -/
structure Extends (later register : Register) : Prop where
  flow : ∀ {id owner}, register.flow id = some owner → later.flow id = some owner
  session : ∀ {id home}, register.session id = some home → later.session id = some home

theorem Extends.refl (register : Register) : register.Extends register := ⟨id, id⟩

def addFlow (register : Register) (id owner : String) : Register :=
  { register with flow := fun other => if id = other then some owner else register.flow other }

def addSession (register : Register) (id : String) (home : Home) : Register :=
  { register with
    session := fun other => if id = other then some home else register.session other }

variable {register later : Register}

theorem addFlow_extends {id : String} (free : register.flow id = none) (owner : String) :
    (register.addFlow id owner).Extends register where
  flow {other _} known := by
    have apart : id ≠ other := by
      intro same
      rw [← same, free] at known
      cases known
    exact (if_neg apart).trans known
  session known := known

theorem addSession_extends {id : String} (free : register.session id = none) (home : Home) :
    (register.addSession id home).Extends register where
  flow known := known
  session {other _} known := by
    have apart : id ≠ other := by
      intro same
      rw [← same, free] at known
      cases known
    exact (if_neg apart).trans known

/-- A flow has an identifier, and stands under it in the register. -/
def HasFlow (register : Register) (flow : Flow) : Prop :=
  ∃ id, flow.id = some id ∧ register.flow id = some flow.organization

/-- A session stands in the register, and its flow belongs to the same organization. -/
structure HasSession (register : Register) (session : Session) : Prop where
  named : ∃ id, session.id = some id ∧ register.session id = some session.home
  flow : register.flow session.flow = some session.organization

theorem HasFlow.extend {flow : Flow} (has : register.HasFlow flow)
    (extends_ : later.Extends register) : later.HasFlow flow := by
  obtain ⟨id, named, owner⟩ := has
  exact ⟨id, named, extends_.flow owner⟩

theorem HasSession.extend {session : Session} (has : register.HasSession session)
    (extends_ : later.Extends register) : later.HasSession session := by
  obtain ⟨id, named, home⟩ := has.named
  exact ⟨⟨id, named, extends_.session home⟩, extends_.flow has.flow⟩

theorem HasSession.congr {first second : Session} (has : register.HasSession first)
    (id : second.id = first.id) (home : second.home = first.home) : register.HasSession second := by
  obtain ⟨name, named, known⟩ := has.named
  have flow : second.flow = first.flow := congrArg Home.flow home
  have organization : second.organization = first.organization := congrArg Home.organization home
  refine ⟨⟨name, id.trans named, home ▸ known⟩, ?_⟩
  rw [flow, organization]
  exact has.flow

/-- What the register says of an answer of the store. -/
def Vouches (register : Register) : (request : StoreCall) → request.Answer → Prop
  | .getOwnedFlow organization id, answer => ∀ flow, answer = some flow →
      flow.id = some id ∧ flow.organization = organization ∧ register.HasFlow flow
  | .triggerCandidates organization, answer => ∀ flows : List Flow, answer = flows →
      ∀ flow ∈ flows, flow.organization = organization ∧ register.HasFlow flow
  | .createSession given, stored => register.HasSession stored ∧
      ∃ id, stored = { given with id := id }
  | .getSession _, answer => ∀ session, answer = some session → register.HasSession session
  | .activeSession conversation, answer => ∀ session, answer = some session →
      register.HasSession session ∧ session.conversation = conversation
  | .updateSession written _, stored => register.HasSession stored ∧
      ∃ revision updatedAt, stored = { written with revision := revision, updatedAt := updatedAt }
  | _, _ => True

theorem Vouches.extend {request : StoreCall} {answer : request.Answer}
    (vouches : register.Vouches request answer) (extends_ : later.Extends register) :
    later.Vouches request answer := by
  cases request with
  | getOwnedFlow organization id =>
      intro flow found
      obtain ⟨named, owner, has⟩ := vouches flow found
      exact ⟨named, owner, has.extend extends_⟩
  | triggerCandidates organization =>
      intro flows listed flow member
      obtain ⟨owner, has⟩ := vouches flows listed flow member
      exact ⟨owner, has.extend extends_⟩
  | createSession given => exact ⟨vouches.1.extend extends_, vouches.2⟩
  | updateSession written expected => exact ⟨vouches.1.extend extends_, vouches.2⟩
  | getSession id => exact fun session found => (vouches session found).extend extends_
  | activeSession conversation =>
      intro session found
      obtain ⟨has, here⟩ := vouches session found
      exact ⟨has.extend extends_, here⟩
  | _ => trivial

end Register

/-! ### Calls that leave everything with its owner -/

/-- Settings that name neither the identifier nor the owner of a flow. -/
def KeepsOwner (settings : Table Value) : Prop :=
  Table.lookup? "id" settings = none ∧ Table.lookup? "organization_id" settings = none

def StoreCall.Respects (register : Register) : StoreCall → Prop
  | .createSession session => register.flow session.flow = some session.organization
  | .updateSession session _ => register.HasSession session
  | .updateFlow _ _ settings => KeepsOwner settings
  | _ => True

/-- All that is accepted is good. -/
def Checked.Yields {α : Type} (good : α → Prop) (checked : Checked α) : Prop :=
  ∀ value, checked = .accepted value → good value

theorem Checked.Yields.seq {α β : Type} {good : β → Prop} {first : Checked (α → β)}
    {second : Checked α} (yields : Checked.Yields (fun change => ∀ value, good (change value)) first) :
    Checked.Yields good (first <*> second) := by
  intro value done
  cases first with
  | rejected issues => cases second <;> cases done
  | accepted change =>
      cases second with
      | rejected issues => cases done
      | accepted given =>
          cases done
          exact yields change rfl given

theorem Flow.withSettings_owner {flow changed : Flow} {settings : Table Value}
    (keeps : KeepsOwner settings) (done : flow.withSettings settings = .accepted changed) :
    changed.id = flow.id ∧ changed.organization = flow.organization := by
  have yields : Checked.Yields
      (fun changed : Flow => changed.id = flow.id ∧ changed.organization = flow.organization)
      (flow.withSettings settings) := by
    unfold Flow.withSettings Schema.withDefault
    rw [keeps.1, keeps.2]
    -- the fourteen fields that follow may be anything
    iterate 14 apply Checked.Yields.seq
    intro change same
    cases same
    intros
    exact ⟨rfl, rfl⟩
  exact yields changed done

theorem KeepsOwner.put {settings : Table Value} (keeps : KeepsOwner settings) {key : String}
    (value : Value) (other : key ≠ "id" ∧ key ≠ "organization_id") :
    KeepsOwner (Table.put key value settings) := by
  unfold KeepsOwner
  rw [Table.lookup?_put, Table.lookup?_put, if_neg other.1, if_neg other.2]
  exact keeps

namespace Store

theorem mem_of_sortFlows {flows sorted : List Flow} (done : sortFlows flows = .ok sorted)
    {flow : Flow} (member : flow ∈ sorted) : flow ∈ flows := by
  unfold sortFlows at done
  split at done
  · cases done
    exact member
  · cases done
    exact member
  · split at done
    · unfold sortLatestFirst at done
      split at done
      · cases done
        exact List.mem_mergeSort.mp (List.mem_mergeSort.mp member)
      · cases done
    · cases done

theorem mem_of_triggerCandidates {store : Store} {organization : String} {flows : List Flow}
    {flow : Flow} (done : store.triggerCandidates organization = .ok flows) (member : flow ∈ flows) :
    flow.organization = organization ∧ ∃ id, (id, flow) ∈ store.flows := by
  obtain ⟨stored, fits⟩ := List.mem_filter.mp (mem_of_sortFlows done member)
  obtain ⟨entry, present, same⟩ := List.mem_map.mp stored
  simp only [Bool.and_eq_true, decide_eq_true_eq] at fits
  exact ⟨fits.1.1.1, entry.1, same ▸ present⟩

/-! ### The register of a store -/

/-- The rows of a store are as the register says, sessions are kept for good, and nothing is said of
rows to come. -/
structure Owned (store : Store) (register : Register) : Prop where
  flows : ∀ {id flow}, (id, flow) ∈ store.flows →
    flow.id = some id ∧ register.flow id = some flow.organization
  sessions : ∀ {id session}, store.getSession id = some session →
    register.session id = some session.home ∧
      register.flow session.flow = some session.organization
  kept : ∀ {id home}, register.session id = some home → ∃ row, store.getSession id = some row
  nextFlow : ∀ {number}, store.counts.flows < number → register.flow (rowId "flow" number) = none
  nextSession : ∀ {number}, store.counts.sessions < number →
    register.session (rowId "session" number) = none

theorem owned_empty : Owned Store.empty Register.empty where
  flows member := by cases member
  sessions found := by cases found
  kept known := by cases known
  nextFlow _ := rfl
  nextSession _ := rfl

namespace Owned

variable {store later : Store} {register : Register}

theorem hasFlow (owned : Owned store register) {id : String} {flow : Flow}
    (member : (id, flow) ∈ store.flows) : register.HasFlow flow :=
  ⟨id, owned.flows member⟩

theorem hasSession (owned : Owned store register) (sound : WellFormed store) {id : String}
    {session : Session} (found : store.getSession id = some session) :
    register.HasSession session := by
  obtain ⟨home, flow⟩ := owned.sessions found
  exact ⟨⟨id, sound.sessionNamed found, home⟩, flow⟩

theorem home_eq (owned : Owned store register) {id : String} {row session : Session}
    (found : store.getSession id = some row) (has : register.HasSession session)
    (named : session.id = some id) : row.home = session.home := by
  obtain ⟨name, known, home⟩ := has.named
  cases known.symm.trans named
  exact Option.some.inj ((owned.sessions found).1.symm.trans home)

theorem exists_row (owned : Owned store register) {session : Session}
    (has : register.HasSession session) : ∃ id row, session.id = some id ∧
      store.getSession id = some row ∧ row.home = session.home := by
  obtain ⟨id, named, home⟩ := has.named
  obtain ⟨row, found⟩ := owned.kept home
  exact ⟨id, row, named, found, owned.home_eq found has named⟩

/-! ### Calls that create no flow and no session -/

theorem of_flows (owned : Owned store register) {flows : Table Flow}
    (members : ∀ {id flow}, (id, flow) ∈ flows → (id, flow) ∈ store.flows ∨
      flow.id = some id ∧ register.flow id = some flow.organization) :
    Owned { store with flows := flows } register where
  flows member := (members member).elim owned.flows id
  sessions := owned.sessions
  kept := owned.kept
  nextFlow := owned.nextFlow
  nextSession := owned.nextSession

theorem setFields (owned : Owned store register) {id : String} {settings : Table Value}
    {now : Stamp} {flow changed : Flow} (member : (id, flow) ∈ store.flows)
    (keeps : KeepsOwner settings)
    (done : store.setFields id settings now flow = .ok (changed, later)) : Owned later register := by
  rw [setFields_ok done]
  unfold Store.setFields at done
  split at done
  · next changed accepted =>
      cases done
      obtain ⟨named, owner⟩ := Flow.withSettings_owner
        (keeps.put (.stamp now) (by decide : "updated_at" ≠ "id" ∧ "updated_at" ≠ "organization_id"))
        accepted
      obtain ⟨known, present⟩ := owned.flows member
      apply owned.of_flows
      intro other flow put
      rcases Table.mem_put put with ⟨rfl, rfl⟩ | old
      · exact Or.inr ⟨named.trans known, owner ▸ present⟩
      · exact Or.inl old
  · cases done

theorem updateFlow (owned : Owned store register) {organization id : String}
    {settings : Table Value} {now : Stamp} {found : Option Flow} (keeps : KeepsOwner settings)
    (done : store.updateFlow organization id settings now = .ok (found, later)) :
    Owned later register := by
  unfold Store.updateFlow at done
  split at done
  · cases done
    exact owned
  · next flow present =>
      have member := Table.mem_of_lookup? (Option.filter_eq_some_iff.mp present).1
      cases result : store.setFields id settings now flow with
      | error fault =>
          rw [result] at done
          cases done
      | ok pair =>
          rw [result] at done
          cases done
          exact owned.setFields member keeps result

theorem replaceGraph (owned : Owned store register) {id : String} {expected : Int}
    {nodes edges : List Value} {editor : Option String} {now : Stamp} {found : Option Flow}
    (done : store.replaceGraph id expected nodes edges editor now = .ok (found, later)) :
    Owned later register := by
  unfold Store.replaceGraph at done
  split at done
  · cases done
    exact owned
  · next flow present =>
      have member := Table.mem_of_lookup? (Option.filter_eq_some_iff.mp present).1
      dsimp only at done
      generalize settled : store.setFields id _ now flow = result at done
      cases result with
      | error fault => cases done
      | ok pair =>
          cases done
          exact owned.setFields member ⟨rfl, rfl⟩ settled

theorem deleteFlow (owned : Owned store register) (organization id : String) :
    Owned (store.deleteFlow organization id).2 register := by
  unfold Store.deleteFlow
  split
  · exact owned
  · exact ⟨fun member => owned.flows (List.mem_filter.mp member).1, owned.sessions,
      owned.kept, owned.nextFlow, owned.nextSession⟩

theorem updated (owned : Owned store register) {session stored : Session} {expected : Int}
    {now : Stamp} (updated : Updated store session expected now stored later)
    (tables : later.flows = store.flows ∧ later.counts = store.counts)
    (sound : WellFormed store) (has : register.HasSession session) : Owned later register where
  flows member := owned.flows (tables.1 ▸ member)
  sessions {id row} found := by
    rw [updated.rows] at found
    split at found
    · next same =>
        cases found
        obtain ⟨current, present, _⟩ := updated.found
        have named := sound.id_of_found present
        obtain ⟨name, known, home⟩ := has.named
        cases known.symm.trans named
        rw [updated.row, ← same]
        exact ⟨home, has.flow⟩
    · exact owned.sessions found
  kept {id home} known := by
    rw [updated.rows]
    split
    · exact ⟨stored, rfl⟩
    · exact owned.kept known
  nextFlow above := owned.nextFlow (tables.2 ▸ above)
  nextSession above := owned.nextSession (tables.2 ▸ above)

/-! ### New flows and sessions -/

theorem createFlow (owned : Owned store register) (flow : Flow) :
    ∃ later, later.Extends register ∧ Owned (store.createFlow flow).2 later := by
  -- the identifier is new to the register, also where flows were deleted before
  have free : register.flow (rowId "flow" (store.counts.flows + 1)) = none :=
    owned.nextFlow (Nat.lt_succ_self _)
  have grown := Register.addFlow_extends free flow.organization
  refine ⟨_, grown, ?_⟩
  constructor
  case flows =>
    intro id other member
    rcases Table.mem_put member with ⟨rfl, rfl⟩ | old
    · exact ⟨rfl, if_pos rfl⟩
    · obtain ⟨named, owner⟩ := owned.flows old
      exact ⟨named, grown.flow owner⟩
  case sessions =>
    intro id session found
    obtain ⟨home, flow⟩ := owned.sessions found
    exact ⟨home, grown.flow flow⟩
  case kept => exact owned.kept
  case nextFlow =>
    intro number above
    have above : store.counts.flows + 1 < number := above
    have apart : rowId "flow" (store.counts.flows + 1) ≠ rowId "flow" number :=
      fun same => absurd (rowId_injective same) (Nat.ne_of_lt above)
    exact (if_neg apart).trans (owned.nextFlow (Nat.lt_of_succ_lt above))
  case nextSession => exact owned.nextSession

theorem created (owned : Owned store register) {session stored : Session}
    (made : Created store session stored later)
    (tables : later.flows = store.flows ∧ later.counts.flows = store.counts.flows)
    (right : register.flow session.flow = some session.organization) :
    ∃ known, known.Extends register ∧ Owned later known ∧ known.HasSession stored := by
  have free : register.session store.nextSession = none :=
    owned.nextSession (Nat.lt_succ_self _)
  have grown := Register.addSession_extends free session.home
  have has : (register.addSession store.nextSession session.home).HasSession stored := by
    rw [made.row]
    exact ⟨⟨_, rfl, if_pos rfl⟩, right⟩
  refine ⟨_, grown, ?_, has⟩
  constructor
  case flows => exact fun member => owned.flows (tables.1 ▸ member)
  case sessions =>
    intro id row found
    rw [made.rows] at found
    split at found
    · next same =>
        cases found
        rw [made.row, ← same]
        exact ⟨if_pos rfl, right⟩
    · obtain ⟨home, flow⟩ := owned.sessions found
      exact ⟨grown.session home, flow⟩
  case kept =>
    intro id home known
    rw [made.rows]
    by_cases same : store.nextSession = id
    · exact ⟨stored, if_pos same⟩
    · rw [if_neg same]
      exact owned.kept ((if_neg same).symm.trans known)
  case nextFlow => exact fun above => owned.nextFlow (tables.2 ▸ above)
  case nextSession =>
    intro number above
    rw [made.sessionCount] at above
    have apart : store.nextSession ≠ rowId "session" number :=
      fun same => absurd (rowId_injective same) (Nat.ne_of_lt above)
    exact (if_neg apart).trans (owned.nextSession (Nat.lt_of_succ_lt above))

/-! ### Every call -/

theorem of_same (owned : Owned store register) (flows : later.flows = store.flows)
    (sessions : later.sessions = store.sessions)
    (counts : later.counts.flows = store.counts.flows ∧
      later.counts.sessions = store.counts.sessions) : Owned later register := by
  have same (id : String) : later.getSession id = store.getSession id :=
    congrArg (Table.lookup? id) sessions
  constructor
  case flows => exact fun member => owned.flows (flows ▸ member)
  case sessions => exact fun found => owned.sessions ((same _).symm.trans found)
  case kept =>
    intro id home known
    obtain ⟨row, found⟩ := owned.kept known
    exact ⟨row, (same id).trans found⟩
  case nextFlow => exact fun above => owned.nextFlow (counts.1 ▸ above)
  case nextSession => exact fun above => owned.nextSession (counts.2 ▸ above)

theorem saveLogs (owned : Owned store register) (entries : List LogEntry) :
    Owned (store.saveLogs entries) register := by
  unfold Store.saveLogs
  induction entries generalizing store with
  | nil => exact owned
  | cons entry rest ih =>
      have added : Owned (appendLog store entry) register := owned.of_same rfl rfl ⟨rfl, rfl⟩
      exact ih added

theorem vouches_getOwnedFlow (owned : Owned store register) (organization id : String) :
    register.Vouches (.getOwnedFlow organization id) (store.getOwnedFlow organization id) := by
  intro flow found
  obtain ⟨present, own⟩ := Option.filter_eq_some_iff.mp found
  have member := Table.mem_of_lookup? present
  exact ⟨(owned.flows member).1, of_decide_eq_true own, owned.hasFlow member⟩

theorem vouches_triggerCandidates (owned : Owned store register) {organization : String}
    {flows : List Flow} (done : store.triggerCandidates organization = .ok flows) :
    register.Vouches (.triggerCandidates organization) flows := by
  intro listed same flow member
  cases same
  obtain ⟨own, id, present⟩ := mem_of_triggerCandidates done member
  exact ⟨own, owned.hasFlow present⟩

theorem vouches_activeSession (owned : Owned store register) (sound : WellFormed store)
    (conversation : String) :
    register.Vouches (.activeSession conversation) (store.activeSession conversation) := by
  intro session found
  obtain ⟨⟨id, row⟩, _, here⟩ := (sound.activeSession_iff conversation session).mp found
  exact ⟨owned.hasSession sound row, here⟩

/-- What a register grown from another one says of a store and of an answer. -/
def Answered (register : Register) (request : StoreCall)
    (result : Except Fault request.Answer × Store) : Prop :=
  ∃ known : Register, known.Extends register ∧ Owned result.2 known ∧
    ∀ value, result.1 = .ok value → known.Vouches request value

theorem still {request : StoreCall} {result : Except Fault request.Answer × Store}
    (owned : Owned result.2 register)
    (vouches : ∀ value, result.1 = .ok value → register.Vouches request value) :
    Answered register request result :=
  ⟨register, .refl register, owned, vouches⟩

theorem answered_changing {request : StoreCall} (owned : Owned store register)
    {result : Except Fault (request.Answer × Store)}
    (after : ∀ value later, result = .ok (value, later) →
      Answered register request (.ok value, later)) :
    Answered register request (changing store result) := by
  cases result with
  | error fault => exact still owned nofun
  | ok pair => exact after pair.1 pair.2 rfl

theorem answered_createSession (owned : Owned store register) {session stored : Session}
    (right : register.flow session.flow = some session.organization)
    (done : store.createSession session = .ok (stored, later)) :
    Answered register (.createSession session) (.ok stored, later) := by
  have made := createSession_ok done
  have tables : later.flows = store.flows ∧ later.counts.flows = store.counts.flows := by
    unfold Store.createSession at done
    split at done <;> cases done
    exact ⟨rfl, rfl⟩
  obtain ⟨known, grown, after, has⟩ := owned.created made tables right
  refine ⟨known, grown, after, fun value same => ?_⟩
  cases same
  exact ⟨has, _, made.row⟩

theorem answered_updateSession (owned : Owned store register) (sound : WellFormed store)
    {session stored : Session} {expected : Int} {now : Stamp}
    (has : register.HasSession session)
    (done : store.updateSession session expected now = .ok (stored, later)) :
    Answered register (.updateSession session expected) (.ok stored, later) := by
  have updated := updateSession_ok done
  have tables : later.flows = store.flows ∧ later.counts = store.counts := by
    unfold Store.updateSession at done
    dsimp only at done
    repeat' split at done
    all_goals cases done
    all_goals exact ⟨rfl, rfl⟩
  apply still (owned.updated updated tables sound has)
  intro value same
  cases same
  refine ⟨?_, _, _, updated.row⟩
  rw [updated.row]
  exact has.congr rfl rfl

/-- After a call that leaves everything with its owner the register may have grown, and vouches for
the answer. -/
theorem answer (owned : Owned store register) (sound : WellFormed store) {request : StoreCall}
    (respects : request.Respects register) (stamp : Stamp) :
    Answered register request (store.answer stamp request) := by
  cases request with
  | createFlow flow =>
      obtain ⟨known, grown, after⟩ := owned.createFlow flow
      exact ⟨known, grown, after, fun _ _ => trivial⟩
  | createSession session =>
      exact owned.answered_changing fun stored later done =>
        owned.answered_createSession respects done
  | updateSession session expected =>
      exact owned.answered_changing fun stored later done =>
        owned.answered_updateSession sound respects done
  | updateFlow organization id settings =>
      exact owned.answered_changing fun found later done =>
        still (owned.updateFlow respects done) fun _ _ => trivial
  | replaceGraph id expected nodes edges editor =>
      exact owned.answered_changing fun found later done =>
        still (owned.replaceGraph done) fun _ _ => trivial
  | deleteFlow organization id =>
      exact still (owned.deleteFlow organization id) fun _ _ => trivial
  | saveVersion version =>
      refine still ?_ fun _ _ => trivial
      simp only [Store.answer, changed, saveVersion]
      split
      · exact owned
      · exact owned.of_same rfl rfl ⟨rfl, rfl⟩
  | markDelay id =>
      refine still ?_ fun _ _ => trivial
      simp only [Store.answer, changed, markDelay]
      split
      · exact owned
      · exact owned.of_same rfl rfl ⟨rfl, rfl⟩
  | saveLogs entries => exact still (owned.saveLogs entries) fun _ _ => trivial
  | saveDelay | markSessionDelays | deleteLogs =>
      exact still (owned.of_same rfl rfl ⟨rfl, rfl⟩) fun _ _ => trivial
  | getOwnedFlow organization id =>
      apply still owned
      intro value same
      cases same
      exact owned.vouches_getOwnedFlow organization id
  | triggerCandidates organization =>
      exact still owned fun value done => owned.vouches_triggerCandidates done
  | getSession id =>
      apply still owned
      intro value same session found
      cases same
      exact owned.hasSession sound found
  | activeSession conversation =>
      apply still owned
      intro value same
      cases same
      exact owned.vouches_activeSession sound conversation
  | getFlow | flowsOf | versionsOf | getVersion | activeSessionsOf | pendingDelays | getLogs =>
      exact still owned fun _ _ => trivial

end Owned

end Store

end ChatFlow
