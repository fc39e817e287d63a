import ChatFlow.Documents.Store
import ChatFlow.Proofs.Transcript
/-
Faults of the document database. Whatever the collections answer, an operation of the store comes
to a value or to a fault of the engine. A fault that is raised on the way, by a call, in the middle
of a listing or by a document that holds no row, is passed on where it is one of the engine, and
reported as a fault of the database otherwise; a key that is stored already has an answer of its own
in the operations that expect it.
-/

set_option autoImplicit false

namespace ChatFlow.Documents

open Program

/-! ### Faults that are raised -/

def faultOf {α : Type} : Except Fault α → Option Fault
  | .ok _ => none
  | .error fault => some fault

/-- The fault of a document that holds no row of its collection. -/
def unreadable? (now : Stamp) : Collection → Value → Option Fault
  | .flows, document => faultOf (readRow (Flow.ofMembers now) document)
  | .versions, document => faultOf (readRow (FlowVersion.ofMembers now) document)
  | .sessions, document => faultOf (readRow (Session.ofMembers now) document)
  | .delays, document => faultOf (readRow (Delay.ofMembers now) document)
  | .logs, document => faultOf (readRow (LogEntry.ofMembers now) document)

/-- The fault that an answer raises: that of a document, or that which ended a listing behind its
last document. A new document is read back, unless it is that of a snapshot. -/
def raisedBy? (now : Stamp) : (call : CollectionCall) → call.Answer → Option Fault
  | .insert collection document, id =>
      if collection = .versions then none else unreadable? now collection (stored id document)
  | .findOne collection _, found => Option.bind found (unreadable? now collection)
  | .findAndSet collection _ _, found => Option.bind found (unreadable? now collection)
  | .find collection _ _ _, (found : Found) =>
      (found.documents.findSome? (unreadable? now collection)).or found.fault
  | _, _ => none

/-- The fault that a call raises, by itself or by its answer. -/
def raised? (now : Stamp) (entry : Answered CollectionCall.Answer) : Option Fault :=
  match entry.reply with
  | .error fault => some fault
  | .ok answer => raisedBy? now entry.request answer

/-- A program fails just with the faults that its calls raise. -/
def FailsAsRaised {α : Type} (now : Stamp) (program : Documents α) : Prop :=
  ∀ calls result, Transcript program calls result →
    ∀ fault, result = .error fault ↔ ∃ entry ∈ calls, raised? now entry = some fault

/-! ### Programs that fail as raised -/

section

variable {α β : Type} {now : Stamp}

/-- The rows of a collection are read as this. -/
def Reads (now : Stamp) (collection : Collection) (ofMembers : Table Value → Checked α) : Prop :=
  ∀ document, unreadable? now collection document = faultOf (readRow ofMembers document)

variable {collection : Collection} {ofMembers : Table Value → Checked α}

variable {program : Documents α} {calls : List (Answered CollectionCall.Answer)}
  {result : Except Fault α}

end

/-! ### Reports -/

/-- What a fault is reported as. -/
inductive ReportedAs : Fault → Fault → Prop where
  | passed {fault : Fault} (own : fault.isEngineFault = true) : ReportedAs fault fault
  | unreachable (message : String) : ReportedAs (.connectionLost message)
      (.database ("Database connection error: " ++ message) 503)
  | invalid (issues : List Issue) :
      ReportedAs (.invalidData issues) (.database "Database error:" 500)
  | other {fault : Fault} (foreign : fault.isEngineFault = false)
      (reached : ∀ message, fault ≠ .connectionLost message)
      (valid : ∀ issues, fault ≠ .invalidData issues) :
      ReportedAs fault (.database ("Database error: " ++ fault.message) 500)

theorem ReportedAs.isEngineFault {fault shown : Fault} (reportedAs : ReportedAs fault shown) :
    shown.isEngineFault = true := by
  cases reportedAs with
  | passed own => exact own
  | _ => rfl

/-- The operations that expect a key to be stored already. -/
def heedsDuplicates : StoreCall → Bool
  | .saveVersion _ | .createSession _ | .updateSession .. => true
  | _ => false

/-- What an operation makes of a fault that is raised in it. -/
inductive Handled : (request : StoreCall) → Fault → Except Fault request.Answer → Prop where
  | filed (version : FlowVersion) (message : String) :
      Handled (.saveVersion version) (.duplicateKey message) (.ok false)
  | occupied (session : Session) (message : String) : Handled (.createSession session)
      (.duplicateKey message) (.error (.conflict (.activeSession session.conversation)))
  | overtaken (session : Session) (expected : Int) (message : String) :
      Handled (.updateSession session expected) (.duplicateKey message)
        (.error (.conflict (.activeSession session.conversation)))
  | reported {request : StoreCall} {fault shown : Fault}
      (unexpected : heedsDuplicates request = false ∨ ∀ message, fault ≠ .duplicateKey message)
      (reportedAs : ReportedAs fault shown) : Handled request fault (.error shown)

/-- Why a session is not written: its identifier is none, or no document has it and the revision
that is expected. -/
inductive Outdated (session : Session) (expected : Int)
    (calls : List (Answered CollectionCall.Answer)) : Conflict → Prop where
  | unknown {name : String} (named : session.id = some name) (noId : objectId? name = none) :
      Outdated session expected calls (.unknownSession name)
  | revised {id : Value} {changes : Table Value}
      (unmet : ⟨.findAndSet .sessions [hasId id, .equals "revision" (.int expected)] changes,
        .ok (none : Option Value)⟩ ∈ calls) :
      Outdated session expected calls (.sessionRevision (session.id.getD "None") expected)

/-- An operation has come to a result as its calls let it. -/
structure Reports (now : Stamp) (request : StoreCall)
    (calls : List (Answered CollectionCall.Answer)) (result : Except Fault request.Answer) :
    Prop where
  raised : ∀ entry ∈ calls, ∀ fault, raised? now entry = some fault → Handled request fault result
  outdated : ∀ session expected, request = .updateSession session expected →
    ∀ conflict, Outdated session expected calls conflict → result = .error (.conflict conflict)
  quiet : (∀ entry ∈ calls, raised? now entry = none) → (∃ value, result = .ok value) ∨
    ∃ session expected conflict, request = .updateSession session expected ∧
      Outdated session expected calls conflict

theorem Handled.isEngineFault {request : StoreCall} {fault shown : Fault}
    {result : Except Fault request.Answer} (handled : Handled request fault result)
    (failed : result = .error shown) : shown.isEngineFault = true := by
  cases handled with
  | filed => cases failed
  | occupied | overtaken =>
      cases failed
      rfl
  | reported _ reportedAs =>
      cases failed
      exact reportedAs.isEngineFault

/-- Only faults of the engine leave an operation. -/
theorem Reports.isEngineFault {now : Stamp} {request : StoreCall}
    {calls : List (Answered CollectionCall.Answer)} {result : Except Fault request.Answer}
    (reports : Reports now request calls result) {shown : Fault} (failed : result = .error shown) :
    shown.isEngineFault = true := by
  by_cases raises : ∃ entry ∈ calls, ∃ fault, raised? now entry = some fault
  · obtain ⟨entry, member, fault, raises⟩ := raises
    exact (reports.raised entry member fault raises).isEngineFault failed
  · have quiet : ∀ entry ∈ calls, raised? now entry = none := fun entry member =>
      Option.eq_none_iff_forall_ne_some.mpr fun fault raised =>
        raises ⟨entry, member, fault, raised⟩
    rcases reports.quiet quiet with ⟨value, done⟩ | ⟨session, expected, conflict, same, outdated⟩
    · rw [done] at failed
      cases failed
    · rw [reports.outdated session expected same conflict outdated] at failed
      cases failed
      rfl

/-! ### Operations -/

section

variable {now : Stamp} {request : StoreCall}

theorem FailsAsRaised.quiet {α : Type} {program : Documents α} (fails : FailsAsRaised now program)
    {calls : List (Answered CollectionCall.Answer)} {result : Except Fault α}
    (ran : Transcript program calls result) (none : ∀ entry ∈ calls, raised? now entry = none) :
    ∃ value, result = .ok value := by
  cases result with
  | ok value => exact ⟨value, rfl⟩
  | error fault =>
      obtain ⟨entry, member, raised⟩ := (fails _ _ ran fault).mp rfl
      rw [none entry member] at raised
      cases raised

end

/-- The call that writes a session. -/
def writing (now : Stamp) (session : Session) (expected : Int) (id : Value) : CollectionCall :=
  .findAndSet .sessions [hasId id, .equals "revision" (.int expected)]
    (revised now session expected)

end ChatFlow.Documents
