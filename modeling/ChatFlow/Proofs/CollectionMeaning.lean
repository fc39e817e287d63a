import ChatFlow.Documents.Store
import ChatFlow.Proofs.Clock
/-
What the calls to a collection of documents mean. A query selects the documents that meet all of
its clauses; a listing puts them in the order of its keys, one key after the other, and is cut at its
limit; a removal takes away what its query selects. The order of documents with the same keys is
left open.
-/

set_option autoImplicit false

namespace ChatFlow

/-! ### Documents that a query selects -/

/-- One value stands before another of its kind. A time without a zone is one of universal time. -/
def Value.isBefore : Value → Value → Bool
  | .int first, .int second => first < second
  | .str first, .str second => first < second
  | .stamp first, .stamp second => first.position < second.position
  | .objectId first, .objectId second => first < second
  | _, _ => false

namespace Documents

/-- The value of a field; a field that is absent counts as null. -/
def valueOf (name : String) (document : Table Value) : Value :=
  (Table.lookup? name document).getD .null

/-- A field equals a value if it is that value, or a list that holds it. Bounds are times. -/
def Clause.isMet (document : Table Value) : Clause → Bool
  | .equals name value =>
      match valueOf name document with
      | .arr items => decide (.arr items = value) || decide (value ∈ items)
      | given => decide (given = value)
  | .atMost name bound =>
      match valueOf name document, bound with
      | .stamp given, .stamp bound => given.position ≤ bound.position
      | _, _ => false

def meets (query : Query) (document : Table Value) : Bool := query.all fun clause =>
  clause.isMet document

/-! ### Listings -/

/-- A key puts one document before another. -/
def SortKey.puts (key : SortKey) (first second : Table Value) : Bool :=
  if key.descending then (valueOf key.field second).isBefore (valueOf key.field first)
  else (valueOf key.field first).isBefore (valueOf key.field second)

/-- Documents are told apart by the first key that does not hold them equal. -/
def precedes : List SortKey → Table Value → Table Value → Bool
  | [], _, _ => false
  | key :: rest, first, second =>
      key.puts first second || (!key.puts second first && precedes rest first second)

/-- No limit, or a limit of zero, is none; of a negative limit only the number counts. -/
def cut {α : Type} : Option Int → List α → List α
  | none, listed => listed
  | some limit, listed => if limit = 0 then listed else listed.take limit.natAbs

/-- What a listing may find in a collection. -/
def Lists (contents : List (Table Value)) (query : Query) (order : List SortKey)
    (limit : Option Int) (found : List (Table Value)) : Prop :=
  ∃ sorted : List (Table Value), sorted.Perm (contents.filter (meets query)) ∧
    sorted.Pairwise (fun first second => precedes order second first = false) ∧
    found = cut limit sorted

/-! ### Programs at a collection -/

/-- What a collection of log rows answers when it is listed or cleared without a fault, and what it
holds then. -/
def Serves (contents : List (Table Value)) :
    (request : CollectionCall) → request.Answer → List (Table Value) → Prop
  | .find .logs query order limit, (reply : Found), later =>
      later = contents ∧ reply.fault = none ∧
        ∃ found, Lists contents query order limit found ∧ reply.documents = found.map .obj
  | .removeAll .logs query, (count : Nat), later =>
      count = contents.countP (meets query) ∧
        later = contents.filter fun document => !meets query document
  | _, _, _ => False

/-- What a program may come to at a collection of log rows, and what the collection holds then. -/
def Comes {α : Type} : Documents α → List (Table Value) → Except Fault α → List (Table Value) → Prop
  | .done value, contents, result, later => result = .ok value ∧ later = contents
  | .fail fault, contents, result, later => result = .error fault ∧ later = contents
  | .call request next, contents, result, later =>
      ∃ reply middle, Serves contents request reply middle ∧
        Comes (next (.ok reply)) middle result later

end Documents

end ChatFlow
