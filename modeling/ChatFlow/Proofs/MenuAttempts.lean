import Mathlib.Data.List.Basic
import ChatFlow.Proofs.DeclaredVariables
import ChatFlow.Proofs.Numerals
/-
The invalid replies to a menu. They are counted in a variable, which is there while the session is asked
again and gone once the menu is left: by the first reply that chooses an option, or by the reply that is
one invalid reply too many.
-/

set_option autoImplicit false

namespace ChatFlow

open Program Text

namespace Evaluation

/-! ### The counter -/

/-- A counter that is absent, or that tells of a number as the engine writes one. -/
inductive Reads (bag : Variables) (key : String) : (count : Int) → Prop
  | absent (none : Table.lookup? key bag = none) : Reads bag key 0
  | written {count : Int} (told : Table.lookup? key bag = some (String.ofList (Json.intText count)))
      (short : count.natAbs < 10 ^ maxNumeralDigits) : Reads bag key count

theorem attemptsSoFar_of_reads {bag : Variables} {key : String} {count : Int}
    (reads : Reads bag key count) : attemptsSoFar bag key = .ok count := by
  unfold attemptsSoFar
  cases reads with
  | absent none => rw [none]
  | written told short =>
      have filled : (String.ofList (Json.intText count)).isEmpty = false := by
        unfold Json.intText
        split
        · simp
        · simp [Nat.toDigits_ne_nil]
      rw [told]
      dsimp only
      rw [filled, if_neg Bool.false_ne_true, String.toList_ofList, readInt?_intText short]

/-! ### One reply -/

/-- The contact is asked again, in one message, and the counter tells of the invalid replies. -/
structure AskedAgain (key : String) (count : Int) (result : NodeResult) : Prop where
  waits : result.next = .awaitInput .menu
  asks : ∃ text, result.effects = [Effect.message text]
  counted : Table.lookup? key result.bag = some (String.ofList (Json.intText count))

/-- A menu is left by an edge or for want of one, and its counter is gone. -/
structure Chosen (key : String) (edges : List Edge) (result : NodeResult) : Prop where
  leaves : ∃ edge, result.next.LeavesBy edge ∧ ∀ found ∈ edge, found ∈ edges
  cleared : Table.lookup? key result.bag = none

/-- A menu is given up: it is left by an edge that is kept for this, or fails where there is none; and
its counter is gone. -/
structure GivenUp (key : String) (edges : List Edge) (result : NodeResult) : Prop where
  leaves :
    (∃ handle ∈ fallbackHandles, ∃ edge, Edge.forHandle? handle edges = some edge ∧
        result.next = .advance edge.target (some handle)) ∨
      (∀ handle ∈ fallbackHandles, Edge.forHandle? handle edges = none) ∧
        result.next = .terminate .failed "menu_max_attempts"
  cleared : Table.lookup? key result.bag = none

theorem leaveMenu_leaves (index : Nat) (option : MenuOption) (edges : List Edge) (bag : Variables) :
    ∃ edge, (leaveMenu index option edges bag).next.LeavesBy edge ∧ ∀ found ∈ edge, found ∈ edges := by
  unfold leaveMenu
  dsimp only
  split
  · next handle edge found =>
      refine ⟨some edge, leaveBy_leaves _ _ _ _, ?_⟩
      rintro _ ⟨⟩
      exact mem_of_firstHandle? found
  · refine ⟨_, leaveBy_leaves _ _ _ _, fun edge found => ?_⟩
    exact (List.mem_filter.mp (Edge.mem_of_select? found)).1

theorem menuVariables_clear (content : MenuContent) (key : String) (option : MenuOption)
    (bag : Variables) (apart : content.variableName ≠ some key) :
    Table.lookup? key (menuVariables content key option bag) = none := by
  unfold menuVariables
  dsimp only
  split
  · next name given =>
      have other : name ≠ key := by
        rintro rfl
        unfold given? at given
        obtain ⟨text, written, same⟩ := Option.bind_eq_some_iff.mp given
        split at same
        · cases same
        · cases same
          exact apart written
      rw [Table.lookup?_put, if_neg other, Table.lookup?_remove, if_pos rfl]
  · rw [Table.lookup?_remove, if_pos rfl]

variable {node : String} {content : MenuContent} {context : NodeContext} {before : Int}

theorem rejectReply_asks {key : String} (few : before + 1 < content.maxAttempts) :
    AskedAgain key (before + 1) (rejectReply content key before context) := by
  unfold rejectReply
  rw [if_neg (by omega)]
  exact ⟨rfl, ⟨_, rfl⟩, Table.lookup?_put_self _ _ _⟩

theorem rejectReply_givesUp {key : String} (many : content.maxAttempts ≤ before + 1) :
    GivenUp key context.edges (rejectReply content key before context) := by
  have cleared : Table.lookup? key (Table.remove key context.bag) = none := by
    rw [Table.lookup?_remove, if_pos rfl]
  unfold rejectReply
  rw [if_pos (by omega)]
  dsimp only
  split
  · next handle edge found =>
      obtain ⟨_, kept, chosen⟩ := List.exists_of_findSome?_eq_some found
      obtain ⟨_, chosen, same⟩ := Option.map_eq_some_iff.mp chosen
      cases same
      exact ⟨Or.inl ⟨handle, kept, edge, chosen, rfl⟩, cleared⟩
  · next missing =>
      refine ⟨Or.inr ⟨fun handle kept => ?_, rfl⟩, cleared⟩
      exact Option.map_eq_none_iff.mp (List.findSome?_eq_none_iff.mp missing handle kept)

/-- A reply that chooses an option leaves the menu. -/
theorem evaluateMenu_chooses {choice : Nat × MenuOption} (resumed : context.isResume = true)
    (chosen : Reply.matchOption context.inboundText content.options = .ok (some choice))
    (apart : content.variableName ≠ some (attemptsKey node)) :
    ∃ result, evaluateMenu node content context = .ok result ∧
      Chosen (attemptsKey node) context.edges result := by
  refine ⟨leaveMenu choice.1 choice.2 context.edges
    (menuVariables content (attemptsKey node) choice.2 context.bag), ?_, ?_, ?_⟩
  · unfold evaluateMenu
    rw [resumed, chosen]
    rfl
  · exact leaveMenu_leaves _ _ _ _
  · rw [leaveMenu_bag]
    exact menuVariables_clear _ _ _ _ apart

/-- A reply that chooses no option is counted. -/
theorem evaluateMenu_rejects (resumed : context.isResume = true)
    (missed : Reply.matchOption context.inboundText content.options = .ok none)
    (reads : Reads context.bag (attemptsKey node) before) :
    evaluateMenu node content context = .ok (rejectReply content (attemptsKey node) before context) := by
  unfold evaluateMenu
  rw [resumed, missed]
  dsimp only [bind, Except.bind]
  rw [attemptsSoFar_of_reads reads]
  rfl

/-! ### Reply after reply -/

/-- A context in which a reply has come, and the session is resumed by it. -/
def replying (context : NodeContext) (bag : Variables) (reply : Option String) : NodeContext :=
  { context with bag, inboundText := reply, isResume := true }

/-- The results of a node that is answered reply by reply, for as long as it waits for more: each reply
finds the variables that the one before it has left. -/
def converse (services : Services) (node : Node) (context : NodeContext) :
    Variables → List (Option String) → Engine (List NodeResult)
  | _, [] => return []
  | bag, reply :: replies => do
      let result ← evaluate services node (replying context bag reply)
      match result.next with
      | .awaitInput _ => return result :: (← converse services node context result.bag replies)
      | _ => return [result]

/-- A reply that chooses none of some options. -/
def misses (options : List MenuOption) (reply : Option String) : Bool :=
  decide (Reply.matchOption reply options = .ok none)

section

variable {services : Services} {node : Node} {content : MenuContent} {context : NodeContext}
  {bag : Variables} {reply : Option String} {replies : List (Option String)} {result : NodeResult}
  {count : Nat}

theorem converse_waits {results : List NodeResult} {kind : ReplyKind}
    (evaluated : evaluate services node (replying context bag reply) = .done result)
    (waits : result.next = .awaitInput kind)
    (later : converse services node context result.bag replies = .done results) :
    converse services node context bag (reply :: replies) = .done (result :: results) := by
  unfold converse
  rw [evaluated]
  dsimp only [bind, andThen]
  rw [waits, later]
  rfl

theorem converse_leaves
    (evaluated : evaluate services node (replying context bag reply) = .done result)
    (leaves : ∀ kind, result.next ≠ .awaitInput kind) :
    converse services node context bag (reply :: replies) = .done [result] := by
  unfold converse
  rw [evaluated]
  dsimp only [bind, andThen]
  split
  · next kind waits => exact absurd waits (leaves kind)
  · rfl

theorem Chosen.never_waits {key : String} {edges : List Edge} (chosen : Chosen key edges result)
    (kind : ReplyKind) : result.next ≠ .awaitInput kind := by
  obtain ⟨edge, leaves, _⟩ := chosen.leaves
  intro waits
  cases edge with
  | none => cases waits.symm.trans leaves
  | some edge =>
      obtain ⟨handle, goes⟩ := leaves
      cases waits.symm.trans goes

theorem GivenUp.never_waits {key : String} {edges : List Edge} (givenUp : GivenUp key edges result)
    (kind : ReplyKind) : result.next ≠ .awaitInput kind := by
  intro waits
  rcases givenUp.leaves with ⟨handle, _, edge, _, goes⟩ | ⟨_, ends⟩
  · cases waits.symm.trans goes
  · cases waits.symm.trans ends

/-- What comes of the replies to a menu, when some were invalid before: the contact is asked again a
number of times, one short of the limit at most, and the reply after that leaves the menu. -/
structure Counted (content : MenuContent) (key : String) (edges : List Edge) (count : Nat)
    (replies : List (Option String)) (asked : Nat) (results : List NodeResult) : Prop where
  length : results.length = min replies.length (asked + 1)
  asks : ∀ index result, results[index]? = some result → index < asked →
    AskedAgain key (count + index + 1 : Nat) result
  chooses : ∀ result, results[asked]? = some result →
    asked = (replies.takeWhile (misses content.options)).length → Chosen key edges result
  givesUp : ∀ result, results[asked]? = some result →
    asked < (replies.takeWhile (misses content.options)).length → GivenUp key edges result

theorem Counted.of_asked {key : String} {edges : List Edge} {asked : Nat} {results : List NodeResult}
    (missed : misses content.options reply = true) (again : AskedAgain key (count + 1 : Nat) result)
    (later : Counted content key edges (count + 1) replies asked results) :
    Counted content key edges count (reply :: replies) (asked + 1) (result :: results) where
  length := by
    simp only [List.length_cons, later.length]
    omega
  asks index told found before := by
    cases index with
    | zero =>
        cases found
        exact again
    | succ index =>
        have next := later.asks index told found (by omega)
        rwa [Nat.add_right_comm count 1 index] at next
  chooses told found all := by
    rw [List.takeWhile_cons_of_pos missed, List.length_cons] at all
    exact later.chooses told found (by omega)
  givesUp told found part := by
    rw [List.takeWhile_cons_of_pos missed, List.length_cons] at part
    exact later.givesUp told found (by omega)

theorem Counted.of_chosen {key : String} {edges : List Edge}
    (hit : misses content.options reply = false) (chosen : Chosen key edges result) :
    Counted content key edges count (reply :: replies) 0 [result] where
  length := by simp
  asks _ _ _ before := absurd before (Nat.not_lt_zero _)
  chooses told found _ := by
    cases found
    exact chosen
  givesUp _ _ part := by simp [hit] at part

theorem Counted.of_givenUp {key : String} {edges : List Edge}
    (missed : misses content.options reply = true) (exceeded : GivenUp key edges result) :
    Counted content key edges count (reply :: replies) 0 [result] where
  length := by simp
  asks _ _ _ before := absurd before (Nat.not_lt_zero _)
  chooses _ _ all := by simp [missed] at all
  givesUp told found _ := by
    cases found
    exact exceeded

theorem converse_counted (isMenu : node.content = .menu content)
    (apart : content.variableName ≠ some (attemptsKey node.id))
    (matchable : ∀ reply ∈ replies, ∃ choice, Reply.matchOption reply content.options = .ok choice)
    (reads : Reads bag (attemptsKey node.id) count) (few : count < content.maxAttempts)
    (short : content.maxAttempts ≤ 10 ^ maxNumeralDigits ∨
      count + replies.length < 10 ^ maxNumeralDigits) :
    ∃ results, converse services node context bag replies = .done results ∧
      Counted content (attemptsKey node.id) context.edges count replies
        (min (replies.takeWhile (misses content.options)).length (content.maxAttempts - 1 - count))
        results := by
  -- by induction on the replies; the counter tells of those before them
  induction replies generalizing bag count with
  | nil => exact ⟨[], rfl, by simp, by simp, by simp, by simp⟩
  | cons reply rest ih =>
      obtain ⟨⟨choice, chosen⟩, others⟩ := List.forall_mem_cons.mp matchable
      rw [List.length_cons] at short
      have opened (inner : NodeContext) :
          evaluate services node inner = ofExcept (evaluateMenu node.id content inner) := by
        unfold evaluate
        rw [isMenu]
      cases choice with
      | some choice =>
          obtain ⟨result, evaluated, left⟩ :=
            @evaluateMenu_chooses node.id content (replying context bag reply) choice rfl chosen apart
          have hit : misses content.options reply = false := by
            simp [misses, chosen]
          rw [List.takeWhile_cons_of_neg (by simp [hit]), List.length_nil, Nat.zero_min]
          exact ⟨_, converse_leaves (by rw [opened, evaluated]; rfl) left.never_waits,
            .of_chosen hit left⟩
      | none =>
          have rejected :=
            @evaluateMenu_rejects node.id content (replying context bag reply) count rfl chosen reads
          have missed : misses content.options reply = true := by
            simp [misses, chosen]
          rw [List.takeWhile_cons_of_pos missed, List.length_cons]
          rcases Nat.lt_or_ge (count + 1) content.maxAttempts with more | last
          · have again := @rejectReply_asks content (replying context bag reply) count
              (attemptsKey node.id) (by omega)
            rw [← Int.natCast_succ] at again
            have reads : Reads _ (attemptsKey node.id) (count + 1 : Nat) :=
              .written again.counted (by omega)
            obtain ⟨results, later, counted⟩ := ih others reads more (by omega)
            have further : min ((rest.takeWhile (misses content.options)).length + 1)
                  (content.maxAttempts - 1 - count) =
                min (rest.takeWhile (misses content.options)).length
                  (content.maxAttempts - 1 - (count + 1)) + 1 := by
              omega
            rw [further]
            exact ⟨_, converse_waits (by rw [opened, rejected]; rfl) again.waits later,
              .of_asked missed again counted⟩
          · have exceeded := @rejectReply_givesUp content (replying context bag reply) count
              (attemptsKey node.id) (by omega)
            have none : content.maxAttempts - 1 - count = 0 := by
              omega
            rw [none, Nat.min_zero]
            exact ⟨_, converse_leaves (by rw [opened, rejected]; rfl) exceeded.never_waits,
              .of_givenUp missed exceeded⟩

end

end Evaluation

/-- The invalid replies to a menu are counted, and the count ends with the menu. A menu starts without
a counter. As many invalid replies as come one after the other, one short of the limit at most, each
get one message and leave the counter at their number; the reply after them leaves the menu, by an
option if it chooses one and for want of attempts if not, and the counter is gone again. Left out are
only series of more replies than a numeral can count, to a menu that would allow for so many: there the
counter could not be read back. -/
theorem menu_attempts_counted {services : Services} {node : Node} {content : MenuContent}
    {context : NodeContext} {bag : Variables} {replies : List (Option String)}
    (isMenu : node.content = .menu content) (limited : 1 ≤ content.maxAttempts)
    (apart : content.variableName ≠ some (Evaluation.attemptsKey node.id))
    (fresh : Table.lookup? (Evaluation.attemptsKey node.id) bag = none)
    (matchable : ∀ reply ∈ replies, ∃ choice, Reply.matchOption reply content.options = .ok choice)
    (short : content.maxAttempts ≤ 10 ^ maxNumeralDigits ∨
      replies.length < 10 ^ maxNumeralDigits) :
    ∃ results, Evaluation.converse services node context bag replies = .done results ∧
      Evaluation.Counted content (Evaluation.attemptsKey node.id) context.edges 0 replies
        (min (replies.takeWhile (Evaluation.misses content.options)).length (content.maxAttempts - 1))
        results :=
  Evaluation.converse_counted isMenu apart matchable (.absent fresh) limited (by rwa [Nat.zero_add])

/-! ### A menu with two attempts -/

def departments : Node :=
  ⟨"menu", none, Position.origin,
    .menu ⟨none, [⟨"a", "Vendas", some "vendas"⟩], some "setor", 2, none, []⟩, []⟩

/-- After one invalid reply, the next leaves the menu in any case: by the option that it chooses, or for
want of attempts. -/
theorem menu_attempts_counted_twice :
    (∃ again left, Evaluation.converse .all departments consultation [] [some "x", some "1", some "2"] =
        .done [again, left] ∧
      Evaluation.AskedAgain "__menu_attempts__menu" 1 again ∧
      Evaluation.Chosen "__menu_attempts__menu" [] left) ∧
    ∃ again left, Evaluation.converse .all departments consultation [] [some "x", some "2"] =
        .done [again, left] ∧
      Evaluation.AskedAgain "__menu_attempts__menu" 1 again ∧
      Evaluation.GivenUp "__menu_attempts__menu" [] left := by
  have fewer : 2 ≤ 10 ^ maxNumeralDigits :=
    (by decide : 2 ≤ 10 ^ 1).trans (Nat.pow_le_pow_right (by decide) (by decide))
  have matchable : ∀ reply ∈ [some "x", some "1", some "2"], ∃ choice, Reply.matchOption reply
      [⟨"a", "Vendas", some "vendas"⟩] = .ok choice := by
    intro reply member
    simp only [List.mem_cons, List.not_mem_nil, or_false] at member
    rcases member with rfl | rfl | rfl
    · exact ⟨_, rfl⟩
    · exact ⟨_, rfl⟩
    · exact ⟨_, rfl⟩
  have counted {replies : List (Option String)} (known : replies ⊆ [some "x", some "1", some "2"]) :=
    @menu_attempts_counted .all departments _ consultation [] replies rfl (by decide) (by decide) rfl
      (fun reply member => matchable reply (known member)) (Or.inl fewer)
  constructor
  · obtain ⟨results, done, counted⟩ := counted (List.Subset.refl _)
    obtain ⟨again, left, rfl⟩ := List.length_eq_two.mp counted.length
    exact ⟨again, left, done, counted.asks 0 again rfl (by decide), counted.chooses left rfl rfl⟩
  · have known : [some "x", some "2"] ⊆ [some "x", some "1", some "2"] := by simp
    obtain ⟨results, done, counted⟩ := counted known
    obtain ⟨again, left, rfl⟩ := List.length_eq_two.mp counted.length
    exact ⟨again, left, done, counted.asks 0 again rfl (by decide),
      counted.givesUp left rfl (by decide)⟩

end ChatFlow
