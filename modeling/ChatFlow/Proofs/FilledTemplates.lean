import ChatFlow.Proofs.DeclaredVariables
import ChatFlow.Proofs.VerbatimValues
import Mathlib.Data.List.Forall2
/-
Templates in JSON. The body of an outbound request is a text that may be JSON; it is then read first, and
filled in text by text. Whatever the variables hold, the filled body has the names, the lists, the numbers
and the words of its template, and a text just where that has one.
-/

set_option autoImplicit false

namespace ChatFlow

open Program

/-! ### Names of members -/

namespace Value

mutual

/-- The names of the members of every object inside a value are as asserted. -/
def NamesAre (good : List String → Prop) : Value → Prop
  | .arr items => NamesAreIn good items
  | .obj members => good (Table.names members) ∧ NamesAreUnder good members
  | _ => True

def NamesAreIn (good : List String → Prop) : List Value → Prop
  | [] => True
  | value :: rest => NamesAre good value ∧ NamesAreIn good rest

def NamesAreUnder (good : List String → Prop) : List (String × Value) → Prop
  | [] => True
  | (_, value) :: rest => NamesAre good value ∧ NamesAreUnder good rest

end

variable {good : List String → Prop}

theorem namesAreIn_iff {items : List Value} :
    NamesAreIn good items ↔ ∀ value ∈ items, value.NamesAre good := by
  induction items with
  | nil => simp [NamesAreIn]
  | cons value rest ih => simp [NamesAreIn, ih]

theorem namesAreUnder_iff {members : List (String × Value)} :
    NamesAreUnder good members ↔ ∀ entry ∈ members, entry.2.NamesAre good := by
  induction members with
  | nil => simp [NamesAreUnder]
  | cons entry rest ih => simp only [NamesAreUnder, ih, List.forall_mem_cons]

/-- A value without parts that is no text. -/
def isTextless : Value → Bool
  | .str _ | .arr _ | .obj _ => false
  | _ => true

theorem namesAre_of_isTextless {value : Value} (textless : value.isTextless = true) :
    value.NamesAre good := by
  cases value with
  | arr | obj => cases textless
  | _ => exact trivial

end Value

/-! ### What is read has no name twice -/

namespace Json

variable {characters rest : List Char} {value : Value} {steps : Nat}

theorem textless_of_number {empty plain long : Prop} [Decidable empty] [Decidable plain]
    [Decidable long] {first second : JsonError} {size : Int} {real : Binary64}
    {after behind : List Char}
    (done : (if empty then .error first
      else if plain then (if long then .error second else .ok (.int size, after))
      else .ok (.real real, behind) : Except JsonError (Value × List Char)) = .ok (value, rest)) :
    value.isTextless = true := by
  by_cases none : empty
  · rw [if_pos none] at done
    cases done
  · by_cases whole : plain
    · by_cases much : long
      · rw [if_neg none, if_pos whole, if_pos much] at done
        cases done
      · rw [if_neg none, if_pos whole, if_neg much] at done
        cases done
        rfl
    · rw [if_neg none, if_neg whole] at done
      cases done
      rfl

theorem readMagnitude_textless {start : List Char} {negative : Bool}
    (done : readMagnitude start negative characters = .ok (value, rest)) :
    value.isTextless = true := by
  unfold readMagnitude at done
  exact textless_of_number done

theorem readScalar_names {good : List String → Prop}
    (done : readScalar characters = .ok (value, rest)) : value.NamesAre good := by
  unfold readScalar at done
  split at done
  · next opened =>
      cases quoted : readQuoted ('"' :: opened) [] opened with
      | error fault =>
          rw [quoted] at done
          cases done
      | ok read =>
          rw [quoted] at done
          cases done
          exact trivial
  · split at done
    · cases done
      exact trivial
    · exact Value.namesAre_of_isTextless (readMagnitude_textless done)
  · split at done
    all_goals first
      | exact Value.namesAre_of_isTextless (readMagnitude_textless done)
      | cases done; exact trivial

theorem readValue_ok (done : readValue (steps + 1) characters = .ok (value, rest)) :
    value = .arr [] ∨ value = .obj [] ∨
      (∃ start, readItems steps [] start = .ok (value, rest)) ∨
      (∃ start, readMembers steps [] start = .ok (value, rest)) ∨
      readScalar characters = .ok (value, rest) := by
  unfold readValue at done
  split at done
  · cases ‹_ + 1 = 0›
  · obtain rfl := Nat.succ.inj ‹_ + 1 = _ + 1›
    split at done
    · cases done
      exact .inl rfl
    · exact .inr (.inr (.inl ⟨_, done⟩))
  · obtain rfl := Nat.succ.inj ‹_ + 1 = _ + 1›
    split at done
    · cases done
      exact .inr (.inl rfl)
    · exact .inr (.inr (.inr (.inl ⟨_, done⟩)))
  · exact .inr (.inr (.inr (.inr done)))

theorem readItems_ok {items : List Value}
    (done : readItems (steps + 1) items characters = .ok (value, rest)) :
    ∃ item afterItem, readValue steps characters = .ok (item, afterItem) ∧
      (value = .arr (item :: items).reverse ∨
        ∃ start, readItems steps (item :: items) start = .ok (value, rest)) := by
  unfold readItems at done
  cases first : readValue steps characters with
  | error fault =>
      rw [first] at done
      cases done
  | ok read =>
      obtain ⟨item, afterItem⟩ := read
      rw [first] at done
      refine ⟨item, afterItem, rfl, ?_⟩
      dsimp only [bind, Except.bind] at done
      split at done
      · exact .inr ⟨_, done⟩
      · cases done
        exact .inl rfl
      · cases done

theorem readMembers_ok {members : List (String × Value)}
    (done : readMembers (steps + 1) members characters = .ok (value, rest)) :
    ∃ name held start afterValue, readValue steps start = .ok (held, afterValue) ∧
      (value = .obj (Table.put name held members) ∨
        ∃ start, readMembers steps (Table.put name held members) start = .ok (value, rest)) := by
  unfold readMembers at done
  split at done
  · cases ‹_ + 1 = 0›
  · next opened counted =>
      obtain rfl := Nat.succ.inj counted
      cases quoted : readQuoted ('"' :: opened) [] opened with
      | error fault =>
          rw [quoted] at done
          cases done
      | ok named =>
          rw [quoted] at done
          dsimp only [bind, Except.bind] at done
          split at done
          · next afterColon _ =>
              cases first : readValue steps (skipBlanks afterColon) with
              | error fault =>
                  rw [first] at done
                  cases done
              | ok read =>
                  rw [first] at done
                  dsimp only at done
                  refine ⟨named.1, read.1, _, read.2, first, ?_⟩
                  split at done
                  · exact .inr ⟨_, done⟩
                  · cases done
                    exact .inl rfl
                  · cases done
          · cases done
  · cases done

/-- In what is read, no object has a name twice. The parts that stand already read are so, and reading
goes on with them: by induction on the steps, for values, items and members at once. -/
theorem reads_distinct (steps : Nat) :
    (∀ characters value rest, readValue steps characters = .ok (value, rest) →
      value.NamesAre List.Nodup) ∧
    (∀ items characters value rest, (∀ item ∈ items, item.NamesAre List.Nodup) →
      readItems steps items characters = .ok (value, rest) → value.NamesAre List.Nodup) ∧
    ∀ members characters value rest, (Table.names members).Nodup →
      (∀ entry ∈ members, entry.2.NamesAre List.Nodup) →
      readMembers steps members characters = .ok (value, rest) → value.NamesAre List.Nodup := by
  induction steps with
  | zero =>
      refine ⟨?_, ?_, ?_⟩
      · intro characters value rest done
        rw [readValue] at done
        cases done
      · intro items characters value rest _ done
        rw [readItems] at done
        cases done
      · intro members characters value rest _ _ done
        rw [readMembers] at done
        cases done
  | succ steps ih =>
      obtain ⟨values, lists, objects⟩ := ih
      refine ⟨?_, ?_, ?_⟩
      · intro characters value rest done
        rcases readValue_ok done with rfl | rfl | ⟨start, more⟩ | ⟨start, more⟩ | scalar
        · exact trivial
        · exact ⟨List.nodup_nil, trivial⟩
        · exact lists [] _ _ _ (List.forall_mem_nil _) more
        · exact objects [] _ _ _ List.nodup_nil (List.forall_mem_nil _) more
        · exact readScalar_names scalar
      · intro items characters value rest each done
        obtain ⟨item, afterItem, first, ended⟩ := readItems_ok done
        have all : ∀ other ∈ item :: items, other.NamesAre List.Nodup :=
          List.forall_mem_cons.mpr ⟨values _ _ _ first, each⟩
        rcases ended with rfl | ⟨start, more⟩
        · apply Value.namesAreIn_iff.mpr
          intro other member
          exact all other (List.mem_reverse.mp member)
        · exact lists _ _ _ _ all more
      · intro members characters value rest distinct each done
        obtain ⟨name, held, start, afterValue, first, ended⟩ := readMembers_ok done
        have all : ∀ entry ∈ Table.put name held members, entry.2.NamesAre List.Nodup := by
          intro entry member
          rcases Table.mem_put member with ⟨_, same⟩ | member
          · rw [same]
            exact values _ _ _ first
          · exact each entry member
        rcases ended with rfl | ⟨start, more⟩
        · exact ⟨Table.names_put_nodup distinct _ _, Value.namesAreUnder_iff.mpr all⟩
        · exact objects _ _ _ _ (Table.names_put_nodup distinct _ _) all more

theorem ofText_distinct {text : String} (done : ofText text = .ok value) :
    value.NamesAre List.Nodup := by
  unfold ofText read at done
  cases leading : readLeading text.toList with
  | error fault =>
      rw [leading] at done
      cases done
  | ok taken =>
      rw [leading] at done
      cases done
      unfold readLeading at leading
      cases first : readValue (2 * text.toList.length + 2) (skipBlanks text.toList) with
      | error fault =>
          rw [first] at leading
          cases leading
      | ok read =>
          rw [first] at leading
          dsimp only [bind, Except.bind] at leading
          split at leading
          · cases leading
            exact (reads_distinct _).1 _ _ _ first
          · cases leading

theorem ofText_empty : ofText "" = .error (.malformed 0) := rfl

end Json

/-! ### Values of one shape -/

namespace Value

/-- Two values have lists of the same lengths and the same names, in the same order, at the same places,
and the same numbers and words; and they have texts at the same places, which are related. -/
inductive Corresponds (texts : String → String → Prop) : Value → Value → Prop where
  | same {value : Value} (textless : value.isTextless = true) : Corresponds texts value value
  | text {first second : String} (related : texts first second) :
      Corresponds texts (.str first) (.str second)
  | items {first second : List Value} (each : List.Forall₂ (Corresponds texts) first second) :
      Corresponds texts (.arr first) (.arr second)
  | members {first second : List (String × Value)} (named : Table.names first = Table.names second)
      (each : List.Forall₂ (Corresponds texts) (first.map Prod.snd) (second.map Prod.snd)) :
      Corresponds texts (.obj first) (.obj second)

def SameShape (first second : Value) : Prop := first.Corresponds (fun _ _ => True) second

variable {first second both : String → String → Prop}

mutual

/-- Two values that correspond to a third one correspond to each other. -/
theorem Corresponds.join
    (joined : ∀ {text left right}, first text left → second text right → both left right) :
    (value : Value) → {left right : Value} → value.Corresponds first left →
    value.Corresponds second right → left.Corresponds both right
  | .str _, _, _, .text one, .text two => .text (joined one two)
  | .arr items, _, _, .items one, .items two => .items (joinItems joined items one two)
  | .obj members, _, _, .members named one, .members renamed two =>
      .members (named.symm.trans renamed) (joinMembers joined members one two)
  | .null, _, _, .same textless, .same _ | .bool _, _, _, .same textless, .same _
  | .int _, _, _, .same textless, .same _ | .real _, _, _, .same textless, .same _
  | .stamp _, _, _, .same textless, .same _ | .objectId _, _, _, .same textless, .same _ =>
      .same textless

theorem joinItems
    (joined : ∀ {text left right}, first text left → second text right → both left right) :
    (items : List Value) → {left right : List Value} →
    List.Forall₂ (Corresponds first) items left → List.Forall₂ (Corresponds second) items right →
    List.Forall₂ (Corresponds both) left right
  | [], _, _, .nil, .nil => .nil
  | item :: rest, _, _, .cons one ones, .cons two twos =>
      .cons (Corresponds.join joined item one two) (joinItems joined rest ones twos)

theorem joinMembers
    (joined : ∀ {text left right}, first text left → second text right → both left right) :
    (members : List (String × Value)) → {left right : List Value} →
    List.Forall₂ (Corresponds first) (members.map Prod.snd) left →
    List.Forall₂ (Corresponds second) (members.map Prod.snd) right →
    List.Forall₂ (Corresponds both) left right
  | [], _, _, .nil, .nil => .nil
  | (_, value) :: rest, _, _, .cons one ones, .cons two twos =>
      .cons (Corresponds.join joined value one two) (joinMembers joined rest ones twos)

end

end Value

/-! ### Filling in a template -/

/-- No name can hold a placeholder. -/
def Unopened (names : List String) : Prop :=
  ∀ name ∈ names, Interpolation.openBrace ∉ name.toList

instance (names : List String) : Decidable (Unopened names) := by
  unfold Unopened
  infer_instance

namespace Interpolation

theorem interpolateMembers_names {members : List (String × Value)} (bag : Variables)
    (unopened : Unopened (Table.names members)) :
    Table.names (interpolateMembers bag members) = Table.names members := by
  induction members with
  | nil => rfl
  | cons entry rest ih =>
      obtain ⟨own, others⟩ := List.forall_mem_cons.mp unopened
      have renamed : interpolate bag entry.1 = entry.1 := interpolate_bare bag own
      show interpolate bag entry.1 :: _ = entry.1 :: _
      rw [renamed]
      exact congrArg _ (ih others)

/-- The text `filled` is the text `written` with its placeholders replaced. -/
def Fills (bag : Variables) (written filled : String) : Prop := filled = interpolate bag written

mutual

/-- A template corresponds to what is filled in, text by text. -/
theorem corresponds_interpolateValue (bag : Variables) : (value : Value) →
    value.NamesAre List.Nodup → value.NamesAre Unopened →
    value.Corresponds (Fills bag) (interpolateValue bag value)
  | .str _, _, _ => .text rfl
  | .arr items, distinct, unopened => .items (corresponds_interpolateItems bag items distinct unopened)
  | .obj members, ⟨named, distinct⟩, ⟨bare, unopened⟩ => by
      have names := interpolateMembers_names bag bare
      unfold interpolateValue
      rw [Table.ofSettings_of_nodup (names ▸ named)]
      exact .members names.symm (corresponds_interpolateMembers bag members distinct unopened)
  | .null, _, _ | .bool _, _, _ | .int _, _, _ | .real _, _, _ | .stamp _, _, _
  | .objectId _, _, _ => .same rfl

theorem corresponds_interpolateItems (bag : Variables) : (items : List Value) →
    Value.NamesAreIn List.Nodup items → Value.NamesAreIn Unopened items →
    List.Forall₂ (Value.Corresponds (Fills bag)) items (interpolateItems bag items)
  | [], _, _ => .nil
  | item :: rest, ⟨own, others⟩, ⟨bare, unopened⟩ =>
      .cons (corresponds_interpolateValue bag item own bare)
        (corresponds_interpolateItems bag rest others unopened)

theorem corresponds_interpolateMembers (bag : Variables) : (members : List (String × Value)) →
    Value.NamesAreUnder List.Nodup members → Value.NamesAreUnder Unopened members →
    List.Forall₂ (Value.Corresponds (Fills bag)) (members.map Prod.snd)
      ((interpolateMembers bag members).map Prod.snd)
  | [], _, _ => .nil
  | (_, value) :: rest, ⟨own, others⟩, ⟨bare, unopened⟩ =>
      .cons (corresponds_interpolateValue bag value own bare)
        (corresponds_interpolateMembers bag rest others unopened)

end

end Interpolation

/-! ### What is sent -/

namespace Evaluation

open Interpolation Text

/-- An evaluation of a node that sends requests may send this body. -/
def Sends (services : Services) (node : Node) (context : NodeContext) (body : Value) : Prop :=
  ∃ calls outcome request reply, Transcript (evaluate services node context) calls outcome ∧
    ⟨.http request, reply⟩ ∈ calls ∧ request.body = body

variable {services : Services} {node : Node} {context : NodeContext} {content : WebhookContent}
  {body : Value}

theorem requestBody_of_sends (sends : Sends services node context body)
    (given : node.content = .webhook content) : body = requestBody content context.bag := by
  obtain ⟨calls, outcome, request, reply, ran, member, rfl⟩ := sends
  unfold evaluate at ran
  rw [given] at ran
  have asks : Makes (fun call => ∀ request, call = .http request →
      request.body = requestBody content context.bag) (evaluateWebhook services content context) := by
    apply evaluateWebhook_makes
    rintro sent filled request ⟨⟩
    exact filled
  exact asks.all ran _ member request rfl

theorem requestBody_of_json {template : String} {value : Value}
    (written : content.body = some template) (read : Json.ofText template = .ok value)
    (bag : Variables) : requestBody content bag = interpolateValue bag value := by
  have filled : template.isEmpty = false := by
    apply Bool.eq_false_iff.mpr
    intro empty
    rw [String.isEmpty_iff.mp empty, Json.ofText_empty] at read
    cases read
  unfold requestBody given?
  rw [written, Option.bind_some, filled]
  simp only [Bool.false_eq_true, if_false, read]

/-- A template that is JSON, and in which no placeholder begins in a name, keeps its shape: filling it in
changes its texts only, each into the text itself filled in. Any two fillings have the shape in common;
and so have the bodies that a node sends in any two sessions, whatever the variables hold. -/
theorem filled_templates_keep_their_shape {template : String} {value : Value}
    (written : content.body = some template) (read : Json.ofText template = .ok value)
    (unopened : value.NamesAre Unopened) :
    (∀ bag, value.Corresponds (Fills bag) (interpolateValue bag value)) ∧
      (∀ first second, (interpolateValue first value).SameShape (interpolateValue second value)) ∧
      ∀ node, node.content = .webhook content →
        (∀ services context body, Sends services node context body →
          value.Corresponds (Fills context.bag) body) ∧
        ∀ services context body otherServices otherContext otherBody,
          Sends services node context body → Sends otherServices node otherContext otherBody →
          body.SameShape otherBody := by
  have filled (bag : Variables) : value.Corresponds (Fills bag) (interpolateValue bag value) :=
    corresponds_interpolateValue bag value (Json.ofText_distinct read) unopened
  have alike {first second : Variables} {one other : Value}
      (left : value.Corresponds (Fills first) one) (right : value.Corresponds (Fills second) other) :
      one.SameShape other :=
    Value.Corresponds.join (fun _ _ => trivial) value left right
  have sent {node : Node} (asks : node.content = .webhook content) {services : Services}
      {context : NodeContext} {body : Value} (sends : Sends services node context body) :
      value.Corresponds (Fills context.bag) body := by
    rw [requestBody_of_sends sends asks, requestBody_of_json written read]
    exact filled context.bag
  refine ⟨filled, fun first second => alike (filled first) (filled second), ?_⟩
  intro node asks
  refine ⟨fun _ _ _ sends => sent asks sends, ?_⟩
  intro services context body otherServices otherContext otherBody sends otherSends
  exact alike (sent asks sends) (sent asks otherSends)

/-- The text `{"nome": "{{nome}}", "itens": [1, true, null, "de {nome}"]}`. -/
def orderTemplate : String :=
  "\x7b\"nome\": \"\x7b\x7bnome\x7d\x7d\", \"itens\": [1, true, null, \"de \x7bnome\x7d\"]\x7d"

def order : Value :=
  .obj [("nome", .str "\x7b\x7bnome\x7d\x7d"),
    ("itens", .arr [.int 1, .bool true, .null, .str "de \x7bnome\x7d"])]

def orderRequest : WebhookContent where
  url := "https://loja.com"
  method := .post
  headers := []
  body := some orderTemplate
  responseVariable := none
  responsePath := none
  timeout := Binary64.ofInt 30
  continueOnError := true
  extras := []

def ordering : Node := ⟨"pedido", none, Position.origin, .webhook orderRequest, []⟩

/-- The order is sent in every session. -/
theorem sends_order (bag : Variables) :
    Sends .all ordering { consultation with bag } (requestBody orderRequest bag) := by
  have url : trim (interpolate bag orderRequest.url) = orderRequest.url := by
    rw [interpolate_bare bag (by decide +kernel)]
    decide +kernel
  have asked : ∃ request, request.body = requestBody orderRequest bag ∧
      (consult helpful (evaluate .all ordering { consultation with bag })).1 =
        [⟨.http request, .error (.runtime "out of service")⟩] := by
    unfold evaluate evaluateWebhook ordering
    dsimp only
    rw [url]
    exact ⟨_, rfl, rfl⟩
  obtain ⟨request, filled, asked⟩ := asked
  have ran := consult_transcript helpful (evaluate .all ordering { consultation with bag })
  rw [asked] at ran
  exact ⟨_, _, request, _, ran, List.mem_singleton.mpr rfl, filled⟩

/-- A name with quotes, brackets and braces leaves the order as it is, but for the two texts that it is
put into. -/
theorem filled_templates_keep_their_shape_order :
    Json.ofText orderTemplate = .ok order ∧ order.NamesAre Unopened ∧
      (∀ bag, order.Corresponds (Fills bag) (interpolateValue bag order)) ∧
      interpolateValue [("nome", "\"\x7d], \x7bx")] order =
        .obj [("nome", .str "\"\x7d], \x7bx"),
          ("itens", .arr [.int 1, .bool true, .null, .str "de \"\x7d], \x7bx"])] ∧
      ∀ first second, ∃ body other,
        Sends .all ordering { consultation with bag := first } body ∧
        Sends .all ordering { consultation with bag := second } other ∧ body.SameShape other := by
  have read : Json.ofText orderTemplate = .ok order := ok_of_toOption (by decide +kernel)
  have unopened : order.NamesAre Unopened :=
    ⟨by decide, trivial, ⟨trivial, trivial, trivial, trivial, trivial⟩, trivial⟩
  obtain ⟨filled, _, sent⟩ := filled_templates_keep_their_shape
    (rfl : orderRequest.body = some orderTemplate) read unopened
  refine ⟨read, unopened, filled, by decide +kernel, ?_⟩
  intro first second
  exact ⟨_, _, sends_order first, sends_order second,
    (sent ordering rfl).2 _ _ _ _ _ _ (sends_order first) (sends_order second)⟩

end Evaluation

end ChatFlow
