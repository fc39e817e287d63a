import ChatFlow.Proofs.MenuAttempts
import ChatFlow.Proofs.WaitingNodes
/-
What a reply can break. A menu takes any reply but one of so many decimal digits that they cannot be
read as a number, and an input takes every reply; so that an event which is over for a failed node has
come, at an input never and at a menu only with such a reply or with a counter that something else has
written.
-/

set_option autoImplicit false

namespace ChatFlow

open Program Text

namespace Reply

variable {reply : Option String} {options : List MenuOption} {index : Nat} {option : MenuOption}

/-- A reply of more decimal digits than are read as a number, to a menu with options none of which has
it for a value. -/
structure Overlong (reply : Option String) (options : List MenuOption) : Prop where
  decimal : isDecimal (trimBlanks (reply.getD "").toList) = true
  long : maxNumeralDigits < (trimBlanks (reply.getD "").toList).length
  offered : options ≠ []
  unnamed : ∀ option ∈ options, ∀ value, option.value = some value →
    trimBlanks value.toList ≠ trimBlanks (reply.getD "").toList

theorem findOption_found {test : MenuOption → Bool}
    (found : findOption test options = some (index, option)) : options[index]? = some option := by
  obtain ⟨entry, among, same⟩ := Option.map_eq_some_iff.mp found
  cases same
  exact List.mem_zipIdx_iff_getElem?.mp (List.mem_of_find?_eq_some among)

theorem findOption_eq_none_iff {test : MenuOption → Bool} :
    findOption test options = none ↔ ∀ option ∈ options, test option = false := by
  unfold findOption
  rw [Option.map_eq_none_iff, List.find?_eq_none]
  constructor
  · intro missing option member
    obtain ⟨index, found⟩ := List.mem_iff_getElem?.mp member
    simpa using missing (option, index) (List.mem_zipIdx_iff_getElem?.mpr found)
  · intro missing entry member
    rw [missing entry.1 (List.fst_mem_of_mem_zipIdx member)]
    exact Bool.false_ne_true

theorem byNumber?_found {number : Nat} (found : byNumber? number options = some (index, option)) :
    options[index]? = some option := by
  unfold byNumber? at found
  split at found
  · cases found
  · obtain ⟨chosen, stands, same⟩ := Option.map_eq_some_iff.mp found
    cases same
    exact stands

/-- An option that is chosen is the one at its position. -/
theorem matchOption_found (found : matchOption reply options = .ok (some (index, option))) :
    options[index]? = some option := by
  unfold matchOption at found
  dsimp only at found
  split at found
  · cases found
  · split at found
    · next named =>
        cases found
        exact findOption_found named
    · split at found
      · split at found
        · cases found
        · rw [Except.ok.injEq, Option.orElse_eq_orElse, Option.orElse_eq_or,
            Option.or_eq_some_iff] at found
          rcases found with numbered | ⟨_, labelled⟩
          · exact byNumber?_found numbered
          · exact findOption_found labelled
      · exact findOption_found (Except.ok.inj found)

theorem byValue?_eq_none_iff {characters : List Char} (filled : characters ≠ []) :
    byValue? characters options = none ↔ ∀ option ∈ options, ∀ value, option.value = some value →
      trimBlanks value.toList ≠ characters := by
  unfold byValue?
  rw [findOption_eq_none_iff]
  refine forall_congr' fun option => forall_congr' fun _ => ?_
  cases option.value with
  | none => simp
  | some value =>
      by_cases blank : value = ""
      · subst blank
        refine iff_of_true rfl ?_
        rintro _ ⟨⟩
        exact filled.symm
      · have given : value.isEmpty = false := by simpa using blank
        simp only [Option.some.injEq, forall_eq', given, Bool.not_false, Bool.true_and,
          beq_eq_false_iff_ne, ne_comm]

/-- A number of too many of the ten digits is overlong where no option has it for a value. -/
theorem overlong_of_digits {digits : List Char} (plain : ∀ digit ∈ digits, PlainDigit digit)
    (long : maxNumeralDigits < digits.length) (offered : options ≠ [])
    (unnamed : ∀ option ∈ options, ∀ value, option.value = some value →
      trimBlanks value.toList ≠ digits) : Overlong (some (String.ofList digits)) options := by
  have solid : ∀ digit ∈ digits, isBlank digit = false := fun digit member =>
    (plain digit member).solid
  have trimmed : trimBlanks (String.ofList digits).toList = digits := by
    rw [String.toList_ofList]
    exact trimBy_of_none solid
  have filled : digits ≠ [] := List.ne_nil_of_length_pos (Nat.zero_lt_of_lt long)
  have all : digits.all isDigit = true := List.all_eq_true.mpr fun digit member => by
    unfold isDigit
    rw [(plain digit member).value]
    rfl
  constructor
  · rw [Option.getD_some, trimmed]
    simpa [isDecimal, filled] using all
  · rwa [Option.getD_some, trimmed]
  · exact offered
  · rwa [Option.getD_some, trimmed]

/-- Only an overlong reply is a fault. -/
theorem matchOption_error_iff {fault : Fault} :
    matchOption reply options = .error fault ↔
      Overlong reply options ∧ fault = .unreadableNumeral := by
  unfold matchOption
  dsimp only
  generalize same : trimBlanks (reply.getD "").toList = trimmed
  constructor
  · intro failed
    split at failed
    · cases failed
    · next given =>
        simp only [Bool.or_eq_true, List.isEmpty_iff, not_or] at given
        split at failed
        · cases failed
        · next unnamed =>
            split at failed
            · next decimal =>
                split at failed
                · next long =>
                    cases failed
                    subst same
                    exact ⟨⟨decimal, long, given.2, (byValue?_eq_none_iff given.1).mp unnamed⟩, rfl⟩
                · cases failed
            · cases failed
  · rintro ⟨⟨decimal, long, offered, unnamed⟩, rfl⟩
    subst same
    have filled : trimBlanks (reply.getD "").toList ≠ [] :=
      List.ne_nil_of_length_pos (Nat.zero_lt_of_lt long)
    rw [(byValue?_eq_none_iff filled).mpr unnamed, decimal, if_pos rfl, if_pos long, if_neg]
    simp [filled, offered]

end Reply

namespace Evaluation

variable {services : Services} {node : Node} {context : NodeContext} {before : Int}

/-! ### Menus -/

/-- Only an overlong reply breaks a menu, or a counter that something else has written. -/
theorem evaluateMenu_error {id : String} {content : MenuContent} {fault : Fault}
    (failed : evaluateMenu id content context = .error fault) :
    context.isResume = true ∧ (Reply.Overlong context.inboundText content.options ∨
      ¬∃ before, Reads context.bag (attemptsKey id) before) := by
  unfold evaluateMenu at failed
  dsimp only at failed
  split at failed
  · cases failed
  · next resumed =>
      refine ⟨by simpa using resumed, ?_⟩
      cases chosen : Reply.matchOption context.inboundText content.options with
      | error fault => exact Or.inl (Reply.matchOption_error_iff.mp chosen).1
      | ok choice =>
          rw [chosen] at failed
          cases choice with
          | some choice => cases failed
          | none =>
              refine Or.inr fun ⟨before, reads⟩ => ?_
              dsimp only [bind, Except.bind] at failed
              rw [attemptsSoFar_of_reads reads] at failed
              cases failed

/-- A reply counts as invalid: the contact is asked again, with one more on the counter, or the menu is
given up. -/
inductive Rejects (content : MenuContent) (key : String) (edges : List Edge) (before : Int)
    (result : NodeResult) : Prop where
  | again (few : before + 1 < content.maxAttempts) (asked : AskedAgain key (before + 1) result)
  | last (many : content.maxAttempts ≤ before + 1) (given : GivenUp key edges result)

theorem rejectReply_rejects (content : MenuContent) (key : String) :
    Rejects content key context.edges before (rejectReply content key before context) := by
  rcases Int.lt_or_le (before + 1) content.maxAttempts with few | many
  · exact .again few (rejectReply_asks few)
  · exact .last many (rejectReply_givesUp many)

/-- A menu takes every reply that is not overlong, as a choice or as invalid. -/
theorem evaluate_menu {content : MenuContent} (isMenu : node.content = .menu content)
    (resumed : context.isResume = true) (reads : Reads context.bag (attemptsKey node.id) before)
    (short : ¬Reply.Overlong context.inboundText content.options) :
    ∃ result, evaluate services node context = .done result ∧
      (Reply.matchOption context.inboundText content.options = .ok none →
        Rejects content (attemptsKey node.id) context.edges before result) := by
  unfold evaluate
  rw [isMenu]
  dsimp only
  cases evaluated : evaluateMenu node.id content context with
  | error fault =>
      rcases (evaluateMenu_error evaluated).2 with long | unread
      · exact absurd long short
      · exact absurd ⟨before, reads⟩ unread
  | ok result =>
      refine ⟨result, rfl, fun missed => ?_⟩
      cases evaluated.symm.trans (evaluateMenu_rejects resumed missed reads)
      exact rejectReply_rejects content (attemptsKey node.id)

/-! ### Inputs -/

/-- What comes of a reply to an input: it is stored as it is without blanks around it, and the node is
left; or it is answered with the message for errors, and the session goes on waiting. -/
inductive TakesInput (content : InputContent) (context : NodeContext) (result : NodeResult) : Prop where
  | stored
      (leaves : ∃ edge, result.next.LeavesBy edge ∧ ∀ found ∈ edge, found ∈ context.edges)
      (kept : Table.lookup? content.variableName result.bag =
        some (trim (context.inboundText.getD "")))
  | refused (waits : result.next = .awaitInput .text)
      (told : result.effects = [Effect.message
        (givenOr (some (Interpolation.interpolate? context.bag content.errorMessage))
          (defaultInputError content.form))])
      (unchanged : result.bag = context.bag)

/-- An input takes every reply. -/
theorem evaluate_input {content : InputContent} (isInput : node.content = .input content)
    (resumed : context.isResume = true) :
    ∃ result, evaluate services node context = .done result ∧ TakesInput content context result := by
  have leaving {bag : Variables} : ∃ edge, (advance context.edges bag [] none).next.LeavesBy edge ∧
      ∀ found ∈ edge, found ∈ context.edges :=
    ⟨_, leaveBy_leaves _ _ _ _, fun _ found => Edge.mem_of_select? found⟩
  unfold evaluate
  rw [isInput]
  refine ⟨_, rfl, ?_⟩
  unfold evaluateInput
  dsimp only
  rw [resumed, Bool.not_true, if_neg Bool.false_ne_true]
  split
  · next unneeded =>
      have nothing : trim (context.inboundText.getD "") = "" := by
        simpa using (Bool.and_eq_true_iff.mp unneeded).1
      refine .stored leaving ?_
      rw [advance_bag, Table.lookup?_put_self, nothing]
  · split
    · refine .stored leaving ?_
      rw [advance_bag, Table.lookup?_put_self]
    · exact .refused rfl rfl rfl

end Evaluation

/-! ### Walks that end at a failed node -/

namespace Run.Itinerary

variable {settings : EngineSettings} {flow : Flow} {session : Session} {inboundText : Option String}
  {isResume : Bool} {moves : Nat} {progress last : Progress} {calls : List (Answered Call.Answer)}
  {stops : List (Stop settings)} {rows : List LogEntry} {decision : Decision}

/-- A walk is over for a failed node only where it stands at one, which it resumes only where it has
begun. -/
theorem fails_at_stop {outcome : Outcome}
    (itinerary : Itinerary settings flow session inboundText moves isResume progress calls stops
      rows decision last) (failed : decision = .terminate outcome "node_error") :
    ∃ (stop : Stop settings) (now : Stamp) (bag : Variables) (resumed : Bool) (fault : Fault),
      stop.Stands flow session inboundText resumed now last.node bag ∧ stop.outcome = .error fault ∧
      (resumed = true → isResume = true ∧ last.node = progress.node ∧ bag = progress.bag) := by
  induction itinerary with
  | lost | strayed | exhausted => simp at failed
  | broken stands broke stays =>
      rw [stays.node]
      exact ⟨_, _, _, _, _, stands, broke, fun resumed => ⟨resumed, rfl, rfl⟩⟩
  | @halted _ _ _ _ _ stop value stands done decided stays =>
      have guided := Evaluation.guided_of_evaluated (done ▸ stop.recorded)
      exact absurd failed (guided.known "node_error" (by decide) outcome)
  | moved stands leads moved rest ih =>
      obtain ⟨stop, now, bag, resumed, fault, stood, broke, first⟩ := ih failed
      exact ⟨stop, now, bag, resumed, fault, stood, broke, fun again => nomatch (first again).1⟩

end Run.Itinerary

/-! ### Events that end at a failed node -/

/-- A session that is resumed by a message is run with its text. -/
theorem Stimulus.Opens.text_of_message {calls : List (Answered Call.Answer)}
    {message : InboundMessage} {session : Session} {inboundText : Option String} {isResume : Bool}
    {given : Option Flow}
    (opens : Opens calls (.inbound message) session inboundText isResume given)
    (resumed : isResume = true) : inboundText = message.text := by
  cases opens with
  | created => cases resumed
  | replied => rfl

namespace Event

variable {settings : EngineSettings} {run : Ran settings}

/-- A node that has failed is not one that asks a contact: it is no input, and a menu only where the run
has resumed it, with an overlong reply or with a counter that something else has written. -/
structure Journey.SparesQuestions (journey : Journey run) : Prop where
  input : ∀ node content, journey.flow.node? journey.last.node = some node →
    node.content ≠ .input content
  menu : ∀ node content, journey.flow.node? journey.last.node = some node →
    node.content = .menu content →
    run.isResume = true ∧ run.session.currentNode = node.id ∧
      (Reply.Overlong run.inboundText content.options ∨
        ¬∃ before, Evaluation.Reads run.session.bag (Evaluation.attemptsKey node.id) before)

theorem Journey.sparesQuestions (journey : Journey run) {outcome : Outcome}
    (failed : journey.decision = .terminate outcome "node_error") : journey.SparesQuestions := by
  obtain ⟨stop, now, bag, resumed, fault, stands, broke, first⟩ :=
    journey.itinerary.fails_at_stop failed
  have recorded := stop.recorded
  rw [broke, stands.context] at recorded
  unfold Evaluation.evaluate at recorded
  constructor
  · rintro node content here isInput
    cases here.symm.trans stands.here
    rw [isInput] at recorded
    cases (Transcript.of_done recorded).2
  · rintro node content here isMenu
    cases here.symm.trans stands.here
    rw [isMenu] at recorded
    obtain ⟨again, fault⟩ := Evaluation.evaluateMenu_error (Transcript.of_ofExcept recorded).2.symm
    obtain ⟨resumes, stays, rfl⟩ := first again
    refine ⟨resumes, ?_, fault⟩
    rw [Run.node?_id stands.here, stays]
    rfl

/-- A run that reports a failed node has decided so where it stood. -/
theorem Journey.fails_of_report (journey : Journey run) (truthful : Truthful run.calls)
    {report : EventReport} (done : run.result = .ok report) (failed : report.status = .failed)
    (broken : report.endReason = some "node_error") :
    report.node = some journey.last.node ∧
      ∃ outcome, journey.decision = .terminate outcome "node_error" := by
  have concluded := journey.concluded
  rw [done] at concluded
  cases concluded with
  | reported told writes answers =>
      have among := List.mem_append_right (journey.fetching ++ journey.walking) told
      rw [← journey.calls] at among
      obtain ⟨stamp, row⟩ := written_answered truthful among
      refine ⟨by rw [answers.node, row, ← writes.node], ?_⟩
      rcases journey.decision.ends_or_waits with ⟨outcome, reason, ends⟩ | ⟨status, waits, other⟩
      · have given := (answers.ends outcome reason ends).2
        rw [broken, Option.some.injEq] at given
        subst given
        exact ⟨outcome, Decision.terminate_of_ending ends (by decide)⟩
      · have reported := answers.waits status waits
        rw [failed] at reported
        cases status with
        | failed => exact absurd rfl other
        | _ => cases reported

theorem Astray.reason_of_report (astray : Astray run) {report : EventReport}
    (done : run.result = .ok report) : report.endReason = some "flow_not_found" := by
  cases astray with
  | unread calls result => cases done.symm.trans result
  | unclocked result => cases done.symm.trans result
  | gone calls fetched stays concluded asked =>
      rw [done] at concluded
      cases concluded with
      | reported told writes answers => exact (answers.ends _ _ rfl).2

/-- An event that is over for a failed node ends with a run that has come to it. -/
theorem fails_sparing {stimulus : Stimulus} {calls : List (Answered Call.Answer)}
    {report : EventReport} (truthful : Truthful calls)
    (ran : Transcript (stimulus.program settings) calls (.ok report))
    (failed : report.status = .failed) (broken : report.endReason = some "node_error") :
    ∃ run : Ran settings, run.OpenedBy stimulus calls ∧ run.result = .ok report ∧
      ∃ journey : Journey run, report.node = some journey.last.node ∧ journey.SparesQuestions := by
  obtain ⟨runs, comprises, opened⟩ := comprised ran
  obtain ⟨run, member, done⟩ := comprises.reports report rfl (by rw [failed]; rfl)
  refine ⟨run, opened run member, done, ?_⟩
  rcases run.sets_out with ⟨⟨journey⟩⟩ | astray
  · obtain ⟨here, outcome, decided⟩ := journey.fails_of_report
      (truthful.of_subset (comprises.within run member).subset) done failed broken
    exact ⟨journey, here, journey.sparesQuestions decided⟩
  · have gone := astray.reason_of_report done
    rw [broken] at gone
    simp at gone

end Event

namespace Workplace

variable {ι : Type} {place : Workplace ι}

/-- What the text of a message can break. Matched with the options of a menu, it is one of them or none,
but where it is overlong, which alone is a fault. A menu that it resumes with a counter of the engine's
own takes every other text, and counts it as invalid where it is none of its options; an input takes
every text, and stores it or answers it with the message for errors. So where the event of a message is
over for a failed node, that is no input, and a menu only if the message has resumed it there with an
overlong text, or with a counter that something else has written. -/
theorem replies_break_only_by_length (reached : Reached place) (index : ι) (settings : EngineSettings)
    (message : InboundMessage) :
    (∀ options,
      (∀ position option, Reply.matchOption message.text options = .ok (some (position, option)) →
        options[position]? = some option) ∧
      ∀ fault, Reply.matchOption message.text options = .error fault ↔
        Reply.Overlong message.text options ∧ fault = .unreadableNumeral) ∧
    (∀ (node : Node) content context bag before, node.content = .menu content →
      Evaluation.Reads bag (Evaluation.attemptsKey node.id) before →
      ¬Reply.Overlong message.text content.options →
      ∃ result, Evaluation.evaluate settings.services node
          (Evaluation.replying context bag message.text) = .done result ∧
        (Reply.matchOption message.text content.options = .ok none →
          Evaluation.Rejects content (Evaluation.attemptsKey node.id) context.edges before result)) ∧
    (∀ (node : Node) content context bag, node.content = .input content →
      ∃ result, Evaluation.evaluate settings.services node
          (Evaluation.replying context bag message.text) = .done result ∧
        Evaluation.TakesInput content (Evaluation.replying context bag message.text) result) ∧
    ∀ calls report, calls <:+: (place.worker index).past.reverse →
      Transcript ((Stimulus.inbound message).program settings) calls (.ok report) →
      report.status = .failed → report.endReason = some "node_error" →
      ∃ run : Event.Ran settings, run.OpenedBy (.inbound message) calls ∧ run.result = .ok report ∧
        (run.isResume = true → run.inboundText = message.text) ∧
        ∃ journey : Event.Journey run,
          report.node = some journey.last.node ∧ journey.SparesQuestions := by
  refine ⟨fun options => ⟨fun position option => ?_, fun fault => ?_⟩, ?_, ?_, ?_⟩
  · exact Reply.matchOption_found
  · exact Reply.matchOption_error_iff
  · intro node content context bag before isMenu reads short
    exact Evaluation.evaluate_menu isMenu rfl reads short
  · intro node content context bag isInput
    exact Evaluation.evaluate_input isInput rfl
  · intro calls report within ran failed broken
    have truthful := (reached.truthful index).of_subset fun _ member =>
      List.mem_reverse.mp (within.subset member)
    obtain ⟨run, opened, done, journey⟩ := Event.fails_sparing truthful ran failed broken
    exact ⟨run, opened, done, opened.text_of_message, journey⟩

end Workplace

/-! ### A counter that something else has written -/

namespace Workplace

/-- The contact is asked to choose, in a session that was started with a counter that is no number. -/
def miscounted : Workplace Unit :=
  (stocked choosing).play sampleSettings
    (.order () (.start "org_1"
      ⟨"flow-0001", "conv_1", none, none, none, [("__menu_attempts__node", "x")]⟩ none) ::
      answered 10)

def miscounting : Workplace Unit := miscounted.beginning (Stimulus.inbound contactReply).operation

/-- The contact has replied, and the node has failed. -/
def miscountedAgain : Workplace Unit := miscounting.play sampleSettings (answered 9)

theorem replies_break_only_by_length_miscounted :
    (¬Reply.Overlong contactReply.text [⟨"a", "Vendas", some "vendas"⟩] ∧
      ∃ result, Evaluation.evaluate .all departments
          (Evaluation.replying consultation [] contactReply.text) = .done result ∧
        Reply.matchOption contactReply.text [⟨"a", "Vendas", some "vendas"⟩] = .ok none ∧
        result.next = .awaitInput .menu) ∧
    (∃ result, Evaluation.evaluate .all ⟨"node", none, Position.origin, question, []⟩
        (Evaluation.replying consultation [] contactReply.text) = .done result ∧
      Evaluation.TakesInput ⟨none, "nome", .text, none, false, []⟩
        (Evaluation.replying consultation [] contactReply.text) result) ∧
    ∃ report, (miscountedAgain.worker ()).Ends (.ok (some report)) ∧ report.status = .failed ∧
      report.endReason = some "node_error" ∧ ∃ run : Event.Ran sampleSettings,
        run.OpenedBy (.inbound contactReply) (miscountedAgain.worker ()).past.reverse ∧
        run.result = .ok report ∧ (run.isResume = true → run.inboundText = contactReply.text) ∧
        ∃ journey : Event.Journey run,
          report.node = some journey.last.node ∧ journey.SparesQuestions := by
  have idle : decide (miscounted.worker ()).IsIdle = true := by decide +kernel
  have begun := beginning_begun miscounted idle (Stimulus.inbound contactReply).operation
  have reached : Reached miscounted := (stocked_reached _).play _
  have onward : Onward () miscounting miscountedAgain :=
    Alone.onward (alone_play sampleSettings miscounting () Nothing 9)
  obtain ⟨_, menus, inputs, events⟩ := replies_break_only_by_length
    (reached.steps (.head begun.step onward.steps)) () sampleSettings contactReply
  refine ⟨?_, inputs _ _ consultation [] rfl, ?_⟩
  · have short : ¬Reply.Overlong contactReply.text [⟨"a", "Vendas", some "vendas"⟩] :=
      fun overlong => absurd overlong.decimal (by decide)
    obtain ⟨result, evaluated, rejects⟩ :=
      menus departments _ consultation [] 0 rfl (.absent rfl) short
    refine ⟨short, result, evaluated, rfl, ?_⟩
    cases rejects rfl with
    | again few asked => exact asked.waits
    | last many given => exact absurd many (by decide)
  · have known : (reportOf? (miscountedAgain.worker ())).any (fun report =>
        report.status = .failed && report.endReason = some "node_error") = true := by decide +kernel
    obtain ⟨report, done, known⟩ := (Option.any_eq_true _ _).mp known
    rw [Bool.and_eq_true, decide_eq_true_eq, decide_eq_true_eq] at known
    have ends : (miscountedAgain.worker ()).Ends (.ok (some report)) := by
      rw [reportOf?_eq_some done]
      rfl
    have ran := begun.transcript onward ends
    rw [Stimulus.operation_program] at ran
    obtain ⟨outcome, same, ran⟩ := Operation.reporting_calls ran
    refine ⟨report, ends, known.1, known.2, ?_⟩
    cases outcome with
    | error fault => cases same
    | ok found =>
        cases same
        exact events _ _ (List.infix_refl _) ran known.1 known.2

end Workplace

/-! ### A reply that is too long -/

/-- A reply of one digit more than are read as a number is a fault, where the menu has any option. -/
theorem overlong_reply_not_matched :
    Reply.matchOption (some (String.ofList (List.replicate 4301 '1')))
      [⟨"a", "Vendas", some "vendas"⟩] = .error .unreadableNumeral := by
  have digit : PlainDigit '1' := plainDigit_of_isDigit (by decide)
  refine Reply.matchOption_error_iff.mpr ⟨Reply.overlong_of_digits ?_ ?_ ?_ ?_, rfl⟩
  · intro character member
    rwa [List.eq_of_mem_replicate member]
  · rw [List.length_replicate]
    decide
  · exact List.cons_ne_nil _ _
  · intro option member value given same
    cases List.mem_singleton.mp member
    cases given
    have length := congrArg List.length same
    rw [List.length_replicate] at length
    exact absurd length (by decide)

end ChatFlow
