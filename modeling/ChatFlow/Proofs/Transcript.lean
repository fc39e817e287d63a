import ChatFlow.Proofs.ProgramPast
/-
Complete runs of programs. A transcript lists the calls that a program has made, each with its
reply, from its first call to its result. Any reply may stand in it, so that a fact about all
transcripts holds whoever answers.
-/

set_option autoImplicit false

namespace ChatFlow.Program

variable {Call : Type} {Answer : Call → Type} {α β : Type}

/-- A program has made these calls, in this order and with these replies, and has come to a
result. -/
inductive Transcript : Program Answer α → List (Answered Answer) → Except Fault α → Prop where
  | done (value : α) : Transcript (.done value) [] (.ok value)
  | fail (fault : Fault) : Transcript (.fail fault) [] (.error fault)
  | call {request : Call} {next : Except Fault (Answer request) → Program Answer α}
      {reply : Except Fault (Answer request)} {calls : List (Answered Answer)}
      {result : Except Fault α} (rest : Transcript (next reply) calls result) :
      Transcript (.call request next) (⟨request, reply⟩ :: calls) result

namespace Transcript

variable {program : Program Answer α} {calls : List (Answered Answer)} {result : Except Fault α}

theorem of_done {value : α} (ran : Transcript (.done value) calls result) :
    calls = [] ∧ result = .ok value := by
  cases ran
  exact ⟨rfl, rfl⟩

theorem of_fail {fault : Fault}
    (ran : Transcript (.fail fault : Program Answer α) calls result) :
    calls = [] ∧ result = .error fault := by
  cases ran
  exact ⟨rfl, rfl⟩

/-- A program that goes on with the result of another one has come to that result first, unless
there was none. -/
theorem of_bind {first : Program Answer β} {next : β → Program Answer α}
    (ran : Transcript (first >>= next) calls result) :
    (∃ value earlier later, calls = earlier ++ later ∧ Transcript first earlier (.ok value) ∧
      Transcript (next value) later result) ∨
    ∃ fault, Transcript first calls (.error fault) ∧ result = .error fault := by
  induction first generalizing calls with
  | done value => exact Or.inl ⟨value, [], calls, rfl, .done value, ran⟩
  | fail fault =>
      obtain ⟨rfl, rfl⟩ := of_fail ran
      exact Or.inr ⟨fault, .fail fault, rfl⟩
  | call request step ih =>
      cases ran with
      | call rest =>
          rcases ih _ rest with ⟨value, earlier, later, rfl, start, tail⟩ | ⟨fault, start, rfl⟩
          · exact Or.inl ⟨value, _ :: earlier, later, rfl, .call start, tail⟩
          · exact Or.inr ⟨fault, .call start, rfl⟩

theorem of_outcome {result : Except Fault (Except Fault α)}
    (ran : Transcript (outcome program) calls result) :
    ∃ inner, result = .ok inner ∧ Transcript program calls inner := by
  induction program generalizing calls with
  | done value =>
      obtain ⟨rfl, rfl⟩ := of_done ran
      exact ⟨_, rfl, .done value⟩
  | fail fault =>
      obtain ⟨rfl, rfl⟩ := of_done ran
      exact ⟨_, rfl, .fail fault⟩
  | call request next ih =>
      cases ran with
      | call rest =>
          obtain ⟨inner, same, tail⟩ := ih _ rest
          exact ⟨inner, same, .call tail⟩

theorem of_perform {request : Call} {result : Except Fault (Answer request)}
    (ran : Transcript (perform request : Program Answer (Answer request)) calls result) :
    calls = [⟨request, result⟩] := by
  cases ran with
  | @call _ _ reply _ _ rest =>
      cases reply with
      | ok value => obtain ⟨rfl, rfl⟩ := of_done rest; rfl
      | error fault => obtain ⟨rfl, rfl⟩ := of_fail rest; rfl

theorem of_ofExcept {given : Except Fault α} (ran : Transcript (ofExcept given) calls result) :
    calls = [] ∧ result = given := by
  cases given with
  | ok value => exact of_done ran
  | error fault => exact of_fail ran

theorem of_discard {result : Except Fault Unit} (ran : Transcript (discard program) calls result) :
    ∃ inner, Transcript program calls inner ∧
      ∀ fault, result = .error fault ↔ inner = .error fault := by
  rcases of_bind ran with ⟨value, earlier, later, rfl, start, rest⟩ | ⟨fault, start, rfl⟩
  · obtain ⟨rfl, rfl⟩ := of_done rest
    rw [List.append_nil]
    exact ⟨_, start, by simp⟩
  · exact ⟨_, start, by simp⟩

/-! ### Putting transcripts together -/

theorem bind_ok {first : Program Answer β} {next : β → Program Answer α} {value : β}
    {earlier later : List (Answered Answer)} (start : Transcript first earlier (.ok value))
    (rest : Transcript (next value) later result) :
    Transcript (first >>= next) (earlier ++ later) result := by
  induction first generalizing earlier with
  | done found =>
      obtain ⟨rfl, same⟩ := of_done start
      cases same
      exact rest
  | fail fault =>
      obtain ⟨_, same⟩ := of_fail start
      cases same
  | call request step ih =>
      cases start with
      | call tail => exact .call (ih _ tail)

theorem bind_error {first : Program Answer β} {next : β → Program Answer α} {fault : Fault}
    (start : Transcript first calls (.error fault)) :
    Transcript (first >>= next) calls (.error fault) := by
  induction first generalizing calls with
  | done value =>
      obtain ⟨_, same⟩ := of_done start
      cases same
  | fail other =>
      obtain ⟨rfl, same⟩ := of_fail start
      cases same
      exact .fail fault
  | call request step ih =>
      cases start with
      | call tail => exact .call (ih _ tail)

theorem outcome (ran : Transcript program calls result) :
    Transcript (Program.outcome program) calls (.ok result) := by
  induction ran with
  | done value => exact .done _
  | fail fault => exact .done _
  | call rest ih => exact .call ih

theorem perform {request : Call} (reply : Except Fault (Answer request)) :
    Transcript (Program.perform request : Program Answer (Answer request)) [⟨request, reply⟩]
      reply := by
  refine .call ?_
  cases reply with
  | ok value => exact .done value
  | error fault => exact .fail fault

theorem ofExcept (given : Except Fault α) :
    Transcript (Program.ofExcept given : Program Answer α) [] given := by
  cases given with
  | ok value => exact .done value
  | error fault => exact .fail fault

/-! ### What a rule says of transcripts -/

variable {rule : Past Answer → Call → Prop} {post : Past Answer → Except Fault α → Prop}

/-- What is asserted of a program's end holds at the end of each of its transcripts. -/
theorem follows (ran : Transcript program calls result) {past : Past Answer}
    (follows : Follows rule post program past) : post (calls.reverse ++ past) result := by
  induction ran generalizing past with
  | done value => exact follows.at_done
  | fail fault => exact follows.at_fail
  | call rest ih =>
      have end_ := ih (follows.at_call.2 _)
      simpa using end_

theorem allowed {kind : Call → Prop} (ran : Transcript program calls result) {past : Past Answer}
    (follows : Follows (fun _ request => kind request) post program past) :
    ∀ entry ∈ calls, kind entry.request := by
  induction ran generalizing past with
  | done value => exact fun _ member => nomatch member
  | fail fault => exact fun _ member => nomatch member
  | call rest ih =>
      obtain ⟨first, others⟩ := follows.at_call
      exact List.forall_mem_cons.mpr ⟨first, ih (others _)⟩

end Transcript

/-- A program with a past behind it ends in the transcript of that past and what came after. -/
theorem Follows.recorded (program : Program Answer α) :
    Follows (fun _ _ => True) (fun later result => Transcript program later.reverse result)
      program [] := by
  -- by induction on what is left of the program, with what it has done so far as a parameter
  have going (rest : Program Answer α) (past : Past Answer)
      (before : ∀ calls result, Transcript rest calls result →
        Transcript program (past.reverse ++ calls) result) :
      Follows (fun _ _ => True) (fun later result => Transcript program later.reverse result)
        rest past := by
    induction rest generalizing past with
    | done value =>
        have whole := before [] (.ok value) (.done value)
        rw [List.append_nil] at whole
        exact Follows.done whole
    | fail fault =>
        have whole := before [] (.error fault) (.fail fault)
        rw [List.append_nil] at whole
        exact Follows.fail whole
    | call request next ih =>
        refine Follows.call trivial fun reply => ih reply _ fun calls result ran => ?_
        have whole := before (⟨request, reply⟩ :: calls) result (.call ran)
        simpa using whole
  exact going program [] fun _ _ ran => ran

/-! ### Replies of an interpreter -/

section

variable {σ : Type}

/-- The calls that a program makes, with what an interpreter answers. -/
def log (answer : (request : Call) → σ → Except Fault (Answer request) × σ) :
    Program Answer α → σ → List (Answered Answer)
  | .done _, _ => []
  | .fail _, _ => []
  | .call request next, state =>
      ⟨request, (answer request state).1⟩ ::
        log answer (next (answer request state).1) (answer request state).2

theorem transcript_log {answer : (request : Call) → σ → Except Fault (Answer request) × σ}
    (program : Program Answer α) (state : σ) :
    Transcript program (program.log answer state) (run answer program state).1 := by
  induction program generalizing state with
  | done value => exact .done value
  | fail fault => exact .fail fault
  | call request next ih => exact .call (ih _ _)

end

/-! ### Replies that are given by a function -/

theorem ok_of_toOption {ε : Type} {given : Except ε α} {value : α}
    (known : given.toOption = some value) : given = .ok value := by
  cases given with
  | error fault => cases known
  | ok found =>
      cases known
      rfl

/-- What a program asks and comes to where each call is answered by a function of the call. -/
def consult (oracle : (request : Call) → Except Fault (Answer request)) :
    Program Answer α → List (Answered Answer) × Except Fault α
  | .done value => ([], .ok value)
  | .fail fault => ([], .error fault)
  | .call request next =>
      let rest := consult oracle (next (oracle request))
      (⟨request, oracle request⟩ :: rest.1, rest.2)

theorem consult_transcript (oracle : (request : Call) → Except Fault (Answer request))
    (program : Program Answer α) :
    Transcript program (consult oracle program).1 (consult oracle program).2 := by
  induction program with
  | done value => exact .done value
  | fail fault => exact .fail fault
  | call request next ih => exact .call (ih (oracle request))

section

variable (oracle : (request : Call) → Except Fault (Answer request))

theorem consult_bind (first : Program Answer β) (next : β → Program Answer α) :
    (consult oracle (first >>= next)).2 =
      (consult oracle first).2.bind fun value => (consult oracle (next value)).2 := by
  induction first with
  | done value => rfl
  | fail fault => rfl
  | call request step ih => exact ih (oracle request)

theorem consult_perform (request : Call) :
    (consult oracle (perform request : Program Answer (Answer request))).2 = oracle request := by
  unfold perform consult
  cases oracle request <;> rfl

theorem consult_ofExcept (given : Except Fault α) :
    (consult oracle (ofExcept given : Program Answer α)).2 = given := by
  cases given <;> rfl

end

end ChatFlow.Program
