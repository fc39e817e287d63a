import ChatFlow.Program
/-
Programs along their pasts. The past of a program is what it has asked and been told; a rule says
which call a past allows next. That a program follows a rule is said without a word on who answers:
every reply to every call has to be reckoned with.
-/

set_option autoImplicit false

namespace ChatFlow.Program

/-- A call that has been answered, with its reply. -/
structure Answered {Call : Type} (Answer : Call → Type) where
  request : Call
  reply : Except Fault (Answer request)

/-- What a program has asked and been told, the latest first. -/
abbrev Past {Call : Type} (Answer : Call → Type) := List (Answered Answer)

variable {Call : Type} {Answer : Call → Type} {α β : Type}

/-- Every call that a program makes is one that the rule allows after its past, whatever the replies
are, and the past at its end and its result are as asserted. -/
def Follows (rule : Past Answer → Call → Prop) (post : Past Answer → Except Fault α → Prop) :
    Program Answer α → Past Answer → Prop
  | .done value, past => post past (.ok value)
  | .fail fault, past => post past (.error fault)
  | .call request next, past =>
      rule past request ∧ ∀ reply, Follows rule post (next reply) (⟨request, reply⟩ :: past)

/-- An assertion on values only; nothing is said of failures. -/
def whenDone (good : Past Answer → α → Prop) (past : Past Answer) : Except Fault α → Prop
  | .ok value => good past value
  | .error _ => True

/-- An assertion on values; there is no failure. -/
def always (good : Past Answer → α → Prop) (past : Past Answer) : Except Fault α → Prop
  | .ok value => good past value
  | .error _ => False

/-- Every call is allowed, and nothing is said of the end. -/
abbrev Keeps (rule : Past Answer → Call → Prop) (program : Program Answer α)
    (past : Past Answer) : Prop :=
  Follows rule (whenDone fun _ _ => True) program past

namespace Follows

variable {rule rule' : Past Answer → Call → Prop}
  {post post' : Past Answer → Except Fault α → Prop} {program : Program Answer α}
  {past : Past Answer}

theorem done {value : α} (reached : post past (.ok value)) :
    Follows rule post (.done value) past :=
  reached

theorem fail {fault : Fault} (reached : post past (.error fault)) :
    Follows rule post (.fail fault) past :=
  reached

theorem call {request : Call} {next : Except Fault (Answer request) → Program Answer α}
    (allowed : rule past request)
    (rest : ∀ reply, Follows rule post (next reply) (⟨request, reply⟩ :: past)) :
    Follows rule post (.call request next) past :=
  ⟨allowed, rest⟩

theorem at_call {request : Call} {next : Except Fault (Answer request) → Program Answer α}
    (follows : Follows rule post (.call request next) past) :
    rule past request ∧ ∀ reply, Follows rule post (next reply) (⟨request, reply⟩ :: past) :=
  follows

theorem at_done {value : α} (follows : Follows rule post (.done value) past) :
    post past (.ok value) :=
  follows

theorem at_fail {fault : Fault} (follows : Follows rule post (.fail fault) past) :
    post past (.error fault) :=
  follows

/-- A weaker assertion holds too. It may use that the past has only grown. -/
theorem weaken (follows : Follows rule post program past)
    (implies : ∀ later result, past <:+ later → post later result → post' later result) :
    Follows rule post' program past := by
  induction program generalizing past with
  | done value => exact implies past _ (List.suffix_refl past) follows
  | fail fault => exact implies past _ (List.suffix_refl past) follows
  | call request next ih =>
      refine ⟨follows.1, fun reply => ih reply (follows.2 reply) fun later result grown => ?_⟩
      exact implies later result ((List.suffix_cons _ past).trans grown)

theorem weakenDone {good good' : Past Answer → α → Prop}
    (follows : Follows rule (whenDone good) program past)
    (implies : ∀ value later, past <:+ later → good later value → good' later value) :
    Follows rule (whenDone good') program past := by
  apply follows.weaken
  intro later result grown known
  cases result with
  | ok value => exact implies value later grown known
  | error fault => trivial

theorem both (follows : Follows rule post program past) (follows' : Follows rule' post' program past) :
    Follows (fun past request => rule past request ∧ rule' past request)
      (fun later result => post later result ∧ post' later result) program past := by
  induction program generalizing past with
  | done value => exact ⟨follows, follows'⟩
  | fail fault => exact ⟨follows, follows'⟩
  | call request next ih =>
      exact ⟨⟨follows.1, follows'.1⟩, fun reply => ih reply (follows.2 reply) (follows'.2 reply)⟩

/-- What a rule says of each call holds of every call that was added to the past. -/
theorem since (follows : Follows rule post program past) {kind : Call → Prop}
    (implies : ∀ past request, rule past request → kind request) :
    Follows rule
      (fun later result => post later result ∧
        ∃ since, later = since ++ past ∧ ∀ entry ∈ since, kind entry.request) program past := by
  -- by induction on the program, with the calls that were added so far as a parameter
  have added (first : Past Answer) (program : Program Answer α)
      (follows : Follows rule post program (first ++ past))
      (known : ∀ entry ∈ first, kind entry.request) :
      Follows rule
        (fun later result => post later result ∧
          ∃ since, later = since ++ past ∧ ∀ entry ∈ since, kind entry.request) program
        (first ++ past) := by
    induction program generalizing first with
    | done value => exact ⟨follows, first, rfl, known⟩
    | fail fault => exact ⟨follows, first, rfl, known⟩
    | call request next ih =>
        refine ⟨follows.1, fun reply => ih reply (⟨request, reply⟩ :: first) (follows.2 reply) ?_⟩
        intro entry member
        rcases List.mem_cons.mp member with same | earlier
        · rw [same]
          exact implies _ request follows.1
        · exact known entry earlier
  exact added [] program follows fun _ member => nomatch member

/-- What a rule says of each call is known of the whole past when a call is made. -/
theorem recalled (follows : Follows rule post program past) {kind : Call → Prop}
    (implies : ∀ past request, rule past request → kind request)
    (known : ∀ entry ∈ past, kind entry.request) :
    Follows (fun past request => rule past request ∧ ∀ entry ∈ past, kind entry.request)
      (fun later result => post later result ∧ ∀ entry ∈ later, kind entry.request) program past := by
  induction program generalizing past with
  | done value => exact ⟨follows, known⟩
  | fail fault => exact ⟨follows, known⟩
  | call request next ih =>
      refine ⟨⟨follows.1, known⟩, fun reply => ih reply (follows.2 reply) fun entry member => ?_⟩
      rcases List.mem_cons.mp member with same | earlier
      · rw [same]
        exact implies past request follows.1
      · exact known entry earlier

/-- Where every call is allowed, what holds of all longer pasts holds at the end. -/
theorem unruled (holds : ∀ later result, past <:+ later → post later result) :
    Follows (fun _ _ => True) post program past := by
  induction program generalizing past with
  | done value => exact holds past _ (List.suffix_refl past)
  | fail fault => exact holds past _ (List.suffix_refl past)
  | call request next ih =>
      refine ⟨trivial, fun reply => ih reply fun later result grown => ?_⟩
      exact holds later result ((List.suffix_cons _ past).trans grown)

theorem loosen (follows : Follows rule post program past)
    (implies : ∀ past request, rule past request → rule' past request) :
    Follows rule' post program past := by
  induction program generalizing past with
  | done value => exact follows
  | fail fault => exact follows
  | call request next ih =>
      exact ⟨implies past request follows.1, fun reply => ih reply (follows.2 reply)⟩

theorem keeps (follows : Follows rule post program past) : Keeps rule program past :=
  follows.weaken fun _ result _ _ => by cases result <;> trivial

theorem bind {middle : Past Answer → Except Fault β → Prop} {first : Program Answer β}
    {next : β → Program Answer α} (follows : Follows rule middle first past)
    (rest : ∀ value later, past <:+ later → middle later (.ok value) →
      Follows rule post (next value) later)
    (failed : ∀ fault later, past <:+ later → middle later (.error fault) →
      post later (.error fault)) :
    Follows rule post (first >>= next) past := by
  induction first generalizing past with
  | done value => exact rest value past (List.suffix_refl past) follows
  | fail fault => exact failed fault past (List.suffix_refl past) follows
  | call request step ih =>
      refine ⟨follows.1, fun reply => ih reply (follows.2 reply) ?_ ?_⟩
      · intro value later grown
        exact rest value later ((List.suffix_cons _ past).trans grown)
      · intro fault later grown
        exact failed fault later ((List.suffix_cons _ past).trans grown)

theorem andThen {middle : Past Answer → Except Fault β → Prop} {good : Past Answer → α → Prop}
    {first : Program Answer β} {next : β → Program Answer α}
    (follows : Follows rule middle first past)
    (rest : ∀ value later, past <:+ later → middle later (.ok value) →
      Follows rule (whenDone good) (next value) later) :
    Follows rule (whenDone good) (first >>= next) past :=
  follows.bind rest fun _ _ _ _ => trivial

theorem discards {post' : Past Answer → Except Fault Unit → Prop}
    (follows : Follows rule post program past)
    (values : ∀ value later, post later (.ok value) → post' later (.ok ()))
    (faults : ∀ fault later, post later (.error fault) → post' later (.error fault)) :
    Follows rule post' (discard program) past :=
  follows.bind (fun value later _ known => Follows.done (values value later known))
    fun fault later _ known => faults fault later known

theorem discarded {good : Past Answer → Unit → Prop}
    (follows : Follows rule (whenDone fun later _ => good later ()) program past) :
    Follows rule (whenDone good) (discard program) past :=
  follows.discards (fun _ _ reached => reached) fun _ _ _ => trivial

theorem outcome (follows : Follows rule post program past) :
    Follows rule (always post) (Program.outcome program) past := by
  induction program generalizing past with
  | done value => exact follows
  | fail fault => exact follows
  | call request next ih => exact ⟨follows.1, fun reply => ih reply (follows.2 reply)⟩

theorem perform {request : Call} (allowed : rule past request) :
    Follows rule (fun later reply => later = ⟨request, reply⟩ :: past) (Program.perform request)
      past := by
  refine ⟨allowed, ?_⟩
  intro reply
  cases reply <;> rfl

theorem ofExcept {given : Except Fault α} (holds : post past given) :
    Follows rule post (Program.ofExcept given) past := by
  cases given with
  | ok value => exact holds
  | error fault => exact holds

end Follows

theorem Keeps.discarded {rule : Past Answer → Call → Prop} {program : Program Answer α}
    {past : Past Answer} (keeps : Keeps rule program past) : Keeps rule (discard program) past :=
  Follows.discarded keeps

/- From here on programs are followed by these lemmas alone. -/
attribute [irreducible] Follows

end ChatFlow.Program
