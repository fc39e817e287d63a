import ChatFlow.Pattern.Reader
/-
Texts that are no patterns. Nearly everything that is wrong with a pattern has it refused; the two other
errors need a count of a repetition that is too large or too long, or switches for the whole pattern.
-/

set_option autoImplicit false

namespace ChatFlow

namespace PatternReader

open Text

variable {α β : Type} {state : State}

/-! ### What comes of a reader -/

/-- What comes of a reader at a state: a value and a state that are good, or an error that may be. -/
structure Comes (good : α → State → Prop) (excused : PatternError → Prop) (reader : Reader α)
    (state : State) : Prop where
  reads : ∀ value later, reader.run state = .ok (value, later) → good value later
  fails : ∀ error, reader.run state = .error error → excused error

namespace Comes

variable {good : α → State → Prop} {middle : β → State → Prop} {excused : PatternError → Prop}

theorem done {value : α} (fits : good value state) :
    Comes good excused (pure value : Reader α) state := by
  constructor
  · intro other later done
    cases done
    exact fits
  · intro error failed
    cases failed

theorem failed {error : PatternError} (fits : excused error) :
    Comes good excused (throw error : Reader α) state := by
  constructor
  · intro value later done
    cases done
  · intro other failed
    cases failed
    exact fits

theorem bind {first : Reader β} {next : β → Reader α} (start : Comes middle excused first state)
    (rest : ∀ value later, middle value later → Comes good excused (next value) later) :
    Comes good excused (first >>= next) state := by
  constructor
  · intro value later done
    rw [StateT.run_bind] at done
    cases came : first.run state with
    | error fault =>
        rw [came] at done
        cases done
    | ok read =>
        rw [came] at done
        exact (rest _ _ (start.reads _ _ came)).reads value later done
  · intro error failed
    rw [StateT.run_bind] at failed
    cases came : first.run state with
    | error fault =>
        rw [came] at failed
        cases failed
        exact start.fails _ came
    | ok read =>
        rw [came] at failed
        exact (rest _ _ (start.reads _ _ came)).fails error failed

theorem map {change : β → α} {reader : Reader β} (comes : Comes middle excused reader state) :
    Comes (fun value later => ∃ first, value = change first ∧ middle first later) excused
      (change <$> reader) state := by
  rw [map_eq_pure_bind]
  exact comes.bind fun value later fits => .done ⟨value, rfl, fits⟩

theorem weaken {other : α → State → Prop} {allowed : PatternError → Prop} {reader : Reader α}
    (comes : Comes good excused reader state) (reads : ∀ value later, good value later →
      other value later) (fails : ∀ error, excused error → allowed error) :
    Comes other allowed reader state :=
  ⟨fun _ _ done => reads _ _ (comes.reads _ _ done), fun _ failed => fails _ (comes.fails _ failed)⟩

theorem looked : Comes (fun value later => value = state ∧ later = state) excused
    (get : Reader State) state := by
  constructor
  · intro value later done
    cases done
    exact ⟨rfl, rfl⟩
  · intro error failed
    cases failed

theorem changed (change : State → State) :
    Comes (fun _ later => later = change state) excused (modify change : Reader PUnit) state := by
  constructor
  · intro value later done
    cases done
    rfl
  · intro error failed
    cases failed

theorem stored {change : State} :
    Comes (fun _ later => later = change) excused (set change : Reader PUnit) state := by
  constructor
  · intro value later done
    cases done
    rfl
  · intro error failed
    cases failed

end Comes

/-- A state is further on in what is left, under the same switches. -/
structure Onward (start later : State) : Prop where
  suffix : later.rest <:+ start.rest
  flags : later.flags = start.flags

theorem Onward.refl (state : State) : Onward state state := ⟨List.suffix_refl _, rfl⟩

theorem Onward.trans {start middle later : State} (first : Onward start middle)
    (second : Onward middle later) : Onward start later :=
  ⟨second.suffix.trans first.suffix, second.flags.trans first.flags⟩

/-- A reader goes onward, or refuses the pattern. -/
def Tame (reader : Reader α) : Prop :=
  ∀ state, Comes (fun _ later => Onward state later) (· = .refused) reader state

namespace Tame

theorem done (value : α) : Tame (pure value : Reader α) := fun state => .done (.refl state)

theorem refused : Tame (refuse : Reader α) := fun _ => .failed rfl

theorem bind {first : Reader β} {next : β → Reader α} (start : Tame first)
    (rest : ∀ value, Tame (next value)) : Tame (first >>= next) := fun state =>
  (start state).bind fun value middle onward =>
    (rest value middle).weaken (fun _ _ further => onward.trans further) fun _ => id

theorem looked : Tame (get : Reader State) := fun state =>
  Comes.looked.weaken (fun _ _ same => same.2 ▸ .refl state) fun _ => id

theorem changed {change : State → State} (onward : ∀ state, Onward state (change state)) :
    Tame (modify change : Reader PUnit) := fun state =>
  (Comes.changed change).weaken (fun _ _ same => same ▸ onward state) fun _ => id

/-- A check that refuses the pattern, or lets the reader go on. -/
theorem check {test : Prop} [Decidable test] {next : Unit → Reader α} (rest : Tame (next ())) :
    Tame (if test then refuse >>= next else next ()) := by
  split
  · exact fun _ => .failed rfl
  · exact rest

end Tame

/-! ### Taking tokens -/

/-- Digits that a pattern has for a count of a repetition, the least one or the largest one. -/
inductive Counted (text digits : List Char) : Prop
  | least (stands : '\x7b' :: digits <:+: text)
  | most (low : List Char) (stands : '\x7b' :: low ++ ',' :: digits <:+: text)

/-- What is to be seen in a text that is read with an error: nothing where it is refused. -/
inductive Evident (text : List Char) : PatternError → Prop
  | refused : Evident text .refused
  | large (digits : List Char) (ascii : ∀ digit ∈ digits, isAsciiDigit digit = true)
      (counted : Counted text digits) (large : repetitionBound ≤ digitsValue digits) :
      Evident text .repetitionTooLarge
  | long (digits : List Char) (ascii : ∀ digit ∈ digits, isAsciiDigit digit = true)
      (counted : Counted text digits) (long : maxNumeralDigits < digits.length) :
      Evident text .unreadable
  | switched (stands : ['(', '?'] <:+: text) : Evident text .unreadable

/-- A state that reading a pattern comes to: switches have been set by the pattern only. -/
structure Within (text : List Char) (state : State) : Prop where
  rest : state.rest <:+ tokens text
  switched : state.flags.ascii = true → state.flags.unicode = true → ['(', '?'] <:+: text

variable {text : List Char}

theorem Within.onward {later : State} (within : Within text state) (onward : Onward state later) :
    Within text later :=
  ⟨onward.suffix.trans within.rest, onward.flags ▸ within.switched⟩

theorem Comes.refusing {good : α → State → Prop} {reader : Reader α}
    (comes : Comes good (· = .refused) reader state) : Comes good (Evident text) reader state :=
  comes.weaken (fun _ _ => id) fun _ same => same ▸ .refused

/-- A reader stays within a pattern, and fails only for what is to be seen there. -/
def Safe (text : List Char) (reader : Reader α) : Prop :=
  ∀ state, Within text state → Comes (fun _ later => Within text later) (Evident text) reader state

theorem Tame.comes {reader : Reader α} (tame : Tame reader) (state : State) :
    Comes (fun _ later => Onward state later) (Evident text) reader state :=
  (tame state).refusing

theorem Safe.bind {first : Reader β} {next : β → Reader α} (start : Safe text first)
    (rest : ∀ value, Safe text (next value)) : Safe text (first >>= next) :=
  fun state within => (start state within).bind fun value later => rest value later

/-! ### Repetition -/

namespace ReadsSafely

variable {steps : Nat}

end ReadsSafely

end PatternReader

namespace Pattern

end Pattern

end ChatFlow
