import ChatFlow.Proofs.EventTenancy
import ChatFlow.Proofs.Recollection
/-
Every place has a register of owners that is true of the store and of all that the workers were told:
every event acts within some mandate, so that none takes a flow or a session from its owner.
-/

set_option autoImplicit false

namespace ChatFlow

open Program EnginePast

/-! ### What a worker was told -/

namespace EnginePast

/-- A register vouches for all that was told. -/
def Vouched (past : EnginePast) (register : Register) : Prop :=
  ∀ {request : StoreCall} {answer : request.Answer}, Told past request answer →
    register.Vouches request answer

variable {past : EnginePast} {register : Register}

theorem Vouched.hasSession (vouched : Vouched past register) {found : Session}
    (saw : Saw past found) : register.HasSession found := by
  cases saw with
  | owner told => exact (vouched told found rfl).1
  | row told active => exact vouched told found rfl
  | made told => exact (vouched told).1

theorem Vouched.offered (vouched : Vouched past register) {organization : String} {flow : Flow}
    (offered : Offered past organization flow) :
    flow.organization = organization ∧ register.HasFlow flow := by
  cases offered with
  | asked told => exact (vouched told flow rfl).2
  | triggered told member => exact vouched told _ rfl flow member

theorem Vouched.organization_eq (vouched : Vouched past register) {organization : String}
    {found : Session} (owns : Owns past organization found) : found.organization = organization := by
  cases owns with
  | active told own => exact own
  | @made flow given offered same told =>
      obtain ⟨_, id, stored⟩ := vouched told
      have organization : found.organization = given.organization := by rw [stored]
      exact organization.trans (same.trans (vouched.offered offered).1)
  | @onFlow name flow owned told =>
      obtain ⟨named, own, id, known, owner⟩ := vouched owned flow rfl
      have has : register.HasSession found := vouched told found rfl
      cases known.symm.trans named
      rw [has.flow, own] at owner
      exact Option.some.inj owner

theorem Vouched.respects (vouched : Vouched past register) {request : StoreCall}
    (covers : Mandate.anyone.Covers past (.store request)) : request.Respects register := by
  cases request with
  | createSession session =>
      obtain ⟨organization, flow, _, offered, named, own⟩ := covers
      obtain ⟨_, id, known, owner⟩ := vouched.offered offered
      cases known.symm.trans named
      exact owner.trans (congrArg some own.symm)
  | updateSession session expected =>
      obtain ⟨found, takes⟩ := covers
      exact (vouched.hasSession takes.saw).congr takes.id takes.home
  | updateFlow organization id settings => exact covers
  | _ => trivial

end EnginePast

/-! ### Places -/

namespace Workplace

variable {ι : Type} {before after place : Workplace ι}

/-- What the programs of all events keep to is kept to in every place. -/
theorem Reached.keeps {rule : EnginePast → Call → Prop}
    (programs : ∀ (settings : EngineSettings) (operation : Operation),
      Keeps rule (operation.program settings) [])
    (reached : Reached place) (index : ι) :
    Keeps rule (place.worker index).rest (place.worker index).past := by
  induction reached generalizing index with
  | start time => exact Follows.done trivial
  | step reached step ih =>
      cases step with
      | tick later => exact ih index
      | begin settings operation idle same turn =>
          exact keeps_turn ih turn (programs settings operation) index
      | answer calls answers turn => exact keeps_turn ih turn ((keeps_at_call ih calls).2 _) index
      | refuse calls same turn => exact keeps_turn ih turn ((keeps_at_call ih calls).2 _) index

theorem Reached.covered (reached : Reached place) (index : ι) :
    Keeps Mandate.anyone.Covers (place.worker index).rest (place.worker index).past :=
  reached.keeps (fun settings operation =>
    ((operation.program_covered settings).loosen fun _ _ covers => covers.anyone).keeps) index

/-- A register is true of the store, and vouches for what every worker was told. -/
structure Registered (place : Workplace ι) (register : Register) : Prop where
  owned : Store.Owned place.scene.store register
  vouched : ∀ index, Vouched (place.worker index).past register

theorem Registered.answer {register : Register} (registered : Registered before register)
    (informed : Informed before) {index : ι} {past : EnginePast} {request : Call}
    {reply : Except Fault request.Answer}
    (answering : Answering before after index past request reply)
    (covers : Mandate.anyone.Covers past request) :
    ∃ later, Registered after later := by
  have vouched : Vouched past register := answering.asks ▸ registered.vouched index
  -- what is new is the one answer, for which a later register vouches
  have told {later : Register} (grown : later.Extends register)
      (answered : ∀ {asked : StoreCall} {answer : asked.Answer},
        (⟨.store asked, .ok answer⟩ : Program.Answered Call.Answer) = ⟨request, reply⟩ →
          later.Vouches asked answer) (other : ι) : Vouched (after.worker other).past later := by
    intro asked answer told
    by_cases own : other = index
    · subst own
      rw [answering.told] at told
      rcases Holds.told_cons told with head | tail
      · exact answered head
      · exact (vouched tail).extend grown
    · rw [answering.others other own] at told
      exact (registered.vouched other told).extend grown
  cases request with
  | store asked =>
      obtain ⟨stamp, replied, scene⟩ := answering.answers
      obtain ⟨later, grown, owned, vouches⟩ :=
        registered.owned.answer informed.shape (vouched.respects covers) stamp
      refine ⟨later, scene ▸ owned, told grown ?_⟩
      intro other answer same
      cases same
      exact vouches answer replied.symm
  | clock | complete | http | history | deliver | sleep =>
      have scene : after.scene = before.scene := by
        rcases answering.answers.effect with same | ⟨asked, stamp, impossible, _⟩
        · exact same
        · cases impossible
      exact ⟨register, scene ▸ registered.owned, told (.refl register) nofun⟩

theorem Reached.registered (reached : Reached place) : ∃ register, Registered place register := by
  induction reached with
  | start time => exact ⟨Register.empty, Store.owned_empty, fun index _ _ told => nomatch told⟩
  | @step before after reached step ih =>
      obtain ⟨register, registered⟩ := ih
      -- where nothing is answered, nobody is told anything new
      have still (scene : after.scene = before.scene) {index : ι} {worker : Worker}
          (turn : Turn before after index worker)
          (fewer : Fewer worker.past (before.worker index).past) : Registered after register := by
        refine ⟨scene ▸ registered.owned, fun other _ _ told => ?_⟩
        by_cases own : other = index
        · subst own
          rw [turn.1] at told
          exact registered.vouched other (fewer.told told)
        · rw [turn.2 other own] at told
          exact registered.vouched other told
      cases step with
      | tick later => exact ⟨register, registered.owned, registered.vouched⟩
      | begin settings operation idle same turn =>
          exact ⟨register, still same turn (.nothing _)⟩
      | @refuse _ index past request next fault calls same turn =>
          refine ⟨register, still same turn ?_⟩
          rw [calls]
          exact .refused past request fault
      | @answer _ index past request next reply calls answers turn =>
          have answering := reached.mannered.answering calls answers turn
          have covered := reached.covered index
          rw [calls] at covered
          exact registered.answer reached.informed answering covered.at_call.1

end Workplace

end ChatFlow
