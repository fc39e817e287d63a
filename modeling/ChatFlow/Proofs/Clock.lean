import ChatFlow.Store.Basic
/-
The order of points in time. Two stamps compare only if both carry their distance from universal
time or neither does; on stamps of one kind the order is that of their positions. Rows with comparable
stamps are listed by their positions, and those of one position as they stood before.
-/

namespace ChatFlow.Stamp

/-- Whether a stamp compares with another one and is no earlier. -/
def NotBefore (later earlier : Stamp) : Prop := later.before? earlier = some false

/-- Whether a stamp compares with another one and is earlier. -/
def Before (earlier later : Stamp) : Prop := earlier.before? later = some true

/-- The microseconds by which stamps of one kind are compared. -/
def position (stamp : Stamp) : Int := stamp.universal?.getD stamp.micros

theorem before?_eq (first second : Stamp) :
    first.before? second =
      if first.offset.isSome = second.offset.isSome then
        some (decide (first.position < second.position))
      else none := by
  have negative (left right : Int) : left - right < 0 ↔ left < right := by omega
  obtain ⟨micros, offset⟩ := first
  obtain ⟨micros', offset'⟩ := second
  cases offset <;> cases offset' <;>
    simp [before?, since?, position, universal?, negative] <;> exact decide_eq_decide.mpr Iff.rfl

theorem notBefore_iff (later earlier : Stamp) :
    NotBefore later earlier ↔
      later.offset.isSome = earlier.offset.isSome ∧ earlier.position ≤ later.position := by
  unfold NotBefore
  rw [before?_eq]
  split <;> simp_all

theorem since?_self (stamp : Stamp) : stamp.since? stamp = some 0 := by
  unfold since?
  cases stamp.universal? <;> simp

theorem NotBefore.refl (stamp : Stamp) : NotBefore stamp stamp :=
  (notBefore_iff stamp stamp).mpr ⟨rfl, Int.le_refl _⟩

theorem NotBefore.trans {last middle first : Stamp} (upper : NotBefore last middle)
    (lower : NotBefore middle first) : NotBefore last first := by
  rw [notBefore_iff] at upper lower ⊢
  exact ⟨upper.1.trans lower.1, Int.le_trans lower.2 upper.2⟩

theorem NotBefore.not_before {later earlier : Stamp} (reached : NotBefore later earlier) :
    ¬Before later earlier := by
  unfold NotBefore at reached
  unfold Before
  rw [reached]
  decide

theorem Before.notBefore {earlier later : Stamp} (before : Before earlier later) :
    NotBefore later earlier := by
  unfold Before at before
  rw [before?_eq] at before
  rw [notBefore_iff]
  split at before
  · next sameKind => exact ⟨sameKind.symm, Int.le_of_lt (by simpa using before)⟩
  · cases before

theorem before_or_notBefore {first second : Stamp} {early : Bool}
    (compared : first.before? second = some early) : Before first second ∨ NotBefore first second := by
  cases early with
  | true => exact Or.inl compared
  | false => exact Or.inr compared

theorem addSeconds?_notBefore {stamp later : Stamp} {seconds : Int} (forward : 0 ≤ seconds)
    (added : stamp.addSeconds? seconds = some later) : NotBefore later stamp := by
  unfold addSeconds? addMicros? at added
  dsimp only at added
  split at added
  · cases added
    have moved : 0 ≤ seconds * microsPerSecond :=
      Int.mul_nonneg forward (by decide)
    rw [notBefore_iff]
    refine ⟨rfl, ?_⟩
    obtain ⟨micros, offset⟩ := stamp
    cases offset with
    | none =>
        simp only [position, universal?, Option.map_none, Option.getD_none]
        omega
    | some distance =>
        simp only [position, universal?, Option.map_some, Option.getD_some]
        omega
  · cases added

end ChatFlow.Stamp

namespace ChatFlow

/-! ### Sorting by time -/

/-- A stable sort of what stands in the order of a second key is a sort by both keys. -/
theorem mergeSort_stable {α : Type} {le tie : α → α → Bool} {items : List α}
    (reflects : ∀ item, tie item item = true)
    (ordered : items.Pairwise fun first second =>
      tie first second = true ∧ tie second first = false) :
    items.mergeSort le = items.mergeSort fun first second =>
      le first second && (!le second first || tie first second) := by
  have places : ∀ first ∈ items.zipIdx, ∀ second ∈ items.zipIdx,
      decide (first.2 ≤ second.2) = tie first.1 second.1 := by
    rintro ⟨first, place⟩ stands ⟨second, other⟩ follows
    rw [List.mk_mem_zipIdx_iff_getElem?] at stands follows
    obtain ⟨within, rfl⟩ := List.getElem?_eq_some_iff.mp stands
    obtain ⟨inside, rfl⟩ := List.getElem?_eq_some_iff.mp follows
    have apart := List.pairwise_iff_getElem.mp ordered
    rcases Nat.lt_trichotomy place other with before | rfl | after
    · rw [(apart place other within inside before).1]
      exact decide_eq_true (Nat.le_of_lt before)
    · rw [reflects]
      exact decide_eq_true (Nat.le_refl _)
    · rw [(apart other place inside within after).2]
      exact decide_eq_false (Nat.not_le_of_lt after)
  have sorted := @List.map_mergeSort _ _ (List.zipIdxLE le)
    (fun first second => le first second && (!le second first || tie first second)) Prod.fst
    items.zipIdx fun first member second present => by
      rw [← places first member second present]
      simp only [List.zipIdxLE]
      cases le first.1 second.1 <;> cases le second.1 first.1 <;> simp
  rw [List.zipIdx_map_fst] at sorted
  exact List.mergeSort_zipIdx.symm.trans sorted

namespace Store

theorem areComparable_of_sameKind {now : Stamp} {stamps : List Stamp}
    (same : ∀ stamp ∈ stamps, now.offset.isSome = stamp.offset.isSome) :
    areComparable stamps = true := by
  unfold areComparable
  rw [Bool.or_eq_true, List.all_eq_true, List.all_eq_true]
  cases kind : now.offset.isSome with
  | true => exact Or.inl fun stamp member => by rw [← same stamp member, kind]
  | false =>
      refine Or.inr fun stamp member => ?_
      have none_ := same stamp member
      rw [kind] at none_
      simpa using none_.symm

variable {α : Type} {stampOf : α → Stamp} {rows sorted : List α}

theorem areComparable_iff : areComparable (rows.map stampOf) = true ↔
    ∀ first ∈ rows, ∀ second ∈ rows,
      (stampOf first).offset.isSome = (stampOf second).offset.isSome := by
  constructor
  · intro comparable first member second present
    unfold areComparable at comparable
    rw [Bool.or_eq_true, List.all_eq_true, List.all_eq_true] at comparable
    have member := List.mem_map_of_mem (f := stampOf) member
    have present := List.mem_map_of_mem (f := stampOf) present
    rcases comparable with zoned | plain
    · rw [zoned _ member, zoned _ present]
    · have unzoned (stamp) (among : stamp ∈ rows.map stampOf) : stamp.offset = none :=
        Option.isNone_iff_eq_none.mp (plain stamp among)
      rw [unzoned _ member, unzoned _ present]
  · intro oneClock
    cases rows with
    | nil => rfl
    | cons row rest =>
        refine @areComparable_of_sameKind (stampOf row) _ fun stamp member => ?_
        obtain ⟨other, present, rfl⟩ := List.mem_map.mp member
        exact oneClock row List.mem_cons_self other present

theorem noLater_eq {first second : Stamp} (sameKind : first.offset.isSome = second.offset.isSome) :
    noLater second first = decide (second.position ≤ first.position) := by
  have less : decide (first.position < second.position) =
      !decide (second.position ≤ first.position) := by
    rw [← decide_not, decide_eq_decide]
    omega
  unfold noLater
  rw [Stamp.before?_eq, if_pos sameKind, less]
  cases decide (second.position ≤ first.position) <;> rfl

theorem sortLatestFirst_perm (done : sortLatestFirst stampOf rows = .ok sorted) :
    sorted.Perm rows := by
  unfold sortLatestFirst at done
  split at done
  · cases done
    exact List.mergeSort_perm _ _
  · cases done

/-- A row comes before another one by its later time, or at the same time by a second order. -/
def Precedes (stampOf : α → Stamp) (tie : α → α → Prop) (first second : α) : Prop :=
  (stampOf second).position < (stampOf first).position ∨
    (stampOf second).position = (stampOf first).position ∧ tie first second

/-- Rows that stand in a second order are sorted by time so that each precedes those behind it. -/
theorem sortLatestFirst_precedes {tie : α → α → Prop} [DecidableRel tie] (reflects : ∀ row, tie row row)
    (transfers : ∀ {first middle last}, tie first middle → tie middle last → tie first last)
    (compares : ∀ first second, tie first second ∨ tie second first)
    (ordered : rows.Pairwise fun first second => tie first second ∧ ¬tie second first)
    (done : sortLatestFirst stampOf rows = .ok sorted) :
    sorted.Pairwise (Precedes stampOf tie) := by
  unfold sortLatestFirst at done
  split at done
  · next comparable =>
      cases done
      have oneClock := areComparable_iff.mp comparable
      have byTime := @List.map_mergeSort _ _
        (fun first second : α => noLater (stampOf second) (stampOf first))
        (fun first second => decide ((stampOf second).position ≤ (stampOf first).position)) id rows
        fun first member second present => noLater_eq (oneClock first member second present)
      have stable := @mergeSort_stable _
        (fun first second : α => decide ((stampOf second).position ≤ (stampOf first).position))
        (fun first second => decide (tie first second)) rows (fun row => decide_eq_true (reflects row))
        (ordered.imp fun apart => ⟨decide_eq_true apart.1, decide_eq_false apart.2⟩)
      have both (first second : α) :
          (decide ((stampOf second).position ≤ (stampOf first).position) &&
            (!decide ((stampOf first).position ≤ (stampOf second).position) ||
              decide (tie first second))) = true ↔ Precedes stampOf tie first second := by
        simp only [Bool.and_eq_true, Bool.or_eq_true, Bool.not_eq_true', decide_eq_true_eq,
          decide_eq_false_iff_not, Precedes]
        constructor
        · rintro ⟨later, strictly | tied⟩
          · exact Or.inl (by omega)
          · rcases Int.lt_or_eq_of_le later with above | level
            · exact Or.inl above
            · exact Or.inr ⟨level, tied⟩
        · rintro (above | ⟨level, tied⟩)
          · exact ⟨by omega, Or.inl (by omega)⟩
          · exact ⟨by omega, Or.inr tied⟩
      rw [List.map_id, List.map_id] at byTime
      rw [byTime, stable]
      refine (List.pairwise_mergeSort ?_ ?_ rows).imp fun before => (both _ _).mp before
      · intro first middle last upper lower
        rw [both] at upper lower ⊢
        rcases upper with above | ⟨level, tied⟩
        · rcases lower with below | ⟨flat, _⟩
          · exact Or.inl (Int.lt_trans below above)
          · exact Or.inl (flat ▸ above)
        · rcases lower with below | ⟨flat, other⟩
          · exact Or.inl (level ▸ below)
          · exact Or.inr ⟨flat.trans level, transfers tied other⟩
      · intro first second
        rw [Bool.or_eq_true, both, both]
        rcases Int.lt_trichotomy (stampOf first).position (stampOf second).position with
          earlier | same | later
        · exact Or.inr (Or.inl earlier)
        · rcases compares first second with tied | tied
          · exact Or.inl (Or.inr ⟨same.symm, tied⟩)
          · exact Or.inr (Or.inr ⟨same, tied⟩)
        · exact Or.inl (Or.inl later)
  · cases done

end Store

end ChatFlow
