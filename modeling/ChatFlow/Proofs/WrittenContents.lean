import ChatFlow.Proofs.WrittenForms
/-
The contents of nodes are read again from how they are written, whatever their kind: with every
field as it was, and the members that the kind does not know in plain form. A content that was read
keeps to the bounds of its fields, and a content that keeps to them is read again.
-/

set_option autoImplicit false

namespace ChatFlow

open Schema

variable {members : Table Value}

/-! ### Parts of contents -/

theorem GalleryImage.steady (image : GalleryImage) : GalleryImage.codec.Steady image := by
  simp [Codec.Steady, codec, decodeRecord, ofMembers, toMembers, required, withDefault,
    Table.lookup?]

theorem MenuOption.steady (option : MenuOption) : MenuOption.codec.Steady option := by
  simp [Codec.Steady, codec, decodeRecord, ofMembers, toMembers, required, withDefault,
    Table.lookup?]

theorem ConditionRule.steady (rule : ConditionRule) : ConditionRule.codec.Steady rule := by
  simp [Codec.Steady, codec, decodeRecord, ofMembers, toMembers, required, withDefault,
    Table.lookup?]

theorem WebhookHeader.steady (header : WebhookHeader) : WebhookHeader.codec.Steady header := by
  simp [Codec.Steady, codec, decodeRecord, ofMembers, toMembers, required, withDefault,
    Table.lookup?]

theorem Position.steady (position : Position) : Position.codec.Steady position := by
  simp [Codec.Steady, codec, decodeRecord, ofMembers, toMembers, withDefault, Table.lookup?]

/-! ### Contents without bounds -/

theorem InputContent.unknown {content : InputContent}
    (read : ofMembers members = .accepted content) :
    Unknown fields content.extras := by
  have yields : Checked.Yields (fun content => Unknown fields content.extras)
      (ofMembers members) := by
    apply Checked.Yields.last
    iterate 4 apply Checked.Yields.seq
    apply Checked.Yields.map
    intros
    exact unknown_extraMembers fields members
  exact yields content read

theorem InputContent.written {content : InputContent} (unknown : Unknown fields content.extras) :
    ofMembers content.toMembers =
      .accepted { content with extras := Value.toPlainMembers content.extras } := by
  have extra : extraMembers fields content.toMembers = Value.toPlainMembers content.extras :=
    extraMembers_written rfl unknown
  unfold ofMembers
  rw [extra]
  simp [toMembers, withDefault, Table.lookup?]

theorem ConditionContent.unknown {content : ConditionContent}
    (read : ofMembers members = .accepted content) :
    Unknown fields content.extras := by
  have yields : Checked.Yields (fun content => Unknown fields content.extras)
      (ofMembers members) := by
    apply Checked.Yields.last
    apply Checked.Yields.seq
    apply Checked.Yields.map
    intros
    exact unknown_extraMembers fields members
  exact yields content read

theorem ConditionContent.written {content : ConditionContent}
    (unknown : Unknown fields content.extras) :
    ofMembers content.toMembers =
      .accepted { content with extras := Value.toPlainMembers content.extras } := by
  have extra : extraMembers fields content.toMembers = Value.toPlainMembers content.extras :=
    extraMembers_written rfl unknown
  have rules := Codec.list_steady fun rule (_ : rule ∈ content.rules) => rule.steady
  unfold ofMembers
  rw [extra]
  simp [toMembers, rules.taken, withDefault, Table.lookup?]

theorem ActionContent.unknown {content : ActionContent}
    (read : ofMembers members = .accepted content) :
    Unknown fields content.extras := by
  have yields : Checked.Yields (fun content => Unknown fields content.extras)
      (ofMembers members) := by
    apply Checked.Yields.last
    iterate 12 apply Checked.Yields.seq
    apply Checked.Yields.map
    intros
    exact unknown_extraMembers fields members
  exact yields content read

theorem ActionContent.written {content : ActionContent} (unknown : Unknown fields content.extras) :
    ofMembers content.toMembers =
      .accepted { content with extras := Value.toPlainMembers content.extras } := by
  have extra : extraMembers fields content.toMembers = Value.toPlainMembers content.extras :=
    extraMembers_written rfl unknown
  unfold ofMembers
  rw [extra]
  simp [toMembers, required, withDefault, Table.lookup?]

theorem TransferContent.unknown {content : TransferContent}
    (read : ofMembers members = .accepted content) :
    Unknown fields content.extras := by
  have yields : Checked.Yields (fun content => Unknown fields content.extras)
      (ofMembers members) := by
    apply Checked.Yields.last
    iterate 5 apply Checked.Yields.seq
    apply Checked.Yields.map
    intros
    exact unknown_extraMembers fields members
  exact yields content read

theorem TransferContent.written {content : TransferContent}
    (unknown : Unknown fields content.extras) :
    ofMembers content.toMembers =
      .accepted { content with extras := Value.toPlainMembers content.extras } := by
  have extra : extraMembers fields content.toMembers = Value.toPlainMembers content.extras :=
    extraMembers_written rfl unknown
  unfold ofMembers
  rw [extra]
  simp [toMembers, withDefault, Table.lookup?]

theorem DelayContent.unknown {content : DelayContent}
    (read : ofMembers members = .accepted content) :
    Unknown fields content.extras := by
  have yields : Checked.Yields (fun content => Unknown fields content.extras)
      (ofMembers members) := by
    apply Checked.Yields.last
    iterate 2 apply Checked.Yields.seq
    apply Checked.Yields.map
    intros
    exact unknown_extraMembers fields members
  exact yields content read

theorem DelayContent.written {content : DelayContent} (unknown : Unknown fields content.extras) :
    ofMembers content.toMembers =
      .accepted { content with extras := Value.toPlainMembers content.extras } := by
  have extra : extraMembers fields content.toMembers = Value.toPlainMembers content.extras :=
    extraMembers_written rfl unknown
  unfold ofMembers
  rw [extra]
  simp [toMembers, withDefault, Table.lookup?]

/-! ### Contents with bounds -/

theorem MessageContent.proper {content : MessageContent}
    (read : ofMembers members = .accepted content) :
    content.galleryImages.length ≤ 10 ∧ Unknown fields content.extras := by
  have yields : Checked.Yields (fun content => content.galleryImages.length ≤ 10 ∧
      Unknown fields content.extras) (ofMembers members) := by
    apply Checked.Yields.last
    apply Checked.Yields.seq
    apply Checked.Yields.both
    iterate 3 apply Checked.Yields.seq
    apply Checked.Yields.map
    intro _ _ _ _ _ images listed _
    exact ⟨withDefault_yields (fun images => images.length ≤ 10) listed (Nat.zero_le 10)
      Codec.listUpTo_accepted, unknown_extraMembers fields members⟩
  exact yields content read

theorem MessageContent.written {content : MessageContent} (few : content.galleryImages.length ≤ 10)
    (unknown : Unknown fields content.extras) :
    ofMembers content.toMembers =
      .accepted { content with extras := Value.toPlainMembers content.extras } := by
  have extra : extraMembers fields content.toMembers = Value.toPlainMembers content.extras :=
    extraMembers_written rfl unknown
  have images := Codec.listUpTo_steady few fun image _ => image.steady
  unfold ofMembers
  rw [extra]
  simp [toMembers, withDefault, Table.lookup?, images.taken]

theorem MenuContent.proper {content : MenuContent} (read : ofMembers members = .accepted content) :
    1 ≤ content.maxAttempts ∧ Unknown fields content.extras := by
  have yields : Checked.Yields (fun content => 1 ≤ content.maxAttempts ∧
      Unknown fields content.extras) (ofMembers members) := by
    apply Checked.Yields.last
    apply Checked.Yields.seq
    apply Checked.Yields.both
    iterate 2 apply Checked.Yields.seq
    apply Checked.Yields.map
    intro _ _ _ _ attempts counted _
    exact ⟨withDefault_yields (1 ≤ ·) counted (Nat.le_add_left 1 2) Codec.naturalFrom_accepted,
      unknown_extraMembers fields members⟩
  exact yields content read

theorem MenuContent.written {content : MenuContent} (bound : 1 ≤ content.maxAttempts)
    (unknown : Unknown fields content.extras) :
    ofMembers content.toMembers =
      .accepted { content with extras := Value.toPlainMembers content.extras } := by
  have extra : extraMembers fields content.toMembers = Value.toPlainMembers content.extras :=
    extraMembers_written rfl unknown
  have options := Codec.list_steady fun option (_ : option ∈ content.options) => option.steady
  unfold ofMembers
  rw [extra]
  simp [toMembers, withDefault, Table.lookup?, options.taken, bound]

/-- A temperature that is neither too high nor too low. -/
def AiContent.Temperate (temperature : Binary64) : Prop :=
  temperature.le (Binary64.ofInt 2) = true ∧ (Binary64.ofInt 0).le temperature = true

theorem AiContent.defaultTemperature_temperate : Temperate defaultTemperature :=
  ⟨by decide +kernel, by decide +kernel⟩

theorem AiContent.proper {content : AiContent} (read : ofMembers members = .accepted content) :
    Temperate content.temperature ∧ Unknown fields content.extras := by
  have yields : Checked.Yields (fun content => Temperate content.temperature ∧
      Unknown fields content.extras) (ofMembers members) := by
    apply Checked.Yields.last
    iterate 4 apply Checked.Yields.seq
    apply Checked.Yields.both
    apply Checked.Yields.seq
    apply Checked.Yields.map
    intro _ _ _ temperature measured _ _ _ _
    exact ⟨withDefault_yields Temperate measured defaultTemperature_temperate
      Codec.realBetween_accepted, unknown_extraMembers fields members⟩
  exact yields content read

theorem AiContent.written {content : AiContent} (temperate : Temperate content.temperature)
    (unknown : Unknown fields content.extras) :
    ofMembers content.toMembers =
      .accepted { content with extras := Value.toPlainMembers content.extras } := by
  have extra : extraMembers fields content.toMembers = Value.toPlainMembers content.extras :=
    extraMembers_written rfl unknown
  have temperature : (Codec.realBetween 0 2).decode (.real content.temperature) =
      .accepted content.temperature := Codec.realBetween_steady temperate.1 temperate.2
  unfold ofMembers
  rw [extra]
  simp [toMembers, withDefault, Table.lookup?, temperature]

theorem WebhookContent.defaultTimeout_positive :
    (Binary64.ofInt 0).lt (Binary64.ofInt 30) = true := by
  decide +kernel

theorem WebhookContent.proper {content : WebhookContent}
    (read : ofMembers members = .accepted content) :
    (Binary64.ofInt 0).lt content.timeout = true ∧ Unknown fields content.extras := by
  have yields : Checked.Yields (fun content => (Binary64.ofInt 0).lt content.timeout = true ∧
      Unknown fields content.extras) (ofMembers members) := by
    apply Checked.Yields.last
    apply Checked.Yields.seq
    apply Checked.Yields.both
    iterate 5 apply Checked.Yields.seq
    apply Checked.Yields.map
    intro _ _ _ _ _ _ _ timeout limited _
    exact ⟨withDefault_yields (fun timeout => (Binary64.ofInt 0).lt timeout = true) limited
      defaultTimeout_positive Codec.realAbove_accepted, unknown_extraMembers fields members⟩
  exact yields content read

theorem WebhookContent.written {content : WebhookContent}
    (positive : (Binary64.ofInt 0).lt content.timeout = true)
    (unknown : Unknown fields content.extras) :
    ofMembers content.toMembers =
      .accepted { content with extras := Value.toPlainMembers content.extras } := by
  have extra : extraMembers fields content.toMembers = Value.toPlainMembers content.extras :=
    extraMembers_written rfl unknown
  have timeout : (Codec.realAbove 0).decode (.real content.timeout) = .accepted content.timeout :=
    Codec.realAbove_steady positive
  have headers := Codec.list_steady fun header (_ : header ∈ content.headers) => header.steady
  unfold ofMembers
  rw [extra]
  simp [toMembers, withDefault, Table.lookup?, headers.taken, timeout]

end ChatFlow
