import ChatFlow.Value.Basic
/-
Labels of the lines that are passed on to a log collector, which takes no empty label.
-/

namespace ChatFlow

/-- Whether a line with some labels may be passed on: no label is null or empty. -/
def labelsAreFilled (labels : Option (Table Value)) : Bool :=
  (labels.getD []).all fun label => label.2 != .null && label.2 != .str ""

end ChatFlow
