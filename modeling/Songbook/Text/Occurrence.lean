/-!
# Occurrences

Whether one text stands somewhere in another. The empty text stands everywhere.
-/

namespace Songbook.Text

/-- Whether a text has `needle` somewhere in it, without a break. -/
def occursIn (needle : List Char) : List Char → Bool
  | [] => needle.isEmpty
  | c :: s => needle.isPrefixOf (c :: s) || occursIn needle s

theorem occursIn_iff_isInfix {needle s : List Char} :
    occursIn needle s ↔ needle <:+: s := by
  induction s with
  | nil => simp [occursIn]
  | cons c s ih => simp [occursIn, ih, List.infix_cons_iff]

end Songbook.Text
