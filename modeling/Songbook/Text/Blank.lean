/-!
# Blank characters

What counts as blank between words and around an operand: the 25 characters
with the White_Space property, which is more than the ASCII blanks and less
than everything that looks empty (a zero width space is not blank). Operands
are trimmed of blanks before they are read, and a search splits its text into
words at them.
-/

namespace Songbook.Text

/-- The characters with the White_Space property. -/
def isBlank (c : Char) : Bool :=
  let n := c.toNat
  (0x9 ≤ n && n ≤ 0xD) || n == 0x20 || n == 0x85 || n == 0xA0 || n == 0x1680 ||
    (0x2000 ≤ n && n ≤ 0x200A) || n == 0x2028 || n == 0x2029 || n ==
      0x202F || n == 0x205F ||
    n == 0x3000

/-- The text from its first character that is not blank. -/
def trimStart (s : List Char) : List Char :=
  s.dropWhile isBlank

/-- The text up to its last character that is not blank. -/
def trimEnd (s : List Char) : List Char :=
  (trimStart s.reverse).reverse

/-- A text without the blanks at both ends. -/
def trim (s : List Char) : List Char :=
  trimEnd (trimStart s)

/-- Whether nothing is left of a text once it is trimmed. -/
def isAllBlank (s : List Char) : Bool :=
  s.all isBlank

/-- The words of a text: its longest stretches without a blank. -/
def words (s : List Char) : List (List Char) :=
  (s.splitOnP isBlank).filter fun word => !word.isEmpty

theorem trimStart_eq_nil_iff {s : List Char} :
    trimStart s = [] ↔ ∀ c ∈ s, isBlank c := by
  induction s with
  | nil => simp [trimStart]
  | cons c s ih =>
    simp only [trimStart, List.dropWhile_cons] at ih ⊢
    by_cases hc : isBlank c <;> simp [hc, ih]

theorem isBlank_of_trimStart_eq_cons {s rest : List Char} {c : Char}
    (h : trimStart s = c :: rest) :
    isBlank c = false := by
  have := List.head?_dropWhile_not isBlank s
  rw [show s.dropWhile isBlank = c :: rest from h] at this
  simpa using this

theorem trim_eq_nil_iff {s : List Char} : trim s = [] ↔ isAllBlank s := by
  simp only [trim, trimEnd, List.reverse_eq_nil_iff, trimStart_eq_nil_iff,
    List.mem_reverse, isAllBlank, List.all_eq_true]
  rw [← trimStart_eq_nil_iff (s := s)]
  cases h : trimStart s with
  | nil => simp
  | cons c rest => simp [isBlank_of_trimStart_eq_cons h]

end Songbook.Text
