/-!
# Hexadecimal numerals

Digits of base sixteen, of either case. Writing uses the lower case that
core's digits have.
-/

namespace Songbook.Text

/-- The value of a hexadecimal digit of either case. -/
def hexDigit? (c : Char) : Option Nat :=
  if c.isDigit then some (c.toNat - '0'.toNat)
  else if 'a' ≤ c ∧ c ≤ 'f' then some (c.toNat - 'a'.toNat + 10)
  else if 'A' ≤ c ∧ c ≤ 'F' then some (c.toNat - 'A'.toNat + 10)
  else none

/-- The value of hexadecimal digits, each worth sixteen times the next; no
digit is worth 0. -/
def hexNumber? (s : List Char) : Option Nat :=
  s.foldlM (fun n c => (hexDigit? c).map (n * 16 + ·)) 0

theorem hexNumber?_concat (s : List Char) (c : Char) :
    hexNumber? (s ++ [c]) = (hexNumber? s).bind fun n =>
      (hexDigit? c).map (n * 16 + ·) := by
  rw [hexNumber?, List.foldlM_append]
  exact congrArg (Option.bind _) (funext fun n =>
    List.foldlM_cons.trans (by simp))

theorem hexNumber?_toDigits (n : Nat) :
    hexNumber? (Nat.toDigits 16 n) = some n := by
  have hdigit : ∀ n < 16, hexDigit? (Nat.digitChar n) = some n := by decide
  induction n using Nat.strongRecOn with
  | ind n ih =>
    by_cases hn : n < 16
    · have hall : ∀ n < 16, hexNumber? [Nat.digitChar n] = some n := by decide
      rw [Nat.toDigits_of_lt_base hn, hall n hn]
    · rw [Nat.toDigits_of_base_le (by decide) (by omega), hexNumber?_concat,
        ih (n / 16) (by omega), Option.bind_some, hdigit (n % 16) (by omega),
        Option.map_some]
      exact congrArg some (by omega)

end Songbook.Text
