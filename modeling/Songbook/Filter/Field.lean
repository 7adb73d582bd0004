/-!
# What a criterion is about

The fields of a song that a filter can test, in three families, and the rules
of each family. Every one has a word that a form spells it with; the words are
case-sensitive, and two families may use one word for rules of their own.
-/

namespace Songbook.Filter

/-- How the children of a branch are joined. -/
inductive Combinator
  | and
  | or
  | nand
  | nor
deriving DecidableEq

namespace Combinator

/-- The word of a combinator. -/
def token : Combinator → String
  | and => "and"
  | or => "or"
  | nand => "nand"
  | nor => "nor"

/-- The combinator of a word. -/
def ofToken? : String → Option Combinator
  | "and" => some and
  | "or" => some or
  | "nand" => some nand
  | "nor" => some nor
  | _ => none

/-- Whether one child is enough, before any negation. -/
def isDisjunction : Combinator → Bool
  | and | nand => false
  | or | nor => true

/-- Whether the children joined are negated. -/
def isNegated : Combinator → Bool
  | and | or => false
  | nand | nor => true

@[simp] theorem ofToken?_token (c : Combinator) :
    ofToken? c.token = some c := by
  cases c <;> rfl

end Combinator

/-- Fields that hold text. -/
inductive TextField
  | title
  | album
  | artist
deriving DecidableEq

/-- Fields that hold a number; `time` is a duration in seconds. -/
inductive NumberField
  | time
  | track
  | playCount
deriving DecidableEq

/-- Fields that hold an instant. -/
inductive DateField
  | dateAdded
  | lastQueued
deriving DecidableEq

/-- The word of a text field. -/
def TextField.token : TextField → String
  | title => "title"
  | album => "album"
  | artist => "artist"

/-- The word of a number field. -/
def NumberField.token : NumberField → String
  | time => "time"
  | track => "track"
  | playCount => "play_count"

/-- The word of a date field. -/
def DateField.token : DateField → String
  | dateAdded => "date_added"
  | lastQueued => "last_queued"

/-- A field of any family. -/
inductive FieldKind
  | text (field : TextField)
  | number (field : NumberField)
  | date (field : DateField)
deriving DecidableEq

namespace FieldKind

/-- The word of a field. -/
def token : FieldKind → String
  | text field => field.token
  | number field => field.token
  | date field => field.token

/-- The field of a word. -/
def ofToken? : String → Option FieldKind
  | "title" => some (text .title)
  | "album" => some (text .album)
  | "artist" => some (text .artist)
  | "time" => some (number .time)
  | "track" => some (number .track)
  | "play_count" => some (number .playCount)
  | "date_added" => some (date .dateAdded)
  | "last_queued" => some (date .lastQueued)
  | _ => none

@[simp] theorem ofToken?_token (kind : FieldKind) :
    ofToken? kind.token = some kind := by
  rcases kind with field | field | field <;> cases field <;> rfl

theorem combinator_ofToken?_token (kind : FieldKind) :
    Combinator.ofToken? kind.token = none := by
  rcases kind with field | field | field <;> cases field <;> rfl

end FieldKind

/-- How a text is held against another. -/
inductive TextTest
  | contains
  | startsWith
  | endsWith
  | equals
deriving DecidableEq

/-- A rule for a text field: a test, or its opposite. -/
structure TextRule where
  test : TextTest
  negated : Bool
deriving DecidableEq

namespace TextRule

/-- The word of a text rule. -/
def token : TextRule → String
  | ⟨.contains, false⟩ => "in"
  | ⟨.contains, true⟩ => "notin"
  | ⟨.startsWith, false⟩ => "start"
  | ⟨.startsWith, true⟩ => "notstart"
  | ⟨.endsWith, false⟩ => "end"
  | ⟨.endsWith, true⟩ => "notend"
  | ⟨.equals, false⟩ => "is"
  | ⟨.equals, true⟩ => "notis"

/-- The text rule of a word. -/
def ofToken? : String → Option TextRule
  | "in" => some ⟨.contains, false⟩
  | "notin" => some ⟨.contains, true⟩
  | "start" => some ⟨.startsWith, false⟩
  | "notstart" => some ⟨.startsWith, true⟩
  | "end" => some ⟨.endsWith, false⟩
  | "notend" => some ⟨.endsWith, true⟩
  | "is" => some ⟨.equals, false⟩
  | "notis" => some ⟨.equals, true⟩
  | _ => none

/-- What an explanation says for a text rule. -/
def phrase : TextRule → String
  | ⟨.contains, false⟩ => "contains"
  | ⟨.contains, true⟩ => "does not contain"
  | ⟨.startsWith, false⟩ => "starts with"
  | ⟨.startsWith, true⟩ => "does not start with"
  | ⟨.endsWith, false⟩ => "ends with"
  | ⟨.endsWith, true⟩ => "does not end with"
  | ⟨.equals, false⟩ => "is"
  | ⟨.equals, true⟩ => "is not"

@[simp] theorem ofToken?_token (rule : TextRule) :
    ofToken? rule.token = some rule := by
  rcases rule with ⟨test, negated⟩
  cases test <;> cases negated <;> rfl

end TextRule

/-- A rule for a number field. -/
inductive NumberRule
  | atMost
  | atLeast
  | equal
  | notEqual
  | inside
  | outside
deriving DecidableEq

namespace NumberRule

/-- The word of a number rule. -/
def token : NumberRule → String
  | atMost => "lte"
  | atLeast => "gte"
  | equal => "is"
  | notEqual => "notis"
  | inside => "inside"
  | outside => "outside"

/-- The number rule of a word. -/
def ofToken? : String → Option NumberRule
  | "lte" => some atMost
  | "gte" => some atLeast
  | "is" => some equal
  | "notis" => some notEqual
  | "inside" => some inside
  | "outside" => some outside
  | _ => none

@[simp] theorem ofToken?_token (rule : NumberRule) :
    ofToken? rule.token = some rule := by
  cases rule <;> rfl

end NumberRule

/-- A rule for a date field. The first two look back from the present, the
others hold a day against the calendar. -/
inductive DateRule
  | last
  | noLast
  | before
  | after
  | inside
  | outside
deriving DecidableEq

namespace DateRule

/-- The word of a date rule. -/
def token : DateRule → String
  | last => "last"
  | noLast => "nolast"
  | before => "before"
  | after => "after"
  | inside => "inside"
  | outside => "outside"

/-- The date rule of a word. -/
def ofToken? : String → Option DateRule
  | "last" => some last
  | "nolast" => some noLast
  | "before" => some before
  | "after" => some after
  | "inside" => some inside
  | "outside" => some outside
  | _ => none

@[simp] theorem ofToken?_token (rule : DateRule) :
    ofToken? rule.token = some rule := by
  cases rule <;> rfl

end DateRule

end Songbook.Filter
