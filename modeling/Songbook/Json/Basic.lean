/-!
# JSON values

A value keeps what its text says and what its readers ask for: the fields of
an object in order and with repetitions, and numbers either as integers or,
when they have a fraction or an exponent, as they are written. A string may
fail to denote a text, as an escape can name half of a surrogate pair; such a
string is still a value, and only whoever wants its text is refused.
-/

namespace Songbook

/-- A JSON value. -/
inductive Json
  | null
  | bool (value : Bool)
  | integer (value : Int)
  /-- A number with a fraction or an exponent, or a negative zero, as written.
  -/
  | decimal (numeral : String)
  /-- A string, if it denotes a text. -/
  | string (text : Option String)
  | array (items : List Json)
  | object (fields : List (Option String × Json))

namespace Json

/-- The string of a text. -/
def ofString (text : String) : Json :=
  string (some text)

/-- The object with given fields. -/
def ofFields (fields : List (String × Json)) : Json :=
  object (fields.map fun field => (some field.1, field.2))

end Json

end Songbook
