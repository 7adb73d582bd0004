import Songbook.Toml.Numeral

/-!
# Reading TOML

Reads a whole document, line by line: blank lines and comments, headers, and
keys with their values. Each reader takes what it reads off the front of a
text and gives the rest with it.

Readers that go through a text of any length count down a number of steps, of
which each takes a character, so the length of the text is enough; arrays and
inline tables take two for a bracket and what stands behind it. How deep they
nest is counted apart, as the format is only read to a depth.
-/

namespace Songbook.Toml

/-! ## Blanks, comments and ends of lines -/

/-- The blanks that may stand within a line. -/
def isSpace (c : Char) : Bool :=
  c == ' ' || c == '\t'

/-- A text from its first character that is no blank. -/
def skipSpace (s : List Char) : List Char :=
  s.dropWhile isSpace

/-- The characters that may stand in comments and, but for what ends them, in
quoted texts. -/
def isPlain (c : Char) : Bool :=
  c == '\t' || (0x20 ≤ c.toNat && c != '\x7f')

/-- Takes the end of a line. -/
def takeNewline : List Char → Option (List Char)
  | '\n' :: s => some s
  | '\r' :: '\n' :: s => some s
  | _ => none

/-- A text without the comment that it may begin with. -/
def skipComment : List Char → List Char
  | '#' :: s => s.dropWhile isPlain
  | s => s

/-- Takes blanks, a comment and the end of the line or of the text. -/
def takeLineEnd (s : List Char) : Option (List Char) :=
  match skipComment (skipSpace s) with
  | [] => some []
  | s => takeNewline s

/-- Takes blanks, comments and ends of lines. -/
def skipLines : Nat → List Char → List Char
  | 0, s => s
  | steps + 1, s =>
    match takeNewline (skipComment (skipSpace s)) with
    | some s => skipLines steps s
    | none => skipSpace s

/-! ## Quoted texts -/

/-- The character that a letter stands for behind a backslash. -/
def unescape? : Char → Option Char
  | 'b' => some '\x08'
  | 't' => some '\t'
  | 'n' => some '\n'
  | 'f' => some '\x0c'
  | 'r' => some '\r'
  | '"' => some '"'
  | '\\' => some '\\'
  | _ => none

/-- The character with a number, if it is one. -/
def scalar? (n : Nat) : Option Char :=
  if n.isValidChar then some (Char.ofNat n) else none

/-- Takes an escape from behind its backslash. -/
def takeEscape : List Char → Option (Char × List Char)
  | 'u' :: a :: b :: c :: d :: s =>
    ((Text.hexNumber? [a, b, c, d]).bind scalar?).map fun c => (c, s)
  | 'U' :: a :: b :: c :: d :: e :: f :: g :: h :: s =>
    ((Text.hexNumber? [a, b, c, d, e, f, g, h]).bind scalar?).map
      fun c => (c, s)
  | c :: s => (unescape? c).map fun c => (c, s)
  | [] => none

/-- Takes a text in double quotes on one line, from behind the first quote. -/
def takeBasic : Nat → List Char → Option (List Char × List Char)
  | 0, _ => none
  | steps + 1, s =>
    match s with
    | '"' :: s => some ([], s)
    | '\\' :: s => do
      let (c, s) ← takeEscape s
      let (text, rest) ← takeBasic steps s
      some (c :: text, rest)
    | c :: s =>
      if isPlain c then do
        let (text, rest) ← takeBasic steps s
        some (c :: text, rest)
      else none
    | [] => none

/-- Takes a text in single quotes on one line, from behind the first quote. -/
def takeLiteral (s : List Char) : Option (List Char × List Char) :=
  match s.dropWhile fun c => isPlain c && c != '\'' with
  | '\'' :: rest => some (s.takeWhile fun c => isPlain c && c != '\'', rest)
  | _ => none

/-- Takes a run of quotes inside a text over several lines: one or two belong
to the text, three end it, and one or two more before those still belong to
it. Gives the quotes that belong, and whether the text ends. -/
def takeQuotes (quote : Char) (s : List Char) :
    Option (List Char × Bool × List Char) :=
  let run := s.takeWhile (· == quote)
  let rest := s.dropWhile (· == quote)
  if run.length ≤ 2 then some (run, false, rest)
  else if run.length ≤ 5 then some (run.drop 3, true, rest)
  else none

/-- A text without the end of a line that it may begin with. -/
def skipNewline (s : List Char) : List Char :=
  (takeNewline s).getD s

/-- Takes a text in double quotes over several lines, from behind the first
quotes. A backslash at the end of a line takes all blanks and ends of lines
behind it away. -/
def takeLongBasic : Nat → List Char → Option (List Char × List Char)
  | 0, _ => none
  | steps + 1, s =>
    match s with
    | '"' :: _ => do
      let (quotes, ends, s) ← takeQuotes '"' s
      if ends then some (quotes, s)
      else do
        let (text, rest) ← takeLongBasic steps s
        some (quotes ++ text, rest)
    | '\\' :: s =>
      match takeNewline (skipSpace s) with
      | some s =>
        takeLongBasic steps (s.dropWhile fun c =>
          isSpace c || c == '\n' || c == '\r')
      | none => do
        let (c, s) ← takeEscape s
        let (text, rest) ← takeLongBasic steps s
        some (c :: text, rest)
    | c :: cs =>
      match takeNewline s with
      | some s => do
        let (text, rest) ← takeLongBasic steps s
        some ('\n' :: text, rest)
      | none =>
        if isPlain c then do
          let (text, rest) ← takeLongBasic steps cs
          some (c :: text, rest)
        else none
    | [] => none

/-- Takes a text in single quotes over several lines, from behind the first
quotes. -/
def takeLongLiteral : Nat → List Char → Option (List Char × List Char)
  | 0, _ => none
  | steps + 1, s =>
    match s with
    | '\'' :: _ => do
      let (quotes, ends, s) ← takeQuotes '\'' s
      if ends then some (quotes, s)
      else do
        let (text, rest) ← takeLongLiteral steps s
        some (quotes ++ text, rest)
    | c :: cs =>
      match takeNewline s with
      | some s => do
        let (text, rest) ← takeLongLiteral steps s
        some ('\n' :: text, rest)
      | none =>
        if isPlain c then do
          let (text, rest) ← takeLongLiteral steps cs
          some (c :: text, rest)
        else none
    | [] => none

/-- Takes a quoted text of any of the four forms, if the text begins with a
quote. -/
def takeString (s : List Char) : Option (String × List Char) :=
  let taken := match s with
    | '"' :: '"' :: '"' :: s => takeLongBasic (s.length + 1) (skipNewline s)
    | '"' :: s => takeBasic (s.length + 1) s
    | '\'' :: '\'' :: '\'' :: s =>
      takeLongLiteral (s.length + 1) (skipNewline s)
    | '\'' :: s => takeLiteral s
    | _ => none
  taken.map fun (text, rest) => (String.ofList text, rest)

/-! ## Keys -/

/-- The characters of a key that is not quoted. -/
def isBare (c : Char) : Bool :=
  c.isAlphanum || c == '-' || c == '_'

/-- Takes one key, quoted on one line or bare. -/
def takeKey (s : List Char) : Option (String × List Char) :=
  match s with
  | '"' :: s =>
    (takeBasic (s.length + 1) s).map fun (text, rest) =>
      (String.ofList text, rest)
  | '\'' :: s =>
    (takeLiteral s).map fun (text, rest) => (String.ofList text, rest)
  | s =>
    match s.takeWhile isBare with
    | [] => none
    | key => some (String.ofList key, s.dropWhile isBare)

/-- Takes keys with dots between them and blanks around them. -/
def takeKeys : Nat → List Char → Option (List String × List Char)
  | 0, _ => none
  | steps + 1, s => do
    let (key, s) ← takeKey (skipSpace s)
    match skipSpace s with
    | '.' :: s => do
      let (keys, rest) ← takeKeys steps s
      some (key :: keys, rest)
    | s => some ([key], s)

/-- How deep arrays, inline tables and dotted keys may nest. -/
def depthLimit : Nat := 80

/-- Takes a dotted key: the keys before the last, and the last. -/
def takePath (s : List Char) : Option ((List String × String) × List Char) := do
  let (keys, rest) ← takeKeys (s.length + 1) s
  let last ← keys.getLast?
  if keys.length < depthLimit then some ((keys.dropLast, last), rest) else none

/-! ## Values -/

/-- The characters that a word ends before. -/
def endsWord (c : Char) : Bool :=
  c == ' ' || c == '\t' || c == '\n' || c == '\r' || c == ',' || c ==
    ']' || c == '\x7d' || c == '#'

/-- Takes a word. A date may have its time behind a blank, which then is part
of the word. -/
def takeWord (s : List Char) : Option (Value × List Char) :=
  let lexeme := s.takeWhile fun c => !endsWord c
  let rest := s.dropWhile fun c => !endsWord c
  let longer := match rest with
    | ' ' :: more =>
      let whole := lexeme ++ ' ' :: more.takeWhile fun c => !endsWord c
      if isDate lexeme && isDateTime whole then
        some (.dateTime (String.ofList whole),
          more.dropWhile fun c => !endsWord c)
      else none
    | _ => none
  match longer with
  | some taken => some taken
  | none => (word? lexeme).map fun value => (value, rest)

mutual

/-- Takes a value; `depth` counts how many more levels of brackets may open. -/
def takeValue (depth : Nat) : Nat → List Char → Option (Value × List Char)
  | 0, _ => none
  | steps + 1, s =>
    match s with
    | '"' :: _ => (takeString s).map fun (text, rest) => (.string text, rest)
    | '\'' :: _ => (takeString s).map fun (text, rest) => (.string text, rest)
    | '[' :: s =>
      match depth with
      | 0 => none
      | depth + 1 =>
        (takeItems depth steps s).map fun (items, rest) => (.array items, rest)
    | '\x7b' :: s =>
      match depth with
      | 0 => none
      | depth + 1 =>
        match skipSpace s with
        | '\x7d' :: s => some (.table .braces [], s)
        | s => (takeEntries depth steps s []).map fun (entries, rest) =>
            (.table .braces entries, rest)
    | s => takeWord s

/-- Takes the items of an array and the bracket behind them. A comma may
follow the last. -/
def takeItems (depth : Nat) : Nat → List Char → Option (List Value × List Char)
  | 0, _ => none
  | steps + 1, s =>
    match skipLines (s.length + 1) s with
    | ']' :: s => some ([], s)
    | s => do
      let (item, s) ← takeValue depth steps s
      match skipLines (s.length + 1) s with
      | ']' :: s => some ([item], s)
      | ',' :: s => do
        let (items, rest) ← takeItems depth steps s
        some (item :: items, rest)
      | _ => none

/-- Takes the entries of an inline table, one at least, and the brace behind
them. -/
def takeEntries (depth : Nat) :
    Nat → List Char → Entries → Option (Entries × List Char)
  | 0, _, _ => none
  | steps + 1, s, entries => do
    let ((path, key), s) ← takePath s
    match s with
    | '=' :: s => do
      let (value, s) ← takeValue depth steps (skipSpace s)
      let entries ← entries.setDotted path key value .braces
      match skipSpace s with
      | '\x7d' :: s => some (entries, s)
      | ',' :: s => takeEntries depth steps s entries
      | _ => none
    | _ => none

end

/-! ## Documents -/

/-- What has been read of a document: its entries, and the path of the last
header. -/
structure Progress where
  entries : Entries
  header : List String

/-- Takes a header and the end of its line, and opens the table it names. -/
def takeHeader (progress : Progress) (s : List Char) :
    Option (Progress × List Char) :=
  match s with
  | '[' :: '[' :: s => do
    let ((path, key), s) ← takePath s
    match s with
    | ']' :: ']' :: s => do
      let rest ← takeLineEnd s
      let entries ← progress.entries.pushTable path key
      some (⟨entries, path ++ [key]⟩, rest)
    | _ => none
  | '[' :: s => do
    let ((path, key), s) ← takePath s
    match s with
    | ']' :: s => do
      let rest ← takeLineEnd s
      let entries ← progress.entries.openTable path key
      some (⟨entries, path ++ [key]⟩, rest)
    | _ => none
  | _ => none

/-- Takes a key, its value and the end of the line. -/
def takeEntry (progress : Progress) (s : List Char) :
    Option (Progress × List Char) := do
  let ((path, key), s) ← takePath s
  match s with
  | '=' :: s => do
    let (value, s) ← takeValue (depthLimit - 1) (2 * s.length + 2) (skipSpace s)
    let rest ← takeLineEnd s
    let entries ← progress.entries.setUnder progress.header path key value
    some (⟨entries, progress.header⟩, rest)
  | _ => none

/-- Reads what is left of a document, one line or entry a step. -/
def readLines : Nat → Progress → List Char → Option Entries
  | 0, _, _ => none
  | steps + 1, progress, s =>
    match skipSpace s with
    | [] => some progress.entries
    | '[' :: s => do
      let (progress, rest) ← takeHeader progress ('[' :: s)
      readLines steps progress rest
    | c :: s =>
      if c = '#' ∨ c = '\n' ∨ c = '\r' then do
        let rest ← takeLineEnd (c :: s)
        readLines steps progress rest
      else do
        let (progress, rest) ← takeEntry progress (c :: s)
        readLines steps progress rest

/-- Reads a document. A byte order mark may come first. -/
def ofText? (text : String) : Option Entries :=
  let s := match text.toList with
    | '\ufeff' :: s => s
    | s => s
  readLines (s.length + 1) ⟨[], []⟩ s

end Songbook.Toml
