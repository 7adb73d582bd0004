/-!
# Arguments

What the words after a command's name say: operands, which count by their
places, and options, which go by a letter after one hyphen or by a name after
two. Some options take a value: the word that follows, or the rest of their
own word, with or without an equals sign after a letter and with one after a
name. Letters may share a hyphen. After a lone double hyphen every word is an
operand, and a lone hyphen is one anywhere.

A word that begins with a hyphen is never the value of the option before it,
and no option is given twice.
-/

namespace Songbook.Cli

/-- An option of a command. -/
structure Switch where
  letter : Char
  name : String
  takesValue : Bool
deriving DecidableEq

/-- Why words do not make a command to carry out. -/
inductive Stop
  /-- They do not fit any command. -/
  | misuse
  /-- They ask how the commands are used. -/
  | help
deriving DecidableEq

/-- What has been read of a command's words. -/
structure Arguments where
  /-- The operands, in order. -/
  operands : List String
  /-- The options that were given, in order, each with its value or the empty
  text. -/
  given : List (Switch × String)
  /-- The option whose value is to come. -/
  waiting : Option Switch
deriving DecidableEq

namespace Arguments

/-- The arguments of no words. -/
def start : Arguments :=
  ⟨[], [], .none⟩

/-- Whether an option was given. -/
def has (arguments : Arguments) (switch : Switch) : Bool :=
  (arguments.given.lookup switch).isSome

/-- The value of an option, if it was given. -/
def value? (arguments : Arguments) (switch : Switch) : Option String :=
  arguments.given.lookup switch

/-- Adds an operand. -/
def operand (arguments : Arguments) (word : String) : Arguments :=
  { arguments with operands := arguments.operands ++ [word] }

/-- Gives an option its value; no option is given twice. -/
def give (arguments : Arguments) (switch : Switch) (value : String) :
    Except Stop Arguments :=
  if arguments.has switch then .error .misuse
  else .ok { arguments with
    given := arguments.given ++ [(switch, value)], waiting := .none }

/-- Leaves an option to wait for its value. -/
def await (arguments : Arguments) (switch : Switch) : Arguments :=
  { arguments with waiting := some switch }

/-- Reads a word that names an option: the name up to the first equals sign,
the rest its value. -/
def takeNamed (switches : List Switch) (arguments : Arguments) (s : List Char) :
    Except Stop Arguments :=
  let name := String.ofList (s.takeWhile (· ≠ '='))
  let attached := (s.dropWhile (· ≠ '=')).tail?
  match switches.find? (·.name = name), attached with
  | .none, _ =>
    .error (if name = "help" && attached.isNone then .help else .misuse)
  | some switch, some value =>
    if switch.takesValue then arguments.give switch (String.ofList value)
    else .error .misuse
  | some switch, .none =>
    if switch.takesValue then .ok (arguments.await switch)
    else arguments.give switch ""

/-- Reads the letters behind one hyphen. The first that takes a value takes
what is left, if anything is. -/
def takeLetters (switches : List Switch) (arguments : Arguments) :
    List Char → Except Stop Arguments
  | [] => .ok arguments
  | c :: s =>
    match switches.find? (·.letter = c) with
    | .none => .error (if c = 'h' then .help else .misuse)
    | some switch =>
      if switch.takesValue then
        match s with
        | [] => .ok (arguments.await switch)
        | '=' :: value => arguments.give switch (String.ofList value)
        | value => arguments.give switch (String.ofList value)
      else do
        takeLetters switches (← arguments.give switch "") s

/-- Reads one word. An option that waits takes it, but not if it begins like
options do. -/
def take (switches : List Switch) (arguments : Arguments) (word : String) :
    Except Stop Arguments :=
  match word.toList, arguments.waiting with
  | '-' :: _ :: _, some _ => .error .misuse
  | '-' :: '-' :: s, .none => arguments.takeNamed switches s
  | '-' :: c :: s, .none => arguments.takeLetters switches (c :: s)
  | _, some switch => arguments.give switch word
  | _, .none => .ok (arguments.operand word)

/-- At the end of the words, or of those that may be options, no value is to
come. -/
def settled (arguments : Arguments) : Except Stop Arguments :=
  if arguments.waiting.isSome then .error .misuse else .ok arguments

/-- Reads words. Behind a lone double hyphen all of them are operands. -/
def takeAll (switches : List Switch) :
    Arguments → List String → Except Stop Arguments
  | arguments, [] => arguments.settled
  | arguments, word :: words =>
    if word = "--" then do
      pure (words.foldl operand (← arguments.settled))
    else do
      takeAll switches (← arguments.take switches word) words

/-- The arguments that words make for a command with given options. -/
def ofWords (switches : List Switch) (words : List String) :
    Except Stop Arguments :=
  takeAll switches start words

end Arguments

end Songbook.Cli
