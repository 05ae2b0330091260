import Crossmap.Text.Split

/-!
# Options

How the words of a command line are read as options. An option is named in full after `--`; its
value follows `=` or is the next word, which must not look like an option itself. Every option can
be given once. A single `-` begins a group of letters, each an option without a value.
-/

namespace Crossmap

/-- An option that can be given. -/
structure OptionRule where
  /-- The name, without what stands before it. -/
  name : String
  /-- The letter that stands for the name in a group. -/
  letter : Option Char
  isRequired : Bool
  /-- Which values the option takes; without it, the option takes none. -/
  accepts : Option (String → Bool)

/-- An option that was given, with its value. An option that takes none has an empty one. -/
structure GivenOption where
  name : String
  value : String
  deriving DecidableEq, Inhabited

/-- Why words cannot be read as options. -/
inductive UsageError where
  | unknownWord (word : String)
  | missingValue (option : String)
  /-- An option has a value that it does not take. -/
  | badValue (option value : String)
  | repeated (option : String)
  | missingOptions (options : List String)
  | missingCommand
  deriving DecidableEq, Inhabited

/-- What ends the reading of a command line early. -/
inductive Interruption where
  | error (e : UsageError)
  | help
  | version
  deriving DecidableEq, Inhabited

/-- The message of an error. -/
def UsageError.message : UsageError → String
  | .unknownWord word => "unexpected argument '" ++ word ++ "' found"
  | .missingValue option => "a value is required for '--" ++ option ++ "' but none was supplied"
  | .badValue option value => "invalid value '" ++ value ++ "' for '--" ++ option ++ "'"
  | .repeated option => "the argument '--" ++ option ++ "' cannot be used multiple times"
  | .missingOptions options =>
    "the following required arguments were not provided: "
      ++ Text.joinWith ", " (options.map ("--" ++ ·))
  | .missingCommand => "a command is required but none was provided"

/-- A word of a command line by its looks. -/
inductive Word where
  | separator
  /-- The name of an option, and the value after `=`. -/
  | long (name : String) (value : Option String)
  | letters (cs : List Char)
  /-- Anything else, a lone dash included. -/
  | argument (s : String)
  deriving DecidableEq, Inhabited

/-- What a word looks like. -/
def Word.ofText (s : String) : Word :=
  match s.toList with
  | ['-', '-'] => .separator
  | '-' :: '-' :: cs =>
    let (name, rest) := cs.span (· ≠ '=')
    .long (String.ofList name) (if rest.isEmpty then none else some (String.ofList (rest.drop 1)))
  | '-' :: c :: cs => .letters (c :: cs)
  | _ => .argument s

namespace OptionRule

/-- The rule of a name. -/
def find? (rules : List OptionRule) (name : String) : Option OptionRule :=
  rules.find? fun r => r.name = name

/-- The rule of a letter. -/
def ofLetter? (rules : List OptionRule) (c : Char) : Option OptionRule :=
  rules.find? fun r => r.letter = some c

/-- The options with one more, unless it has been given before. -/
def give (rule : OptionRule) (value : String) (given : List GivenOption) :
    Except Interruption (List GivenOption) :=
  if rule.name = "help" then .error .help
  else if rule.name = "version" then .error .version
  else if given.any (fun g => g.name = rule.name) then .error (.error (.repeated rule.name))
  else if (rule.accepts.map (· value)).getD true then .ok (given ++ [⟨rule.name, value⟩])
  else .error (.error (.badValue rule.name value))

/-- The options with those of a group of letters. -/
def giveLetters (rules : List OptionRule) (given : List GivenOption) :
    List Char → Except Interruption (List GivenOption)
  | [] => .ok given
  | c :: cs =>
    match ofLetter? rules c with
    | none => .error (.error (.unknownWord ("-" ++ c.toString)))
    | some rule => do giveLetters rules (← rule.give "" given) cs

/-- Reads options up to the first argument: the options, and the words from that argument on. -/
def read (rules : List OptionRule) (given : List GivenOption) (words : List String) :
    Except Interruption (List GivenOption × List String) :=
  match words with
  | [] => .ok (given, [])
  | word :: rest =>
    match Word.ofText word with
    | .separator =>
      match rest with
      | [] => .ok (given, [])
      | argument :: _ => .error (.error (.unknownWord argument))
    | .argument _ => .ok (given, word :: rest)
    | .letters cs => do read rules (← giveLetters rules given cs) rest
    | .long name value =>
      match find? rules name with
      | none => .error (.error (.unknownWord word))
      | some rule =>
        match rule.accepts, value with
        | none, none => do read rules (← rule.give "" given) rest
        | none, some v => .error (.error (.badValue name v))
        | some _, some v => do read rules (← rule.give v given) rest
        | some _, none =>
          match rest with
          | [] => .error (.error (.missingValue name))
          | next :: after =>
            match Word.ofText next with
            | .argument v => do read rules (← rule.give v given) after
            | _ => .error (.error (.missingValue name))
termination_by words.length

/-- Reads options where nothing else can stand, and where those that are required must. -/
def readAll (rules : List OptionRule) (words : List String) :
    Except Interruption (List GivenOption) := do
  let (given, rest) ← read rules [] words
  match rest with
  | argument :: _ => .error (.error (.unknownWord argument))
  | [] =>
    let missing := rules.filter fun r => r.isRequired && !given.any fun g => g.name = r.name
    if missing.isEmpty then return given
    else .error (.error (.missingOptions (missing.map name)))

end OptionRule

/-- The value of an option that was given. -/
def GivenOption.value? (given : List GivenOption) (name : String) : Option String :=
  (given.find? fun g => g.name = name).map GivenOption.value

end Crossmap
