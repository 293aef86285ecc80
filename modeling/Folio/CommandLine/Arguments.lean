/-!
# Command line arguments

The words of a command line are read in two steps. First every word becomes a token: an
operand, or an option with what is attached to it. Then the tokens are consumed from left to
right. Options may stand before, between and after operands, long ones may be abbreviated,
and letters of short ones may share a word. After the word `--` all words are operands.
-/

namespace Folio.CommandLine

/-- The commands. -/
inductive Command where
  | contents
  | text
  | references
  | collect
  deriving DecidableEq, Repr, Inhabited

/-- The command with a name. -/
def Command.named? : String → Option Command
  | "toc" => some .contents
  | "text" => some .text
  | "refs" => some .references
  | "collect" => some .collect
  | _ => none

/-- What can be collected. -/
inductive Collected where
  | figures
  | tables
  | links
  deriving DecidableEq, Repr, Inhabited

/-- What is to be collected, by its name. -/
def Collected.named? : String → Option Collected
  | "figures" => some .figures
  | "tables" => some .tables
  | "links" => some .links
  | _ => none

/-- What a command is to do. -/
inductive Task where
  | contents
  | text
  | references
  | collect (kind : Collected)
  deriving DecidableEq, Repr, Inhabited

/-- Options without a value. -/
inductive Flag where
  | help
  | version
  | verbose
  | trace
  | rich
  deriving DecidableEq, Repr, Inhabited

/-- Options with a value. -/
inductive Parameter where
  | config
  | logLevel
  | logFile
  | output
  deriving DecidableEq, Repr, Inhabited

/-- What has been set by options. -/
structure Given where
  verbose : Bool := false
  trace : Bool := false
  rich : Bool := false
  config : Option String := none
  logLevel : Option String := none
  logFile : Option String := none
  output : Option String := none
  deriving DecidableEq, Repr, Inhabited

/-- A command to be run on an input. -/
structure Invocation where
  task : Task
  input : String
  given : Given
  deriving DecidableEq, Repr, Inhabited

/-- Why reading ends early: help or the version is asked for, or the words are refused. -/
inductive Stop where
  | help
  | version
  | refused
  deriving DecidableEq, Repr, Inhabited

/-- What an option is. -/
inductive OptionKind where
  | flag (flag : Flag)
  | parameter (parameter : Parameter)
  deriving DecidableEq, Repr, Inhabited

/-- The names of options. -/
abbrev OptionTable := List (String × OptionKind)

/-- The option with a name. -/
def OptionTable.kind? (table : OptionTable) (name : String) : Option OptionKind :=
  (table.find? fun entry => entry.1 == name).map (·.2)

/-- The options that may stand before a command. -/
def generalOptions : OptionTable :=
  [("-h", .flag .help), ("--help", .flag .help), ("--version", .flag .version)]

/-- The options of a command. -/
def Command.options (command : Command) : OptionTable :=
  [("-h", .flag .help), ("--help", .flag .help), ("--config", .parameter .config),
    ("--verbose", .flag .verbose), ("-v", .flag .verbose),
    ("--log-level", .parameter .logLevel), ("--log-file", .parameter .logFile),
    ("--trace", .flag .trace), ("--rich", .flag .rich)] ++
  if command = .references then [("-o", .parameter .output), ("--output", .parameter .output)]
  else []

/-- The levels that may be given. -/
def levels : List String := ["DEBUG", "INFO", "WARNING", "ERROR"]

/-- What a word of options asks for: flags, and a parameter with its value, or one whose
value is the next word. Letters that name no option end the flags of a word early, and flags
take no value. -/
inductive Asked where
  | flags (flags : List Flag) (complete : Bool)
  | value (flags : List Flag) (parameter : Parameter) (text : String)
  | next (flags : List Flag) (parameter : Parameter)
  | refused
  deriving DecidableEq, Repr, Inhabited

/-- Ask for a flag first. -/
def Asked.after (flag : Flag) : Asked → Asked
  | flags rest complete => flags (flag :: rest) complete
  | value rest parameter text => value (flag :: rest) parameter text
  | next rest parameter => next (flag :: rest) parameter
  | refused => refused

/-- A word as an option table reads it. -/
inductive Token where
  | operand (text : String)
  | separator
  | option (asked : Asked)
  | unknown
  | ambiguous
  deriving DecidableEq, Repr, Inhabited

/-- An option with the text that an equals sign attaches to it. -/
def Asked.ofOption (kind : OptionKind) (attached : Option String) : Asked :=
  match kind, attached with
  | .flag flag, none => .flags [flag] true
  | .flag _, some _ => .refused
  | .parameter parameter, some text => .value [] parameter text
  | .parameter parameter, none => .next [] parameter

/-- The letters behind the one of a flag: more flags, and at last perhaps a parameter with its
value. -/
def Asked.ofLetters (table : OptionTable) (flag : Flag) : List Char → Asked
  | [] => .flags [flag] true
  | letter :: rest =>
    if letter == '-' || letter == '=' then .refused
    else
      match table.kind? (String.ofList ['-', letter]) with
      | none => .flags [flag] false
      | some (.flag further) => (ofLetters table further rest).after flag
      | some (.parameter parameter) =>
        match rest with
        | [] => .next [flag] parameter
        | '=' :: text => .value [flag] parameter (String.ofList text)
        | text => .value [flag] parameter (String.ofList text)

/-- A word cut at its first equals sign. -/
def cutAtEquals (word : List Char) : List Char × Option (List Char) :=
  let name := word.takeWhile (· != '=')
  match word.drop name.length with
  | _ :: text => (name, some text)
  | [] => (name, none)

/-- Digits only, and at least one. -/
def isNumeral (text : List Char) : Bool := !text.isEmpty && text.all Char.isDigit

/-- A negative number, whole or with decimals; a line feed may follow. -/
def isNegativeNumber : List Char → Bool
  | '-' :: digits =>
    let digits := if digits.getLast? == some '\n' then digits.dropLast else digits
    let whole := digits.takeWhile (· != '.')
    match digits.drop whole.length with
    | [] => isNumeral whole
    | _ :: decimals => whole.all Char.isDigit && isNumeral decimals
  | _ => false

/-- A word that begins with a hyphen but names no option. -/
def Token.ofNameless (word : String) : Token :=
  if isNegativeNumber word.toList || word.toList.contains ' ' then operand word else unknown

/-- A word that begins with two hyphens, as the beginning of a long name. -/
def Token.ofAbbreviation (table : OptionTable) (word : String) : Token :=
  let (name, text) := cutAtEquals word.toList
  match table.filter fun entry => name.isPrefixOf entry.1.toList with
  | [] => ofNameless word
  | [(_, kind)] => option (.ofOption kind (text.map String.ofList))
  | _ => ambiguous

/-- A word that begins with one hyphen, as a letter with others behind it. -/
def Token.ofLetter (table : OptionTable) (word : String) (letter : Char)
    (rest : List Char) : Token :=
  match table.kind? (String.ofList ['-', letter]) with
  | some (.flag flag) => option (.ofLetters table flag rest)
  | some (.parameter parameter) => option (.value [] parameter (String.ofList rest))
  | none => ofNameless word

/-- A word before any separator. Words without a hyphen in front and the lone hyphen are
operands; a name counts as a whole, then up to an equals sign, then as abbreviated. -/
def Token.ofWord (table : OptionTable) (word : String) : Token :=
  match word.toList with
  | ['-', '-'] => separator
  | '-' :: first :: rest =>
    match table.kind? word with
    | some kind => option (.ofOption kind none)
    | none =>
      let (name, text) := cutAtEquals word.toList
      match table.kind? (String.ofList name) with
      | some kind => option (.ofOption kind (text.map String.ofList))
      | none =>
        if first == '-' then ofAbbreviation table word else ofLetter table word first rest
  | _ => operand word

/-- The tokens of some words; behind a separator all words are operands. -/
def tokens (table : OptionTable) : List String → List Token
  | [] => []
  | word :: rest =>
    match Token.ofWord table word with
    | .separator => .separator :: rest.map Token.operand
    | token => token :: tokens table rest

namespace Given

/-- Set a flag. -/
def setFlag (given : Given) : Flag → Except Stop Given
  | .help => .error .help
  | .version => .error .version
  | .verbose => .ok { given with verbose := true }
  | .trace => .ok { given with trace := true }
  | .rich => .ok { given with rich := true }

/-- Set a parameter; a level must be one of those that may be given. -/
def setParameter (given : Given) (parameter : Parameter) (value : String) :
    Except Stop Given :=
  match parameter with
  | .config => .ok { given with config := some value }
  | .logFile => .ok { given with logFile := some value }
  | .output => .ok { given with output := some value }
  | .logLevel =>
    if levels.contains value then .ok { given with logLevel := some value }
    else .error .refused

end Given

/-- What has been read so far: the options, the operands, and whether there were words that
nothing takes. -/
structure Reading where
  given : Given := {}
  operands : List String := []
  extra : Bool := false
  deriving DecidableEq, Repr, Inhabited

namespace Reading

/-- Set flags one after another. -/
def setFlags (reading : Reading) (flags : List Flag) : Except Stop Reading :=
  (flags.foldlM Given.setFlag reading.given).map fun given => { reading with given }

/-- Set flags and then a parameter. -/
def setAll (reading : Reading) (flags : List Flag) (parameter : Parameter) (value : String) :
    Except Stop Reading := do
  let reading ← reading.setFlags flags
  let given ← reading.given.setParameter parameter value
  pure { reading with given }

/-- Note a word that nothing takes. -/
def noteExtra (reading : Reading) : Reading := { reading with extra := true }

end Reading

/-- Consume tokens. `wanted` tests the operands that are still missing. A separator belongs
to the operand before it, if this was taken just now, or else to the one behind it. -/
def consume : (wanted : List (String → Bool)) → (justTaken : Bool) → Reading → List Token →
    Except Stop Reading
  | wanted, _, reading, [] =>
    if reading.extra || !wanted.isEmpty then .error .refused else .ok reading
  | accepts :: wanted, _, reading, .operand text :: rest =>
    if accepts text then
      consume wanted true { reading with operands := reading.operands ++ [text] } rest
    else .error .refused
  | [], _, reading, .operand _ :: rest => consume [] false reading.noteExtra rest
  | wanted, justTaken, reading, .separator :: rest =>
    if justTaken || !(wanted.isEmpty || rest.isEmpty) then consume wanted false reading rest
    else consume wanted false reading.noteExtra rest
  | wanted, _, reading, .option (.flags flags complete) :: rest =>
    match reading.setFlags flags with
    | .error stop => .error stop
    | .ok reading =>
      consume wanted false (if complete then reading else reading.noteExtra) rest
  | wanted, _, reading, .option (.value flags parameter text) :: rest =>
    match reading.setAll flags parameter text with
    | .error stop => .error stop
    | .ok reading => consume wanted false reading rest
  | wanted, _, reading, .option (.next flags parameter) :: .operand text :: rest =>
    match reading.setAll flags parameter text with
    | .error stop => .error stop
    | .ok reading => consume wanted false reading rest
  | wanted, _, reading, .unknown :: rest => consume wanted false reading.noteExtra rest
  | _, _, _, .option _ :: _ => .error .refused
  | _, _, _, .ambiguous :: _ => .error .refused

/-- Tests for the operands of a command: the kind of nodes to collect, if any, and the
input. -/
def Command.operands (command : Command) : List (String → Bool) :=
  (if command = .collect then [fun name => (Collected.named? name).isSome] else []) ++
    [fun _ => true]

/-- What a command is to do with its operands. -/
def Command.invocation? (command : Command) (reading : Reading) : Option Invocation :=
  match command, reading.operands with
  | .contents, [input] => some ⟨.contents, input, reading.given⟩
  | .text, [input] => some ⟨.text, input, reading.given⟩
  | .references, [input] => some ⟨.references, input, reading.given⟩
  | .collect, [name, input] =>
    (Collected.named? name).map fun kind => ⟨.collect kind, input, reading.given⟩
  | _, _ => none

/-- An option was abbreviated to what several names begin with. -/
def isAmbiguous (found : List Token) : Bool := found.contains .ambiguous

/-- Read the words behind a command. -/
def Command.read (command : Command) (words : List String) : Except Stop Invocation :=
  let found := tokens command.options words
  if isAmbiguous found then .error .refused
  else
    match consume command.operands false {} found with
    | .error stop => .error stop
    | .ok reading =>
      match command.invocation? reading with
      | some invocation => .ok invocation
      | none => .error .refused

/-- Read the words up to the command and those behind it. Words that name no option are
refused only if nothing else ends the reading. -/
def readFrom (extra : Bool) : List String → Except Stop Invocation
  | [] => .error .refused
  | word :: rest =>
    match Token.ofWord generalOptions word with
    | .unknown => readFrom true rest
    | .option (.flags (.help :: _) _) => .error .help
    | .option (.flags (.version :: _) _) => .error .version
    | .operand name =>
      match Command.named? name with
      | none => .error .refused
      | some command =>
        match command.read rest with
        | .error stop => .error stop
        | .ok invocation => if extra then .error .refused else .ok invocation
    | _ => .error .refused

/-- Read the words of a command line. -/
def read (words : List String) : Except Stop Invocation :=
  if isAmbiguous (tokens generalOptions words) then .error .refused else readFrom false words

end Folio.CommandLine
