import Rulebook.Settings

/-!
# The command line

Two commands: `compile` says whether a file has a document, and `calc` writes what
it gives to the context of the tokens behind `-c` or `--context`. Arguments that
make no command end with exit code 2, a failure of a command with exit code 1 and a
diagnostic.

Two things that a user sees are left out. The option `-v` or `--verbose`, which is
accepted everywhere, and the environment turn on a log on standard error: no log line
is modelled. Of the help, the version and the complaint about arguments that make no
command, only the exit codes are.
-/

namespace Rulebook.CommandLine

/-- A command with its arguments. -/
inductive Invocation where
  /-- Say whether a file has a document. -/
  | compile (path : String)
  /-- Write what the document of a file gives to a context. -/
  | calculate (path : String) (tokens : List String)
  /-- Explain the commands or tell the version, which differ in nothing that is modelled. -/
  | help
deriving DecidableEq, Repr

/-- The two commands. -/
inductive Command where
  /-- Say whether a file has a document. -/
  | compile
  /-- Write what the document of a file gives to a context. -/
  | calculate
deriving DecidableEq, Repr

/-- What arguments of a command have been read so far. -/
structure Arguments where
  /-- The path of the document. -/
  path : Option String
  /-- The context tokens, the last one first. -/
  tokens : List String

/-- What the letters behind a single dash ask for. -/
inductive Letters where
  /-- Nothing beyond themselves. -/
  | done
  /-- An explanation of the commands. -/
  | help
  /-- A context token, which is written behind the letter. -/
  | token (text : String)
  /-- A context token, which is the next argument. -/
  | tokenNext

/-- The meaning of the letters behind a single dash, if all are options. -/
def readLetters (command : Option Command) : List Char → Option Letters
  | [] => some .done
  | 'v' :: rest => readLetters command rest
  | 'h' :: _ => some .help
  | 'V' :: _ => if command.isNone then some .help else none
  | 'c' :: rest =>
    if command = some .calculate then
      match rest with
      | [] => some .tokenNext
      | '=' :: text => some (.token (String.ofList text))
      | text => some (.token (String.ofList text))
    else none
  | _ => none

/-- Whether an argument has the form of an option. A single dash has not. -/
def looksLikeOption (argument : String) : Bool :=
  match argument.toList with
  | '-' :: _ :: _ => true
  | _ => false

/-- A path as a further argument; there is one, and it is not empty. -/
def addPath (arguments : Arguments) (path : String) : Option Arguments :=
  if arguments.path.isSome || path.isEmpty then none else some { arguments with path := some path }

/-- The invocation of a command with its arguments complete; the path must be
there. -/
def finish (command : Command) (arguments : Arguments) : Option Invocation :=
  match command, arguments.path with
  | _, none => none
  | .compile, some path => some (.compile path)
  | .calculate, some path => some (.calculate path arguments.tokens.reverse)

/-- The invocation of a command with further arguments that are all paths. -/
def readPaths (command : Command) (arguments : Arguments) : List String → Option Invocation
  | [] => finish command arguments
  | path :: rest => (addPath arguments path).bind fun arguments => readPaths command arguments rest

/-- The invocation of a command with further arguments. Behind two dashes all
arguments are paths. -/
def readArguments (command : Command) (arguments : Arguments) : List String → Option Invocation
  | [] => finish command arguments
  | argument :: rest =>
    let addToken (text : String) : Arguments :=
      { arguments with tokens := text :: arguments.tokens }
    let nextToken : Option Invocation :=
      match rest with
      | [] => none
      | text :: rest =>
        if looksLikeOption text then none else readArguments command (addToken text) rest
    match argument.toList with
    | ['-', '-'] => readPaths command arguments rest
    | '-' :: '-' :: option =>
      if option = "verbose".toList then readArguments command arguments rest
      else if option = "help".toList then some .help
      else if command = .calculate then
        if option = "context".toList then nextToken
        else if "context=".toList.isPrefixOf option then
          readArguments command (addToken (String.ofList (option.drop 8))) rest
        else none
      else none
    | '-' :: letter :: letters =>
      match readLetters (some command) (letter :: letters) with
      | none => none
      | some .done => readArguments command arguments rest
      | some .help => some .help
      | some (.token text) => readArguments command (addToken text) rest
      | some .tokenNext => nextToken
    | _ => (addPath arguments argument).bind fun arguments => readArguments command arguments rest

/-- The invocation that asks for an explanation, with the arguments behind the word
`help`: nothing, or a single word that is a command or `help` itself. -/
def readHelp : List String → Option Invocation
  | [] => some .help
  | [topic] => if topic ∈ ["compile", "calc", "help"] then some .help else none
  | _ => none

/-- The invocation that arguments make, if they make one. Options may stand before
the name of the command. -/
def parse : List String → Option Invocation
  | [] => none
  | argument :: rest =>
    if argument = "compile" then readArguments .compile ⟨none, []⟩ rest
    else if argument = "calc" then readArguments .calculate ⟨none, []⟩ rest
    else if argument = "--verbose" then parse rest
    else if argument = "help" then readHelp rest
    else if argument = "--help" ∨ argument = "--version" then some .help
    else
      match argument.toList with
      | '-' :: letter :: letters =>
        match readLetters none (letter :: letters) with
        | some .done => parse rest
        | some .help => some .help
        | _ => none
      | _ => none

/-- What a run of the program leaves behind, apart from its log. -/
structure Response where
  /-- The exit code. -/
  exitCode : UInt32
  /-- The text on standard output. -/
  output : String
  /-- The error diagnostic on standard error. Log lines may stand there too, with or without an
  error, and are no part of it. -/
  diagnostic : String
deriving DecidableEq, Repr

/-- A text that stands for the help, the version and the complaint about arguments that make no
command. Their own wording is not modelled. -/
def usage : String :=
  "Usage: compile FILE\n       calc FILE [-c KEY=VALUE]...\n"

/-- What a command writes. -/
def perform (settings : Settings) (files : Files) : Invocation → Except Failure String
  | .compile path => do
    settings.validateFile files path
    return "OK\n"
  | .calculate path tokens => do
    let text ← settings.calculateFile files path tokens
    return text ++ "\n"
  | .help => .ok usage

/-- A run of the program with its arguments. It does not say what the run logs. -/
def run (settings : Settings) (files : Files) (arguments : List String) : Response :=
  match parse arguments with
  | none => ⟨2, "", usage⟩
  | some invocation =>
    match perform settings files invocation with
    | .ok output => ⟨0, output, ""⟩
    | .error failure => ⟨1, "", "error: " ++ failure.message ++ "\n"⟩

end Rulebook.CommandLine
