import Schemata.Console.Invocation

/-!
# Arguments

The options, flags and words of a command line, and the commands they belong to.

* `Argument` — an argument, with its long and short name and its kind of value;
* `Verb` — a command as a word;
* `Form` — the arguments that a place of the command line accepts;
* `UsageError` — why a command line is not accepted.
-/

namespace Schemata

/-- Why a command line asks for nothing. -/
inductive UsageError where
  /-- It asks for help. -/
  | displayHelp
  /-- It asks for the version. -/
  | displayVersion
  /-- An option or a word is not known here. -/
  | unknownArgument
  /-- A value is missing or is not allowed. -/
  | invalidValue
  /-- A word is no command. -/
  | invalidSubcommand
  /-- An argument is given twice. -/
  | argumentConflict
  /-- A flag has a value. -/
  | tooManyValues
  /-- A word that is needed is missing. -/
  | missingRequiredArgument
deriving DecidableEq, Repr

/-- An argument of the command line. -/
inductive Argument where
  /-- The driver. -/
  | driver
  /-- The directory of migrations. -/
  | migrationsDir
  /-- Identifiers are checked. -/
  | strict
  /-- Details are shown. -/
  | verbose
  /-- Help is shown. -/
  | help
  /-- The version is shown. -/
  | version
  /-- The seeder runs afterwards. -/
  | seed
  /-- The list is JSON. -/
  | json
  /-- The directory of a skeleton. -/
  | dir
  /-- The kind of a skeleton. -/
  | kind
  /-- The name of a skeleton. -/
  | name
deriving DecidableEq, Repr

namespace Argument

/-- The name after two hyphens.  Words have none. -/
def long? : Argument → Option String
  | .driver => some "driver"
  | .migrationsDir => some "migrations-dir"
  | .strict => some "strict"
  | .verbose => some "verbose"
  | .help => some "help"
  | .version => some "version"
  | .seed => some "seed"
  | .json => some "json"
  | .dir => some "dir"
  | .kind => none
  | .name => none

/-- The letter after one hyphen, if there is one. -/
def short? : Argument → Option Char
  | .driver => some 'd'
  | .migrationsDir => some 'm'
  | .verbose => some 'v'
  | .help => some 'h'
  | .version => some 'V'
  | _ => none

/-- Whether the argument has a value. -/
def takesValue : Argument → Bool
  | .driver | .migrationsDir | .dir | .kind | .name => true
  | _ => false

/-- Whether the text may be the value of the argument.  A directory is not empty, and a kind is
one of the three. -/
def accepts : Argument → String → Bool
  | .migrationsDir, v | .dir, v => decide (v ≠ "")
  | .kind, v => (SkeletonKind.ofLabel? v).isSome
  | _, _ => true

end Argument

/-- A command as a word. -/
inductive Verb where
  /-- Applies migrations. -/
  | migrate
  /-- Takes migrations back. -/
  | rollback
  /-- Takes migrations back and applies them again. -/
  | refresh
  /-- Runs the seeder. -/
  | seed
  /-- Lists migrations. -/
  | status
  /-- Generates a skeleton. -/
  | make
  /-- Shows help. -/
  | help
deriving DecidableEq, Repr

namespace Verb

/-- The commands in the order of the help text. -/
def all : List Verb :=
  [.migrate, .rollback, .refresh, .seed, .status, .make, .help]

/-- The word for the command. -/
def word : Verb → String
  | .migrate => "migrate"
  | .rollback => "rollback"
  | .refresh => "refresh"
  | .seed => "seed"
  | .status => "status"
  | .make => "make"
  | .help => "help"

/-- The command with the given word. -/
def ofWord? (s : String) : Option Verb :=
  all.find? (·.word == s)

theorem ofWord?_word (v : Verb) : ofWord? v.word = some v := by
  cases v <;> decide

end Verb

/-- The arguments that a place of the command line accepts. -/
structure Form where
  /-- Options and flags. -/
  options : List Argument
  /-- Words, in order. -/
  words : List Argument := []
  /-- Whether a command may follow. -/
  hasVerbs : Bool := false

namespace Form

/-- What may stand before a command. -/
def top : Form where
  options := [.driver, .migrationsDir, .strict, .verbose, .help, .version]
  hasVerbs := true

/-- What may stand after a command. -/
def ofVerb : Verb → Form
  | .migrate => { options := [.seed, .help] }
  | .refresh => { options := [.seed, .help] }
  | .status => { options := [.json, .help] }
  | .make => { options := [.dir, .help], words := [.kind, .name] }
  | .rollback | .seed | .help => { options := [.help] }

/-- The option or flag with the long name. -/
def long? (f : Form) (name : String) : Option Argument :=
  f.options.find? (·.long? == some name)

/-- The option or flag with the letter. -/
def short? (f : Form) (letter : Char) : Option Argument :=
  f.options.find? (·.short? == some letter)

/-- The command that the word stands for here. -/
def verb? (f : Form) (word : String) : Option Verb :=
  if f.hasVerbs then Verb.ofWord? word else none

end Form

end Schemata
