import Schemata.Console.Arguments

/-!
# Reading command lines

A command line is read from left to right.  The value of an option may come with it or be the
next word.  In the second case it is settled only when the next known argument or the end
comes, so a mistake further on may be the one that is told.

* `Reading.settle` — settles the argument that is open;
* `Form.read` — reads the arguments of one place, up to a command if there is one;
* `Command.read` — reads what follows a command;
* `Invocation.read` — reads a whole command line.
-/

namespace Schemata

/-- What has been read at one place of the command line. -/
structure Reading where
  /-- The settled arguments with their values, which flags leave empty. -/
  given : List (Argument × String) := []
  /-- The argument that is open, with its value once it is known. -/
  opened : Option (Argument × Option String) := none
  /-- The words that may still come. -/
  words : List Argument := []
deriving DecidableEq, Repr

namespace Reading

variable (r : Reading)

/-! ### Settling arguments -/

/-- The value of an argument, if it is given. -/
def value? (a : Argument) : Option String :=
  r.given.lookup a

/-- Whether an argument is given. -/
def has (a : Argument) : Bool :=
  (r.value? a).isSome

/-- Whether the next word is the value of an option. -/
def awaitsValue : Bool :=
  match r.opened with
  | some (_, none) => true
  | _ => false

/-- The reading with an option or a word settled. -/
def giveValue (a : Argument) (v : Option String) : Except UsageError Reading :=
  match v with
  | none => .error .invalidValue
  | some v =>
    if r.has a then .error .argumentConflict
    else if a.accepts v then .ok { r with given := r.given ++ [(a, v)] }
    else .error .invalidValue

/-- The reading with a flag settled. -/
def giveFlag (a : Argument) : Except UsageError Reading :=
  match a with
  | .help => .error .displayHelp
  | .version => .error .displayVersion
  | a =>
    if r.has a then .error .argumentConflict
    else .ok { r with given := r.given ++ [(a, "")] }

/-- The reading with nothing open. -/
def settle : Except UsageError Reading :=
  match r.opened with
  | none => .ok r
  | some (a, v) => { r with opened := none }.giveValue a v

/-- Settles what is open and takes an option with its value. -/
def takeValue (a : Argument) (v : String) : Except UsageError Reading :=
  r.settle.bind fun r => r.giveValue a (some v)

/-- Settles what is open and takes a flag. -/
def takeFlag (a : Argument) : Except UsageError Reading :=
  r.settle.bind fun r => r.giveFlag a

/-- Settles what is open and opens an argument. -/
def leaveOpen (a : Argument) (v : Option String) : Except UsageError Reading :=
  r.settle.bind fun r => .ok { r with opened := some (a, v) }

end Reading

namespace Form

variable (f : Form)

/-! ### Options and flags -/

/-- The name and the value of a long option, which the first equals sign parts. -/
def splitEquals : List Char → List Char × Option (List Char)
  | [] => ([], none)
  | c :: cs =>
    if c = '=' then ([], some cs)
    else
      let (name, value) := splitEquals cs
      (c :: name, value)

/-- Reads what follows two hyphens. -/
def readLong (r : Reading) (text : List Char) : Except UsageError Reading :=
  let (name, value) := splitEquals text
  match f.long? (String.ofList name) with
  | none => .error .unknownArgument
  | some a =>
    match a.takesValue, value with
    | true, some v => r.takeValue a (String.ofList v)
    | true, none => r.leaveOpen a none
    | false, some _ => .error .tooManyValues
    | false, none => r.takeFlag a

/-- Reads the letters that follow one hyphen.  The value of an option is the rest, less an equals
sign before it. -/
def readShort (r : Reading) : List Char → Except UsageError Reading
  | [] => .ok r
  | c :: cs =>
    match f.short? c with
    | none => .error .unknownArgument
    | some a =>
      if a.takesValue then
        match cs with
        | [] => r.leaveOpen a none
        | '=' :: v => r.takeValue a (String.ofList v)
        | v => r.takeValue a (String.ofList v)
      else (r.takeFlag a).bind fun r => readShort r cs

/-! ### Words -/

/-- Reads a word that is neither a value nor a command.  After two hyphens a command is told
apart from other words. -/
def readWord (r : Reading) (trailing : Bool) (word : String) : Except UsageError Reading :=
  match r.words with
  | a :: words => { r with words }.leaveOpen a (some word)
  | [] =>
    if f.hasVerbs ∧ ¬(trailing ∧ (f.verb? word).isSome) then .error .invalidSubcommand
    else .error .unknownArgument

/-! ### Whole places -/

/-- What an argument looks like. -/
inductive Shape where
  /-- Two hyphens, after which there are only words. -/
  | separator
  /-- A long option or flag. -/
  | long (text : List Char)
  /-- Short options and flags. -/
  | short (letters : List Char)
  /-- Anything else, a single hyphen included. -/
  | word
deriving DecidableEq, Repr

/-- What the characters of an argument look like. -/
def Shape.of : List Char → Shape
  | ['-', '-'] => .separator
  | '-' :: '-' :: text => .long text
  | '-' :: c :: cs => .short (c :: cs)
  | _ => .word

/-- Reads arguments up to the first command, and gives the command with the arguments after it. -/
def readFrom (r : Reading) (trailing : Bool) :
    List String → Except UsageError (Reading × Option (Verb × List String))
  | [] => .ok (r, none)
  | arg :: rest =>
    if trailing then (f.readWord r true arg).bind fun r => readFrom r true rest
    else
      match if r.awaitsValue then none else f.verb? arg with
      | some v => .ok (r, some (v, rest))
      | none =>
        match Shape.of arg.toList with
        | .separator => readFrom r true rest
        | .long text => (f.readLong r text).bind fun r => readFrom r false rest
        | .short letters => (f.readShort r letters).bind fun r => readFrom r false rest
        | .word =>
          match r.opened with
          | some (a, none) => readFrom { r with opened := some (a, some arg) } false rest
          | _ => (f.readWord r false arg).bind fun r => readFrom r false rest

/-- Reads the arguments of a place. -/
def read (args : List String) : Except UsageError (Reading × Option (Verb × List String)) :=
  f.readFrom { words := f.words } false args

/-- Reads the arguments of a place after which no command comes. -/
def readAll (args : List String) : Except UsageError Reading :=
  (f.read args).bind fun (r, _) => r.settle

end Form

/-! ### Commands -/

/-- Reads the words after the command for help, which name a command.  A help text is all that it
can lead to. -/
def UsageError.ofHelp (args : List String) : UsageError :=
  match args with
  | [] => .displayHelp
  | [word] => if (Verb.ofWord? word).isSome then .displayHelp else .invalidSubcommand
  | _ => .invalidSubcommand

/-- The command with what was read after it. -/
def Command.ofReading (v : Verb) (r : Reading) : Except UsageError Command :=
  match v with
  | .migrate => .ok (.migrate (r.has .seed))
  | .rollback => .ok .rollback
  | .refresh => .ok (.refresh (r.has .seed))
  | .seed => .ok .seed
  | .status => .ok (.status (r.has .json))
  | .make =>
    match (r.value? .kind).bind SkeletonKind.ofLabel? with
    | none => .error .missingRequiredArgument
    | some kind => .ok (.make kind (r.value? .name) (r.value? .dir))
  | .help => .error .displayHelp

/-- Reads what follows a command. -/
def Command.read (v : Verb) (args : List String) : Except UsageError Command :=
  match v with
  | .help => .error (.ofHelp args)
  | v => ((Form.ofVerb v).readAll args).bind (Command.ofReading v)

/-! ### Whole command lines -/

/-- The invocation with what was read before the command.  `configured` is the driver of the
environment. -/
def Invocation.ofReading (configured : Option String) (r : Reading) (command : Option Command) :
    Invocation where
  driver := (r.value? .driver).getD (configured.getD Invocation.defaultDriver)
  migrationsDir := (r.value? .migrationsDir).getD Invocation.defaultMigrationsDir
  strict := r.has .strict
  verbose := r.has .verbose
  command := command

/-- Reads a command line.  What follows the command is read before the argument that is still open
before it is settled. -/
def Invocation.read (configured : Option String) (args : List String) :
    Except UsageError Invocation :=
  (Form.top.read args).bind fun (r, verb) =>
    match verb with
    | none => r.settle.map fun r => .ofReading configured r none
    | some (v, rest) =>
      (Command.read v rest).bind fun command =>
        r.settle.map fun r => .ofReading configured r (some command)

end Schemata
