import Schemata.Text.Terminal

/-!
# Help

The text that is shown when no command is given.  It has styles for a terminal and shows the
driver of the environment as it is; nothing but plain text is left of either.

* `helpHead`, `helpTail` — the lines around the driver;
* `help` — the text.
-/

namespace Schemata

namespace Console

open Terminal (bold heading)

/-- The line on a command, its text in a column. -/
def commandLine (name text : String) : String :=
  "  " ++ bold name ++ String.ofList (List.replicate (10 - name.length) ' ') ++ text

/-- How far the texts on options are set in. -/
def optionIndent : List Char :=
  List.replicate 10 ' '

/-- The lines of the help text before the driver of the environment. -/
def helpHead : List String :=
  ["Ordered schema migrations and scaffolding on top of tablekit-core",
   "",
   heading "Usage:" ++ " " ++ bold "tablekit" ++ " [OPTIONS] [COMMAND]",
   "",
   heading "Commands:",
   commandLine "migrate" "Apply every migration in ascending order",
   commandLine "rollback" "Revert every migration in descending order",
   commandLine "refresh" "Revert everything, then apply everything again",
   commandLine "seed" "Run the seeder only",
   commandLine "status" "List migrations with their forward statements",
   commandLine "make" "Generate a skeleton file",
   commandLine "help" "Print this message or the help of the given subcommand(s)",
   "",
   heading "Options:",
   "  " ++ bold "-d" ++ ", " ++ bold "--driver" ++ " <DRIVER>",
   "          Database driver; `pgsql` selects Postgres, anything else the generic dialect " ++
     "[env: DB_DRIVER="]

/-- The lines of the help text after the driver of the environment. -/
def helpTail : List String :=
  ["] [default: mysql]",
   "  " ++ bold "-m" ++ ", " ++ bold "--migrations-dir" ++ " <MIGRATIONS_DIR>",
   "          Migrations directory [default: database/schema]",
   "      " ++ bold "--strict",
   "          Validate table and column names",
   "  " ++ bold "-v" ++ ", " ++ bold "--verbose",
   "          Enable verbose output",
   "  " ++ bold "-h" ++ ", " ++ bold "--help",
   "          Print help",
   "  " ++ bold "-V" ++ ", " ++ bold "--version",
   "          Print version",
   ""]

/-- The text of an option with all its lines set in, the first one apart. -/
def setIn (s : String) : String :=
  String.ofList (s.toList.flatMap fun c => if c = '\n' then c :: optionIndent else [c])

/-- The help text with its styles. -/
def styledHelp (configured : Option String) : String :=
  String.intercalate "\n" helpHead ++ setIn (configured.getD "") ++
    String.intercalate "\n" helpTail

/-- The help text.  It shows the driver of the environment. -/
def help (configured : Option String) : String :=
  Terminal.plain (styledHelp configured)

end Console

end Schemata
