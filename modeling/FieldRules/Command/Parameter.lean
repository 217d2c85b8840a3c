/-
The parameters of the command line, and where they may be given. Five of them and the two that show the
help and the version belong to every command; the others to one command each.
-/
import FieldRules.Report.Format

namespace FieldRules

/-- The shells that completions can be written for. -/
inductive Shell where
  | bash
  | zsh
  | fish
  | powerShell
  | elvish
deriving DecidableEq

namespace Shell

def all : List Shell :=
  [bash, zsh, fish, powerShell, elvish]

def name : Shell → String
  | bash => "bash"
  | zsh => "zsh"
  | fish => "fish"
  | powerShell => "power-shell"
  | elvish => "elvish"

def ofName? (s : String) : Option Shell :=
  all.find? fun h => h.name = s

end Shell

/-- A parameter. -/
inductive Parameter where
  | verbose
  | quiet
  | config
  | output
  | noColor
  | help
  | version
  | failFast
  | maxErrors
  | showInput
  | detailed
  | schema
  | inputs
  | fieldType
  | shell
deriving DecidableEq

namespace Parameter

/-- The name behind two dashes; parameters without one are known by their place. -/
def long? : Parameter → Option String
  | verbose => some "verbose"
  | quiet => some "quiet"
  | config => some "config"
  | output => some "output"
  | noColor => some "no-color"
  | help => some "help"
  | version => some "version"
  | failFast => some "fail-fast"
  | maxErrors => some "max-errors"
  | showInput => some "show-input"
  | detailed => some "detailed"
  | schema | inputs | fieldType | shell => none

/-- The letter behind one dash. -/
def short? : Parameter → Option Char
  | verbose => some 'v'
  | quiet => some 'q'
  | config => some 'c'
  | output => some 'o'
  | help => some 'h'
  | version => some 'V'
  | _ => none

/-- Whether a value follows. -/
def takesValue : Parameter → Bool
  | config | output | maxErrors | schema | inputs | fieldType | shell => true
  | _ => false

/-- The parameter in the words of a message. -/
def shown : Parameter → String
  | verbose => "--verbose..."
  | quiet => "--quiet"
  | config => "--config <CONFIG>"
  | output => "--output <OUTPUT>"
  | noColor => "--no-color"
  | help => "--help"
  | version => "--version"
  | failFast => "--fail-fast"
  | maxErrors => "--max-errors <N>"
  | showInput => "--show-input"
  | detailed => "--detailed"
  | schema => "<SCHEMA>"
  | inputs => "<INPUT>..."
  | fieldType => "[TYPE]"
  | shell => "<SHELL>"

/-- The parameters that may stand before a command and behind it. -/
def general : List Parameter :=
  [verbose, quiet, config, output, noColor, help, version]

end Parameter

/-- The names of the commands. -/
inductive CommandName where
  | validate
  | check
  | types
  | completions
deriving DecidableEq

namespace CommandName

def all : List CommandName :=
  [validate, check, types, completions]

def name : CommandName → String
  | validate => "validate"
  | check => "check"
  | types => "types"
  | completions => "completions"

def ofName? (s : String) : Option CommandName :=
  all.find? fun c => c.name = s

/-- The parameters that are given by name. -/
def named : CommandName → List Parameter
  | validate => [.failFast, .maxErrors, .showInput] ++ Parameter.general
  | check => .detailed :: Parameter.general
  | types | completions => Parameter.general

/-- The parameters that are given by place; the last one of `validate` takes all further places. -/
def placed : CommandName → List Parameter
  | validate => [.schema, .inputs]
  | check => [.schema]
  | types => [.fieldType]
  | completions => [.shell]

/-- The parameters that have to be given. -/
def required : CommandName → List Parameter
  | validate => [.schema, .inputs]
  | check => [.schema]
  | types => []
  | completions => [.shell]

end CommandName

end FieldRules
