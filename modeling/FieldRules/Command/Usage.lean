/-
What a command line can ask for besides a command, and what can be wrong with it.
-/
import FieldRules.Command.Parameter
import FieldRules.Decimal.Literal

namespace FieldRules

/-- The name and the version of the program. -/
def programName : String := "fieldcheck"
def programVersion : String := "0.1.0"

/-- Why a text is no whole number of 64 bits. -/
inductive CountFault where
  | empty
  | invalidDigit
  | tooLarge
deriving DecidableEq

def CountFault.message : CountFault → String
  | empty => "cannot parse integer from empty string"
  | invalidDigit => "invalid digit found in string"
  | tooLarge => "number too large to fit in target type"

/-- The whole number that a text spells; a plus sign may stand in front. -/
def countOf (s : String) : Except CountFault Nat :=
  let cs := s.toList
  let digits := if cs.head? = some '+' then cs.drop 1 else cs
  if cs.isEmpty then .error .empty
  else if digits.isEmpty || !digits.all Char.isDigit then .error .invalidDigit
  else
    let n := Decimal.digitsValue digits
    if n < twoPow 64 then .ok n else .error .tooLarge

/-- Why a command line gives no command to run. -/
inductive UsageError where
  | helpAsked
  | versionAsked (command : Option CommandName)
  | nothingGiven
  | missingCommand
  | unknownCommand (name : String)
  | unknownArgument (text : String)
  | missingArguments (parameters : List Parameter)
  | repeated (p : Parameter)
  | conflict (p other : Parameter)
  | missingValue (p : Parameter)
  | unknownValue (value : String) (p : Parameter)
  | invalidCount (value : String) (p : Parameter) (cause : CountFault)
  | needlessValue (value : String) (p : Parameter)
deriving DecidableEq

namespace UsageError

def apostrophes (s : String) : String :=
  "'" ++ s ++ "'"

/-- The first line of what the user is told. -/
def message : UsageError → String
  | helpAsked | nothingGiven => "Usage: " ++ programName ++ " [OPTIONS] <COMMAND>"
  | versionAsked none => programName ++ " " ++ programVersion
  | versionAsked (some c) => programName ++ "-" ++ c.name ++ " " ++ programVersion
  | missingCommand => apostrophes programName ++ " requires a subcommand but one was not provided"
  | unknownCommand name => "unrecognized subcommand " ++ apostrophes name
  | unknownArgument text => "unexpected argument " ++ apostrophes text ++ " found"
  | missingArguments _ => "the following required arguments were not provided:"
  | repeated p => "the argument " ++ apostrophes p.shown ++ " cannot be used multiple times"
  | conflict p other =>
    "the argument " ++ apostrophes p.shown ++ " cannot be used with " ++ apostrophes other.shown
  | missingValue p => "a value is required for " ++ apostrophes p.shown ++ " but none was supplied"
  | unknownValue value p => "invalid value " ++ apostrophes value ++ " for " ++ apostrophes p.shown
  | invalidCount value p cause =>
    "invalid value " ++ apostrophes value ++ " for " ++ apostrophes p.shown ++ ": " ++ cause.message
  | needlessValue value p =>
    "unexpected value " ++ apostrophes value ++ " for " ++ apostrophes p.shown ++ " found; no more were expected"

/-- Whether the user asked for what is shown. -/
def isAnswer : UsageError → Bool
  | helpAsked | versionAsked _ => true
  | _ => false

end UsageError

end FieldRules
