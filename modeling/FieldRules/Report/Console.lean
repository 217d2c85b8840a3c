/-
What is written to the output. Documents are written in every form; notices, headings and tables only
for people, and notices that all is well only when the program is not told to be quiet.
-/
import FieldRules.Report.Run
import FieldRules.Report.Summary
import FieldRules.Report.Table

namespace FieldRules

/-- How to write. -/
structure Console where
  format : OutputFormat
  color : Bool
  quiet : Bool

/-- Something to write. -/
inductive Message where
  | info (text : String)
  | success (text : String)
  | warning (text : String)
  | section (title : String)
  | table (t : Table)
  /-- A line, whatever the form. -/
  | line (text : String)
  | data (v : Json)
  | runReport (r : RunReport)
  | schemaSummary (s : SchemaSummary) (detailed : Bool)

/-! ## Colours -/

/-- A text in a style of the terminal. -/
def styled (code text : String) : String :=
  "\x1b[" ++ code ++ "m" ++ text ++ "\x1b[0m"

def blue : String := "34"
def green : String := "32"
def yellow : String := "33"
def brightBlue : String := "94"
def bold : String := "1"
def boldRed : String := "1;31"

namespace Console

/-- A document with a line break at its end. -/
def endLine (s : String) : String :=
  if s.toList.getLast? = some '\n' then s else s ++ "\n"

/-- The text in colour or without. -/
def choose (c : Console) (colored plain : String) : String :=
  (if c.color then colored else plain) ++ "\n"

def isHuman (c : Console) : Bool :=
  c.format = .human

/-- The text that a message comes to. -/
def write (c : Console) : Message → String
  | .info text => if c.quiet || !c.isHuman then "" else c.choose (styled blue "ℹ" ++ " " ++ text) ("INFO: " ++ text)
  | .success text =>
    if c.quiet || !c.isHuman then "" else c.choose (styled green "✓" ++ " " ++ styled green text) text
  | .warning text => if c.isHuman then c.choose (styled yellow text) ("WARNING: " ++ text) else ""
  | .section title =>
    if c.quiet || !c.isHuman then ""
    else "\n" ++ c.choose (styled brightBlue ("═══ " ++ title ++ " ═══")) ("=== " ++ title ++ " ===")
  | .table t =>
    if c.isHuman then
      match t.lines with
      | [] => ""
      | header :: lines => c.choose (styled bold header) header ++ String.join (lines.map (· ++ "\n"))
    else ""
  | .line text => text ++ "\n"
  | .data v => endLine (c.format.render v)
  | .runReport r => endLine (r.render c.format)
  | .schemaSummary s detailed => endLine (s.render detailed c.format)

/-- The text of several messages. -/
def writeAll (c : Console) (messages : List Message) : String :=
  String.join (messages.map c.write)

end Console

end FieldRules
