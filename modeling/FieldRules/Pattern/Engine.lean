/-
Patterns are left to an engine, which makes a search of the text of a pattern or says why it makes none. How patterns
are written, what they mean and which of them are too large is for the engine to say: declarations are compiled with
any engine, and what is proved of them holds whichever it is.
-/

namespace FieldRules

/-- Whether a part of a text matches. -/
abbrev Search := String → Bool

/-- What compiles patterns. -/
class PatternEngine where
  /-- The search that a pattern describes, or what is wrong with the pattern. -/
  compile : String → Except String Search

end FieldRules
