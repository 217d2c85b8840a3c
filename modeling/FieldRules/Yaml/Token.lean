/-
The tokens of a YAML document. Marks of structure that the text does not spell out, the beginning and
end of a block and the beginning of a key, are tokens too.
-/
import FieldRules.Yaml.Style

namespace FieldRules.Yaml

/-- A token. -/
inductive Token where
  | version (major minor : Nat)
  | tagShorthand (handle lead : String)
  | documentStart
  | documentEnd
  | listBlock
  | objectBlock
  | blockEnd
  | listOpen
  | listClose
  | objectOpen
  | objectClose
  /-- The dash in front of an item of a block. -/
  | dash
  | comma
  | key
  | value
  | reference (name : String)
  | anchor (name : String)
  /-- A tag as a handle and what follows it. -/
  | tag (handle suffix : String)
  | scalar (style : Style) (text : String)
deriving DecidableEq

end FieldRules.Yaml
