/-
YAML documents as JSON values. `parse?` takes any document; `parseAs?` takes one of a given shape, where
it is the shape that decides what a scalar stands for. Whatever is not a single, well-formed document of
JSON values is refused without a reason.
-/
import FieldRules.Json.Shape
import FieldRules.Yaml.Node

namespace FieldRules.Yaml

/-- A reading that may stand in for aliases as often as the state says. -/
abbrev Expansion := StateT Nat Option

namespace Document

/-- The number of aliases that may be followed in a document. -/
def aliasLimit (d : Document) : Nat :=
  100 * d.root.size

/-- The node that an alias stands for; every other node stands for itself. -/
def target (d : Document) : Node → Expansion Node
  | .reference anchor => do
    match ← get, d.marked? anchor with
    | left + 1, some n =>
      set left
      return n
    | _, _ => failure
  | n => return n

end Document

/-! ## Scalars -/

/-- The tag of a kind of scalar. -/
def kindTag (kind : String) : String :=
  "tag:yaml.org,2002:" ++ kind

/-- Whether a tag is private to the document. -/
def isPrivate (tag : Option String) : Bool :=
  (tag.map fun t => t.toList.head? == some '!').getD false

/-- The value of a scalar with a meaning. Numbers that are not finite are null, and integers beyond 64 bits
are none. -/
def Scalar.toJson? : Scalar → Option Json
  | null | infinite _ | notANumber => some .null
  | bool b => some (.bool b)
  | integer n =>
    if h : 0 ≤ n ∧ n < twoPow 64 then some (.number (.natural ⟨n.toNat, by have := twoPow_64; omega⟩))
    else if h : n < 0 ∧ -(twoPow 63) ≤ n then some (.number (.negative ⟨(-n - 1).toNat, by have := twoPow_63; omega⟩))
    else none
  | real x => some (.number (.real x))
  | text s => some (.text s)

/-- The value of a scalar. A tag of a kind asks for that kind, any other makes a text. -/
def scalarJson? (tag : Option String) (style : Style) (s : String) : Option Json :=
  match tag with
  | none => if style = .plain then (Scalar.ofPlain s).toJson? else some (.text s)
  | some t =>
    if isPrivate tag then none
    else if t = kindTag "bool" then (bool? s).map .bool
    else if t = kindTag "int" then (integer? s.toList).bind fun n => (Scalar.integer n).toJson?
    else if t = kindTag "float" then (float? s).bind Scalar.toJson?
    else if t = kindTag "null" then if nullWords.contains s then some .null else none
    else some (.text s)

/-! ## Documents -/

namespace Document

/-- The text of a key, which is a scalar of any kind. -/
def keyText (d : Document) (k : Node) : Expansion String := do
  match ← d.target k with
  | .scalar _ _ s => return s
  | _ => failure

/-- The value of a node that nests at most `depth` levels. -/
def valueOf (d : Document) : Nat → Node → Expansion Json
  | 0, n => do
    match ← d.target n with
    | .scalar tag style s => scalarJson? tag style s
    | _ => failure
  | depth + 1, n => do
    match ← d.target n with
    | .scalar tag style s => scalarJson? tag style s
    | .list tag items => if isPrivate tag then failure else return .list (← items.mapM (valueOf d depth))
    | .object tag members =>
      if isPrivate tag then failure
      else return .ofPairs (← members.mapM fun (k, v) => do return (← d.keyText k, ← valueOf d depth v))
    | .reference _ => failure

/-- The levels that a document may nest. -/
def depthLimit : Nat := 128

def toJson? (d : Document) : Option Json :=
  ((d.valueOf depthLimit d.root).run d.aliasLimit).map Prod.fst

/-! ## Shapes -/

/-- The scalar that a plain or a tagged block scalar spells out. -/
def spelled (kind : String) : Node → Option String
  | .scalar _ .plain s => some s
  | .scalar (some tag) .literal s => if tag = kindTag kind then some s else none
  | _ => none

/-- A whole number of 64 bits without a sign in front. -/
def count? (s : String) : Option Nat := do
  let n ← integer? s.toList
  if s.toList.head? = some '-' || n < 0 || twoPow 64 ≤ n then none else some n.toNat

/-- Whether a node stands for nothing; none when its tag says so and its text does not. -/
def isNothing? : Node → Option Bool
  | .scalar none .plain s => some (s.isEmpty || nullWords.contains s)
  | .scalar (some tag) .plain s =>
    if tag = kindTag "null" then if nullWords.contains s then some true else none else some false
  | _ => some false

/-- The name of a choice: a scalar, or a private tag on nothing. -/
def choiceName? : Node → Option String
  | .scalar tag style s =>
    if isPrivate tag then
      if style = .plain && (s.isEmpty || nullWords.contains s) then tag.map fun t => String.ofList (t.toList.drop 1)
      else none
    else some s
  | _ => none

/-- Whether nothing is written, which stands for an empty list or object. -/
def isBlank : Node → Bool
  | .scalar _ .plain s => s.isEmpty
  | _ => false

/-- How to read the content of each field. -/
abbrev Readers := List (String × (Node → Expansion Json))

/-- The members that are fields; none may occur twice. -/
def fieldsOf (d : Document) (strict : Bool) (readers : Readers) :
    List String → List (Node × Node) → Expansion (List (String × Json))
  | _, [] => return []
  | seen, (k, v) :: rest => do
    let key ← d.keyText k
    match Entries.lookup key readers with
    | some read =>
      if seen.contains key then failure
      else
        let v ← read v
        return (key, v) :: (← fieldsOf d strict readers (key :: seen) rest)
    | none => if strict then failure else fieldsOf d strict readers seen rest

/-- The fields by position; there may be no further items. -/
def itemsOf : Readers → List Node → Expansion (List (String × Json))
  | (f, read) :: readers, n :: rest => do
    let v ← read n
    return (f, v) :: (← itemsOf readers rest)
  | _, [] => return []
  | [], _ :: _ => failure

/-- A record, with every field when it is complete. -/
def recordOf (d : Document) (complete strict : Bool) (readers : Readers) (n : Node) : Expansion Json := do
  let found ← match n with
    | .list _ items => itemsOf readers items
    | .object _ members => d.fieldsOf strict readers [] members
    | n => if isBlank n then pure [] else failure
  if complete && (Json.Shape.firstMissing (readers.map Prod.fst) found).isSome then failure
  else return .object found

mutual

/-- The value of a node in the shape asked for. -/
def shaped (d : Document) : Json.Shape → Node → Expansion Json
  | .any, n => d.valueOf depthLimit n
  | .flag, n => do return .bool (← (spelled "bool" (← d.target n)).bind bool?)
  | .text, n => do return .text (← d.keyText n)
  | .count, n => do return .ofNat (← (spelled "int" (← d.target n)).bind count?)
  | .optional inner, n => do
    let n ← d.target n
    if ← isNothing? n then return .null else shaped d inner n
  | .choice names, n => do
    let name ← choiceName? (← d.target n)
    if names.contains name then return .text name else failure
  | .list item, n => do
    match ← d.target n with
    | .list _ items => return .list (← items.mapM (shaped d item))
    | n => if isBlank n then return .list [] else failure
  | .table _ content, n => do
    match ← d.target n with
    | .object _ members =>
      return .ofPairs (← members.mapM fun (k, v) => do return (← d.keyText k, ← shaped d content v))
    | n => if isBlank n then return .object [] else failure
  | .record _ complete strict fields, n => do
    d.recordOf complete strict (readersOf d fields) (← d.target n)

def readersOf (d : Document) : List (String × Json.Shape) → Readers
  | [] => []
  | (f, s) :: rest => (f, shaped d s) :: readersOf d rest

end

end Document

/-- The value of the document that a text holds. -/
def parse? (s : String) : Option Json :=
  (Document.ofText? s).bind Document.toJson?

/-- The value of the document that a text holds, in a shape. -/
def parseAs? (shape : Json.Shape) (s : String) : Option Json := do
  let d ← Document.ofText? s
  ((d.shaped shape d.root).run d.aliasLimit).map Prod.fst

end FieldRules.Yaml
