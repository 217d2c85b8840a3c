/-
Shapes of JSON values and the two ways to ask for one. `Shape.conform` tests a value; `Shape.read`
reads a text that must hold a value of the shape, and stops at the first flaw or misfit in the order
of the text. Both give the value back with unknown fields left out.
-/
import FieldRules.Json.Reader

namespace FieldRules.Json

/-- What a value has to look like. -/
inductive Shape where
  | any
  | flag
  | text
  /-- A whole number of 64 bits. -/
  | count
  /-- The inner shape, or null. -/
  | optional (inner : Shape)
  /-- One of a list of names. -/
  | choice (names : List String)
  | list (item : Shape)
  /-- An object with any keys; `expected` names it in messages. -/
  | table (expected : String) (content : Shape)
  /-- An object with known fields, or the list of their values in order. A `complete` record has every
  field, a `strict` one no other. -/
  | record (name : String) (complete strict : Bool) (fields : List (String × Shape))

namespace Shape

/-- The shape in the words of a message. -/
def expected : Shape → String
  | any => "any value"
  | flag => "a boolean"
  | text => "a string"
  | count => "usize"
  | optional inner => expected inner
  | choice _ => "string or map"
  | list _ => "a sequence"
  | table e _ => e
  | record name .. => "struct " ++ name

/-- A value of the wrong kind: a number that is not a count is a wrong value when it is an integer. -/
def misfit (s : Shape) (v : Json) : Misfit :=
  match s, v with
  | count, .number (.negative n) => .wrongValue (.number (.negative n)) s.expected
  | _, _ => .wrongType (.ofJson v) s.expected

/-- The length of a list of fields in the words of a message. -/
def lengthExpected (name : String) (n : Nat) : String :=
  "struct " ++ name ++ " with " ++ toString n ++ (if n = 1 then " element" else " elements")

/-- The first of the named fields that the object lacks. -/
def firstMissing (fields : List String) (members : List (String × Json)) : Option String :=
  fields.find? fun f => !members.any fun e => e.1 = f

/-- One value in place of a name of a choice. -/
def chosen (names : List String) (s : String) : Except Misfit Json :=
  if names.contains s then .ok (.text s) else .error (.unknownVariant s names)

/-! ## Values -/

/-- How to test the content of each field. -/
abbrev Tests := List (String × (Json → Except Misfit Json))

/-- The members of an object that are fields, in the order of the object. -/
def conformMembers (strict : Bool) (tests : Tests) :
    List (String × Json) → Except Misfit (List (String × Json))
  | [] => .ok []
  | (k, v) :: rest =>
    match Entries.lookup k tests with
    | some test => do .ok ((k, ← test v) :: (← conformMembers strict tests rest))
    | none =>
      if strict then .error (.unknownField k (tests.map Prod.fst)) else conformMembers strict tests rest

/-- The fields by position. -/
def conformItems : Tests → List Json → Except Misfit (List (String × Json))
  | (f, test) :: tests, v :: rest => do .ok ((f, ← test v) :: (← conformItems tests rest))
  | _, _ => .ok []

/-- A record given as an object or as the list of its fields. -/
def conformRecord (name : String) (complete strict : Bool) (tests : Tests) : Json → Except Misfit Json
  | .object members => do
    let found ← conformMembers strict tests members
    match firstMissing (tests.map Prod.fst) found with
    | some f => if complete then .error (.missingField f) else .ok (.object found)
    | none => .ok (.object found)
  | .list items => do
    let found ← conformItems tests items
    if complete && items.length < tests.length then
      .error (.wrongLength items.length (lengthExpected name tests.length))
    else if tests.length < items.length then .error (.wrongLength items.length "fewer elements in array")
    else .ok (.object found)
  | v => .error (.wrongType (.ofJson v) ("struct " ++ name))

mutual

/-- The value in the shape asked for. -/
def conform : Shape → Json → Except Misfit Json
  | any, v => .ok v
  | flag, v => if v.isBool then .ok v else .error (misfit flag v)
  | text, v => if v.isText then .ok v else .error (misfit text v)
  | count, v => if v.natural?.isSome then .ok v else .error (misfit count v)
  | optional inner, v => if v.isNull then .ok v else conform inner v
  | choice names, v =>
    match v with
    | .text s => chosen names s
    | .object [(s, content)] => do
      let v ← chosen names s
      if content.isNull then .ok v else .error (.wrongType (.ofJson content) "unit")
    | .object _ => .error (.wrongValue .object "map with a single key")
    | _ => .error (misfit (choice names) v)
  | list item, v =>
    match v with
    | .list items => (items.mapM (conform item)).map .list
    | _ => .error (misfit (list item) v)
  | table e content, v =>
    match v with
    | .object members => (members.mapM fun e => (conform content e.2).map fun v => (e.1, v)).map .object
    | _ => .error (misfit (table e content) v)
  | record name complete strict fields, v => conformRecord name complete strict (tests fields) v

def tests : List (String × Shape) → Tests
  | [] => []
  | (f, s) :: rest => (f, conform s) :: tests rest

end

/-! ## Texts -/

/-- How to read the content of each field. -/
abbrev Readers := List (String × (Cursor → Except Fault (Json × Cursor)))

/-- The fault of a value that does not begin as its shape asks. -/
def unexpected {α : Type} (misfit : Json → Misfit) (s : Cursor) : Except Fault α :=
  match s.scalar? with
  | some result => do
    let (v, s) ← result
    .error (.misfit (misfit v) s.place)
  | none =>
    match s.rest with
    | [] => s.fail .endInValue
    | c :: _ =>
      if c = '[' then .error (.misfit (misfit (.list [])) s.place)
      else if c = '\x7b' then .error (.misfit (misfit (.object [])) s.place)
      else s.failNext .expectedValue

/-- A value without parts that passes a test. -/
def readScalar (shape : Shape) (fits : Json → Bool) (s : Cursor) : Except Fault (Json × Cursor) :=
  let s := s.skipBlanks
  match s.scalar? with
  | some (.ok (v, after)) => if fits v then .ok (v, after) else .error (.misfit (shape.misfit v) after.place)
  | some (.error e) => .error e
  | none => unexpected shape.misfit s

/-- The place at which a misfit inside an object is reported: behind its end, when it ends there. -/
def placeInObject (s : Cursor) : Place :=
  match s.closeObject with
  | .ok s => s.place
  | .error _ => s.skipBlanks.place

/-- The name of a choice as a text. -/
def readName (names : List String) (expected : String) (s : Cursor) : Except Fault (Json × Cursor) :=
  let s := s.skipBlanks
  if s.rest.head? = some '"' then do
    let (t, s) ← (s.drop 1).text
    match chosen names t with
    | .ok v => .ok (v, s)
    | .error m => .error (.misfit m s.place)
  else unexpected (fun v => .wrongType (.ofJson v) expected) s

/-- The name of a choice, or an object with null under the name. -/
def readChoice (names : List String) (depth : Nat) (s : Cursor) : Except Fault (Json × Cursor) :=
  let s := s.skipBlanks
  match s.rest with
  | [] => s.fail .endInValue
  | c :: _ =>
    if c = '"' then readName names "variant identifier" s
    else if c = '\x7b' then
      if depth ≤ 1 then s.failNext .tooDeep
      else do
        let (v, s) ← readName names "variant identifier" (s.drop 1)
        let s := (← s.colon).skipBlanks
        let s ← if s.rest.head? = some 'n' then Cursor.word ['u', 'l', 'l'] (s.drop 1)
          else unexpected (fun v => .wrongType (.ofJson v) "unit") s
        let s := s.skipBlanks
        match s.rest with
        | [] => s.fail .endInObject
        | d :: _ => if d = '\x7d' then .ok (v, s.drop 1) else s.fail .expectedValue
    else s.failNext .expectedValue

/-- The fields of a record that is given as a list, behind the opening bracket. -/
def readItems (short : Nat → Option Misfit) : Readers → Nat → Cursor → Except Fault (List (String × Json) × Cursor)
  | [], _, s => .ok ([], s)
  | (f, read) :: readers, n, s => do
    match ← s.nextItem (n = 0) with
    | (none, s) =>
      match short n with
      | some m => .error (.misfit m (← s.closeList).place)
      | none => .ok ([], s)
    | (some s, _) =>
      let (v, s) ← read s
      let (rest, s) ← readItems short readers (n + 1) s
      .ok ((f, v) :: rest, s)

/-- The content of a field of a record behind its key; `none` for an unknown one, which is passed over. -/
def readField (strict : Bool) (readers : Readers) (seen : List String) (key : String) (s : Cursor) :
    Except Fault (Option Json × Cursor) :=
  match Entries.lookup key readers with
  | some read =>
    if seen.contains key then .error (.misfit (.duplicateField key) (placeInObject s))
    else do
      let (v, s) ← read (← s.colon)
      .ok (some v, s)
  | none =>
    if strict then .error (.misfit (.unknownField key (readers.map Prod.fst)) (placeInObject s))
    else do .ok (none, ← (← s.colon).skipValue)

/-- A record given as an object or as the list of its fields. -/
def readRecord (name : String) (complete strict : Bool) (readers : Readers) (depth : Nat) (s : Cursor) :
    Except Fault (Json × Cursor) :=
  let s := s.skipBlanks
  let c := s.rest.head?
  if (c = some '[' ∨ c = some '\x7b') ∧ depth ≤ 1 then s.failNext .tooDeep
  else if c = some '[' then do
    let short (n : Nat) :=
      if complete then some (Misfit.wrongLength n (lengthExpected name readers.length)) else none
    let (found, s) ← readItems short readers 0 (s.drop 1)
    .ok (.object found, ← s.closeList)
  else if c = some '\x7b' then do
    let (members, s) ← Cursor.members (readField strict readers) s.rest.length [] (s.drop 1)
    let found := members.filterMap fun (k, v) => v.map fun v => (k, v)
    match firstMissing (readers.map Prod.fst) found with
    | some f =>
      if complete then .error (.misfit (.missingField f) (placeInObject s))
      else .ok (.object found, ← s.closeObject)
    | none => .ok (.object found, ← s.closeObject)
  else unexpected (fun v => .wrongType (.ofJson v) ("struct " ++ name)) s

mutual

/-- Reads a value in the shape asked for that nests fewer than `depth` levels. -/
def read : Shape → Nat → Cursor → Except Fault (Json × Cursor)
  | any, depth, s => s.value depth
  | flag, _, s => readScalar flag Json.isBool s
  | text, _, s => readScalar text Json.isText s
  | count, _, s => readScalar count (fun v => v.natural?.isSome) s
  | optional inner, depth, s =>
    let s := s.skipBlanks
    if s.rest.head? = some 'n' then
      (Cursor.word ['u', 'l', 'l'] (s.drop 1)).map fun s => (.null, s)
    else read inner depth s
  | choice names, depth, s => readChoice names depth s
  | list item, depth, s =>
    let s := s.skipBlanks
    if s.rest.head? = some '[' then
      if depth ≤ 1 then s.failNext .tooDeep
      else do
        let (vs, s) ← Cursor.items (read item (depth - 1)) s.rest.length true (s.drop 1)
        .ok (.list vs, ← s.closeList)
    else unexpected (misfit (list item)) s
  | table e content, depth, s =>
    let s := s.skipBlanks
    if s.rest.head? = some '\x7b' then
      if depth ≤ 1 then s.failNext .tooDeep
      else do
        let member := fun _ _ (s : Cursor) => do read content (depth - 1) (← s.colon)
        let (pairs, s) ← Cursor.members member s.rest.length [] (s.drop 1)
        .ok (.ofPairs pairs, ← s.closeObject)
    else unexpected (misfit (table e content)) s
  | record name complete strict fields, depth, s =>
    readRecord name complete strict (readers fields (depth - 1)) depth s

def readers : List (String × Shape) → Nat → Readers
  | [], _ => []
  | (f, s) :: rest, depth => (f, read s depth) :: readers rest depth

end

/-- The value of the shape that a text holds. -/
def parse (shape : Shape) (s : String) : Except Fault Json := do
  let (v, s) ← shape.read depthLimit (.start s)
  s.finish
  .ok v

end Shape

end FieldRules.Json
