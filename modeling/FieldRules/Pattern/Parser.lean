/-
The grammar of patterns: bracketed classes, repetitions, groups, sequences and alternatives. Each loop
reads at least one character a round, so the length of the text bounds its rounds.
-/
import FieldRules.Pattern.Lexeme
import FieldRules.Pattern.Class

namespace FieldRules.Pattern

open Parse

/-! ## Bracketed classes -/

/-- A class item that is an atom. -/
def SetNode.ofAtom : Atom → Parse SetNode
  | .literal l => return .literal l
  | .shorthand span kind negated => return .shorthand span kind negated
  | .property span name negated => return .property span name negated
  | a => fail .classEscape a.span

def setAtom : Parse Atom := do
  let c ← current
  if c = '\\' then escape
  else
    let span := (← get).span
    bump
    return .literal ⟨span, c, false⟩

def endOfRange : Atom → Parse Literal
  | .literal l => return l
  | a => fail .classRangeLiteral a.span

def Literal.code (l : Literal) : Nat := l.char.toNat

/-- An item or a range; a hyphen in front of the closing bracket or of another hyphen makes no range. -/
def setRange (opened : Span) : Parse SetNode := do
  let first ← setAtom
  modify State.skip
  if ← atEnd then fail .classUnclosed opened
  let after := (← get).next.rest.head?
  if (← current) != '-' || after = some ']' || after = some '-' then SetNode.ofAtom first
  else
    if !(← next) then fail .classUnclosed opened
    let last ← setAtom
    let low ← endOfRange first
    let high ← endOfRange last
    if high.code < low.code then fail .classRange ⟨first.span.first, last.span.last⟩
    return .range low high

/-- A class of ASCII characters by name, such as `[:digit:]`; anything else is left unread. -/
def asciiClass? : Parse (Option SetNode) := do
  let before ← get
  let (negated, body) := match before.rest with
    | '[' :: ':' :: '^' :: rest => (true, rest)
    | '[' :: ':' :: rest => (false, rest)
    | _ => (false, [])
  match cutAt? [':'] body with
  | some (name, ']' :: _) =>
    if (CharClass.ofAsciiName? (String.ofList name)).isSome then
      let size := name.length + 4 + if negated then 1 else 0
      set ((List.range size).foldl (fun s _ => State.bump s) before)
      return some (.ascii ⟨before.point, (← get).point⟩ (String.ofList name) negated)
    else return none
  | _ => return none

/-- Hyphens at the beginning of a class stand for themselves. -/
def leadingHyphens (start : Point) : Nat → List SetNode → Parse (List SetNode)
  | 0, seen => return seen
  | fuel + 1, seen => do
    if (← current) = '-' then
      let span := (← get).span
      if !(← next) then fail .classUnclosed ⟨start, start⟩
      leadingHyphens start fuel (.literal ⟨span, '-', false⟩ :: seen)
    else return seen

/-- The beginning of a class: its place, whether it is negated, and its first items, the last first. -/
def setOpening : Parse (Span × Bool × List SetNode) := do
  let start := (← get).point
  if !(← next) then failFrom .classUnclosed start
  let negated := (← current) = '^'
  if negated then
    if !(← next) then failFrom .classUnclosed start
  let hyphens ← leadingHyphens start (← get).rest.length []
  let mut items := hyphens
  if items.isEmpty && (← current) = ']' then
    items := [.literal ⟨(← get).span, ']', false⟩]
    if !(← next) then failFrom .classUnclosed start
  return (⟨start, (← get).point⟩, negated, items)

/-- The union of items given in reverse. -/
def SetNode.ofItems : List SetNode → SetNode
  | [a] => a
  | items => .union items.reverse

def SetNode.combine (left : Option (SetOperator × SetNode)) (right : SetNode) : SetNode :=
  match left with
  | some (op, a) => .operator op a right
  | none => right

def setOperator? (text : List Char) : Option SetOperator :=
  match text with
  | '&' :: '&' :: _ => some .both
  | '-' :: '-' :: _ => some .minus
  | '~' :: '~' :: _ => some .differ
  | _ => none

/-- The items of a class up to its closing bracket. Operators join what stands left of them with the
items up to the next operator. -/
def setItems : Nat → Span → Option (SetOperator × SetNode) → List SetNode → Parse SetNode
  | 0, opened, _, _ => fail .classUnclosed opened
  | fuel + 1, opened, left, items => do
    modify State.skip
    if ← atEnd then fail .classUnclosed opened
    let c ← current
    if c = '[' then
      match ← asciiClass? with
      | some item => setItems fuel opened left (item :: items)
      | none =>
        let (inner, negated, first) ← setOpening
        let body ← setItems fuel inner none first
        let span : Span := ⟨inner.first, (← get).point⟩
        setItems fuel opened left (.nested span negated body :: items)
    else if c = ']' then
      bump
      return SetNode.combine left (.ofItems items)
    else
      match setOperator? (← get).rest with
      | some op =>
        bump
        bump
        setItems fuel opened (some (op, SetNode.combine left (.ofItems items))) []
      | none => do
        let item ← setRange opened
        setItems fuel opened left (item :: items)

/-- A class from its opening bracket on. -/
def bracketed : Parse Node := do
  let fuel := (← get).rest.length + 1
  let (opened, negated, first) ← setOpening
  let body ← setItems fuel opened none first
  return .set ⟨opened.first, (← get).point⟩ negated body

/-! ## Repetitions -/

namespace Node

def ofAtom : Atom → Node
  | .literal l => literal l
  | .dot s => dot s
  | .anchor _ kind => anchor kind
  | .shorthand s kind negated => shorthand s kind negated
  | .property s name negated => property s name negated

end Node

/-- The part that a repetition repeats, which is the last one. -/
def repeated : List (Node × Point) → Parse (Node × Point)
  | [] => failHere .repeatMissing
  | (.empty, _) :: _ | (.flags _, _) :: _ => failHere .repeatMissing
  | part :: _ => return part

/-- A mark behind a repetition that makes it reluctant, which does not change what matches. -/
def reluctance : Parse Unit := do
  if (← get).rest.head? = some '?' then bump

/-- The bounds between braces: least count, and greatest count when there is one. -/
def bounds : Parse (Nat × Option Nat) := do
  let start := (← get).point
  if !(← next) then failFrom .repeatUnclosed start
  let low ← decimal
  if ← atEnd then failFrom .repeatUnclosed start
  let range : Nat × Option Nat ← do
    if (← current) = ',' then
      if !(← next) then failFrom .repeatUnclosed start
      if (← current) = '\x7d' then pure (← low, none)
      else
        let low ← low
        pure (low, some (← (← decimal)))
    else
      let n ← low
      pure (n, some n)
  if (← atEnd) || (← current) != '\x7d' then failFrom .repeatUnclosed start
  if ← next then reluctance
  match range with
  | (low, some high) => if high < low then failFrom .repeatRange start
  | _ => pure ()
  return range

/-! ## Groups, sequences and alternatives -/

/-- The beginning of a group: flags for the rest of the enclosing group, or a group of its own with its
flags, and whether it captures. -/
inductive Opening where
  | flags (items : List FlagItem)
  | group (captures : Bool) (items : List FlagItem)

def opening (paren : Span) : Parse Opening := do
  bump
  modify State.skip
  for mark in [['?', '='], ['?', '!'], ['?', '<', '='], ['?', '<', '!']] do
    if ← bumpIf mark then failFrom .lookAround paren.first
  let inner := (← get).span
  if (← bumpIf ['?', 'P', '<']) || (← bumpIf ['?', '<']) then
    if ← atEnd then failHere .nameEnd
    groupName
    return .group true []
  else if ← bumpIf ['?'] then
    if ← atEnd then fail .groupUnclosed paren
    let items ← flagItems ((← get).rest.length + 1) []
    let c ← current
    bump
    if c = ')' then
      if items.isEmpty then fail .repeatMissing ⟨inner.first, inner.first⟩
      return .flags (items.map Prod.fst)
    else return .group false (items.map Prod.fst)
  else return .group true []

/-- The parts of a sequence, given in reverse. -/
def Node.ofParts (first last : Point) (parts : List (Node × Point)) : Node :=
  match parts with
  | [] => .empty
  | [(p, _)] => p
  | _ => .seq ⟨first, last⟩ (parts.reverse.map Prod.fst)

/-- The branches of an alternative, given in reverse. -/
def Node.ofBranches (first last : Point) (branches : List Node) : Node :=
  match branches with
  | [] => .empty
  | [b] => b
  | _ => .alt ⟨first, last⟩ branches.reverse

/-- What has been read of a group: where it and its last branch begin, the branches before the last one
and the parts of the last one with their places, both in reverse. -/
structure Progress where
  start : Point
  branchStart : Point
  branches : List Node
  parts : List (Node × Point)

def Progress.begin (p : Point) : Progress := ⟨p, p, [], []⟩

def Progress.add (g : Progress) (n : Node) (p : Point) : Progress :=
  { g with parts := (n, p) :: g.parts }

/-- The whole of what has been read, up to a place. -/
def Progress.finish (g : Progress) (last : Point) : Node :=
  .ofBranches g.start last (.ofParts g.branchStart last g.parts :: g.branches)

/-- The alternatives up to the end of the group that was opened at `paren`, or of the text. -/
def alternatives : Nat → Option Span → Progress → Parse Node
  | 0, _, _ => failHere .groupUnclosed
  | fuel + 1, paren, g => do
    modify State.skip
    let here := (← get).point
    match (← get).rest with
    | [] =>
      match paren with
      | some span => fail .groupUnclosed span
      | none => return g.finish here
    | c :: _ =>
      if c = '(' then
        let span := (← get).span
        match ← opening span with
        | .flags items =>
          modify fun s => { s with skipping := (flagState .ignoreBlanks items true).getD s.skipping }
          alternatives fuel paren (g.add (.flags items) here)
        | .group captures items =>
          let outside := (← get).skipping
          modify fun s => { s with skipping := (flagState .ignoreBlanks items true).getD outside }
          let body ← alternatives fuel (some span) (.begin (← get).point)
          modify fun s => { s with skipping := outside }
          bump
          alternatives fuel paren (g.add (.group ⟨here, (← get).point⟩ captures items body) here)
      else if c = ')' then
        match paren with
        | some _ => return g.finish here
        | none => failAtChar .groupUnopened
      else if c = '|' then
        bump
        let branch := Node.ofParts g.branchStart here g.parts
        alternatives fuel paren ⟨g.start, (← get).point, branch :: g.branches, []⟩
      else if c = '[' then
        let node ← bracketed
        alternatives fuel paren (g.add node here)
      else if c = '?' ∨ c = '*' ∨ c = '+' then
        let (body, first) ← repeated g.parts
        bump
        reluctance
        let low := if c = '+' then 1 else 0
        let high := if c = '?' then some 1 else none
        let node := Node.times ⟨first, (← get).point⟩ low high body
        alternatives fuel paren ({ g with parts := g.parts.tail }.add node first)
      else if c = '\x7b' then
        let (body, first) ← repeated g.parts
        let (low, high) ← bounds
        let node := Node.times ⟨first, (← get).point⟩ low high body
        alternatives fuel paren ({ g with parts := g.parts.tail }.add node first)
      else
        let node ← atom
        alternatives fuel paren (g.add (.ofAtom node) here)

/-- The number of levels of groups, classes, repetitions, sequences and alternatives that may nest. -/
def nestLimit : Nat := 250

mutual

/-- The place of the first part that nests too deep, when `depth` levels are left. -/
def SetNode.tooDeep? (within : Span) : Nat → SetNode → Option Span
  | depth, .nested span _ body => if depth = 0 then some span else body.tooDeep? span (depth - 1)
  | depth, .union items => if depth = 0 then some within else setsTooDeep? within (depth - 1) items
  | depth, .operator _ a b =>
    if depth = 0 then some within
    else match a.tooDeep? within (depth - 1) with
      | some s => some s
      | none => b.tooDeep? within (depth - 1)
  | _, _ => none

def setsTooDeep? (within : Span) : Nat → List SetNode → Option Span
  | _, [] => none
  | depth, a :: rest =>
    match a.tooDeep? within depth with
    | some s => some s
    | none => setsTooDeep? within depth rest

end

mutual

def Node.tooDeep? : Nat → Node → Option Span
  | depth, .set span _ body => if depth = 0 then some span else body.tooDeep? span (depth - 1)
  | depth, .times span _ _ body => if depth = 0 then some span else body.tooDeep? (depth - 1)
  | depth, .group span _ _ body => if depth = 0 then some span else body.tooDeep? (depth - 1)
  | depth, .alt span nodes => if depth = 0 then some span else nodesTooDeep? (depth - 1) nodes
  | depth, .seq span nodes => if depth = 0 then some span else nodesTooDeep? (depth - 1) nodes
  | _, _ => none

def nodesTooDeep? : Nat → List Node → Option Span
  | _, [] => none
  | depth, n :: rest =>
    match n.tooDeep? depth with
    | some s => some s
    | none => nodesTooDeep? depth rest

end

/-- The parsed form of a pattern. -/
def Node.ofText (text : String) : Except Fault Node := do
  let cs := text.toList
  let start : Point := ⟨1, 1⟩
  let (node, _) ← (alternatives (cs.length + 1) none (.begin start)).run ⟨cs, start, false, []⟩
  match node.tooDeep? nestLimit with
  | some span => .error (.flaw .tooDeep span)
  | none => .ok node

end FieldRules.Pattern
