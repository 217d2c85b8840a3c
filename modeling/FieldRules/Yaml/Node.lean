/-
YAML documents as trees. Aliases stay in the tree; what they stand for is found among the marked nodes
of the document, so that a node may even stand inside itself.
-/
import FieldRules.Entries
import FieldRules.Yaml.Lexer

namespace FieldRules.Yaml

/-- A node with its tag. -/
inductive Node where
  | scalar (tag : Option String) (style : Style) (text : String)
  | list (tag : Option String) (items : List Node)
  | object (tag : Option String) (members : List (Node × Node))
  | reference (anchor : Nat)

namespace Node

/-- The node where nothing is written. -/
def empty : Node := .scalar none .plain ""

mutual

/-- The number of nodes and of ends of lists and objects. -/
def size : Node → Nat
  | scalar .. | reference _ => 1
  | list _ items => sizeItems items + 2
  | object _ members => sizeMembers members + 2

def sizeItems : List Node → Nat
  | [] => 0
  | n :: rest => n.size + sizeItems rest

def sizeMembers : List (Node × Node) → Nat
  | [] => 0
  | (k, v) :: rest => k.size + v.size + sizeMembers rest

end

end Node

/-- A document and its marked nodes, each under the number of its anchor. -/
structure Document where
  root : Node
  marked : List (Nat × Node)

/-- The node that an anchor stands for: the last one marked. -/
def Document.marked? (d : Document) (anchor : Nat) : Option Node :=
  (d.marked.reverse.find? fun e => e.1 = anchor).map Prod.snd

/-! ## Reading tokens -/

/-- What is still to be read, and the names known so far. -/
structure Unread where
  tokens : List Token
  /-- The numbers of the anchors, by name. A name takes the number of names known before. -/
  anchors : List (String × Nat)
  marked : Array (Nat × Node)
  /-- The beginnings that tag handles stand for. -/
  handles : List (String × String)

abbrev NodeReader := StateT Unread Option

namespace NodeReader

def peek : NodeReader (Option Token) := do
  return (← get).tokens.head?

def advance : NodeReader Unit :=
  modify fun u => { u with tokens := u.tokens.drop 1 }

/-- Whether the next token is one of some marks. -/
def sees (marks : List Token) : NodeReader Bool := do
  return ((← peek).map marks.contains).getD false

/-- The token that has to come next. -/
def expect (t : Token) : NodeReader Unit := do
  if (← peek) = some t then advance else failure

/-! ### Names -/

/-- The tags that two handles stand for, unless a document says otherwise. -/
def standardHandles : List (String × String) :=
  [("", ""), ("!", "!"), ("!!", "tag:yaml.org,2002:")]

/-- The whole tag of a handle and what follows it. -/
def tagOf (handle suffix : String) : NodeReader String := do
  match Entries.lookup handle ((← get).handles ++ standardHandles) with
  | some lead => return lead ++ suffix
  | none => failure

/-- Marks the node to come, and gives the place where it is to be kept. -/
def mark (name : String) : NodeReader Nat := do
  let u ← get
  let number := u.anchors.length
  set { u with
    anchors := Entries.put name number u.anchors
    marked := u.marked.push (number, .empty) }
  return u.marked.size

def keep (place : Nat) (n : Node) : NodeReader Unit :=
  modify fun u => { u with marked := u.marked.modify place fun e => (e.1, n) }

def aliasOf (name : String) : NodeReader Node := do
  match Entries.lookup name (← get).anchors with
  | some number => return .reference number
  | none => failure

/-- The anchor and the tag in front of a node, in either order. -/
def properties : NodeReader (Option String × Option String) := do
  match ← peek with
  | some (.anchor name) =>
    advance
    match ← peek with
    | some (.tag handle suffix) =>
      advance
      return (some name, some (← tagOf handle suffix))
    | _ => return (some name, none)
  | some (.tag handle suffix) =>
    advance
    let tag ← tagOf handle suffix
    match ← peek with
    | some (.anchor name) =>
      advance
      return (some name, some tag)
    | _ => return (none, some tag)
  | _ => return (none, none)

/-! ### Nodes -/

mutual

/-- A node. Only some places admit a block, and only the members of an object a list that is not indented. -/
def node : Nat → Bool → Bool → NodeReader Node
  | 0, _, _ => failure
  | fuel + 1, block, unindented => do
    match ← peek with
    | some (.reference name) =>
      advance
      aliasOf name
    | _ =>
      let (anchor, tag) ← properties
      let place ← anchor.mapM mark
      let n ← content fuel block unindented anchor.isSome tag
      match place with
      | some p => keep p n
      | none => pure ()
      return n

/-- A node behind its anchor and its tag; with either of them nothing need follow. -/
def content : Nat → Bool → Bool → Bool → Option String → NodeReader Node
  | 0, _, _, _, _ => failure
  | fuel + 1, block, unindented, anchored, tag => do
    match ← peek, block, unindented with
    | some .dash, _, true => return .list tag (← unindentedItems fuel)
    | some (.scalar style text), _, _ =>
      advance
      -- a tag of one mark alone says nothing of a scalar
      return .scalar (if tag = some "!" then none else tag) style text
    | some .listOpen, _, _ =>
      advance
      return .list tag (← flowItems fuel true)
    | some .objectOpen, _, _ =>
      advance
      return .object tag (← flowMembers fuel true)
    | some .listBlock, true, _ =>
      advance
      return .list tag (← blockItems fuel)
    | some .objectBlock, true, _ =>
      advance
      return .object tag (← blockMembers fuel)
    | _, _, _ => if anchored || tag.isSome then return .scalar tag .plain "" else failure

/-- A node of a block, or nothing in front of one of some marks. -/
def blockPart : Nat → List Token → Bool → NodeReader Node
  | 0, _, _ => failure
  | fuel + 1, ends, unindented => do
    if ← sees ends then return .empty else node fuel true unindented

def blockItems : Nat → NodeReader (List Node)
  | 0 => failure
  | fuel + 1 => do
    match ← peek with
    | some .dash =>
      advance
      let n ← blockPart fuel [.dash, .blockEnd] false
      return n :: (← blockItems fuel)
    | some .blockEnd =>
      advance
      return []
    | _ => failure

def unindentedItems : Nat → NodeReader (List Node)
  | 0 => failure
  | fuel + 1 => do
    match ← peek with
    | some .dash =>
      advance
      let n ← blockPart fuel [.dash, .key, .value, .blockEnd] false
      return n :: (← unindentedItems fuel)
    | _ => return []

def blockMembers : Nat → NodeReader (List (Node × Node))
  | 0 => failure
  | fuel + 1 => do
    match ← peek with
    | some .key =>
      advance
      let k ← blockPart fuel [.key, .value, .blockEnd] true
      let v ← match ← peek with
        | some .value => do
          advance
          blockPart fuel [.key, .value, .blockEnd] true
        | _ => pure .empty
      return (k, v) :: (← blockMembers fuel)
    | some .blockEnd =>
      advance
      return []
    | _ => failure

/-- A node between brackets, or nothing in front of one of some marks. -/
def flowPart : Nat → List Token → NodeReader Node
  | 0, _ => failure
  | fuel + 1, ends => do
    if ← sees ends then return .empty else node fuel false false

/-- The value behind a key between brackets. -/
def flowValue : Nat → Token → NodeReader Node
  | 0, _ => failure
  | fuel + 1, close => do
    match ← peek with
    | some .value =>
      advance
      flowPart fuel [.comma, close]
    | _ => return .empty

def flowItems : Nat → Bool → NodeReader (List Node)
  | 0, _ => failure
  | fuel + 1, first => do
    if ← sees [.listClose] then
      advance
      return []
    else
      if !first then expect .comma
      match ← peek with
      | some .listClose =>
        advance
        return []
      | some .key =>
        advance
        let k ←
          if ← sees [.value, .comma, .listClose] then do
            advance
            pure .empty
          else node fuel false false
        let v ← flowValue fuel .listClose
        return .object none [(k, v)] :: (← flowItems fuel false)
      | _ =>
        let n ← node fuel false false
        return n :: (← flowItems fuel false)

def flowMembers : Nat → Bool → NodeReader (List (Node × Node))
  | 0, _ => failure
  | fuel + 1, first => do
    if ← sees [.objectClose] then
      advance
      return []
    else
      if !first then expect .comma
      match ← peek with
      | some .objectClose =>
        advance
        return []
      | some .key =>
        advance
        let k ← flowPart fuel [.value, .comma, .objectClose]
        let v ← flowValue fuel .objectClose
        return (k, v) :: (← flowMembers fuel false)
      | _ =>
        let k ← node fuel false false
        return (k, .empty) :: (← flowMembers fuel false)

end

/-! ### Documents -/

/-- The directives in front of a document. There is one version at most, 1.1 or 1.2, and every handle is
declared once. -/
def directives : Nat → Bool → NodeReader Unit
  | 0, _ => failure
  | fuel + 1, versioned => do
    match ← peek with
    | some (.version major minor) =>
      if versioned || major ≠ 1 || (minor ≠ 1 && minor ≠ 2) then failure
      advance
      directives fuel true
    | some (.tagShorthand handle lead) =>
      let u ← get
      if (Entries.lookup handle u.handles).isSome then failure
      set { u with handles := (handle, lead) :: u.handles }
      advance
      directives fuel versioned
    | _ => return

/-- Whether the next token begins or ends a document. -/
def atEdge : NodeReader Bool := do
  match ← peek with
  | none | some (.version ..) | some (.tagShorthand ..) | some .documentStart | some .documentEnd => return true
  | _ => return false

/-- The only document of a text. -/
def document : NodeReader Node := do
  let fuel := 3 * (← get).tokens.length + 3
  let opened ← match ← peek with
    | some .documentEnd => pure false
    | _ => atEdge
  let root ←
    if opened then do
      if (← peek).isNone then pure .empty
      else
        directives fuel false
        expect .documentStart
        if ← atEdge then pure .empty else node fuel true false
    else node fuel true false
  let rest := (← get).tokens.dropWhile (· = .documentEnd)
  if rest.isEmpty then return root else failure

end NodeReader

/-- The document that a text holds. -/
def Document.ofText? (s : String) : Option Document := do
  let (root, u) ← NodeReader.document.run ⟨← tokens? s, [], #[], []⟩
  some ⟨root, u.marked.toList⟩

end FieldRules.Yaml
