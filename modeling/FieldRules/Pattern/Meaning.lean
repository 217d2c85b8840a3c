/-
From the parsed form of a pattern to the pattern: flags, names of properties and classes are resolved
here. Flags set inside a group hold up to its end, through later alternatives too.
-/
import FieldRules.Pattern.Engine
import FieldRules.Pattern.Parser
import FieldRules.Pattern.Size
import FieldRules.Text.Script

namespace FieldRules.Pattern

/-! ## Names of properties -/

/-- A name without case, blanks, hyphens and underscores, and without a leading `is`. -/
def looseName (name : String) : String :=
  let cs := name.toList
  let (lead, body) := match cs with
    | a :: b :: rest =>
      if (a = 'i' ∨ a = 'I') ∧ (b = 's' ∨ b = 'S') then (true, rest) else (false, cs)
    | _ => (false, cs)
  let loose := (body.filter fun c => c.toNat < 128 && c != ' ' && c != '_' && c != '-').map Char.toLower
  if lead && loose = ['c'] then "isc" else String.ofList loose

def isNamed (loose : String) (c : Text.CodeClass) : Bool :=
  looseName c.short = loose || looseName c.long = loose

/-- Other spellings of names of general categories. -/
def categoryAlias (loose : String) : String :=
  match loose with
  | "cntrl" => "cc"
  | "digit" => "nd"
  | "punct" => "p"
  | "combiningmark" => "m"
  | _ => loose

def categoryClass? (loose : String) : Option CharClass :=
  let loose := categoryAlias loose
  if loose = "any" then some .all
  else if loose = "ascii" then some (.range 0 127)
  else if loose = "assigned" then some (.outside (.table Text.Category.unassigned.ranges))
  else match Text.categoryGroups.find? fun g => looseName g.1 = loose || looseName g.2.1 = loose with
    | some (_, _, members) =>
      let parts := Text.generalCategories.filter fun c => members.contains c.short
      some (.union (parts.map fun c => .table c.ranges))
    | none => (Text.generalCategories.find? (isNamed loose)).map fun c => .table c.ranges

/-- Other spellings of names of scripts. -/
def scriptAlias (loose : String) : String :=
  match loose with
  | "qaac" => "copt"
  | "qaai" => "zinh"
  | _ => loose

def scriptClass? (loose : String) : Option CharClass :=
  (Text.scripts.find? (isNamed (scriptAlias loose))).map fun c => .table c.ranges

def binaryClass? (loose : String) : Option CharClass :=
  let loose := if loose = "space" then "whitespace" else loose
  (Text.binaryProperties.find? (isNamed loose)).map fun c => .table c.ranges

/-- Properties with values that no pattern may name. -/
def otherProperties : List String :=
  ["age", "bc", "bidiclass", "bidimirroringglyph", "bidipairedbracket", "bidipairedbrackettype", "blk", "block",
    "bmg", "bpb", "bpt", "canonicalcombiningclass", "casefolding", "ccc", "cf", "decompositionmapping",
    "decompositiontype", "dm", "dt", "ea", "eastasianwidth", "equideo", "equivalentunifiedideograph", "fcnfkc",
    "fcnfkcclosure", "gcb", "graphemeclusterbreak", "hangulsyllabletype", "hst", "incb", "indicconjunctbreak",
    "indicpositionalcategory", "indicsyllabiccategory", "inpc", "insc", "isc", "isocomment", "jamoshortname", "jg",
    "joininggroup", "joiningtype", "jsn", "jt", "lb", "lc", "linebreak", "lowercasemapping", "na", "na1", "name",
    "namealias", "nfcqc", "nfcquickcheck", "nfdqc", "nfdquickcheck", "nfkccasefold", "nfkccf", "nfkcqc",
    "nfkcquickcheck", "nfkdqc", "nfkdquickcheck", "nt", "numerictype", "numericvalue", "nv", "sb", "scf",
    "sentencebreak", "sfc", "simplecasefolding", "simplelowercasemapping", "simpletitlecasemapping",
    "simpleuppercasemapping", "slc", "stc", "suc", "tc", "titlecasemapping", "uc", "unicode1name",
    "uppercasemapping", "verticalorientation", "vo", "wb", "wordbreak"]

/-- Categories and scripts that no character has. -/
def emptyValues : List String :=
  ["cs", "surrogate", "hrkt", "katakanaorhiragana", "unknown", "zzzz"]

/-- The characters that have a property. -/
def PropertyName.class? : PropertyName → Except Flaw CharClass
  | named name =>
    let loose := looseName name
    match (binaryClass? loose).or ((categoryClass? loose).or (scriptClass? loose)) with
    | some cls => .ok cls
    | none => .error (if emptyValues.contains loose then .unknownPropertyValue else .unknownProperty)
  | valued name value =>
    let loose := looseName name
    let found := match loose with
      | "gc" | "generalcategory" => some categoryClass?
      | "sc" | "script" | "scx" | "scriptextensions" => some scriptClass?
      | _ => if otherProperties.contains loose || (binaryClass? loose).isSome then some fun _ => none else none
    match found with
    | none => .error .unknownProperty
    | some find =>
      match find (looseName value) with
      | some cls => .ok cls
      | none => .error .unknownPropertyValue

/-! ## Flags -/

/-- The flags in force. -/
structure Flags where
  ignoreCase : Bool
  multiLine : Bool
  dotAll : Bool
  unicode : Bool
  crlf : Bool

def Flags.initial : Flags := ⟨false, false, false, true, false⟩

def Flags.update (f : Flags) (items : List FlagItem) : Flags :=
  ⟨(flagState .ignoreCase items true).getD f.ignoreCase,
   (flagState .multiLine items true).getD f.multiLine,
   (flagState .dotAll items true).getD f.dotAll,
   (flagState .unicode items true).getD f.unicode,
   (flagState .crlf items true).getD f.crlf⟩

/-! ## Classes -/

/-- Without Unicode a class may hold ASCII characters only, so that every match is text. -/
def Flags.asciiOnly (f : Flags) (span : Span) (cls : CharClass) : Except Fault CharClass :=
  if f.unicode then .ok cls
  else if (List.range 128).any fun k => cls.contains (128 + k) then .error (.flaw .invalidBytes span)
  else .ok (.both cls (.range 0 127))

/-- The class with all cases of its members, when case is ignored. -/
def Flags.fold (f : Flags) (cls : CharClass) : CharClass :=
  if !f.ignoreCase then cls else if f.unicode then .anyCase cls else .anyAsciiCase cls

/-- Case first, then negation. -/
def Flags.foldAndNegate (f : Flags) (span : Span) (negated : Bool) (cls : CharClass) : Except Fault CharClass :=
  f.asciiOnly span (if negated then .outside (f.fold cls) else f.fold cls)

def Flags.shorthand (f : Flags) (span : Span) (kind : Shorthand) (negated : Bool) : Except Fault CharClass :=
  let cls : CharClass := match kind with
    | .digit => if f.unicode then .digit else .asciiDigit
    | .blank => if f.unicode then .blank else .asciiBlank
    | .word => if f.unicode then .word else .asciiWord
  f.asciiOnly span (if negated then .outside cls else cls)

def Flags.property (f : Flags) (span : Span) (name : PropertyName) (negated : Bool) : Except Fault CharClass :=
  if !f.unicode then .error (.flaw .notUnicode span)
  else match name.class? with
    | .ok cls => f.foldAndNegate span negated cls
    | .error cause => .error (.flaw cause span)

/-- The code point of a literal. Without Unicode a byte beyond ASCII is no text. -/
def Flags.literal (f : Flags) (l : Literal) : Except Fault Nat :=
  if f.unicode || !l.byte || l.code < 128 then .ok l.code else .error (.flaw .invalidBytes l.span)

/-- The code point of a literal in a class; without Unicode it is one of ASCII. -/
def Flags.member (f : Flags) (l : Literal) : Except Fault Nat := do
  let n ← f.literal l
  if f.unicode || n < 128 then .ok n else .error (.flaw .notUnicode l.span)

mutual

def SetNode.meaning (f : Flags) : SetNode → Except Fault CharClass
  | .literal l => do
    let n ← f.member l
    .ok (.range n n)
  | .range a b => do .ok (.range (← f.member a) (← f.member b))
  | .ascii span name negated => f.foldAndNegate span negated ((CharClass.ofAsciiName? name).getD (.union []))
  | .shorthand span kind negated => f.shorthand span kind negated
  | .property span name negated => f.property span name negated
  | .nested span negated body => do f.foldAndNegate span negated (← body.meaning f)
  | .union items => do .ok (.union (← setMeanings f items))
  | .operator op a b => do
    let a := f.fold (← a.meaning f)
    let b := f.fold (← b.meaning f)
    match op with
    | .both => .ok (.both a b)
    | .minus => .ok (.minus a b)
    | .differ => .ok (.differ a b)

def setMeanings (f : Flags) : List SetNode → Except Fault (List CharClass)
  | [] => .ok []
  | a :: rest => do .ok ((← a.meaning f) :: (← setMeanings f rest))

end

/-! ## Patterns -/

def Flags.dot (f : Flags) (span : Span) : Except Fault Pattern :=
  if !f.unicode then .error (.flaw .invalidBytes span)
  else if f.dotAll then .ok (.char .all)
  else if f.crlf then .ok (.char (.outside (.ofChars ['\n', '\r'])))
  else .ok (.char (.outside (.single '\n')))

def Flags.anchor (f : Flags) (kind : Anchor) : Pattern :=
  let look : Look := match kind with
    | .lineStart => if !f.multiLine then .textStart else if f.crlf then .lineStartCrlf else .lineStart
    | .lineEnd => if !f.multiLine then .textEnd else if f.crlf then .lineEndCrlf else .lineEnd
    | .textStart => .textStart
    | .textEnd => .textEnd
    | .wordBoundary => .wordBoundary
    | .noWordBoundary => .noWordBoundary
    | .wordStart => .wordStart
    | .wordEnd => .wordEnd
    | .wordStartHalf => .noWordBefore
    | .wordEndHalf => .noWordAfter
  .look look (if f.unicode then .word else .asciiWord)

mutual

/-- The pattern of a part, and the flags in force behind it. -/
def Node.meaning : Node → Flags → Except Fault (Pattern × Flags)
  | .empty, f => .ok (.empty, f)
  | .flags items, f => .ok (.empty, f.update items)
  | .literal l, f => do
    let n ← f.literal l
    .ok (.char (f.fold (.range n n)), f)
  | .dot span, f => do .ok (← f.dot span, f)
  | .anchor kind, f => .ok (f.anchor kind, f)
  | .shorthand span kind negated, f => do .ok (.char (← f.shorthand span kind negated), f)
  | .property span name negated, f => do .ok (.char (← f.property span name negated), f)
  | .set span negated body, f => do
    let cls ← body.meaning f
    .ok (.char (← f.foldAndNegate span negated cls), f)
  | .times _ low high body, f => do
    let (p, f) ← body.meaning f
    .ok (.times p low high, f)
  | .group _ captures items body, f => do
    let (p, _) ← body.meaning (f.update items)
    .ok (if captures then .capture p else p, f)
  | .alt _ branches, f => do
    let (ps, f) ← meanings branches f
    .ok (altAll ps, f)
  | .seq _ parts, f => do
    let (ps, f) ← meanings parts f
    .ok (seqAll ps, f)

def meanings : List Node → Flags → Except Fault (List Pattern × Flags)
  | [], f => .ok ([], f)
  | n :: rest, f => do
    let (p, f) ← n.meaning f
    let (ps, f) ← meanings rest f
    .ok (p :: ps, f)

end

/-- The pattern that a text describes. -/
def ofText (text : String) : Except Fault Pattern := do
  let node ← Node.ofText text
  let (p, _) ← node.meaning .initial
  if p.fits then .ok p else .error .tooLarge

/-- The engine that the program runs with. -/
instance : PatternEngine where
  compile source :=
    match ofText source with
    | .ok p => .ok p.isMatch
    | .error fault => .error (fault.message source)

end FieldRules.Pattern
