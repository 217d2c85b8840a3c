/-
Messages written with placeholders. Rendering replaces both placeholders one after the other, and where it does not
look for one there is none (`render_eq_replaceAll`). A message is a row of pieces, each a text without braces or one
of the two placeholders (`Piece`). Replacing a placeholder goes over the pieces one by one (`replaceAll_pieces`),
because no occurrence of it can begin in a text without braces or in the other placeholder. The main statement is
`render_spelled`: the name and the candidate stand where their placeholders stood, and all else is as it was. The
text of the candidate is free; it may hold braces and whole placeholders, and stays as it is.
-/
import FieldRules.Validation

namespace FieldRules

/-! ## Replacing -/

namespace Text

variable {pat lead cs : List Char} {c : Char}

/-- Where a text occurs, its beginning does. -/
theorem occursIn_of_append (h : occursIn (lead ++ pat) cs = true) : occursIn lead cs = true :=
  occursIn_iff.2 ((List.prefix_append lead pat).isInfix.trans (occursIn_iff.1 h))

/-- The characters to skip are skipped. -/
theorem replaceFrom_length_append (pat new lead cs : List Char) :
    replaceFrom pat new lead.length (lead ++ cs) = replaceFrom pat new 0 cs := by
  induction lead with
  | nil => rfl
  | cons c lead ih => exact ih

theorem replaceAll_append_self (hpat : pat ≠ []) (new cs : List Char) :
    replaceAll pat new (pat ++ cs) = new ++ replaceAll pat new cs := by
  have hlead : dropLead? pat (pat ++ cs) = some cs := dropLead?_eq_some_iff.2 rfl
  cases pat with
  | nil => exact absurd rfl hpat
  | cons p pat =>
    unfold replaceAll
    rw [List.cons_append] at hlead ⊢
    rw [replaceFrom, hlead, if_pos Option.isSome_some, List.length_cons, Nat.add_sub_cancel,
      replaceFrom_length_append]

/-- Where no occurrence begins, the text stays. -/
theorem replaceAll_cons (h : dropLead? pat (c :: cs) = none) (new : List Char) :
    replaceAll pat new (c :: cs) = c :: replaceAll pat new cs := by
  unfold replaceAll
  rw [replaceFrom, h]
  rfl

/-- A text that does not occur is not replaced. -/
theorem replaceAll_of_not_occursIn (h : occursIn pat cs = false) (new : List Char) : replaceAll pat new cs = cs := by
  induction cs with
  | nil => rfl
  | cons c cs ih =>
    rw [occursIn, Bool.or_eq_false_iff, Option.isSome_eq_false_iff, Option.isNone_iff_eq_none] at h
    rw [replaceAll_cons h.1, ih h.2]

/-- No occurrence begins with a character that it does not begin with. -/
theorem replaceAll_append {p : Char} (h : p ∉ lead) (new cs : List Char) :
    replaceAll (p :: pat) new (lead ++ cs) = lead ++ replaceAll (p :: pat) new cs := by
  induction lead with
  | nil => rfl
  | cons c lead ih =>
    rw [List.mem_cons, not_or] at h
    have hc : dropLead? (p :: pat) (c :: (lead ++ cs)) = none := if_neg h.1
    rw [List.cons_append, replaceAll_cons hc, ih h.2, List.cons_append]

end Text

namespace Template

/-- Both placeholders are replaced, one after the other; where one is not looked for, there is none. -/
theorem render_eq_replaceAll (message field : String) (candidate : Candidate) :
    render message field candidate = String.ofList (Text.replaceAll valueMark (display candidate).toList
      (Text.replaceAll fieldMark field.toList message.toList)) := by
  unfold render
  cases hbraces : Text.occursIn braces message.toList with
  | false =>
    -- both placeholders begin with the braces that are not there
    have hnone : ∀ rest, Text.occursIn (braces ++ rest) message.toList = false := by
      intro rest
      rw [← Bool.not_eq_true] at hbraces ⊢
      exact fun h => hbraces (Text.occursIn_of_append h)
    have hfield : Text.occursIn fieldMark message.toList = false := hnone _
    have hvalue : Text.occursIn valueMark message.toList = false := hnone _
    rw [Text.replaceAll_of_not_occursIn hfield, Text.replaceAll_of_not_occursIn hvalue, String.ofList_toList]
    rfl
  | true =>
    simp only [Bool.not_true, Bool.false_eq_true, if_false]
    split
    · rfl
    · next hvalue =>
      rw [Bool.not_eq_true] at hvalue
      rw [Text.replaceAll_of_not_occursIn hvalue]

/-! ## Pieces of a message -/

/-- A part of a message. -/
inductive Piece where
  | plain (s : String)
  | field
  | value
deriving DecidableEq

/-- A text without braces. -/
def BraceFree (s : String) : Prop :=
  '\x7b' ∉ s.toList ∧ '\x7d' ∉ s.toList

namespace Piece

/-- The piece as it is written in a message. -/
def chars : Piece → List Char
  | plain s => s.toList
  | field => fieldMark
  | value => valueMark

/-- The piece as it reads in the end. -/
def filled (name : String) (candidate : Candidate) : Piece → List Char
  | plain s => s.toList
  | field => name.toList
  | value => (display candidate).toList

/-- The piece once the name is put in. -/
def named (name : String) : Piece → Piece
  | field => plain name
  | p => p

end Piece

/-- A message written in pieces. -/
def spelled (pieces : List Piece) : String :=
  String.ofList (pieces.flatMap Piece.chars)

/-! ## One placeholder -/

/-- Replacing a placeholder changes a piece that is this placeholder, and no other. -/
theorem replaceAll_piece {mark p : Piece} (hmark : mark = .field ∨ mark = .value) (hp : ∀ s, p = .plain s → BraceFree s)
    (new cs : List Char) :
    Text.replaceAll mark.chars new (p.chars ++ cs) =
      (if p = mark then new else p.chars) ++ Text.replaceAll mark.chars new cs := by
  cases p with
  | plain s =>
    obtain ⟨hopen, -⟩ := hp s rfl
    rcases hmark with rfl | rfl
    · exact Text.replaceAll_append hopen new cs
    · exact Text.replaceAll_append hopen new cs
  | field =>
    rcases hmark with rfl | rfl
    · exact Text.replaceAll_append_self (by decide) new cs
    · -- both placeholders begin with two braces, and differ right behind them
      rfl
  | value =>
    rcases hmark with rfl | rfl
    · rfl
    · exact Text.replaceAll_append_self (by decide) new cs

theorem replaceAll_pieces {mark : Piece} (hmark : mark = .field ∨ mark = .value) {pieces : List Piece}
    (h : ∀ s, .plain s ∈ pieces → BraceFree s) (new : List Char) :
    Text.replaceAll mark.chars new (pieces.flatMap Piece.chars) =
      pieces.flatMap fun p => if p = mark then new else p.chars := by
  -- the pieces are passed one after the other, since no occurrence reaches from one into the next
  induction pieces with
  | nil => rfl
  | cons p pieces ih =>
    have hp : ∀ s, p = .plain s → BraceFree s := fun s hs => h s (hs ▸ List.mem_cons_self)
    rw [List.flatMap_cons, List.flatMap_cons, replaceAll_piece hmark hp]
    rw [ih fun s hs => h s (List.mem_cons_of_mem p hs)]

/-! ## Both placeholders -/

/-- Putting in the name leaves a message in pieces. -/
theorem replaceAll_fieldMark {pieces : List Piece} (h : ∀ s, .plain s ∈ pieces → BraceFree s) (name : String) :
    Text.replaceAll fieldMark name.toList (pieces.flatMap Piece.chars) =
      (pieces.map (Piece.named name)).flatMap Piece.chars := by
  rw [show fieldMark = Piece.field.chars from rfl, replaceAll_pieces (Or.inl rfl) h, List.flatMap_map]
  congr 1
  funext p
  cases p with
  | _ => rfl

theorem braceFree_of_mem_named {pieces : List Piece} {name : String} (h : ∀ s, .plain s ∈ pieces → BraceFree s)
    (hname : BraceFree name) : ∀ s, .plain s ∈ pieces.map (Piece.named name) → BraceFree s := by
  intro s hs
  obtain ⟨p, hp, heq⟩ := List.mem_map.1 hs
  cases p with
  | plain s' => cases heq; exact h _ hp
  | field => cases heq; exact hname
  | value => cases heq

/-- A message in pieces is rendered piece by piece, whatever the text of the candidate, and a field that fails
with such a message reports it so. -/
theorem render_spelled {pieces : List Piece} {name : String} (h : ∀ s, .plain s ∈ pieces → BraceFree s)
    (hname : BraceFree name) :
    (∀ candidate : Candidate,
      render (spelled pieces) name candidate = String.ofList (pieces.flatMap (Piece.filled name candidate))) ∧
    ∀ (record : Json) (p : Pipeline), p.run (record.get? name) = some (spelled pieces) →
      Schema.fieldError record name p =
        some ⟨name, String.ofList (pieces.flatMap (Piece.filled name (record.get? name)))⟩ := by
  have hrender : ∀ candidate : Candidate,
      render (spelled pieces) name candidate = String.ofList (pieces.flatMap (Piece.filled name candidate)) := by
    intro candidate
    rw [render_eq_replaceAll, spelled, String.toList_ofList, replaceAll_fieldMark h, show valueMark = Piece.value.chars from rfl,
      replaceAll_pieces (Or.inr rfl) (braceFree_of_mem_named h hname), List.flatMap_map]
    congr 2
    funext p
    cases p with
    | _ => rfl
  refine ⟨hrender, fun record p hrun => ?_⟩
  rw [Schema.fieldError, hrun, Option.map_some, hrender]

/-- A value that looks like a template is shown as it is, behind both of its places. -/
theorem render_spelled_sampleValue :
    render (spelled [.value, .plain " is no ", .field, .plain ", ", .value]) "date"
        (some (.text "\x7b\x7bfield\x7d\x7d \x7b\x7bvalue\x7d\x7d")) =
      "\x7b\x7bfield\x7d\x7d \x7b\x7bvalue\x7d\x7d is no date, \x7b\x7bfield\x7d\x7d \x7b\x7bvalue\x7d\x7d" := by
  refine ((render_spelled ?_ ?_).1 _).trans rfl
  · intro s hs
    simp only [List.mem_cons, Piece.plain.injEq, reduceCtorEq, List.not_mem_nil, or_false, false_or] at hs
    rcases hs with rfl | rfl <;> exact ⟨by decide, by decide⟩
  · exact ⟨by decide, by decide⟩

end Template

end FieldRules
