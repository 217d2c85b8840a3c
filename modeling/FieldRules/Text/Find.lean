/-
Searching and replacing in texts. Occurrences are found from the left and do not overlap.
-/

namespace FieldRules.Text

/-- The text after `pat`, when `cs` begins with it. -/
def dropLead? : List Char → List Char → Option (List Char)
  | [], cs => some cs
  | _ :: _, [] => none
  | p :: pat, c :: cs => if p = c then dropLead? pat cs else none

theorem dropLead?_eq_some_iff {pat cs rest : List Char} :
    dropLead? pat cs = some rest ↔ cs = pat ++ rest := by
  induction pat generalizing cs with
  | nil => simp [dropLead?]
  | cons p pat ih =>
    cases cs with
    | nil => simp [dropLead?]
    | cons c cs =>
      simp only [dropLead?, List.cons_append, List.cons.injEq]
      by_cases h : p = c
      · simp [h, ih]
      · simp [h, Ne.symm h]

/-- Whether `pat` occurs in a list of characters. -/
def occursIn (pat : List Char) : List Char → Bool
  | [] => pat.isEmpty
  | c :: cs => (dropLead? pat (c :: cs)).isSome || occursIn pat cs

theorem occursIn_iff {pat cs : List Char} : occursIn pat cs = true ↔ pat <:+: cs := by
  induction cs with
  | nil => rw [occursIn, List.isEmpty_iff, List.infix_nil]
  | cons c cs ih =>
    rw [occursIn, Bool.or_eq_true, ih, List.infix_cons_iff, Option.isSome_iff_exists]
    refine or_congr_left ?_
    simp only [dropLead?_eq_some_iff]
    exact exists_congr fun _ => eq_comm

/-- Every occurrence of `pat` behind the next `skip` characters replaced by `new`; the characters to
skip belong to an occurrence that is replaced already. -/
def replaceFrom (pat new : List Char) : Nat → List Char → List Char
  | _, [] => []
  | skip + 1, _ :: cs => replaceFrom pat new skip cs
  | 0, c :: cs =>
    if (dropLead? pat (c :: cs)).isSome then new ++ replaceFrom pat new (pat.length - 1) cs
    else c :: replaceFrom pat new 0 cs

/-- Every occurrence of the non-empty `pat` replaced by `new`; the new text is not searched again. -/
def replaceAll (pat new cs : List Char) : List Char :=
  replaceFrom pat new 0 cs

/-- The pieces of a list of characters between occurrences of `sep`. -/
def splitAt (sep : Char) : List Char → List (List Char)
  | [] => [[]]
  | c :: cs =>
    if c = sep then [] :: splitAt sep cs
    else match splitAt sep cs with
      | [] => [[c]]
      | piece :: pieces => (c :: piece) :: pieces

/-- The texts in order with `sep` between each two. -/
def join (sep : String) : List String → String
  | [] => ""
  | [s] => s
  | s :: rest => s ++ sep ++ join sep rest

theorem join_cons_cons (sep s t : String) (rest : List String) :
    join sep (s :: t :: rest) = s ++ sep ++ join sep (t :: rest) := rfl

end FieldRules.Text
