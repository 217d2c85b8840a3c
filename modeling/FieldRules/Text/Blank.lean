/-
Blank characters are those of the Unicode property White_Space. `trim` removes the longest blank
runs at both ends of a text, and `isBlankText` says that nothing is left.
-/

namespace FieldRules.Text

/-- The Unicode property White_Space. -/
def isBlank (c : Char) : Bool :=
  let n := c.toNat
  (9 ≤ n && n ≤ 13) || n == 0x20 || n == 0x85 || n == 0xA0 || n == 0x1680 ||
    (0x2000 ≤ n && n ≤ 0x200A) || n == 0x2028 || n == 0x2029 || n == 0x202F || n == 0x205F || n == 0x3000

/-- A list of characters without its blank run at the end. -/
def trimEnd (cs : List Char) : List Char :=
  (cs.reverse.dropWhile isBlank).reverse

/-- A list of characters without its blank runs at both ends. -/
def trim (cs : List Char) : List Char :=
  trimEnd (cs.dropWhile isBlank)

/-- A text with nothing but blanks in it, the empty text included. -/
def isBlankText (s : String) : Bool :=
  s.toList.all isBlank

@[simp] theorem trim_nil : trim [] = [] := rfl

theorem dropWhile_isBlank_eq_nil {cs : List Char} :
    cs.dropWhile isBlank = [] ↔ cs.all isBlank = true := by
  induction cs with
  | nil => simp
  | cons c cs ih => by_cases h : isBlank c = true <;> simp [h, ih]

/-- Trimming leaves nothing exactly of a blank text. -/
theorem trim_eq_nil_iff (cs : List Char) : trim cs = [] ↔ cs.all isBlank = true := by
  unfold trim trimEnd
  rw [List.reverse_eq_nil_iff, dropWhile_isBlank_eq_nil, List.all_reverse,
    ← @dropWhile_isBlank_eq_nil cs, ← dropWhile_isBlank_eq_nil]
  constructor
  · intro h
    cases hd : cs.dropWhile isBlank with
    | nil => rfl
    | cons c rest =>
      have hc := List.head_dropWhile_not isBlank (l := cs) (by simp [hd])
      simp only [hd, List.head_cons] at hc
      simp [hd, hc] at h
  · intro h; simp [h]

end FieldRules.Text
