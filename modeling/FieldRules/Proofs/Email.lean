/-
E-mail addresses by their grammar. Each part of the pattern of addresses matches the words of a language, and a whole
text matches when it is made of a local part, the sign `@` and a domain. No domain has that sign in it, so it is the
last one of the text that parts the two (`isAddress_iff`).
-/
import FieldRules.Email
import FieldRules.Proofs.Pattern.Span
import FieldRules.Text.Blank

namespace FieldRules

/-! ## Classes of characters -/

namespace CharClass

variable {c d : Char} {cs : List Char} {n : ℕ}

theorem contains_outside (a : CharClass) : (outside a).contains n = !a.contains n := rfl

@[simp] theorem contains_union_nil : (union []).contains n = false := rfl

@[simp] theorem contains_union_cons (a : CharClass) (parts : List CharClass) :
    (union (a :: parts)).contains n = (a.contains n || (union parts).contains n) := rfl

theorem contains_single : (single c).contains d.toNat = true ↔ d = c := by
  rw [single, contains, Bool.and_eq_true, decide_eq_true_iff, decide_eq_true_iff, ← Nat.le_antisymm_iff]
  exact ⟨fun h => (Char.toNat_inj.1 h).symm, fun h => h ▸ rfl⟩

theorem contains_ofChars : (ofChars cs).contains d.toNat = true ↔ d ∈ cs := by
  unfold ofChars
  induction cs with
  | nil => simp
  | cons c cs ih => rw [List.map_cons, contains_union_cons, Bool.or_eq_true, contains_single, ih, List.mem_cons]

theorem contains_blank : blank.contains c.toNat = Text.isBlank c := by
  rw [Bool.eq_iff_iff]
  simp only [blank, contains, anyContains, Text.isBlank, Bool.or_eq_true, Bool.and_eq_true, decide_eq_true_eq,
    beq_iff_eq, Bool.false_eq_true, or_false]
  omega

theorem contains_asciiDigit : asciiDigit.contains c.toNat = c.isDigit := rfl

theorem contains_asciiLower : asciiLower.contains c.toNat = c.isLower := rfl

theorem contains_asciiUpper : asciiUpper.contains c.toNat = c.isUpper :=
  (Bool.decide_and _ _).symm

end CharClass

namespace Email

open Pattern

/-! ## The grammar -/

/-- A word without blanks and without the marks that structure an address. -/
def IsAtom (cs : List Char) : Prop :=
  cs ≠ [] ∧ ∀ c ∈ cs, c ∉ ['<', '>', '(', ')', '[', ']', '\\', '.', ',', ';', ':', '@', '"'] ∧ Text.isBlank c = false

/-- Words joined by single points, or a text of one line between quotes. -/
def IsLocalPart (cs : List Char) : Prop :=
  (∃ atoms : List (List Char), atoms ≠ [] ∧ (∀ a ∈ atoms, IsAtom a) ∧ cs = ['.'].intercalate atoms) ∨
    ∃ inner : List Char, inner ≠ [] ∧ '\n' ∉ inner ∧ cs = '"' :: inner ++ ['"']

/-- A number of one to three digits. -/
def IsGroup (cs : List Char) : Prop :=
  1 ≤ cs.length ∧ cs.length ≤ 3 ∧ ∀ c ∈ cs, c.isDigit = true

/-- A word of ASCII letters, digits and hyphens. -/
def IsLabel (cs : List Char) : Prop :=
  cs ≠ [] ∧ ∀ c ∈ cs, c.isAlphanum = true ∨ c = '-'

/-- Two ASCII letters or more. -/
def IsTopLabel (cs : List Char) : Prop :=
  2 ≤ cs.length ∧ ∀ c ∈ cs, c.isAlpha = true

/-- Four numbers in brackets, or labels with a point behind each and the last name of the domain. -/
def IsDomain (cs : List Char) : Prop :=
  (∃ g₁ g₂ g₃ g₄ : List Char, (∀ g ∈ [g₁, g₂, g₃, g₄], IsGroup g) ∧
      cs = '[' :: ['.'].intercalate [g₁, g₂, g₃, g₄] ++ [']']) ∨
    ∃ (labels : List (List Char)) (top : List Char), labels ≠ [] ∧ (∀ l ∈ labels, IsLabel l) ∧ IsTopLabel top ∧
      cs = (labels.map (· ++ ['.'])).flatten ++ top

/-! ## Words -/

variable {c : Char} {cs : List Char}

theorem contains_wordChar : wordChar.contains c.toNat = true ↔
    c ∉ ['<', '>', '(', ')', '[', ']', '\\', '.', ',', ';', ':', '@', '"'] ∧ Text.isBlank c = false := by
  rw [wordChar, CharClass.contains_outside, CharClass.contains_union_cons, CharClass.contains_union_cons,
    CharClass.contains_union_nil, Bool.or_false, Bool.not_eq_true', Bool.or_eq_false_iff, CharClass.contains_blank,
    Bool.eq_false_iff, Ne, CharClass.contains_ofChars]

theorem contains_domainLetter : domainLetter.contains c.toNat = c.isAlpha := by
  simp only [domainLetter, CharClass.contains_union_cons, CharClass.contains_union_nil, Bool.or_false,
    CharClass.contains_asciiLower, CharClass.contains_asciiUpper]
  exact Bool.or_comm _ _

theorem contains_labelChar : (CharClass.union [domainLetter, .single '-', .asciiDigit]).contains c.toNat = true ↔
    c.isAlphanum = true ∨ c = '-' := by
  simp only [CharClass.contains_union_cons, CharClass.contains_union_nil, Bool.or_false, Bool.or_eq_true,
    contains_domainLetter, CharClass.contains_single, CharClass.contains_asciiDigit, Char.isAlphanum]
  tauto

theorem intercalate_cons (a : List Char) (atoms : List (List Char)) :
    ['.'].intercalate (a :: atoms) = a ++ (atoms.map ('.' :: ·)).flatten := by
  induction atoms generalizing a with
  | nil => simp
  | cons b atoms ih => simp [ih]

/-! ## Languages of signs and words -/

/-- The language of one sign. -/
def sign (c : Char) : Language Char :=
  textsWith (· = [c])

theorem hasLanguage_charPattern (c : Char) : (charPattern c).HasLanguage (sign c) := by
  refine (hasLanguage_char _).congr fun w => ?_
  constructor
  · rintro ⟨d, hd, rfl⟩
    rw [CharClass.contains_single.1 hd]
  · rintro rfl
    exact ⟨c, CharClass.contains_single.2 rfl, rfl⟩

/-- One character or more of a class. -/
theorem hasLanguage_oneOrMore {cls : CharClass} {P : Char → Prop} (h : ∀ c : Char, cls.contains c.toNat = true ↔ P c) :
    (oneOrMore (char cls)).HasLanguage (textsWith fun w => w ≠ [] ∧ ∀ c ∈ w, P c) := by
  refine (hasLanguage_run cls 1 none).congr fun w => ?_
  simp only [mem_textsWith, h, Option.mem_def, reduceCtorEq, false_imp_iff, implies_true, true_and,
    Nat.one_le_iff_ne_zero, List.length_eq_zero_iff, ne_eq]

section
variable {l : Language Char} {v : List Char}

theorem mem_sign_mul : v ∈ sign c * l ↔ ∃ w, w ∈ l ∧ c :: w = v := by
  constructor
  · rintro ⟨_, rfl, w, hw, rfl⟩
    exact ⟨w, hw, rfl⟩
  · rintro ⟨w, hw, rfl⟩
    exact ⟨[c], rfl, w, hw, rfl⟩

theorem mem_mul_sign : v ∈ l * sign c ↔ ∃ w, w ∈ l ∧ w ++ [c] = v := by
  constructor
  · rintro ⟨w, hw, _, rfl, rfl⟩
    exact ⟨w, hw, rfl⟩
  · rintro ⟨w, hw, rfl⟩
    exact ⟨w, hw, [c], rfl, rfl⟩

theorem cons_mem_sign_mul (c : Char) (hv : v ∈ l) : c :: v ∈ sign c * l :=
  mem_sign_mul.2 ⟨v, hv, rfl⟩

theorem append_mem_mul_sign (c : Char) (hv : v ∈ l) : v ++ [c] ∈ l * sign c :=
  mem_mul_sign.2 ⟨v, hv, rfl⟩

/-- A word with more words behind it, each behind a point. -/
theorem mem_joined {P : List Char → Prop} : v ∈ textsWith P * repetitions (sign '.' * textsWith P) 0 none ↔
    ∃ atoms : List (List Char), atoms ≠ [] ∧ (∀ a ∈ atoms, P a) ∧ v = ['.'].intercalate atoms := by
  have hmore : ∀ w, w ∈ repetitions (sign '.' * textsWith P) 0 none ↔ _ := mem_repetitions fun _ => mem_sign_mul
  constructor
  · rintro ⟨a, ha, _, hb, rfl⟩
    obtain ⟨atoms, rfl, -, -, hatoms⟩ := (hmore _).1 hb
    exact ⟨a :: atoms, List.cons_ne_nil _ _, List.forall_mem_cons.2 ⟨ha, hatoms⟩, (intercalate_cons a atoms).symm⟩
  · rintro ⟨atoms, hne, hatoms, rfl⟩
    obtain ⟨a, atoms, rfl⟩ := List.exists_cons_of_ne_nil hne
    obtain ⟨ha, hatoms⟩ := List.forall_mem_cons.1 hatoms
    rw [intercalate_cons]
    exact Language.append_mem_mul ha ((hmore _).2 ⟨atoms, rfl, Nat.zero_le _, by simp, hatoms⟩)

/-- Words with a point behind each. -/
theorem mem_pointed {P : List Char → Prop} : v ∈ repetitions (textsWith P * sign '.') 1 none ↔
    ∃ labels : List (List Char), labels ≠ [] ∧ (∀ l ∈ labels, P l) ∧ v = (labels.map (· ++ ['.'])).flatten := by
  have hmore : ∀ w, w ∈ repetitions (textsWith P * sign '.') 1 none ↔ _ := mem_repetitions fun _ => mem_mul_sign
  rw [hmore]
  constructor
  · rintro ⟨labels, rfl, hlength, -, hlabels⟩
    exact ⟨labels, List.ne_nil_of_length_pos hlength, hlabels, rfl⟩
  · rintro ⟨labels, hne, hlabels, rfl⟩
    exact ⟨labels, rfl, List.length_pos_iff.2 hne, by simp, hlabels⟩

/-- Four words in brackets, with points between them. -/
theorem mem_bracketed {P : List Char → Prop} : v ∈ sign '[' * (textsWith P * (sign '.' * (textsWith P * (sign '.' *
      (textsWith P * (sign '.' * (textsWith P * sign ']'))))))) ↔
    ∃ g₁ g₂ g₃ g₄ : List Char, (∀ g ∈ [g₁, g₂, g₃, g₄], P g) ∧
      v = '[' :: ['.'].intercalate [g₁, g₂, g₃, g₄] ++ [']'] := by
  rw [mem_sign_mul]
  constructor
  · rintro ⟨_, ⟨g₁, h₁, _, hsecond, rfl⟩, rfl⟩
    obtain ⟨_, ⟨g₂, h₂, _, hthird, rfl⟩, rfl⟩ := mem_sign_mul.1 hsecond
    obtain ⟨_, ⟨g₃, h₃, _, hfourth, rfl⟩, rfl⟩ := mem_sign_mul.1 hthird
    obtain ⟨_, hlast, rfl⟩ := mem_sign_mul.1 hfourth
    obtain ⟨g₄, h₄, rfl⟩ := mem_mul_sign.1 hlast
    exact ⟨g₁, g₂, g₃, g₄, by simpa using ⟨h₁, h₂, h₃, h₄⟩, by simp⟩
  · rintro ⟨g₁, g₂, g₃, g₄, hgroups, rfl⟩
    obtain ⟨h₁, h₂, h₃, h₄⟩ : g₁ ∈ textsWith P ∧ g₂ ∈ textsWith P ∧ g₃ ∈ textsWith P ∧ g₄ ∈ textsWith P := by
      simpa using hgroups
    have hfourth := cons_mem_sign_mul '.' (append_mem_mul_sign ']' h₄)
    have hthird := cons_mem_sign_mul '.' (Language.append_mem_mul h₃ hfourth)
    have hsecond := cons_mem_sign_mul '.' (Language.append_mem_mul h₂ hthird)
    exact ⟨_, Language.append_mem_mul h₁ hsecond, by simp⟩

end

/-! ## The parts of an address -/

theorem hasLanguage_localPart : localPart.HasLanguage (textsWith IsLocalPart) := by
  have hatom : (oneOrMore (char wordChar)).HasLanguage (textsWith IsAtom) :=
    hasLanguage_oneOrMore fun c => contains_wordChar
  have hinner : (oneOrMore (char (.outside (.single '\n')))).HasLanguage
      (textsWith fun w => w ≠ [] ∧ ∀ c ∈ w, c ≠ '\n') := hasLanguage_oneOrMore fun c => by
    rw [CharClass.contains_outside, Bool.not_eq_true', Bool.eq_false_iff, Ne, CharClass.contains_single]
  have hmark := hasLanguage_charPattern '"'
  refine ((hatom.seq (((hasLanguage_charPattern '.').seq hatom).times 0 none)).alt
    (hmark.seq (hinner.seq hmark))).congr fun w => (Language.mem_add _ _ _).trans (or_congr mem_joined ?_)
  rw [mem_sign_mul]
  constructor
  · rintro ⟨_, hw, rfl⟩
    obtain ⟨inner, ⟨hne, hinner⟩, rfl⟩ := mem_mul_sign.1 hw
    exact ⟨inner, hne, fun hmem => hinner _ hmem rfl, rfl⟩
  · rintro ⟨inner, hne, hinner, rfl⟩
    exact ⟨_, append_mem_mul_sign '"' ⟨hne, fun c hc => ne_of_mem_of_not_mem hc hinner⟩, rfl⟩

theorem hasLanguage_domain : domain.HasLanguage (textsWith IsDomain) := by
  have hgroup : (times (char .asciiDigit) 1 (some 3)).HasLanguage (textsWith IsGroup) :=
    (hasLanguage_run .asciiDigit 1 (some 3)).congr fun w => by simp [IsGroup, CharClass.contains_asciiDigit]
  have hlabel : (oneOrMore (char (.union [domainLetter, .single '-', .asciiDigit]))).HasLanguage (textsWith IsLabel) :=
    hasLanguage_oneOrMore fun c => contains_labelChar
  have htop : (times (char domainLetter) 2 none).HasLanguage (textsWith IsTopLabel) :=
    (hasLanguage_run domainLetter 2 none).congr fun w => by simp [IsTopLabel, contains_domainLetter]
  have hpoint := hasLanguage_charPattern '.'
  refine (((hasLanguage_charPattern '[').seq (hgroup.seq (hpoint.seq (hgroup.seq (hpoint.seq (hgroup.seq (hpoint.seq
    (hgroup.seq (hasLanguage_charPattern ']'))))))))).alt
    (((hlabel.seq hpoint).times 1 none).seq htop)).congr
      fun w => (Language.mem_add _ _ _).trans (or_congr mem_bracketed ?_)
  constructor
  · rintro ⟨_, hnames, top, htop, rfl⟩
    obtain ⟨labels, hne, hlabels, rfl⟩ := mem_pointed.1 hnames
    exact ⟨labels, top, hne, hlabels, htop, rfl⟩
  · rintro ⟨labels, top, hne, hlabels, htop, rfl⟩
    exact Language.append_mem_mul (mem_pointed.2 ⟨labels, hne, hlabels, rfl⟩) htop

/-- A domain has no sign `@` in it. -/
theorem IsDomain.not_mem (h : IsDomain cs) : '@' ∉ cs := by
  rcases h with ⟨g₁, g₂, g₃, g₄, hgroups, rfl⟩ | ⟨labels, top, -, hlabels, htop, rfl⟩
  · have hgroup : ∀ g ∈ [g₁, g₂, g₃, g₄], '@' ∉ g := fun g hg hmem =>
      absurd ((hgroups g hg).2.2 _ hmem) (by decide)
    simpa [intercalate_cons] using hgroup
  · have hlabel : ∀ l ∈ labels, '@' ∉ l := fun l hl hmem => absurd ((hlabels l hl).2 _ hmem) (by decide)
    have htop : '@' ∉ top := fun hmem => absurd (htop.2 _ hmem) (by decide)
    simpa [htop] using hlabel

/-- A text is an address when the last sign `@` in it parts a local part from a domain. -/
theorem isAddress_iff {s : String} : isAddress s = true ↔ ∃ loc dom, s.toList = loc ++ '@' :: dom ∧ '@' ∉ dom ∧
    IsLocalPart loc ∧ IsDomain dom := by
  have hmem : isAddress s = true ↔
      s.toList ∈ textsWith IsLocalPart * (sign '@' * textsWith IsDomain) := by
    rw [isAddress, isMatch_iff, ← stands_whole]
    simp only [stands_mul, ← hasLanguage_localPart _, ← hasLanguage_charPattern '@' _, ← hasLanguage_domain _]
    constructor
    · rintro ⟨i, j, -, k, hstart, m, hlocal, n, hsign, o, hdomain, hstop⟩
      obtain ⟨rfl, rfl⟩ := spans_textStart.1 hstart
      obtain ⟨rfl, rfl⟩ := spans_textEnd.1 hstop
      exact ⟨m, hlocal, n, hsign, hdomain⟩
    · rintro ⟨m, hlocal, n, hsign, hdomain⟩
      exact ⟨0, _, Nat.zero_le _, 0, spans_textStart.2 ⟨rfl, rfl⟩, m, hlocal, n, hsign, _, hdomain,
        spans_textEnd.2 ⟨rfl, rfl⟩⟩
  rw [hmem, Language.mem_mul]
  constructor
  · rintro ⟨loc, hloc, v, hv, hs⟩
    obtain ⟨dom, hdom, rfl⟩ := mem_sign_mul.1 hv
    exact ⟨loc, dom, hs.symm, IsDomain.not_mem hdom, hloc, hdom⟩
  · rintro ⟨loc, dom, hs, -, hloc, hdom⟩
    exact ⟨loc, hloc, _, cons_mem_sign_mul '@' hdom, hs.symm⟩

/-- A quoted text may have quotes and the sign `@` in it. -/
example : isAddress "\"a\"@b.c\"@[10.0.0.1]" = true := by decide +kernel

end Email

end FieldRules
