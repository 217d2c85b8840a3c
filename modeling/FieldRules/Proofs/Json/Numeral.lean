/-
Numbers in a JSON text. A numeral has digits in front of the point, perhaps digits behind it, and perhaps a
power of ten. The reader takes a numeral for what its parts say (`number_append`), and every number is
written as a numeral that says it, so what is written is read back (`scalar?_number`). Whatever follows a number
in a text must not look like a part of it (`Ends`).
-/
import FieldRules.Json.Reader
import FieldRules.Proofs.Decimal.Shortest
import FieldRules.Proofs.Traversal

namespace FieldRules

/-! ## Digits -/

namespace Decimal

theorem digitsValue_eq (cs : List Char) : digitsValue cs = Nat.ofDigitChars 10 cs 0 := by
  rw [Nat.ofDigitChars_eq_foldl, digitsValue]
  congr 1
  funext n c
  rw [Nat.mul_comm]
  rfl

theorem digitsValue_append (cs ds : List Char) :
    digitsValue (cs ++ ds) = digitsValue cs * 10 ^ ds.length + digitsValue ds := by
  simp only [digitsValue_eq]
  rw [Nat.ofDigitChars_append, Nat.ofDigitChars_eq_ofDigitChars_zero, Nat.mul_comm]

theorem digitsValue_zeros (n : Nat) : digitsValue (List.replicate n '0') = 0 := by
  rw [digitsValue_eq, Nat.ofDigitChars_replicate_zero, Nat.mul_zero]

theorem digitsValue_zeros_append (n : Nat) (cs : List Char) :
    digitsValue (List.replicate n '0' ++ cs) = digitsValue cs := by
  rw [digitsValue_append, digitsValue_zeros, Nat.zero_mul, Nat.zero_add]

theorem digitsValue_append_zeros (cs : List Char) (n : Nat) :
    digitsValue (cs ++ List.replicate n '0') = digitsValue cs * 10 ^ n := by
  rw [digitsValue_append, digitsValue_zeros, List.length_replicate, Nat.add_zero]

theorem digitsValue_toDigits (n : Nat) : digitsValue (Nat.toDigits 10 n) = n := by
  rw [digitsValue_eq, Nat.ofDigitChars_ten_toDigits]

end Decimal

theorem isDigit_of_mem_toDigits {n : Nat} {c : Char} (h : c ∈ Nat.toDigits 10 n) : c.isDigit = true :=
  Nat.isDigit_of_mem_toDigits (by decide) (by decide) h

/-- The digits of a number begin with a zero only when it is zero. -/
theorem toDigits_eq_cons {n : Nat} (h : n ≠ 0) : ∃ d ds, Nat.toDigits 10 n = d :: ds ∧ d ≠ '0' := by
  have hdigit : ∀ n < 10, n ≠ 0 → n.digitChar ≠ '0' := by decide
  induction n using Nat.strongRecOn with
  | ind n ih =>
    by_cases hn : n < 10
    · exact ⟨n.digitChar, [], Nat.toDigits_of_lt_base hn, hdigit n hn h⟩
    · obtain ⟨d, ds, hds, hd⟩ := ih (n / 10) (by omega) (by omega)
      rw [Nat.toDigits_of_base_le (by decide) (by omega), hds]
      exact ⟨d, ds ++ [(n % 10).digitChar], rfl, hd⟩

namespace Json

/-! ## Cursors -/

theorem Place.skipAll_append (p : Place) (cs ds : List Char) : p.skipAll (cs ++ ds) = (p.skipAll cs).skipAll ds :=
  List.foldl_append

namespace Cursor

theorem drop_append (cs rest : List Char) (p : Place) :
    (⟨cs ++ rest, p⟩ : Cursor).drop cs.length = ⟨rest, p.skipAll cs⟩ := by
  rw [drop, List.drop_left, List.take_left]

theorem drop_one (c : Char) (rest : List Char) (p : Place) :
    (⟨c :: rest, p⟩ : Cursor).drop 1 = ⟨rest, p.skipAll [c]⟩ :=
  drop_append [c] rest p

/-- What follows does not go on with a character of the class. -/
def Stops (p : Char → Bool) (rest : List Char) : Prop :=
  ∀ c ∈ rest.head?, p c = false

theorem Stops.cons {p : Char → Bool} {c : Char} (h : p c = false) (rest : List Char) : Stops p (c :: rest) := by
  intro d hd
  cases hd
  exact h

theorem Stops.takeWhile_eq_nil {p : Char → Bool} {rest : List Char} (h : Stops p rest) : rest.takeWhile p = [] := by
  cases rest with
  | nil => rfl
  | cons c rest => exact List.takeWhile_cons_of_neg (by rw [h c rfl]; exact Bool.false_ne_true)

theorem takeWhile_append {p : Char → Bool} {run rest : List Char} (hrun : ∀ c ∈ run, p c = true) (hrest : Stops p rest) :
    (run ++ rest).takeWhile p = run := by
  rw [List.takeWhile_append_of_pos hrun, hrest.takeWhile_eq_nil, List.append_nil]

theorem dropWhile_append {p : Char → Bool} {run rest : List Char} (hrun : ∀ c ∈ run, p c = true) (hrest : Stops p rest) :
    (run ++ rest).dropWhile p = rest := by
  rw [List.dropWhile_append_of_pos hrun]
  cases rest with
  | nil => rfl
  | cons c rest => exact List.dropWhile_cons_of_neg (by rw [hrest c rfl]; exact Bool.false_ne_true)

end Cursor

/-! ## Numerals -/

/-- The parts of a number as they are written. -/
structure Numeral where
  whole : List Char
  fraction : Option (List Char)
  power : Option Int

namespace Numeral

/-- The point and the digits behind it. -/
def fractionChars (n : Numeral) : List Char :=
  n.fraction.elim [] fun ds => '.' :: ds

/-- The power of ten with its mark and its sign. -/
def powerChars (n : Numeral) : List Char :=
  n.power.elim [] fun e => 'e' :: (if e < 0 then '-' else '+') :: Nat.toDigits 10 e.natAbs

def chars (n : Numeral) : List Char :=
  n.whole ++ (n.fractionChars ++ n.powerChars)

def coefficient (n : Numeral) : Nat :=
  Decimal.digitsValue (n.whole ++ n.fraction.getD [])

def exponent (n : Numeral) : Int :=
  n.power.getD 0 - (n.fraction.getD []).length

/-- What the format asks of a numeral: digits, none missing, no zero in front of others, and a power that is
not too great to be told apart. -/
structure Valid (n : Numeral) : Prop where
  whole : n.whole = ['0'] ∨ ∃ d ds, n.whole = d :: ds ∧ d ≠ '0'
  wholeDigits : ∀ c ∈ n.whole, c.isDigit = true
  fraction : ∀ ds, n.fraction = some ds → ds ≠ [] ∧ ∀ c ∈ ds, c.isDigit = true
  power : ∀ e, n.power = some e → e.natAbs ≤ Cursor.greatestPower

theorem Valid.chars_eq_cons {n : Numeral} (h : n.Valid) : ∃ d ds, n.chars = d :: ds ∧ d.isDigit = true := by
  rcases h.whole with hw | ⟨d, ds, hw, -⟩
  · exact ⟨'0', _, by rw [chars, hw]; rfl, rfl⟩
  · exact ⟨d, _, by rw [chars, hw]; rfl, h.wholeDigits d (by rw [hw]; exact List.mem_cons_self)⟩

end Numeral

/-! ## Reading a numeral -/

namespace Cursor

/-- What may follow a number: nothing that could be a part of it. -/
structure Ends (rest : List Char) : Prop where
  digit : Stops Char.isDigit rest
  point : Stops (· == '.') rest
  mark : Stops (fun c => c == 'e' || c == 'E') rest

theorem digits_append {run rest : List Char} (p : Place) (hrun : ∀ c ∈ run, c.isDigit = true)
    (hrest : Stops Char.isDigit rest) : (⟨run ++ rest, p⟩ : Cursor).digits = (run, ⟨rest, p.skipAll run⟩) := by
  simp only [digits, takeWhile_append hrun hrest, drop_append]

theorem wholeDigits_append {whole rest : List Char} (p : Place)
    (hwhole : whole = ['0'] ∨ ∃ d ds, whole = d :: ds ∧ d ≠ '0') (hdigits : ∀ c ∈ whole, c.isDigit = true)
    (hrest : Stops Char.isDigit rest) :
    (⟨whole ++ rest, p⟩ : Cursor).wholeDigits = .ok (whole, ⟨rest, p.skipAll whole⟩) := by
  rcases hwhole with rfl | ⟨d, ds, rfl, hd⟩
  · have hstop : (rest.head?.map Char.isDigit).getD false = false := by
      cases rest with
      | nil => rfl
      | cons c rest => exact hrest c rfl
    simp only [wholeDigits, List.cons_append, List.nil_append, if_pos, hstop, drop_one]
    rfl
  · have hdigit : d.isDigit = true := hdigits d List.mem_cons_self
    simp only [wholeDigits, List.cons_append, if_neg hd, if_pos hdigit]
    exact congrArg Except.ok (digits_append p hdigits hrest)

theorem fractionDigits_none {rest : List Char} (p : Place) (hrest : Stops (· == '.') rest) :
    (⟨rest, p⟩ : Cursor).fractionDigits = .ok (none, ⟨rest, p⟩) := by
  unfold fractionDigits
  split
  · next c tail hhead =>
    have hrest' := hrest '.' (by rw [show rest = '.' :: tail from hhead]; rfl)
    cases hrest'
  · rfl

theorem fractionDigits_some {ds rest : List Char} (p : Place) (hne : ds ≠ []) (hdigits : ∀ c ∈ ds, c.isDigit = true)
    (hrest : Stops Char.isDigit rest) :
    (⟨'.' :: (ds ++ rest), p⟩ : Cursor).fractionDigits = .ok (some ds, ⟨rest, p.skipAll ('.' :: ds)⟩) := by
  have hempty : ds.isEmpty = false := by
    cases ds with
    | nil => exact (hne rfl).elim
    | cons d ds => rfl
  simp only [fractionDigits, drop_one, digits_append _ hdigits hrest, hempty]
  rfl

theorem powerDigits_none {rest : List Char} (isZero : Bool) (p : Place)
    (hrest : Stops (fun c => c == 'e' || c == 'E') rest) :
    (⟨rest, p⟩ : Cursor).powerDigits isZero = .ok (none, ⟨rest, p⟩) := by
  cases rest with
  | nil => rfl
  | cons c rest =>
    have hc := hrest c rfl
    simp only [Bool.or_eq_false_iff, beq_eq_false_iff_ne] at hc
    exact if_neg fun h => h.elim hc.1 hc.2

/-- A run of digits whose value is not too great does not exceed the greatest power at any place. -/
theorem powerOverflow_eq_none {run : List Char} (h : Decimal.digitsValue run ≤ greatestPower) :
    powerOverflow run = none := by
  refine List.find?_eq_none.2 fun k _ => ?_
  have hsplit := Decimal.digitsValue_append (run.take k) (run.drop k)
  rw [List.take_append_drop] at hsplit
  have hpow : 0 < 10 ^ (run.drop k).length := Nat.pow_pos (by decide)
  have hle : Decimal.digitsValue (run.take k) ≤ Decimal.digitsValue run := by
    rw [hsplit]
    exact (Nat.le_mul_of_pos_right _ hpow).trans (Nat.le_add_right _ _)
  rw [decide_eq_true_eq]
  omega

theorem powerDigits_some {e : Int} {rest : List Char} (isZero : Bool) (p : Place) (he : e.natAbs ≤ greatestPower)
    (hrest : Stops Char.isDigit rest) :
    (⟨'e' :: (if e < 0 then '-' else '+') :: (Nat.toDigits 10 e.natAbs ++ rest), p⟩ : Cursor).powerDigits isZero =
      .ok (some e, ⟨rest, p.skipAll ('e' :: (if e < 0 then '-' else '+') :: Nat.toDigits 10 e.natAbs)⟩) := by
  obtain ⟨run, hrun⟩ : ∃ run, run = Nat.toDigits 10 e.natAbs := ⟨_, rfl⟩
  have hdigits : ∀ c ∈ run, c.isDigit = true := fun c hc => isDigit_of_mem_toDigits (hrun ▸ hc)
  have hvalue : Decimal.digitsValue run = e.natAbs := hrun ▸ Decimal.digitsValue_toDigits _
  have hoverflow : powerOverflow run = none := powerOverflow_eq_none (hvalue ▸ he)
  obtain ⟨d, ds, hds⟩ : ∃ d ds, run = d :: ds := List.exists_cons_of_ne_nil (hrun ▸ Nat.toDigits_ne_nil)
  have hd : d.isDigit = true := hdigits d (hds ▸ List.mem_cons_self)
  rw [← hrun]
  subst hds
  have hread : ∀ q, (⟨d :: (ds ++ rest), q⟩ : Cursor).digits = (d :: ds, ⟨rest, q.skipAll (d :: ds)⟩) :=
    fun q => digits_append q hdigits hrest
  by_cases hneg : e < 0
  · have hsigned : -(e.natAbs : Int) = e := by omega
    simp only [powerDigits, if_pos hneg, List.cons_append, drop_one, true_or, if_true, hd, hread, hoverflow, hvalue,
      hsigned]
    rfl
  · have hsigned : (e.natAbs : Int) = e := by omega
    simp only [powerDigits, if_neg hneg, List.cons_append, drop_one, true_or, if_true, hd, hread, hoverflow, hvalue,
      Bool.false_eq_true, if_false, hsigned]
    rfl

variable {n : Numeral} {rest : List Char}

theorem stops_fractionChars (h : Ends rest) : Stops Char.isDigit (n.fractionChars ++ (n.powerChars ++ rest)) := by
  unfold Numeral.fractionChars Numeral.powerChars
  cases n.fraction with
  | some ds => exact .cons rfl _
  | none =>
    cases n.power with
    | some e => exact .cons rfl _
    | none => exact h.digit

theorem stops_powerChars (h : Ends rest) : Stops Char.isDigit (n.powerChars ++ rest) ∧
    Stops (· == '.') (n.powerChars ++ rest) := by
  unfold Numeral.powerChars
  cases n.power with
  | some e => exact ⟨.cons rfl _, .cons rfl _⟩
  | none => exact ⟨h.digit, h.point⟩

theorem fractionDigits_append (hvalid : n.Valid) (h : Ends rest) (p : Place) :
    (⟨n.fractionChars ++ (n.powerChars ++ rest), p⟩ : Cursor).fractionDigits =
      .ok (n.fraction, ⟨n.powerChars ++ rest, p.skipAll n.fractionChars⟩) := by
  obtain ⟨hdigit, hpoint⟩ := stops_powerChars (n := n) h
  have hfraction := hvalid.fraction
  unfold Numeral.fractionChars
  cases hf : n.fraction with
  | none => exact fractionDigits_none p hpoint
  | some ds =>
    obtain ⟨hne, hdigits⟩ := hfraction ds hf
    exact fractionDigits_some p hne hdigits hdigit

theorem powerDigits_append (hvalid : n.Valid) (h : Ends rest) (isZero : Bool) (p : Place) :
    (⟨n.powerChars ++ rest, p⟩ : Cursor).powerDigits isZero = .ok (n.power, ⟨rest, p.skipAll n.powerChars⟩) := by
  have hpower := hvalid.power
  unfold Numeral.powerChars
  cases he : n.power with
  | none => exact powerDigits_none isZero p h.mark
  | some e => exact powerDigits_some isZero p (hpower e he) h.digit

/-- The reader takes a numeral apart into its parts. -/
theorem number_append (hvalid : n.Valid) (h : Ends rest) (neg : Bool) (p : Place) :
    (⟨n.chars ++ rest, p⟩ : Cursor).number neg =
      match n.fraction, n.power with
      | none, none =>
        match integer? neg n.coefficient with
        | some k => .ok (k, ⟨rest, p.skipAll n.chars⟩)
        | none => (⟨rest, p.skipAll n.chars⟩ : Cursor).real neg n.coefficient 0
      | _, _ => (⟨rest, p.skipAll n.chars⟩ : Cursor).real neg n.coefficient n.exponent := by
  have hplace : p.skipAll n.chars = ((p.skipAll n.whole).skipAll n.fractionChars).skipAll n.powerChars := by
    rw [Numeral.chars, Place.skipAll_append, Place.skipAll_append]
  have hwhole := wholeDigits_append p hvalid.whole hvalid.wholeDigits (stops_fractionChars (n := n) h)
  rw [hplace, Numeral.chars, List.append_assoc, List.append_assoc]
  simp only [number, hwhole, fractionDigits_append hvalid h, powerDigits_append hvalid h, bind, Except.bind]
  rfl

end Cursor

/-! ## Writing a numeral -/

namespace Numeral

/-- The digits of `c` with the point where the exponent `e` of the first digit puts it. -/
def positional (c : Nat) (e : Int) : Numeral :=
  let digits := Nat.toDigits 10 c
  let whole := (e + 1).toNat
  if e < 0 then ⟨['0'], some (List.replicate (-e - 1).toNat '0' ++ digits), none⟩
  else if digits.length ≤ whole then ⟨digits ++ List.replicate (whole - digits.length) '0', some ['0'], none⟩
  else ⟨digits.take whole, some (digits.drop whole), none⟩

/-- The first digit of `c`, the others behind the point, and the exponent. -/
def scientific (c : Nat) (e : Int) : Numeral :=
  let digits := Nat.toDigits 10 c
  ⟨digits.take 1, if digits.drop 1 = [] then none else some (digits.drop 1), some e⟩

theorem chars_positional (c : Nat) (e : Int) :
    numberLayout.positionalText (Nat.toDigits 10 c) e = (positional c e).chars := by
  unfold Binary64.Layout.positionalText positional
  simp only [numberLayout, if_true]
  split
  · simp [chars, fractionChars, powerChars]
  · split
    · simp [chars, fractionChars, powerChars]
    · simp [chars, fractionChars, powerChars]

theorem chars_scientific (c : Nat) (e : Int) :
    numberLayout.scientificText (Nat.toDigits 10 c) e = (scientific c e).chars := by
  have hmark : (if e < 0 then ['-'] else ['+']) = [if e < 0 then '-' else '+'] := by
    split
    · rfl
    · rfl
  unfold Binary64.Layout.scientificText scientific
  simp only [numberLayout, if_true, hmark]
  cases (Nat.toDigits 10 c).drop 1 with
  | nil => simp [chars, fractionChars, powerChars]
  | cons d ds => simp [chars, fractionChars, powerChars]

/-- The exponent of the first digit. -/
def firstExponent (c : Nat) (p : Int) : Int :=
  p + (Binary64.digitCount c - 1 : Nat)

/-- With the zeros that fill up to the point, the digits still stand for `c · 10 ^ p`. -/
theorem value_positional (c : Nat) (p : Int) :
    ((positional c (firstExponent c p)).coefficient : ℚ) * 10 ^ (positional c (firstExponent c p)).exponent =
      c * 10 ^ p := by
  have hpos := Binary64.digitCount_pos c
  have hlength : (Nat.toDigits 10 c).length = Binary64.digitCount c := rfl
  have hvalue := Decimal.digitsValue_toDigits c
  unfold positional firstExponent
  simp only [hlength]
  split
  · next hneg =>
    have hcoefficient : Decimal.digitsValue
        (['0'] ++ (List.replicate (-(p + (Binary64.digitCount c - 1 : Nat)) - 1).toNat '0' ++ Nat.toDigits 10 c)) = c := by
      rw [← List.append_assoc, show ['0'] = List.replicate 1 '0' from rfl, List.replicate_append_replicate,
        Decimal.digitsValue_zeros_append, hvalue]
    simp only [coefficient, exponent, Option.getD_some, Option.getD_none, hcoefficient, List.length_append,
      List.length_replicate, hlength]
    congr 2
    omega
  · split
    · next hneg hshort =>
      -- as many zeros in front of the point as the power of ten says, and one behind it
      obtain ⟨k, hk⟩ : ∃ k, (p + (Binary64.digitCount c - 1 : Nat) + 1).toNat - Binary64.digitCount c = k := ⟨_, rfl⟩
      have hp : p = k := by omega
      have hzero : ['0'] = List.replicate 1 '0' := rfl
      simp only [coefficient, exponent, Option.getD_some, Option.getD_none, hk, hzero,
        Decimal.digitsValue_append_zeros, hvalue, List.length_replicate]
      rw [hp, zpow_natCast]
      push_cast
      rw [zpow_neg_one]
      field_simp
    · next hneg hlong =>
      simp only [coefficient, exponent, Option.getD_some, Option.getD_none, List.take_append_drop, hvalue,
        List.length_drop, hlength]
      congr 2
      omega

theorem value_scientific (c : Nat) (p : Int) :
    ((scientific c (firstExponent c p)).coefficient : ℚ) * 10 ^ (scientific c (firstExponent c p)).exponent =
      c * 10 ^ p := by
  have hpos := Binary64.digitCount_pos c
  have hlength : (Nat.toDigits 10 c).length = Binary64.digitCount c := rfl
  have hfraction : (if (Nat.toDigits 10 c).drop 1 = [] then none else some ((Nat.toDigits 10 c).drop 1)).getD [] =
      (Nat.toDigits 10 c).drop 1 := by
    split
    · next h => exact h.symm
    · rfl
  simp only [scientific, firstExponent, coefficient, exponent, hfraction, Option.getD_some, List.take_append_drop,
    Decimal.digitsValue_toDigits, List.length_drop, hlength]
  congr 2
  omega

/-! Both ways of writing give digits where the format asks for them. -/

theorem valid_positional {c : Nat} {e : Int} (hzero : c = 0 → e = 0) : (positional c e).Valid := by
  have hdigits : ∀ d ∈ Nat.toDigits 10 c, d.isDigit = true := fun d hd => isDigit_of_mem_toDigits hd
  have hzeros : ∀ k, ∀ d ∈ List.replicate k '0', d.isDigit = true := fun k d hd => by
    rw [List.eq_of_mem_replicate hd]
    rfl
  have happend : ∀ {l m : List Char}, (∀ d ∈ l, d.isDigit = true) → (∀ d ∈ m, d.isDigit = true) →
      ∀ d ∈ l ++ m, d.isDigit = true := fun hl hm d hd => (List.mem_append.1 hd).elim (hl d) (hm d)
  unfold positional
  simp only
  split
  · exact {
      whole := Or.inl rfl
      wholeDigits := hzeros 1
      fraction := fun ds hds => by
        cases hds
        exact ⟨List.append_ne_nil_of_right_ne_nil _ Nat.toDigits_ne_nil, happend (hzeros _) hdigits⟩
      power := fun e he => by cases he }
  · split
    · next hneg hshort =>
      refine {
        whole := ?_
        wholeDigits := happend hdigits (hzeros _)
        fraction := fun ds hds => by
          cases hds
          exact ⟨List.cons_ne_nil _ _, hzeros 1⟩
        power := fun e he => by cases he }
      by_cases hc : c = 0
      · rw [hc, hzero hc]
        exact Or.inl rfl
      · obtain ⟨d, ds, hds, hd⟩ := toDigits_eq_cons hc
        rw [hds]
        exact Or.inr ⟨d, _, rfl, hd⟩
    · next hneg hlong =>
      -- more than one digit, so the first one is not a zero
      have hc : c ≠ 0 := by
        rintro rfl
        rw [hzero rfl] at hlong
        exact hlong (by decide)
      obtain ⟨d, ds, hds, hd⟩ := toDigits_eq_cons hc
      exact {
        whole := by
          obtain ⟨k, hk⟩ : ∃ k, (e + 1).toNat = k + 1 := ⟨e.toNat, by omega⟩
          rw [hds, hk]
          exact Or.inr ⟨d, ds.take k, rfl, hd⟩
        wholeDigits := fun d hd => hdigits d (List.mem_of_mem_take hd)
        fraction := fun ds hds => by
          cases hds
          exact ⟨List.drop_eq_nil_iff.not.2 hlong, fun d hd => hdigits d (List.mem_of_mem_drop hd)⟩
        power := fun e he => by cases he }

theorem valid_scientific {c : Nat} {e : Int} (hc : c ≠ 0) (he : e.natAbs ≤ Cursor.greatestPower) :
    (scientific c e).Valid := by
  have hdigits : ∀ d ∈ Nat.toDigits 10 c, d.isDigit = true := fun d hd => isDigit_of_mem_toDigits hd
  obtain ⟨d, ds, hds, hd⟩ := toDigits_eq_cons hc
  exact {
    whole := by
      unfold scientific
      rw [hds]
      exact Or.inr ⟨d, [], rfl, hd⟩
    wholeDigits := fun d hd => hdigits d (List.mem_of_mem_take hd)
    fraction := fun fs hfs => by
      unfold scientific at hfs
      simp only at hfs
      split at hfs
      · cases hfs
      · next hne =>
        cases hfs
        exact ⟨hne, fun d hd => hdigits d (List.mem_of_mem_drop hd)⟩
    power := fun e' he' => by
      cases he'
      exact he }

/-! ## The numerals of numbers -/

/-- The numeral of a whole number. -/
def ofNat (k : Nat) : Numeral :=
  ⟨Nat.toDigits 10 k, none, none⟩

theorem chars_ofNat (k : Nat) : (ofNat k).chars = Nat.toDigits 10 k :=
  List.append_nil _

theorem coefficient_ofNat (k : Nat) : (ofNat k).coefficient = k := by
  rw [coefficient, ofNat, Option.getD_none, List.append_nil, Decimal.digitsValue_toDigits]

theorem valid_ofNat (k : Nat) : (ofNat k).Valid where
  whole := by
    by_cases hzero : k = 0
    · rw [hzero]
      exact Or.inl rfl
    · exact Or.inr (toDigits_eq_cons hzero)
  wholeDigits := fun c hc => isDigit_of_mem_toDigits hc
  fraction := fun ds hds => by cases hds
  power := fun e he => by cases he

/-- The numeral of a number of the binary format, without its sign. -/
def ofBinary64 (x : Binary64) : Numeral :=
  let e := firstExponent x.shortest.1 x.shortest.2
  if -5 ≤ e && e ≤ 15 then positional x.shortest.1 e else scientific x.shortest.1 e

variable {x : Binary64}

theorem shortest_of_coefficient_zero (h : x.shortest.1 = 0) : x.mantissa = 0 ∧ x.shortest.2 = 0 := by
  by_cases hm : x.mantissa = 0
  · exact ⟨hm, congrArg Prod.snd (Binary64.shortest_of_zero hm)⟩
  · exact ((Binary64.size_of_covers (Binary64.shortest_covers hm) hm).1 h).elim

theorem firstExponent_of_zero (h : x.shortest.1 = 0) : firstExponent x.shortest.1 x.shortest.2 = 0 := by
  rw [h, (shortest_of_coefficient_zero h).2]
  rfl

theorem write_eq (x : Binary64) :
    numberLayout.write x = (if x.neg then ['-'] else []) ++ (ofBinary64 x).chars := by
  have he : (if x.shortest.1 = 0 then 0 else x.shortest.2 + ((Nat.toDigits 10 x.shortest.1).length - 1 : Nat)) =
      firstExponent x.shortest.1 x.shortest.2 := by
    split
    · next h => rw [firstExponent_of_zero h]
    · rfl
  have hmagnitude : (if numberLayout.positional (firstExponent x.shortest.1 x.shortest.2) then
        numberLayout.positionalText (Nat.toDigits 10 x.shortest.1) (firstExponent x.shortest.1 x.shortest.2)
      else numberLayout.scientificText (Nat.toDigits 10 x.shortest.1) (firstExponent x.shortest.1 x.shortest.2)) =
      (ofBinary64 x).chars := by
    rw [chars_positional, chars_scientific]
    exact (apply_ite chars _ _ _).symm
  unfold Binary64.Layout.write
  simp only [he, hmagnitude]
  split
  · rfl
  · rfl

theorem valid_ofBinary64 (x : Binary64) : (ofBinary64 x).Valid := by
  unfold ofBinary64
  simp only
  split
  · exact valid_positional firstExponent_of_zero
  · next hout =>
    have hc : x.shortest.1 ≠ 0 := fun hc => hout (by rw [firstExponent_of_zero hc]; decide)
    have hm : x.mantissa ≠ 0 := fun hm => hc (congrArg Prod.fst (Binary64.shortest_of_zero hm))
    obtain ⟨-, hlow, hhigh⟩ := Binary64.size_of_covers (Binary64.shortest_covers hm) hm
    have hpos := Binary64.digitCount_pos x.shortest.1
    refine valid_scientific hc ?_
    unfold firstExponent Cursor.greatestPower
    omega

/-- The numeral has a point or a power, so it is not taken for an integer. -/
theorem isReal_ofBinary64 (x : Binary64) : (ofBinary64 x).fraction ≠ none ∨ (ofBinary64 x).power ≠ none := by
  unfold ofBinary64 positional
  simp only
  split
  · left
    split
    · exact Option.some_ne_none _
    · split
      · exact Option.some_ne_none _
      · exact Option.some_ne_none _
  · exact Or.inr (Option.some_ne_none _)

theorem value_ofBinary64 (x : Binary64) :
    ((ofBinary64 x).coefficient : ℚ) * 10 ^ (ofBinary64 x).exponent = x.shortest.1 * 10 ^ x.shortest.2 := by
  unfold ofBinary64
  simp only
  split
  · exact value_positional _ _
  · exact value_scientific _ _

/-- The numeral is rounded to the number. -/
theorem ofDecimal_ofBinary64 (x : Binary64) :
    Binary64.ofDecimal x.neg (ofBinary64 x).coefficient (ofBinary64 x).exponent = some x := by
  have hvalue := value_ofBinary64 x
  by_cases hm : x.mantissa = 0
  · rw [Binary64.shortest_of_zero hm, Nat.cast_zero, zero_mul] at hvalue
    have hc : (ofBinary64 x).coefficient = 0 := by
      exact_mod_cast (mul_eq_zero.1 hvalue).resolve_right (ten_zpow_pos _).ne'
    rw [hc]
    exact Binary64.ofDecimal_zero hm _
  · exact Binary64.ofDecimal_eq (hvalue ▸ Binary64.shortest_covers hm) hm

end Numeral

/-! ## Reading a number back -/

namespace Cursor

variable {n : Numeral} {rest : List Char}

/-- A numeral with its sign is read as a number. -/
theorem scalar?_numeral (hvalid : n.Valid) (neg : Bool) (p : Place) :
    (⟨(if neg then ['-'] else []) ++ (n.chars ++ rest), p⟩ : Cursor).scalar? =
      some (((⟨n.chars ++ rest, p.skipAll (if neg then ['-'] else [])⟩ : Cursor).number neg).map
        fun (k, s) => (.number k, s)) := by
  cases neg with
  | true =>
    simp only [if_true, List.cons_append, List.nil_append, scalar?, drop_one]
    rfl
  | false =>
    obtain ⟨d, ds, hds, hd⟩ := hvalid.chars_eq_cons
    have hne : ∀ c, c.isDigit = false → d ≠ c := by
      rintro c hc rfl
      rw [hd] at hc
      cases hc
    simp only [Bool.false_eq_true, if_false, List.nil_append, hds, List.cons_append, scalar?,
      if_neg (hne 'n' rfl), if_neg (hne 't' rfl), if_neg (hne 'f' rfl), if_neg (hne '-' rfl), hd, if_true]
    rfl

/-- The digits of a number in the range of the integers. -/
theorem scalar?_integer (neg : Bool) {k : Nat} {m : Number} (hk : integer? neg k = some m) (h : Ends rest) (p : Place) :
    (⟨(if neg then ['-'] else []) ++ (Nat.toDigits 10 k ++ rest), p⟩ : Cursor).scalar? =
      some (.ok (.number m, ⟨rest, (p.skipAll (if neg then ['-'] else [])).skipAll (Nat.toDigits 10 k)⟩)) := by
  have hvalid := Numeral.valid_ofNat k
  rw [← Numeral.chars_ofNat, scalar?_numeral hvalid, number_append hvalid h, Numeral.coefficient_ofNat, hk]
  rfl

/-- A number of the binary format, as it is written. -/
theorem scalar?_real (x : Binary64) (h : Ends rest) (p : Place) :
    (⟨(if x.neg then ['-'] else []) ++ ((Numeral.ofBinary64 x).chars ++ rest), p⟩ : Cursor).scalar? =
      some (.ok (.number (.real x), ⟨rest, (p.skipAll (if x.neg then ['-'] else [])).skipAll
        (Numeral.ofBinary64 x).chars⟩)) := by
  have hvalid := Numeral.valid_ofBinary64 x
  rw [scalar?_numeral hvalid, number_append hvalid h]
  have hreal : ∀ s : Cursor, s.real x.neg (Numeral.ofBinary64 x).coefficient (Numeral.ofBinary64 x).exponent =
      .ok (.real x, s) := by
    intro s
    rw [real, Numeral.ofDecimal_ofBinary64]
  rcases Numeral.isReal_ofBinary64 x with hfraction | hpower
  · split
    · next hnone _ => exact (hfraction hnone).elim
    · rw [hreal]
      rfl
  · split
    · next hnone => exact (hpower hnone).elim
    · rw [hreal]
      rfl

/-- A number is read from the text that is written for it. -/
theorem scalar?_number (n : Number) (h : Ends rest) (p : Place) :
    (⟨n.chars ++ rest, p⟩ : Cursor).scalar? = some (.ok (.number n, ⟨rest, p.skipAll n.chars⟩)) := by
  cases n with
  | natural k => exact scalar?_integer false (dif_pos k.isLt) h p
  | negative k =>
    have hk : integer? true (k + 1) = some (.negative k) := dif_pos ⟨Nat.succ_pos _, k.isLt⟩
    exact scalar?_integer true hk h p
  | real x =>
    rw [Number.chars, Numeral.write_eq, List.append_assoc, Place.skipAll_append]
    exact scalar?_real x h p

end Cursor

theorem natural?_ofNat {n : Nat} (h : n < twoPow 64) : (ofNat n).natural? = some n :=
  congrArg some (Nat.mod_eq_of_lt h)

/-- A number begins with a sign or with a digit. -/
theorem chars_number_eq_cons (n : Number) : ∃ c cs, n.chars = c :: cs ∧ (c = '-' ∨ c.isDigit = true) := by
  cases n with
  | natural k =>
    obtain ⟨c, cs, hcs⟩ := List.exists_cons_of_ne_nil (Nat.toDigits_ne_nil (n := k) (b := 10))
    exact ⟨c, cs, hcs, Or.inr (isDigit_of_mem_toDigits (n := k) (by rw [hcs]; exact List.mem_cons_self))⟩
  | negative k => exact ⟨'-', _, rfl, Or.inl rfl⟩
  | real x =>
    obtain ⟨d, ds, hds, hd⟩ := (Numeral.valid_ofBinary64 x).chars_eq_cons
    rw [Number.chars, Numeral.write_eq, hds]
    split
    · exact ⟨'-', _, rfl, Or.inl rfl⟩
    · exact ⟨d, ds, rfl, Or.inr hd⟩

end Json

end FieldRules
