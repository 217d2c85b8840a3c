/-
Tables are aligned. A reader who knows the cells of a line finds the separator behind a cell as the first sign after
the filling of that cell (`Table.SeparatorAt`), so a cell may hold that sign itself. What is a separator depends on
what stands in front of it only, which is why blanks at the end may be trimmed away. In all lines of a table the
separators behind one column have the same offset, the one that the widths of the columns give: `Table.write_aligned`.
-/
import FieldRules.Report.Console
import FieldRules.Proofs.Text.Trim
import Mathlib.Algebra.Ring.Nat
import Mathlib.Data.List.Forall2
import Mathlib.Order.Bounds.Basic

namespace FieldRules

/-! ## Texts and their lines -/

namespace Text

variable {sep : Char} {line rest : List Char} {lines : List (List Char)}

theorem splitAt_append_cons (h : sep ∉ line) : splitAt sep (line ++ sep :: rest) = line :: splitAt sep rest := by
  induction line with
  | nil => exact if_pos rfl
  | cons c line ih =>
    rw [List.mem_cons, not_or] at h
    rw [List.cons_append, splitAt, if_neg (Ne.symm h.1), ih h.2]

/-- Behind the last of the lines, each closed by a line break, nothing is left. -/
theorem splitAt_lines (h : ∀ line ∈ lines, sep ∉ line) :
    splitAt sep (lines.flatMap (· ++ [sep])) = lines ++ [[]] := by
  induction lines with
  | nil => rfl
  | cons line lines ih =>
    obtain ⟨hline, hlines⟩ := List.forall_mem_cons.1 h
    rw [List.flatMap_cons, List.append_assoc, List.singleton_append, splitAt_append_cons hline, ih hlines]
    rfl

theorem toList_pushn (s : String) (c : Char) (n : Nat) : (s.pushn c n).toList = s.toList ++ List.replicate n c := by
  rw [String.pushn_eq_repeat_push]
  induction n with
  | zero => exact (List.append_nil _).symm
  | succ n ih => rw [Nat.repeat, String.toList_push, ih, List.replicate_succ', List.append_assoc]

end Text

namespace Table

/-! ## The widths of columns -/

/-- The texts of a column: its header and the cells of the rows that reach it. -/
def column (t : Table) (j : Nat) : List String :=
  t.headers[j]?.toList ++ t.rows.filterMap (·[j]?)

/-- The greatest number of characters of a text in a column. -/
def columnWidth (t : Table) (j : Nat) : Nat :=
  ((t.column j).map String.length).max?.getD 0

def columnWidths (t : Table) : List Nat :=
  (List.range t.headers.length).map t.columnWidth

section
variable {t : Table} {ws : List Nat} {cells : List String} {j : Nat}

theorem getElem?_widen (ws : List Nat) (cells : List String) (j : Nat) :
    (widen ws cells)[j]? = ws[j]?.map fun w => (cells[j]?.toList.map String.length).foldl max w := by
  induction ws generalizing cells j with
  | nil => rfl
  | cons w ws ih =>
    cases cells with
    | nil => exact Option.map_id'.symm
    | cons cell cells =>
      cases j with
      | zero => rfl
      | succ j => exact ih cells j

/-- Row by row a column comes to the greatest of its first width and the lengths of its cells. -/
theorem getElem?_foldl_widen (rows : List (List String)) (ws : List Nat) (j : Nat) :
    (rows.foldl widen ws)[j]? = ws[j]?.map fun w => ((rows.filterMap (·[j]?)).map String.length).foldl max w := by
  induction rows generalizing ws with
  | nil => exact Option.map_id'.symm
  | cons cells rows ih =>
    rw [List.foldl_cons, ih, getElem?_widen, Option.map_map, List.filterMap_cons]
    cases cells[j]? <;> rfl

theorem widths_eq (t : Table) : t.widths = t.columnWidths := by
  refine List.ext_getElem? fun j => ?_
  rw [widths, getElem?_foldl_widen, columnWidths, List.getElem?_map, List.getElem?_map]
  cases hheader : t.headers[j]? with
  | none =>
    rw [List.getElem?_eq_none (by rw [List.length_range]; exact List.getElem?_eq_none_iff.1 hheader)]
    rfl
  | some header =>
    have hlt : j < t.headers.length := (List.getElem?_eq_some_iff.1 hheader).1
    rw [List.getElem?_range hlt, Option.map_some, Option.map_some, Option.map_some, columnWidth, column, hheader,
      Option.toList_some, List.singleton_append, List.map_cons, List.max?_cons', Option.getD_some]

theorem isGreatest_columnWidth (h : j < t.headers.length) :
    IsGreatest {n | ∃ text ∈ t.column j, text.length = n} (t.columnWidth j) := by
  have hcolumn : (t.column j).map String.length ≠ [] := by
    simp [column, List.getElem?_eq_getElem h]
  obtain ⟨w, hw⟩ := Option.ne_none_iff_exists'.1 (mt List.max?_eq_none_iff.1 hcolumn)
  obtain ⟨hmem, hle⟩ := List.max?_eq_some_iff.1 hw
  rw [columnWidth, hw, Option.getD_some]
  refine ⟨List.mem_map.1 hmem, ?_⟩
  rintro n ⟨text, htext, rfl⟩
  exact hle _ (List.mem_map_of_mem htext)

/-- A line of cells fits the table if every cell belongs to its column. -/
def Fits (t : Table) (cells : List String) : Prop :=
  cells.length ≤ t.headers.length ∧ ∀ j cell, cells[j]? = some cell → cell.length ≤ t.columnWidth j

theorem length_le_columnWidth {text : String} (h : text ∈ t.column j) : text.length ≤ t.columnWidth j :=
  List.le_max?_getD_of_mem (List.mem_map_of_mem h)

theorem fits_headers (t : Table) : t.Fits t.headers := by
  refine ⟨le_rfl, fun j header hheader => length_le_columnWidth ?_⟩
  rw [column, hheader]
  exact List.mem_append_left _ List.mem_cons_self

theorem fits_of_mem (hmem : cells ∈ t.rows) (hlength : cells.length ≤ t.headers.length) : t.Fits cells :=
  ⟨hlength, fun _ _ hcell =>
    length_le_columnWidth (List.mem_append_right _ (List.mem_filterMap.2 ⟨cells, hmem, hcell⟩))⟩

end

/-! ## Separators in a line -/

/-- What stands in front of the `k`-th separator of a line that shows `cells`: the first `k` of them, each with at
least one sign that fills it up, and the separators between them, each with one more such sign behind it. -/
inductive IsFront (fill mark : Char) : List String → Nat → List Char → Prop
  | first (cell next : String) (cells : List String) (m : Nat) :
    IsFront fill mark (cell :: next :: cells) 1 (cell.toList ++ List.replicate (m + 1) fill)
  | behind (cell : String) (m : Nat) {cells : List String} {k : Nat} {front : List Char} :
    IsFront fill mark cells k front →
      IsFront fill mark (cell :: cells) (k + 1) (cell.toList ++ (List.replicate (m + 1) fill ++ mark :: fill :: front))

/-- The `k`-th separator of a line that shows `cells` has `n` characters in front of it. -/
def SeparatorAt (fill mark : Char) (cells : List String) (line : List Char) (k n : Nat) : Prop :=
  ∃ front rest, line = front ++ mark :: rest ∧ IsFront fill mark cells k front ∧ front.length = n

/-- Where the `k`-th separator belongs: behind `k` columns, the separators between these with a sign on either side,
and one sign more. -/
def separatorOffset (ws : List Nat) (k : Nat) : Nat :=
  (ws.take k).sum + 3 * (k - 1) + 1

/-- The separators of a line that shows `cells` are those between two of them, each where it belongs. -/
def IsAligned (ws : List Nat) (fill mark : Char) (cells : List String) (line : List Char) : Prop :=
  ∀ k n, SeparatorAt fill mark cells line k n ↔ (0 < k ∧ k < cells.length) ∧ n = separatorOffset ws k

section
variable {fill mark : Char} {ws : List Nat} {cells : List String} {line : List Char} {k n : Nat}

theorem IsFront.between {front : List Char} (h : IsFront fill mark cells k front) : 0 < k ∧ k < cells.length := by
  induction h with
  | first cell next cells => exact ⟨Nat.one_pos, Nat.succ_lt_succ (Nat.succ_pos _)⟩
  | behind cell m _ ih => exact ⟨Nat.succ_pos _, Nat.succ_lt_succ ih.2⟩

theorem SeparatorAt.between (h : SeparatorAt fill mark cells line k n) : 0 < k ∧ k < cells.length := by
  obtain ⟨_, _, -, hfront, -⟩ := h
  exact hfront.between

/-- Trimming removes no separator and makes none. -/
theorem separatorAt_trimEnd_iff (hmark : Text.isBlank mark = false) :
    SeparatorAt fill mark cells (Text.trimEnd line) k n ↔ SeparatorAt fill mark cells line k n := by
  constructor
  · rintro ⟨front, rest, htrimmed, hfront⟩
    obtain ⟨blanks, hblanks⟩ := Text.trimEnd_prefix line
    exact ⟨front, rest ++ blanks, by rw [← hblanks, htrimmed, List.append_assoc, List.cons_append], hfront⟩
  · rintro ⟨front, rest, rfl, hfront⟩
    exact ⟨front, Text.trimEnd rest, Text.trimEnd_append_cons hmark front rest, hfront⟩

theorem replicate_append_cons_inj (hne : fill ≠ mark) {m m' : Nat} {rest rest' : List Char}
    (h : List.replicate m fill ++ mark :: rest = List.replicate m' fill ++ mark :: rest') : m = m' ∧ rest = rest' := by
  induction m generalizing m' with
  | zero =>
    cases m' with
    | zero => exact ⟨rfl, (List.cons.inj h).2⟩
    | succ m' => exact (hne (List.cons.inj h).1.symm).elim
  | succ m ih =>
    cases m' with
    | zero => exact (hne (List.cons.inj h).1).elim
    | succ m' =>
      obtain ⟨rfl, hrest⟩ := ih (List.cons.inj h).2
      exact ⟨rfl, hrest⟩

theorem length_filled (fill : Char) (cell : String) (m : Nat) :
    (cell.toList ++ List.replicate m fill).length = cell.length + m := by
  rw [List.length_append, String.length_toList, List.length_replicate]

theorem length_filled_append (fill mark : Char) (cell : String) (m : Nat) (front : List Char) :
    (cell.toList ++ (List.replicate (m + 1) fill ++ mark :: fill :: front)).length =
      cell.length + m + 3 + front.length := by
  rw [← List.append_assoc, List.length_append, length_filled, List.length_cons, List.length_cons]
  omega

/-- The sign behind the filling of a cell is the first separator, and the others are those of the rest. -/
theorem separatorAt_cons_iff (hne : fill ≠ mark) {cell next : String} {m : Nat} :
    SeparatorAt fill mark (cell :: next :: cells)
        (cell.toList ++ (List.replicate (m + 1) fill ++ mark :: fill :: line)) k n ↔
      k = 1 ∧ n = cell.length + m + 1 ∨
        ∃ k' n', SeparatorAt fill mark (next :: cells) line k' n' ∧ k = k' + 1 ∧ n = cell.length + m + 3 + n' := by
  constructor
  · -- there is one way to read the cell and its filling
    rintro ⟨front, rest, hline, hfront, rfl⟩
    cases hfront with
    | first _ _ _ m' =>
      rw [List.append_assoc] at hline
      obtain ⟨hm, -⟩ := replicate_append_cons_inj hne (List.append_cancel_left hline)
      cases hm
      exact Or.inl ⟨rfl, length_filled fill cell (m + 1)⟩
    | @behind _ m' _ k front hfront =>
      rw [List.append_assoc, List.append_assoc] at hline
      obtain ⟨hm, hrest⟩ := replicate_append_cons_inj hne (List.append_cancel_left hline)
      cases hm
      exact Or.inr ⟨k, front.length, ⟨front, rest, (List.cons.inj hrest).2, hfront, rfl⟩, rfl,
        length_filled_append fill mark cell m front⟩
  · rintro (⟨rfl, rfl⟩ | ⟨k, _, ⟨front, rest, rfl, hfront, rfl⟩, rfl, rfl⟩)
    · exact ⟨_, fill :: line, (List.append_assoc _ _ _).symm, .first cell next cells m,
        length_filled fill cell (m + 1)⟩
    · refine ⟨_, rest, ?_, .behind cell m hfront, length_filled_append fill mark cell m front⟩
      simp only [List.append_assoc, List.cons_append]

theorem separatorOffset_one (w : Nat) (ws : List Nat) : separatorOffset (w :: ws) 1 = w + 1 := by
  rw [separatorOffset, List.take_succ_cons, List.take_zero, List.sum_singleton]

theorem separatorOffset_succ (w : Nat) (ws : List Nat) (hk : 0 < k) :
    separatorOffset (w :: ws) (k + 1) = w + 3 + separatorOffset ws k := by
  rw [separatorOffset, separatorOffset, List.take_succ_cons, List.sum_cons]
  omega

/-- With one cell there is nothing to separate. -/
theorem isAligned_of_length_le_one (h : cells.length ≤ 1) : IsAligned ws fill mark cells line := by
  intro k n
  have hnone : ¬ (0 < k ∧ k < cells.length) := fun hk => by omega
  exact ⟨fun hsep => absurd hsep.between hnone, fun hk => absurd hk.1 hnone⟩

/-- Only the columns in front of the last cell matter. -/
theorem IsAligned.of_take (h : IsAligned (ws.take cells.length) fill mark cells line) :
    IsAligned ws fill mark cells line := by
  intro k n
  rw [h k n, and_congr_right_iff]
  intro hk
  rw [separatorOffset, List.take_take, Nat.min_eq_left hk.2.le, separatorOffset]

/-- A filled cell in front of an aligned line, with a separator between them. -/
theorem IsAligned.cons (hne : fill ≠ mark) {next : String} (h : IsAligned ws fill mark (next :: cells) line)
    (cell : String) (m : Nat) :
    IsAligned ((cell.length + m) :: ws) fill mark (cell :: next :: cells)
      (cell.toList ++ (List.replicate (m + 1) fill ++ mark :: fill :: line)) := by
  intro k n
  rw [separatorAt_cons_iff hne]
  constructor
  · rintro (⟨rfl, rfl⟩ | ⟨k, _, hsep, rfl, rfl⟩)
    · exact ⟨⟨Nat.one_pos, Nat.succ_lt_succ (Nat.succ_pos _)⟩, (separatorOffset_one _ _).symm⟩
    · obtain ⟨⟨hpos, hlt⟩, rfl⟩ := (h _ _).1 hsep
      exact ⟨⟨Nat.succ_pos k, Nat.succ_lt_succ hlt⟩, (separatorOffset_succ _ _ hpos).symm⟩
  · rintro ⟨⟨hpos, hlt⟩, rfl⟩
    -- the separator behind this cell, or one of the line behind it
    obtain ⟨k, rfl⟩ := Nat.exists_eq_succ_of_ne_zero hpos.ne'
    rcases Nat.eq_zero_or_pos k with rfl | hk
    · exact Or.inl ⟨rfl, separatorOffset_one _ _⟩
    · exact Or.inr ⟨k, _, (h _ _).2 ⟨⟨hk, Nat.lt_of_succ_lt_succ hlt⟩, rfl⟩, rfl, separatorOffset_succ _ _ hk⟩

end

/-! ## Cells that are filled up -/

/-- A piece of a line: a cell, filled up. -/
def IsFilled (fill : Char) (cell piece : String) : Prop :=
  ∃ m, piece.toList = cell.toList ++ List.replicate m fill

section
variable {fill mark : Char} {sep : String} {cells pieces : List String} {ws : List Nat}

theorem isFilled_pushn (fill : Char) (cell : String) (m : Nat) : IsFilled fill cell (cell.pushn fill m) :=
  ⟨m, Text.toList_pushn cell fill m⟩

theorem isFilled_pad (w : Nat) (cell : String) : IsFilled ' ' cell (pad w cell) := by
  refine ⟨w - cell.length, ?_⟩
  rw [pad, String.toList_append, Text.toList_pushn]
  rfl

theorem forall₂_padAll (ws : List Nat) (cells : List String) :
    List.Forall₂ (IsFilled ' ') cells (padAll ws cells) := by
  induction cells generalizing ws with
  | nil => cases ws <;> exact .nil
  | cons cell cells ih =>
    cases ws with
    | nil => exact List.forall₂_same.2 fun _ _ => ⟨0, (List.append_nil _).symm⟩
    | cons w ws => exact .cons (isFilled_pad w cell) (ih ws)

theorem length_pad {w : Nat} {cell : String} (h : cell.length ≤ w) : (pad w cell).length = w := by
  rw [pad, String.length_append, String.length_pushn]
  exact (congrArg _ (Nat.zero_add _)).trans (Nat.add_sub_cancel' h)

theorem map_length_padAll
    (h : ∀ (j : Nat) (cell : String), cells[j]? = some cell → ∃ w, ws[j]? = some w ∧ cell.length ≤ w) :
    (padAll ws cells).map String.length = ws.take cells.length := by
  induction cells generalizing ws with
  | nil => cases ws <;> rfl
  | cons cell cells ih =>
    obtain ⟨w, hw, hle⟩ := h 0 cell List.getElem?_cons_zero
    cases ws with
    | nil => cases hw
    | cons w' ws =>
      cases hw
      rw [padAll, List.map_cons, length_pad hle, ih fun j => h (j + 1), List.length_cons, List.take_succ_cons]

/-- Pieces joined by separators are aligned by their own lengths. -/
theorem isAligned_join (hne : fill ≠ mark) (hsep : sep.toList = [fill, mark, fill])
    (h : List.Forall₂ (IsFilled fill) cells pieces) :
    IsAligned (pieces.map String.length) fill mark cells (Text.join sep pieces).toList := by
  induction h with
  | nil => exact isAligned_of_length_le_one (Nat.zero_le 1)
  | @cons cell piece cells pieces hpiece htail ih =>
    cases htail with
    | nil => exact isAligned_of_length_le_one le_rfl
    | cons =>
      obtain ⟨m, hm⟩ := hpiece
      have hlength : piece.length = cell.length + m := by
        rw [← String.length_toList, hm, length_filled]
      rw [List.map_cons, hlength, Text.join_cons_cons, String.toList_append, String.toList_append, hm, hsep]
      have hstep := ih.cons hne cell m
      simpa only [List.replicate_succ', List.append_assoc, List.cons_append, List.nil_append] using hstep

theorem not_mem_join {c : Char} (hsep : c ∉ sep.toList) (hfill : c ≠ fill)
    (h : List.Forall₂ (IsFilled fill) cells pieces) (hcells : ∀ cell ∈ cells, c ∉ cell.toList) :
    c ∉ (Text.join sep pieces).toList := by
  induction h with
  | nil => exact List.not_mem_nil
  | @cons cell piece cells pieces hpiece htail ih =>
    obtain ⟨hcell, hcells⟩ := List.forall_mem_cons.1 hcells
    obtain ⟨m, hm⟩ := hpiece
    have hnot : c ∉ piece.toList := by
      rw [hm, List.mem_append, not_or]
      exact ⟨hcell, fun hmem => hfill (List.eq_of_mem_replicate hmem)⟩
    cases htail with
    | nil => exact hnot
    | cons =>
      rw [Text.join_cons_cons, String.toList_append, String.toList_append, List.mem_append, List.mem_append, not_or,
        not_or]
      exact ⟨⟨hnot, hsep⟩, ih hcells⟩

end

/-! ## The lines of a table -/

/-- The line of a row: trimmed at its end, its separators where they belong, and these the ones of the whole row. -/
structure IsRowLine (t : Table) (cells : List String) (line : List Char) : Prop where
  line_eq : line = Text.trimEnd (rowLine t.widths cells).toList
  aligned : IsAligned t.columnWidths ' ' '│' cells line
  separatorAt_iff : ∀ k n, SeparatorAt ' ' '│' cells line k n ↔
    SeparatorAt ' ' '│' cells (rowLine t.widths cells).toList k n

/-- A text shows a table in lines with their separators below each other: the headers, a rule, which is a line of
empty cells, and the rows. -/
def IsShownBy (t : Table) (text : String) : Prop :=
  ∃ header rule rows, Text.splitAt '\n' text.toList = header :: rule :: rows ++ [[]] ∧
    IsAligned t.columnWidths ' ' '│' t.headers header ∧
    IsAligned t.columnWidths '─' '┼' (t.headers.map fun _ => "") rule ∧
    List.Forall₂ t.IsRowLine t.rows rows

section
variable {t : Table} {cells : List String} {ws : List Nat}

theorem forall₂_rule (ws : List Nat) : List.Forall₂ (IsFilled '─') (ws.map fun _ => "") (ws.map ("".pushn '─')) := by
  rw [List.forall₂_map_left_iff, List.forall₂_map_right_iff]
  exact List.forall₂_same.2 fun w _ => isFilled_pushn '─' "" w

theorem isAligned_rowLine (h : t.Fits cells) :
    IsAligned t.columnWidths ' ' '│' cells (rowLine t.widths cells).toList := by
  have hlength : (padAll t.widths cells).map String.length = t.columnWidths.take cells.length := by
    rw [← widths_eq]
    refine map_length_padAll fun j cell hcell => ⟨t.columnWidth j, ?_, h.2 j cell hcell⟩
    have hlt : j < t.headers.length := (List.getElem?_eq_some_iff.1 hcell).1.trans_le h.1
    rw [widths_eq, columnWidths, List.getElem?_map, List.getElem?_range hlt, Option.map_some]
  have hjoin : IsAligned ((padAll t.widths cells).map String.length) ' ' '│' cells (rowLine t.widths cells).toList :=
    isAligned_join (by decide) rfl (forall₂_padAll t.widths cells)
  rw [hlength] at hjoin
  exact hjoin.of_take

theorem isAligned_separator (t : Table) :
    IsAligned t.columnWidths '─' '┼' (t.headers.map fun _ => "") (separator t.widths).toList := by
  have hcells : t.headers.map (fun _ => "") = t.columnWidths.map fun _ => "" := by
    rw [List.map_const', List.map_const', columnWidths, List.length_map, List.length_range]
  have hlength : (t.columnWidths.map ("".pushn '─')).map String.length = t.columnWidths := by
    have hwidth : ∀ w, ("".pushn '─' w).length = w := fun w => (String.length_pushn '─' w).trans (Nat.zero_add w)
    rw [List.map_map]
    exact List.map_id'' hwidth _
  have hjoin : IsAligned ((t.columnWidths.map ("".pushn '─')).map String.length) '─' '┼'
      (t.columnWidths.map fun _ => "") (separator t.columnWidths).toList :=
    isAligned_join (by decide) rfl (forall₂_rule t.columnWidths)
  rw [hlength] at hjoin
  rwa [hcells, widths_eq]

theorem toList_stripEnd (s : String) : (stripEnd s).toList = Text.trimEnd s.toList :=
  String.toList_ofList

theorem isRowLine_stripEnd (h : t.Fits cells) : t.IsRowLine cells (stripEnd (rowLine t.widths cells)).toList := by
  have hiff : ∀ k n, SeparatorAt ' ' '│' cells (stripEnd (rowLine t.widths cells)).toList k n ↔
      SeparatorAt ' ' '│' cells (rowLine t.widths cells).toList k n := by
    intro k n
    rw [toList_stripEnd]
    exact separatorAt_trimEnd_iff (by decide)
  exact ⟨toList_stripEnd _, fun k n => (hiff k n).trans (isAligned_rowLine h k n), hiff⟩

theorem not_mem_rowLine (h : ∀ cell ∈ cells, '\n' ∉ cell.toList) : '\n' ∉ (rowLine ws cells).toList :=
  not_mem_join (by decide) (by decide) (forall₂_padAll ws cells) h

theorem not_mem_separator (ws : List Nat) : '\n' ∉ (separator ws).toList := by
  refine not_mem_join (by decide) (by decide) (forall₂_rule ws) fun cell hcell => ?_
  obtain ⟨w, -, rfl⟩ := List.mem_map.1 hcell
  exact List.not_mem_nil

theorem not_mem_lines (h : ∀ cells ∈ t.headers :: t.rows, ∀ cell ∈ cells, '\n' ∉ cell.toList) :
    ∀ line ∈ t.lines.map String.toList, '\n' ∉ line := by
  obtain ⟨hheaders, hrows⟩ := List.forall_mem_cons.1 h
  rw [lines, List.map_cons, List.map_cons, List.map_map]
  refine List.forall_mem_cons.2 ⟨not_mem_rowLine hheaders, List.forall_mem_cons.2 ⟨not_mem_separator _, ?_⟩⟩
  intro line hline
  obtain ⟨cells, hcells, rfl⟩ := List.mem_map.1 hline
  rw [Function.comp_apply, toList_stripEnd]
  exact fun hmem => not_mem_rowLine (hrows cells hcells) ((Text.trimEnd_prefix _).subset hmem)

/-- Without colours a table comes to its lines, each closed by a line break. -/
theorem toList_write_table (t : Table) (quiet : Bool) :
    (Console.write ⟨.human, false, quiet⟩ (.table t)).toList = (t.lines.map String.toList).flatMap (· ++ ['\n']) := by
  have hwrite : Console.write ⟨.human, false, quiet⟩ (.table t) = String.join (t.lines.map (· ++ "\n")) := by
    rw [lines, List.map_cons, String.join_cons]
    rfl
  rw [hwrite, String.toList_join, List.flatMap_map, List.flatMap_map]
  simp only [String.toList_append]
  rfl

/-- A table for people, without colours, is shown in lines whose separators stand below each other, where a column is
as wide as the longest text in it. -/
theorem write_aligned (hrows : ∀ cells ∈ t.rows, cells.length ≤ t.headers.length)
    (hbreaks : ∀ cells ∈ t.headers :: t.rows, ∀ cell ∈ cells, '\n' ∉ cell.toList) (quiet : Bool) :
    (∀ j < t.headers.length, IsGreatest {n | ∃ text ∈ t.column j, text.length = n} (t.columnWidth j)) ∧
    t.IsShownBy (Console.write ⟨.human, false, quiet⟩ (.table t)) := by
  refine ⟨fun j => isGreatest_columnWidth, _, _, t.rows.map fun cells => (stripEnd (rowLine t.widths cells)).toList, ?_,
    isAligned_rowLine t.fits_headers, isAligned_separator t, ?_⟩
  · rw [toList_write_table, Text.splitAt_lines (not_mem_lines hbreaks), lines, List.map_cons, List.map_cons,
      List.map_map]
    rfl
  · rw [List.forall₂_map_right_iff, List.forall₂_same]
    exact fun cells hcells => isRowLine_stripEnd (fits_of_mem hcells (hrows cells hcells))

/-- A table with rows that stop early, empty cells, blanks at the end of a cell, and cells that hold the separator. -/
def sampleTable : Table :=
  ⟨["größe", "│", ""], [["a │ b", "", ""], [], ["名前", "x "], ["", "", "\u3000"]]⟩

theorem write_aligned_sampleTable :
    (∀ cells ∈ sampleTable.rows, cells.length ≤ sampleTable.headers.length) ∧
    (∀ cells ∈ sampleTable.headers :: sampleTable.rows, ∀ cell ∈ cells, '\n' ∉ cell.toList) ∧
    IsGreatest {n | ∃ text ∈ sampleTable.column 0, text.length = n} 5 ∧
    sampleTable.IsShownBy (Console.write ⟨.human, false, true⟩ (.table sampleTable)) := by
  have hrows : ∀ cells ∈ sampleTable.rows, cells.length ≤ sampleTable.headers.length := by decide
  have hbreaks : ∀ cells ∈ sampleTable.headers :: sampleTable.rows, ∀ cell ∈ cells, '\n' ∉ cell.toList := by decide
  obtain ⟨hgreatest, hshown⟩ := write_aligned hrows hbreaks true
  exact ⟨hrows, hbreaks, hgreatest 0 (by decide), hshown⟩

end

end Table

end FieldRules
