/-
What a glance at a value shows. The line for a value is told part by part (`Glimpse`), and it is the one that is
written (`glimpse_iff`). Whatever is in sight, through short lists and objects, stands in the line:
`Glimpse.exists_shown`.
-/
import FieldRules.Proofs.Json.Path
import FieldRules.Report.Run

namespace FieldRules

/-- The line for a value. A text stands in quotes and other scalars as in a document; a list of at most three items
and an object of at most four members have the lines of their parts in order, and longer ones their number. -/
inductive Glimpse : Json → String → Prop
  | null : Glimpse .null "null"
  | bool (b : Bool) : Glimpse (.bool b) (if b then "true" else "false")
  | number (n : Number) : Glimpse (.number n) (Json.number n).compact
  | text (s : String) : Glimpse (.text s) ("\"" ++ s ++ "\"")
  | list {shown : List (Json × String)} : shown.length ≤ 3 → (∀ e ∈ shown, Glimpse e.1 e.2) →
      Glimpse (.list (shown.map Prod.fst)) ("[" ++ Text.join ", " (shown.map Prod.snd) ++ "]")
  | longList {items : List Json} :
      3 < items.length → Glimpse (.list items) ("[" ++ toString items.length ++ " items]")
  | object {shown : List ((String × Json) × String)} : shown.length ≤ 4 → (∀ e ∈ shown, Glimpse e.1.2 e.2) →
      Glimpse (.object (shown.map Prod.fst))
        ("\x7b" ++ Text.join ", " (shown.map fun e => e.1.1 ++ ": " ++ e.2) ++ "\x7d")
  | longObject {members : List (String × Json)} :
      4 < members.length → Glimpse (.object members) ("\x7b" ++ toString members.length ++ " fields\x7d")

/-- A value and its part, with only lists of at most three items and objects of at most four members around it. -/
inductive Json.InSight : Json → Json → Prop
  | self {v : Json} : InSight v v
  | item {items : List Json} {v part : Json} :
      items.length ≤ 3 → v ∈ items → InSight v part → InSight (.list items) part
  | member {members : List (String × Json)} {k : String} {v part : Json} :
      members.length ≤ 4 → (k, v) ∈ members → InSight v part → InSight (.object members) part

/-! ## The line that is written -/

theorem glanceItems_eq_map (items : List Json) : glanceItems items = items.map glance := by
  induction items with
  | nil => rfl
  | cons v items ih => rw [glanceItems, ih, List.map_cons]

theorem glanceMembers_eq_map (members : List (String × Json)) :
    glanceMembers members = members.map fun m => m.1 ++ ": " ++ glance m.2 := by
  induction members with
  | nil => rfl
  | cons m members ih => rw [glanceMembers, ih, List.map_cons]

section
variable {v part : Json} {items : List Json} {members : List (String × Json)} {line : String}

theorem glance_list (h : items.length ≤ 3) :
    glance (.list items) = "[" ++ Text.join ", " (items.map glance) ++ "]" := by
  rw [glance, if_pos h, glanceItems_eq_map]

theorem glance_longList (h : 3 < items.length) :
    glance (.list items) = "[" ++ toString items.length ++ " items]" := by
  rw [glance, if_neg (Nat.not_le.2 h)]

theorem glance_object (h : members.length ≤ 4) : glance (.object members) =
    "\x7b" ++ Text.join ", " (members.map fun m => m.1 ++ ": " ++ glance m.2) ++ "\x7d" := by
  rw [glance, if_pos h, glanceMembers_eq_map]

theorem glance_longObject (h : 4 < members.length) :
    glance (.object members) = "\x7b" ++ toString members.length ++ " fields\x7d" := by
  rw [glance, if_neg (Nat.not_le.2 h)]

theorem Glimpse.eq_glance (h : Glimpse v line) : line = glance v := by
  induction h with
  | null => rfl
  | bool b => cases b <;> rfl
  | number n => rfl
  | text s => rfl
  | @list shown hshort _ ih =>
    rw [glance_list (by rwa [List.length_map]), List.map_map, List.map_congr_left ih]
    rfl
  | longList hlong => exact (glance_longList hlong).symm
  | @object shown hshort _ ih =>
    have hlines : ∀ e ∈ shown, e.1.1 ++ ": " ++ e.2 = e.1.1 ++ ": " ++ glance e.1.2 := by
      intro e he
      rw [ih e he]
    rw [glance_object (by rwa [List.length_map]), List.map_map, List.map_congr_left hlines]
    rfl
  | longObject hlong => exact (glance_longObject hlong).symm

theorem glimpse_glance (v : Json) : Glimpse v (glance v) := by
  induction v using Json.parts_induction with
  | null => exact .null
  | bool b => cases b <;> exact .bool _
  | number n => exact .number n
  | text s => exact .text s
  | list items ih =>
    by_cases hshort : items.length ≤ 3
    · have hshown := @Glimpse.list (items.map fun v => (v, glance v)) (by rwa [List.length_map])
        (List.forall_mem_map.2 ih)
      simp only [List.map_map, Function.comp_def, List.map_id'] at hshown
      rwa [glance_list hshort]
    · rw [glance_longList (Nat.not_le.1 hshort)]
      exact .longList (Nat.not_le.1 hshort)
  | object members ih =>
    by_cases hshort : members.length ≤ 4
    · have hshown := @Glimpse.object (members.map fun m => (m, glance m.2)) (by rwa [List.length_map])
        (List.forall_mem_map.2 ih)
      simp only [List.map_map, Function.comp_def, List.map_id'] at hshown
      rwa [glance_object hshort]
    · rw [glance_longObject (Nat.not_le.1 hshort)]
      exact .longObject (Nat.not_le.1 hshort)

/-- The line that is written for a value is its line, and no other is. -/
theorem glimpse_iff : Glimpse v line ↔ line = glance v := by
  constructor
  · exact Glimpse.eq_glance
  · rintro rfl
    exact glimpse_glance v

/-! ## Parts in sight -/

theorem Text.toList_infix_join (sep : String) {s : String} {lines : List String} (h : s ∈ lines) :
    s.toList <:+: (Text.join sep lines).toList := by
  induction lines with
  | nil => cases h
  | cons first lines ih =>
    cases lines with
    | nil =>
      rw [List.mem_singleton.1 h]
      exact List.infix_refl _
    | cons second lines =>
      rw [Text.join_cons_cons, String.toList_append, String.toList_append]
      rcases List.mem_cons.1 h with rfl | hrest
      · rw [List.append_assoc]
        exact (List.prefix_append _ _).isInfix
      · exact (ih hrest).trans (List.suffix_append _ _).isInfix

theorem infix_toList_enclosed {shown : List Char} {opening inner closing : String} (h : shown <:+: inner.toList) :
    shown <:+: (opening ++ inner ++ closing).toList := by
  rw [String.toList_append, String.toList_append]
  exact h.trans (List.infix_append _ _ _)

/-- A part of a value that is in sight is shown by its own line, within the line for the value. -/
theorem Glimpse.exists_shown (hin : v.InSight part) (h : Glimpse v line) :
    ∃ shown, Glimpse part shown ∧ shown.toList <:+: line.toList := by
  induction hin generalizing line with
  | self => exact ⟨line, h, List.infix_refl _⟩
  | item hshort hmem _ ih =>
    cases h with
    | longList hlong => exact absurd hshort (Nat.not_le.2 hlong)
    | list _ hparts =>
      obtain ⟨e, he, rfl⟩ := List.mem_map.1 hmem
      obtain ⟨shown, hshown, hwithin⟩ := ih (hparts e he)
      have hjoin := Text.toList_infix_join ", " (List.mem_map_of_mem (f := Prod.snd) he)
      exact ⟨shown, hshown, infix_toList_enclosed (hwithin.trans hjoin)⟩
  | member hshort hmem _ ih =>
    cases h with
    | longObject hlong => exact absurd hshort (Nat.not_le.2 hlong)
    | object _ hparts =>
      obtain ⟨e, he, heq⟩ := List.mem_map.1 hmem
      obtain ⟨shown, hshown, hwithin⟩ := ih (by simpa only [heq] using hparts e he)
      have hmember : shown.toList <:+: (e.1.1 ++ ": " ++ e.2).toList := by
        rw [String.toList_append]
        exact hwithin.trans (List.suffix_append _ _).isInfix
      have hjoin := Text.toList_infix_join ", " (List.mem_map_of_mem (f := fun e => e.1.1 ++ ": " ++ e.2) he)
      exact ⟨shown, hshown, infix_toList_enclosed (hmember.trans hjoin)⟩

end

end FieldRules
