/-
Redaction of values. Whatever stands under a sensitive key is replaced as a whole, and at every place outside of
such keys nothing changes but texts. So values that differ under sensitive keys alone come out the same
(`redact_shows`).
-/
import FieldRules.Redaction
import FieldRules.Proofs.Json.Path
import Mathlib.Data.List.Basic

namespace FieldRules.Redaction

open Json

/-! ## Places -/

/-- A step to what a sensitive key holds. -/
def Hidden : PathStep → Prop
  | .item _ => False
  | .member _ key => isSensitiveKey key = true

instance : DecidablePred Hidden
  | .item _ => inferInstanceAs (Decidable False)
  | .member _ key => inferInstanceAs (Decidable (isSensitiveKey key = true))

/-- A path that passes no sensitive key. -/
def Visible (path : List PathStep) : Prop :=
  ∀ step ∈ path, ¬ Hidden step

instance : DecidablePred Visible := fun path =>
  inferInstanceAs (Decidable (∀ step ∈ path, ¬ Hidden step))

/-- Values that are equal up to what sensitive keys hold, at any depth. -/
def AgreeOutside (v w : Json) : Prop :=
  ∀ path, Visible path → (v.at? path).map layer = (w.at? path).map layer

theorem visible_nil : Visible [] :=
  List.forall_mem_nil _

theorem visible_cons {step : PathStep} {path : List PathStep} :
    Visible (step :: path) ↔ ¬ Hidden step ∧ Visible path :=
  List.forall_mem_cons

/-! ## One layer -/

/-- A layer with its secrets masked. -/
def maskLayer : Layer → Layer
  | .text s => .text (redactText s)
  | layer => layer

section
variable {v w : Json} {step : PathStep} {path : List PathStep}

theorem redactItems_eq_map (items : List Json) : redactItems items = items.map redact := by
  induction items with
  | nil => rw [redactItems, List.map_nil]
  | cons v rest ih => rw [redactItems, ih, List.map_cons]

/-- A member with its secrets masked. -/
def redactMember (e : String × Json) : String × Json :=
  (e.1, if isSensitiveKey e.1 then .text (String.ofList mask) else redact e.2)

theorem redactMembers_eq_map (members : List (String × Json)) :
    redactMembers members = members.map redactMember := by
  induction members with
  | nil => rw [redactMembers, List.map_nil]
  | cons e rest ih => rw [redactMembers, ih, List.map_cons, redactMember]

theorem redact_list (items : List Json) : redact (.list items) = .list (items.map redact) := by
  rw [redact, redactItems_eq_map]

theorem redact_object (members : List (String × Json)) :
    redact (.object members) = .object (members.map redactMember) := by
  rw [redact, redactMembers_eq_map]

theorem layer_redact (v : Json) : (redact v).layer = maskLayer v.layer := by
  cases v with
  | list items => rw [redact_list, layer, List.length_map]; rfl
  | object members =>
    rw [redact_object, layer, List.map_map]
    rfl
  | _ => rw [redact] <;> simp [layer, maskLayer]

theorem step?_redact_member (v : Json) (i : Nat) (key : String) :
    (redact v).step? (.member i key) = (v.step? (.member i key)).map
      (if isSensitiveKey key then fun _ => .text (String.ofList mask) else redact) := by
  cases v with
  | object members =>
    rw [redact_object, step?, step?, List.getElem?_map]
    cases members[i]? with
    | none => rfl
    | some e =>
      show (if e.1 = key then some (redactMember e).2 else none) =
        Option.map _ (if e.1 = key then some e.2 else none)
      by_cases hkey : e.1 = key
      · rw [if_pos hkey, if_pos hkey, redactMember, hkey, Option.map_some]
        split <;> rfl
      · rw [if_neg hkey, if_neg hkey]; rfl
  | list items => rw [redact_list]; rfl
  | _ => rw [redact] <;> simp [step?]

theorem step?_redact (h : ¬ Hidden step) : (redact v).step? step = (v.step? step).map redact := by
  cases step with
  | member i key =>
    have hkey : ¬ isSensitiveKey key = true := h
    rw [step?_redact_member, if_neg hkey]
  | item i =>
    cases v with
    | list items => rw [redact_list, step?, step?, List.getElem?_map]
    | object members => rw [redact_object]; rfl
    | _ => rw [redact] <;> simp [step?]

/-! ## Every depth -/

theorem at?_redact (h : Visible path) : (redact v).at? path = (v.at? path).map redact := by
  induction path generalizing v with
  | nil => rfl
  | cons step path ih =>
    obtain ⟨hstep, hpath⟩ := visible_cons.1 h
    rw [at?_cons, at?_cons, step?_redact hstep, Option.map_bind, Option.bind_map]
    exact Option.bind_congr fun part _ => ih hpath

theorem at?_redact_of_sensitive (h : Visible path) (i : Nat) {key : String} (hkey : isSensitiveKey key = true) :
    (redact v).at? (path ++ [.member i key]) =
      (v.at? (path ++ [.member i key])).map fun _ => .text (String.ofList mask) := by
  rw [at?_append, at?_append, at?_redact h, Option.map_bind, Option.bind_map]
  refine Option.bind_congr fun part _ => ?_
  show (redact part).at? [.member i key] = (part.at? [.member i key]).map _
  rw [at?_singleton, at?_singleton, step?_redact_member, if_pos hkey]

theorem AgreeOutside.layer_eq (h : AgreeOutside v w) : v.layer = w.layer :=
  Option.some.inj (h [] visible_nil)

/-- Parts of values that agree, behind the same step, agree. -/
theorem AgreeOutside.of_step {part part' : Json} (h : AgreeOutside v w) (hstep : ¬ Hidden step)
    (hv : v.step? step = some part) (hw : w.step? step = some part') : AgreeOutside part part' := by
  intro path hpath
  have hpart := h (step :: path) (visible_cons.2 ⟨hstep, hpath⟩)
  rwa [at?_cons, at?_cons, hv, hw] at hpart

/-- Objects with the same keys agree when their values under other than sensitive keys do. -/
theorem agreeOutside_object {members members' : List (String × Json)}
    (hkeys : members.map Prod.fst = members'.map Prod.fst)
    (hvalues : ∀ (i : Nat) (e e' : String × Json), members[i]? = some e → members'[i]? = some e' →
      ¬ isSensitiveKey e.1 = true → AgreeOutside e.2 e'.2) :
    AgreeOutside (.object members) (.object members') := by
  intro path hpath
  cases path with
  | nil => exact congrArg (fun keys => some (Layer.object keys)) hkeys
  | cons step path =>
    obtain ⟨hstep, hrest⟩ := visible_cons.1 hpath
    cases step with
    | item i => rfl
    | member i key =>
      have hat := congrArg (fun keys : List String => keys[i]?) hkeys
      rw [List.getElem?_map, List.getElem?_map] at hat
      rw [at?_cons, at?_cons, step?, step?]
      cases he : members[i]? with
      | none =>
        rw [he] at hat
        rw [Option.map_eq_none_iff.1 hat.symm]
      | some e =>
        rw [he] at hat
        obtain ⟨e', he', hkey⟩ := Option.map_eq_some_iff.1 hat.symm
        rw [he', Option.bind_some, Option.bind_some, hkey]
        by_cases h : e.1 = key
        · subst h
          rw [if_pos rfl, if_pos rfl]
          exact hvalues i e e' he he' hstep path hrest
        · rw [if_neg h, if_neg h]

theorem redact_eq_of_agreeOutside (h : AgreeOutside v w) : redact v = redact w := by
  induction v using parts_induction generalizing w with
  | null | bool | number | text =>
    have hlayer := h.layer_eq
    cases w <;> cases hlayer
    rfl
  | list items ih =>
    obtain ⟨items', rfl, hlength⟩ := layer_eq_list_iff.1 h.layer_eq.symm
    rw [redact_list, redact_list]
    refine congrArg _ (List.ext_getElem (by simpa using hlength.symm) fun i hi hi' => ?_)
    rw [List.length_map] at hi hi'
    rw [List.getElem_map, List.getElem_map]
    exact ih _ (List.getElem_mem hi) (h.of_step id (step?_item hi) (step?_item hi'))
  | object members ih =>
    obtain ⟨members', rfl, hkeys⟩ := layer_eq_object_iff.1 h.layer_eq.symm
    have hlength : members'.length = members.length := by simpa using congrArg List.length hkeys
    rw [redact_object, redact_object]
    refine congrArg _ (List.ext_getElem (by simpa using hlength.symm) fun i hi hi' => ?_)
    rw [List.length_map] at hi hi'
    have hkey : members[i].1 = members'[i].1 := by
      have hat := congrArg (fun keys : List String => keys[i]?) hkeys
      simpa [hi, hi'] using hat.symm
    rw [List.getElem_map, List.getElem_map, redactMember, redactMember, hkey]
    by_cases hsensitive : isSensitiveKey members'[i].1 = true
    · rw [if_pos hsensitive, if_pos hsensitive]
    · rw [if_neg hsensitive, if_neg hsensitive]
      have hstep : ¬ Hidden (.member i members'[i].1) := hsensitive
      have hpart := step?_member hi
      rw [hkey] at hpart
      rw [ih _ (List.getElem_mem hi) (h.of_step hstep hpart (step?_member hi'))]

end

/-! ## What redaction shows -/

/-- A value is shown as another one: outside of sensitive keys layer by layer with texts masked, and under the
first sensitive key of a path with a mask in place of whatever is there. -/
structure ShownAs (v shown : Json) : Prop where
  outside : ∀ path, Visible path → (shown.at? path).map layer = (v.at? path).map fun part => maskLayer part.layer
  under : ∀ path i key, Visible path → isSensitiveKey key = true →
    shown.at? (path ++ [.member i key]) = (v.at? (path ++ [.member i key])).map fun _ => .text "***"

/-- Redaction shows the form of a value and hides what sensitive keys hold: values that agree outside of them
are shown alike. -/
theorem redact_shows (v : Json) : ShownAs v (redact v) ∧ ∀ w, AgreeOutside v w → redact v = redact w := by
  refine ⟨⟨fun path hpath => ?_, fun path i key hpath hkey => at?_redact_of_sensitive hpath i hkey⟩,
    fun w => redact_eq_of_agreeOutside⟩
  rw [at?_redact hpath, Option.map_map]
  exact congrArg (fun f => (v.at? path).map f) (funext layer_redact)

/-- An account with its password, inside a record with a note. -/
def sampleRecord (password : Json) : Json :=
  .object [("account", .object [("Password", password)]), ("note", .text "token: abcdef")]

theorem redact_shows_sampleRecord :
    (redact (sampleRecord .null)).at? [.member 0 "account", .member 0 "Password"] = some (.text "***") ∧
      ((redact (sampleRecord .null)).at? [.member 1 "note"]).map layer = some (.text "token=***") ∧
      redact (sampleRecord .null) = redact (sampleRecord (.list [.bool true])) := by
  obtain ⟨⟨houtside, hunder⟩, hhides⟩ := redact_shows (sampleRecord .null)
  refine ⟨hunder [.member 0 "account"] 0 "Password" (by decide) (by decide),
    houtside [.member 1 "note"] (by decide), hhides _ ?_⟩
  refine agreeOutside_object rfl fun i e e' he he' _ => ?_
  match i with
  | 0 =>
    cases he
    cases he'
    refine agreeOutside_object rfl fun j e e' he he' hkey => ?_
    match j with
    | 0 => cases he; exact (hkey (by decide)).elim
    | j + 1 => cases he
  | 1 =>
    cases he
    cases he'
    exact fun _ _ => rfl
  | i + 2 => cases he

end FieldRules.Redaction
