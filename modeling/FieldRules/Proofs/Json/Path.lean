/-
Places in a value. A path goes from a value into it step by step, and what stands at its end is seen one layer
deep, so that a statement about every depth is one about every path.
-/
import FieldRules.Json.Basic

namespace FieldRules.Json

/-- A property that the parts of a value hand on to the value holds of all values. -/
@[elab_as_elim]
theorem parts_induction {motive : Json → Prop} (null : motive .null) (bool : ∀ b, motive (.bool b))
    (number : ∀ n, motive (.number n)) (text : ∀ s, motive (.text s))
    (list : ∀ items, (∀ v ∈ items, motive v) → motive (.list items))
    (object : ∀ members : List (String × Json), (∀ e ∈ members, motive e.2) → motive (.object members))
    (v : Json) : motive v :=
  match v with
  | .null => null
  | .bool b => bool b
  | .number n => number n
  | .text s => text s
  | .list items => list items fun v _ => parts_induction null bool number text list object v
  | .object members => object members fun e _ => parts_induction null bool number text list object e.2
termination_by sizeOf v
decreasing_by
  · have hitem := List.sizeOf_lt_of_mem ‹v ∈ items›
    rw [Json.list.sizeOf_spec]
    omega
  · have hmember := List.sizeOf_lt_of_mem ‹e ∈ members›
    have hvalue : sizeOf e = 1 + sizeOf e.1 + sizeOf e.2 := rfl
    rw [Json.object.sizeOf_spec]
    omega

/-! ## Paths -/

/-- A step into a value: to an item of a list, or to the member of an object at a position and under a key. -/
inductive PathStep where
  | item (i : Nat)
  | member (i : Nat) (key : String)

/-- The part of a value that a step leads to. -/
def step? (v : Json) : PathStep → Option Json
  | .item i =>
    match v with
    | .list items => items[i]?
    | _ => none
  | .member i key =>
    match v with
    | .object members => members[i]?.bind fun e => if e.1 = key then some e.2 else none
    | _ => none

/-- The part of a value that a path leads to. -/
def at? (v : Json) : List PathStep → Option Json
  | [] => some v
  | step :: path => (v.step? step).bind fun part => part.at? path

variable {v part : Json} {step : PathStep} {path : List PathStep}

theorem at?_cons : v.at? (step :: path) = (v.step? step).bind fun part => part.at? path :=
  rfl

theorem at?_append (path path' : List PathStep) (v : Json) :
    v.at? (path ++ path') = (v.at? path).bind fun part => part.at? path' := by
  induction path generalizing v with
  | nil => rfl
  | cons step path ih =>
    rw [List.cons_append, at?_cons, at?_cons, Option.bind_assoc]
    exact Option.bind_congr fun part _ => ih part

theorem at?_singleton : v.at? [step] = v.step? step := by
  rw [at?_cons]
  exact Option.bind_fun_some _

theorem step?_item {items : List Json} {i : Nat} (h : i < items.length) :
    (list items).step? (.item i) = some items[i] :=
  List.getElem?_eq_getElem h

theorem step?_member {members : List (String × Json)} {i : Nat} (h : i < members.length) :
    (object members).step? (.member i members[i].1) = some members[i].2 := by
  show (members[i]?.bind fun e => if e.1 = members[i].1 then some e.2 else none) = _
  rw [List.getElem?_eq_getElem h]
  exact if_pos rfl

/-! ## Layers -/

/-- What is seen of a value without a step into it. -/
inductive Layer where
  | null
  | bool (b : Bool)
  | number (n : Number)
  | text (s : String)
  | list (size : Nat)
  | object (keys : List String)

def layer : Json → Layer
  | .null => .null
  | .bool b => .bool b
  | .number n => .number n
  | .text s => .text s
  | .list items => .list items.length
  | .object members => .object (members.map Prod.fst)

theorem layer_eq_list_iff {size : Nat} :
    v.layer = .list size ↔ ∃ items, v = .list items ∧ items.length = size := by
  constructor
  · intro h
    cases v with
    | list items => exact ⟨items, rfl, Layer.list.inj h⟩
    | _ => cases h
  · rintro ⟨items, rfl, rfl⟩; rfl

theorem layer_eq_object_iff {keys : List String} :
    v.layer = .object keys ↔ ∃ members, v = .object members ∧ members.map Prod.fst = keys := by
  constructor
  · intro h
    cases v with
    | object members => exact ⟨members, rfl, Layer.object.inj h⟩
    | _ => cases h
  · rintro ⟨members, rfl, rfl⟩; rfl

end FieldRules.Json
