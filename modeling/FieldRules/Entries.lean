/-
Ordered maps from texts, written as lists of entries. Inserting under a new key appends;
inserting under an old one replaces the content in place, so the keys stay distinct and in the
order of their first insertion. Distinctness is part of the type.
-/

namespace FieldRules

/-- Entries in order of first insertion, no key twice. -/
structure Entries (α : Type) where
  toList : List (String × α)
  nodup : (toList.map Prod.fst).Nodup

namespace Entries

variable {α : Type}

/-- The content of the first entry under `key`. -/
def lookup (key : String) : List (String × α) → Option α
  | [] => none
  | (k, a) :: rest => if k = key then some a else lookup key rest

/-- Put `a` under `key`: in place if there is an entry, at the end otherwise. -/
def put (key : String) (a : α) : List (String × α) → List (String × α)
  | [] => [(key, a)]
  | (k, b) :: rest => if k = key then (k, a) :: rest else (k, b) :: put key a rest

theorem keys_put (key : String) (a : α) (l : List (String × α)) :
    (put key a l).map Prod.fst = if key ∈ l.map Prod.fst then l.map Prod.fst else l.map Prod.fst ++ [key] := by
  induction l with
  | nil => simp [put]
  | cons e rest ih =>
    obtain ⟨k, b⟩ := e
    by_cases h : k = key
    · simp [put, h]
    · have h' : ¬ key = k := fun e => h e.symm
      simp only [put, h, if_false, List.map_cons, List.mem_cons, h', false_or, ih]
      split <;> simp

theorem nodup_put (key : String) (a : α) {l : List (String × α)} (h : (l.map Prod.fst).Nodup) :
    ((put key a l).map Prod.fst).Nodup := by
  rw [keys_put]
  split
  · exact h
  · rename_i hk
    rw [List.nodup_append]
    refine ⟨h, by simp, ?_⟩
    intro x hx y hy
    rw [List.mem_singleton] at hy
    subst hy
    exact fun e => hk (e ▸ hx)

theorem lookup_put (key k : String) (a : α) (l : List (String × α)) :
    lookup k (put key a l) = if k = key then some a else lookup k l := by
  induction l with
  | nil => by_cases h : key = k <;> simp [put, lookup, h, eq_comm]
  | cons e rest ih =>
    obtain ⟨k', b⟩ := e
    by_cases h : k' = key
    · by_cases h2 : k = key
      · simp [put, lookup, h, h2]
      · have : ¬ key = k := fun e => h2 e.symm
        simp [put, lookup, h, h2, this]
    · by_cases h2 : k' = k
      · subst h2
        simp [put, lookup, h]
      · simp [put, lookup, h, h2, ih]

theorem mem_of_lookup {key : String} {a : α} {l : List (String × α)} (h : lookup key l = some a) :
    (key, a) ∈ l := by
  induction l with
  | nil => simp [lookup] at h
  | cons e rest ih =>
    obtain ⟨k, b⟩ := e
    unfold lookup at h
    split at h
    · rename_i hk
      cases h
      rw [hk]
      exact List.mem_cons_self ..
    · exact List.mem_cons_of_mem _ (ih h)

def empty : Entries α := ⟨[], by simp⟩

instance : Inhabited (Entries α) := ⟨empty⟩

def insert (m : Entries α) (key : String) (a : α) : Entries α :=
  ⟨put key a m.toList, nodup_put key a m.nodup⟩

def get? (m : Entries α) (key : String) : Option α :=
  lookup key m.toList

def contains (m : Entries α) (key : String) : Bool :=
  (m.get? key).isSome

def size (m : Entries α) : Nat :=
  m.toList.length

def isEmpty (m : Entries α) : Bool :=
  m.toList.isEmpty

def keys (m : Entries α) : List String :=
  m.toList.map Prod.fst

/-- Insert pairs from left to right. -/
def insertAll (m : Entries α) (pairs : List (String × α)) : Entries α :=
  pairs.foldl (fun m e => m.insert e.1 e.2) m

def ofList (pairs : List (String × α)) : Entries α :=
  empty.insertAll pairs

@[simp] theorem get?_empty (key : String) : (empty : Entries α).get? key = none := rfl

theorem get?_insert (m : Entries α) (key k : String) (a : α) :
    (m.insert key a).get? k = if k = key then some a else m.get? k :=
  lookup_put key k a m.toList

theorem keys_insert (m : Entries α) (key : String) (a : α) :
    (m.insert key a).keys = if key ∈ m.keys then m.keys else m.keys ++ [key] :=
  keys_put key a m.toList

end Entries

end FieldRules
