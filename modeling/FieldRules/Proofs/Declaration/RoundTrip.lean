/-
Declarations are read back from what is written for them: from their value, whatever they hold, and from its
compact text as far down as texts are read (`SchemaSpec.roundTrip`). The value of a declaration has a member for
each entry, so no key is repeated in it that is not repeated within an argument.
-/
import FieldRules.Proofs.Declaration.Loading
import FieldRules.Proofs.Json.Layout

namespace FieldRules

/-! ## Fields -/

namespace FieldSpec

variable (f : FieldSpec)

/-- All arguments of all rules. -/
def arguments : List Json :=
  f.toList.flatMap Prod.snd

theorem hasForm_toJson : HasForm f.toJson :=
  ⟨_, rfl, List.forall_mem_map.2 fun e _ => ⟨e.2, rfl, fun _ _ => trivial⟩⟩

theorem ofShaped_toJson : ofShaped f.toJson = f := by
  have hentries : (f.toList.map fun e => (e.1, Json.list e.2)).map (fun e => (e.1, e.2.list?.getD [])) = f.toList := by
    rw [List.map_map]
    exact List.map_id' f.toList
  rw [toJson, ofShaped, hentries, Entries.ofList_toList]

theorem distinct_toJson (h : ∀ v ∈ f.arguments, v.Distinct) : f.toJson.Distinct := by
  refine Json.distinct_object_iff.2 ⟨?_, List.forall_mem_map.2 fun e he => ?_⟩
  · rw [List.map_map]
    exact f.nodup
  · exact Json.distinct_list_iff.2 fun v hv => h v (List.mem_flatMap.2 ⟨e, he, hv⟩)

end FieldSpec

/-! ## Schemas -/

namespace SchemaSpec

variable (c : SchemaSpec)

/-- All arguments of all rules of all fields. -/
def arguments : List Json :=
  c.toList.flatMap fun e => FieldSpec.arguments e.2

theorem hasForm_toJson : HasForm c.toJson :=
  ⟨_, rfl, List.forall_mem_map.2 fun e _ => FieldSpec.hasForm_toJson e.2⟩

theorem ofShaped_toJson : ofShaped c.toJson = c := by
  have hentries : (c.toList.map fun e => (e.1, FieldSpec.toJson e.2)).map (fun e => (e.1, FieldSpec.ofShaped e.2)) =
      c.toList := by
    rw [List.map_map]
    refine (List.map_congr_left fun e _ => ?_).trans (List.map_id' c.toList)
    exact Prod.ext rfl (FieldSpec.ofShaped_toJson e.2)
  rw [toJson, ofShaped, hentries, Entries.ofList_toList]

theorem distinct_toJson (h : ∀ v ∈ c.arguments, v.Distinct) : c.toJson.Distinct := by
  refine Json.distinct_object_iff.2 ⟨?_, List.forall_mem_map.2 fun e he => ?_⟩
  · rw [List.map_map]
    exact c.nodup
  · exact FieldSpec.distinct_toJson e.2 fun v hv => h v (List.mem_flatMap.2 ⟨e, he, hv⟩)

/-- A declaration is read back from its value. If no argument repeats a key within, and the value nests at most
127 levels deep, the declaration is also read back from the compact text of its value. -/
theorem roundTrip : ofJson c.toJson = .ok c ∧
    ((∀ v ∈ c.arguments, v.Distinct) → c.toJson.depth ≤ 127 → ofText c.toJson.compact = .ok c) := by
  refine ⟨ofJson_eq_ok_iff.2 ⟨hasForm_toJson c, ofShaped_toJson c⟩, fun hdistinct hdepth => ?_⟩
  refine ofText_eq_ok_iff.2 ⟨c.toJson, Json.spelled_compact hdepth, hasForm_toJson c, ?_⟩
  rw [Json.merged_eq_self (distinct_toJson c hdistinct), ofShaped_toJson]

/-- Empty names and keys, characters that are escaped, and numbers at the ends of their ranges. -/
def extremes : SchemaSpec :=
  Entries.ofList
    [("", Entries.ofList
      [("\"\x00", [.number (.natural (Fin.last _)), .number (.negative (Fin.last _)), .number (.real (Binary64.zero true)),
        .number (.real ⟨false, 1, by decide⟩), .object [("", .list [.null])]]),
       ("", [])]),
     ("é\n", Entries.empty)]

theorem roundTrip_extremes : ofText extremes.toJson.compact = .ok extremes ∧ extremes.toJson.compact =
    "\x7b\"\":\x7b\"\\\"\\u0000\":[18446744073709551615,-9223372036854775808,-0.0,5e-324,\x7b\"\":[null]\x7d],\"\":[]\x7d,\"é\\n\":\x7b\x7d\x7d" := by
  have hdistinct : ∀ v ∈ extremes.arguments, v.Distinct := by
    have hnull : (Json.list [.null]).Distinct :=
      Json.distinct_list_iff.2 (List.forall_mem_singleton.2 (Json.distinct_of_depth_eq_zero rfl))
    refine List.forall_mem_cons.2 ⟨Json.distinct_of_depth_eq_zero rfl, List.forall_mem_cons.2
      ⟨Json.distinct_of_depth_eq_zero rfl, List.forall_mem_cons.2 ⟨Json.distinct_of_depth_eq_zero rfl,
        List.forall_mem_cons.2 ⟨Json.distinct_of_depth_eq_zero rfl, List.forall_mem_singleton.2 ?_⟩⟩⟩⟩
    exact Json.distinct_object_iff.2 ⟨List.nodup_singleton _, List.forall_mem_singleton.2 hnull⟩
  exact ⟨(roundTrip extremes).2 hdistinct (by decide), by decide +kernel⟩

end SchemaSpec

end FieldRules
