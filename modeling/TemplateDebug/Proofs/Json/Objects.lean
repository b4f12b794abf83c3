import Mathlib.Data.List.Induction
import Mathlib.Data.List.Nodup
import TemplateDebug.Proofs.Json.Members
/-!
# Objects made of members

An object made of members has the last value that they give a key. If no key comes twice, its members are those it was
made of, in another order.
-/

namespace TemplateDebug.Json

variable {key : String} {value : Json} {members : List (String × Json)}

theorem isObject_ofMembers (members : List (String × Json)) : (ofMembers members).IsObject := trivial

theorem get?_ofMembers (members : List (String × Json)) (key : String) :
    (ofMembers members).get? key = members.reverse.lookup key := by
  induction members using List.reverseRecOn with
  | nil => rfl
  | append_singleton members m ih =>
    rw [ofMembers, List.foldl_append, List.reverse_append, List.reverse_singleton, List.singleton_append]
    by_cases h : key = m.1
    · subst h
      exact (lookup_insertMember _).trans (List.lookup_cons_self ..).symm
    · rw [List.lookup_cons, beq_false_of_ne h, ← ih]
      exact lookup_insertMember_of_ne h _

theorem lookup_of_mem_of_nodup (h : (members.map Prod.fst).Nodup) (hm : (key, value) ∈ members) :
    members.lookup key = some value := by
  induction members with
  | nil => cases hm
  | cons m members ih =>
    obtain ⟨hnew, h⟩ := List.nodup_cons.1 h
    rcases List.mem_cons.1 hm with rfl | hm
    · exact List.lookup_cons_self
    · have hne : key ≠ m.1 := fun hk => hnew (hk ▸ List.mem_map_of_mem hm)
      rw [List.lookup_cons, beq_false_of_ne hne]
      exact ih h hm

theorem get?_ofMembers_of_mem (h : (members.map Prod.fst).Nodup) (hm : (key, value) ∈ members) :
    (ofMembers members).get? key = some value := by
  rw [get?_ofMembers]
  refine lookup_of_mem_of_nodup ?_ (List.mem_reverse.2 hm)
  rwa [List.map_reverse, List.nodup_reverse]

theorem get?_ofMembers_eq_none (h : key ∉ members.map Prod.fst) : (ofMembers members).get? key = none := by
  rw [get?_ofMembers, List.lookup_eq_none_iff]
  intro m hm
  rw [bne_iff_ne]
  rintro rfl
  exact h (List.mem_map_of_mem (List.mem_reverse.1 hm))

/-- A member under a key of its own is one more. -/
theorem insertMember_perm (h : key ∉ members.map Prod.fst) :
    (insertMember key value members).Perm ((key, value) :: members) := by
  induction members with
  | nil => exact .refl _
  | cons m members ih =>
    obtain ⟨k, v⟩ := m
    rw [List.map_cons, List.mem_cons, not_or] at h
    rw [insertMember, if_neg h.1]
    split
    · exact .refl _
    · exact ((ih h.2).cons _).trans (.swap ..)

theorem ofMembers_perm (h : (members.map Prod.fst).Nodup) :
    ∃ listed, ofMembers members = .obj listed ∧ listed.Perm members := by
  refine ⟨_, rfl, ?_⟩
  induction members using List.reverseRecOn with
  | nil => exact .refl _
  | append_singleton members m ih =>
    rw [List.map_append, List.map_singleton, List.nodup_append] at h
    obtain ⟨h, -, hnew⟩ := h
    have hlisted := ih h
    rw [List.foldl_append]
    have hkey : m.1 ∉ (members.foldl (fun ms m => insertMember m.1 m.2 ms) []).map Prod.fst := by
      rw [(hlisted.map Prod.fst).mem_iff]
      exact fun hm => hnew _ hm _ (List.mem_singleton_self _) rfl
    exact (insertMember_perm hkey).trans ((hlisted.cons m).trans (List.perm_append_singleton m members).symm)

end TemplateDebug.Json
