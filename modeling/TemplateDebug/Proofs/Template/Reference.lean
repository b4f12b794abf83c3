import TemplateDebug.Proofs.Firsts
import TemplateDebug.Template.Reference
/-!
# Spellings of a template

A reference matches a candidate as it is or with slashes for its backslashes. The references of a template are its
spellings below the web roots that contain it and its file name, each of them once.
-/

namespace TemplateDebug.Template

variable {ref : String} {template : Path} {webRoots : List Path}

/-! ## Matching -/

theorem toList_slashed (s : String) : (slashed s).toList = s.toList.map fun c => if c = '\\' then '/' else c :=
  String.toList_map

/-- Without backslashes nothing is turned. -/
theorem slashed_eq_self {s : String} (h : '\\' ∉ s.toList) : slashed s = s := by
  have hkeep : ∀ c ∈ s.toList, (if c = '\\' then '/' else c) = id c := by
    intro c hc
    have hne : c ≠ '\\' := by
      rintro rfl
      exact h hc
    rw [if_neg hne, id]
  apply String.toList_injective
  rw [toList_slashed, List.map_congr_left hkeep, List.map_id]

theorem refMatches_iff (candidate ref : String) :
    refMatches candidate ref = true ↔ candidate = ref ∨ candidate = slashed ref := by
  simp only [refMatches, Bool.or_eq_true, Bool.and_eq_true, beq_iff_eq, List.contains_iff_mem]
  constructor
  · rintro (heq | ⟨-, heq⟩)
    · exact .inl heq
    · exact .inr heq.symm
  · rintro (heq | heq)
    · exact .inl heq
    · by_cases hback : '\\' ∈ ref.toList
      · exact .inr ⟨hback, heq.symm⟩
      · exact .inl (heq.trans (slashed_eq_self hback))

/-! ## The references of a template -/

/-- The spellings of a template below the web roots that contain it, without and with a leading slash. -/
def spellings (template : Path) (webRoots : List Path) : List String :=
  (webRoots.filterMap (below? template)).flatMap fun r => [r, "/" ++ r]

theorem pushNew_eq : pushNew = addNew id := by
  funext refs r
  simp [pushNew, addNew]

/-- The references of a template are its spellings and its file name, each where it comes first. -/
theorem plausibleRefs_eq (template : Path) (webRoots : List Path) :
    plausibleRefs template webRoots = firsts id (spellings template webRoots ++ template.fileName?.toList) := by
  have hspelled : (webRoots.filterMap (below? template)).foldl
      (fun refs r => pushNew (pushNew refs r) ("/" ++ r)) [] = firsts id (spellings template webRoots) := by
    rw [pushNew_eq]
    exact foldl_addAllNew_nil (fun r => [r, "/" ++ r]) (webRoots.filterMap (below? template))
  unfold plausibleRefs
  dsimp only
  rw [hspelled]
  cases template.fileName? with
  | none => rw [Option.toList_none, List.append_nil]
  | some name =>
    change pushNew (firsts id (spellings template webRoots)) name = _
    rw [pushNew_eq, addNew_firsts, Option.toList_some]

theorem mem_plausibleRefs_iff :
    ref ∈ plausibleRefs template webRoots ↔ ref ∈ spellings template webRoots ++ template.fileName?.toList := by
  rw [plausibleRefs_eq, mem_firsts_id_iff]

theorem nodup_plausibleRefs (template : Path) (webRoots : List Path) : (plausibleRefs template webRoots).Nodup := by
  rw [plausibleRefs_eq]
  simpa using nodup_map_firsts id (spellings template webRoots ++ template.fileName?.toList)

end TemplateDebug.Template
