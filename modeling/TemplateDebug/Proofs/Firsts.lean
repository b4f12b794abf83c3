import Mathlib.Data.List.Induction
import Mathlib.Data.List.Nodup
/-!
# First occurrences

Of the items of a list with equal keys the first one is kept, in order. Items that are added one by one, each unless
one with its key is there, leave the first occurrences of all that was added; so what is added in nested loops is
described by the list of what they go through.
-/

namespace TemplateDebug

variable {α β γ κ : Type} [DecidableEq κ] {key : α → κ} {xs ys : List α} {x : α}

/-- The items with whose key none stands before them. -/
def firsts (key : α → κ) (xs : List α) : List α :=
  (xs.zipIdx.filter fun (e : α × Nat) => ∀ earlier ∈ xs.take e.2, key earlier ≠ key e.1).map Prod.fst

/-- Adds an item at the end, unless one with its key is there. -/
def addNew (key : α → κ) (found : List α) (x : α) : List α :=
  if ∃ y ∈ found, key y = key x then found else found ++ [x]

/-- Adds items in turn. -/
def addAllNew (key : α → κ) (found xs : List α) : List α := xs.foldl (addNew key) found

/-! ## One item more -/

theorem firsts_concat (xs : List α) (x : α) :
    firsts key (xs ++ [x]) = if ∃ y ∈ xs, key y = key x then firsts key xs else firsts key xs ++ [x] := by
  -- what stands before an item of `xs` is as it was
  have hfront : ∀ e ∈ xs.zipIdx, decide (∀ y ∈ (xs ++ [x]).take e.2, key y ≠ key e.1) =
      decide (∀ y ∈ xs.take e.2, key y ≠ key e.1) := by
    rintro ⟨y, i⟩ he
    have hi := List.snd_lt_of_mem_zipIdx he
    rw [List.take_append_of_le_length (Nat.le_of_lt hi)]
  have hlast : decide (∀ y ∈ (xs ++ [x]).take xs.length, key y ≠ key x) = decide (¬ ∃ y ∈ xs, key y = key x) := by
    rw [List.take_left]
    simp
  unfold firsts
  rw [List.zipIdx_append, List.filter_append, List.filter_congr hfront, List.map_append, Nat.zero_add,
    List.zipIdx_singleton, List.filter_singleton, hlast]
  by_cases hknown : ∃ y ∈ xs, key y = key x <;> simp [hknown]

/-- What is kept has the keys of all items. -/
theorem exists_mem_firsts_iff (key : α → κ) (xs : List α) (k : κ) :
    (∃ y ∈ firsts key xs, key y = k) ↔ ∃ y ∈ xs, key y = k := by
  -- from the back, as an item is held against those before it
  induction xs using List.reverseRecOn with
  | nil => rfl
  | append_singleton xs x ih =>
    have hsplit : (∃ y ∈ xs ++ [x], key y = k) ↔ (∃ y ∈ xs, key y = k) ∨ key x = k := by
      simp [or_and_right, exists_or]
    rw [firsts_concat, hsplit]
    split
    · rename_i hknown
      rw [ih]
      constructor
      · exact .inl
      · rintro (hy | rfl)
        · exact hy
        · exact hknown
    · rw [← ih]
      simp [or_and_right, exists_or]

theorem mem_firsts_id_iff {k : κ} {ks : List κ} : k ∈ firsts id ks ↔ k ∈ ks := by
  simpa using exists_mem_firsts_iff id ks k

/-- No two items that are kept have one key. -/
theorem nodup_map_firsts (key : α → κ) (xs : List α) : ((firsts key xs).map key).Nodup := by
  induction xs using List.reverseRecOn with
  | nil => exact List.nodup_nil
  | append_singleton xs x ih =>
    rw [firsts_concat]
    split
    · exact ih
    · rename_i hnew
      rw [← exists_mem_firsts_iff] at hnew
      rw [List.map_append, List.nodup_append]
      refine ⟨ih, List.nodup_singleton _, ?_⟩
      rintro _ hk _ hx rfl
      obtain ⟨y, hy, hyx⟩ := List.mem_map.1 hk
      exact hnew ⟨y, hy, hyx.trans (List.mem_singleton.1 hx)⟩

/-! ## Items added in turn -/

theorem addNew_firsts (xs : List α) (x : α) : addNew key (firsts key xs) x = firsts key (xs ++ [x]) := by
  rw [firsts_concat]
  simp only [addNew, exists_mem_firsts_iff]

theorem addAllNew_firsts (xs ys : List α) : addAllNew key (firsts key xs) ys = firsts key (xs ++ ys) := by
  induction ys generalizing xs with
  | nil => rw [List.append_nil]; rfl
  | cons y ys ih =>
    rw [addAllNew, List.foldl_cons, addNew_firsts, ← addAllNew, ih, List.append_assoc]
    rfl

/-- A loop in a loop adds what both go through. -/
theorem foldl_addAllNew (f : β → List α) (zs : List β) (xs : List α) :
    zs.foldl (fun found z => addAllNew key found (f z)) (firsts key xs) = firsts key (xs ++ zs.flatMap f) := by
  induction zs generalizing xs with
  | nil => rw [List.flatMap_nil, List.append_nil]; rfl
  | cons z zs ih => rw [List.foldl_cons, addAllNew_firsts, ih, List.flatMap_cons, List.append_assoc]

theorem foldl_addAllNew_nil (f : β → List α) (zs : List β) :
    zs.foldl (fun found z => addAllNew key found (f z)) [] = firsts key (zs.flatMap f) :=
  foldl_addAllNew f zs []

theorem prefix_addAllNew (found xs : List α) : found <+: addAllNew key found xs := by
  induction xs generalizing found with
  | nil => exact List.prefix_refl found
  | cons x xs ih =>
    refine List.IsPrefix.trans ?_ (ih (addNew key found x))
    unfold addNew
    split
    · exact List.prefix_refl found
    · exact List.prefix_append found [x]

theorem firsts_prefix (xs ys : List α) : firsts key xs <+: firsts key (xs ++ ys) := by
  rw [← addAllNew_firsts]
  exact prefix_addAllNew _ ys

/-! ## What makes no difference -/

/-- Items whose keys have come are not added. -/
theorem addAllNew_of_known {found : List α} (h : ∀ x ∈ xs, ∃ y ∈ found, key y = key x) :
    addAllNew key found xs = found := by
  induction xs with
  | nil => rfl
  | cons x xs ih =>
    rw [List.forall_mem_cons] at h
    rw [addAllNew, List.foldl_cons, addNew, if_pos h.1, ← addAllNew, ih h.2]

theorem firsts_append_of_known (h : ∀ y ∈ ys, ∃ x ∈ xs, key x = key y) : firsts key (xs ++ ys) = firsts key xs := by
  rw [← addAllNew_firsts]
  apply addAllNew_of_known
  intro y hy
  rw [exists_mem_firsts_iff]
  exact h y hy

theorem firsts_append_congr_left {xs' : List α} (h : firsts key xs' = firsts key xs) (ys : List α) :
    firsts key (xs' ++ ys) = firsts key (xs ++ ys) := by
  rw [← addAllNew_firsts, h, addAllNew_firsts]

/-- Of what comes behind other items only the first occurrences count. -/
theorem firsts_append_firsts (xs ys : List α) : firsts key (xs ++ firsts key ys) = firsts key (xs ++ ys) := by
  induction ys using List.reverseRecOn with
  | nil => rfl
  | append_singleton ys y ih =>
    rw [firsts_concat, ← List.append_assoc]
    split
    · rename_i hknown
      rw [ih]
      refine (firsts_append_of_known ?_).symm
      intro z hz
      obtain ⟨earlier, hmem, hkey⟩ := hknown
      rw [List.mem_singleton.1 hz]
      exact ⟨earlier, List.mem_append_right _ hmem, hkey⟩
    · rw [← List.append_assoc]
      exact firsts_append_congr_left ih [y]

theorem firsts_append_congr_right {ys' : List α} (h : firsts key ys' = firsts key ys) (xs : List α) :
    firsts key (xs ++ ys') = firsts key (xs ++ ys) := by
  rw [← firsts_append_firsts, h, firsts_append_firsts]

theorem firsts_flatMap_congr {f g : β → List α} {zs : List β} (h : ∀ z ∈ zs, firsts key (f z) = firsts key (g z)) :
    firsts key (zs.flatMap f) = firsts key (zs.flatMap g) := by
  induction zs with
  | nil => rfl
  | cons z zs ih =>
    rw [List.forall_mem_cons] at h
    rw [List.flatMap_cons, List.flatMap_cons, firsts_append_congr_left h.1, firsts_append_congr_right (ih h.2)]

/-! ## Repeated items -/

/-- The second list has one item more than the first, behind one with the same key. -/
inductive Repeats (key : β → γ) : List β → List β → Prop
  | later (front back : List β) {item again : β} (mem : item ∈ front) (same : key item = key again) :
      Repeats key (front ++ back) (front ++ again :: back)

/-- A repeated item makes no difference, if what comes of it came of the item before it. -/
theorem Repeats.firsts_flatMap {of : β → γ} {zs zs' : List β} {f : β → List α} (h : Repeats of zs zs')
    (hf : ∀ z z', of z = of z' → ∀ y ∈ f z', ∃ x ∈ f z, key x = key y) :
    firsts key (zs'.flatMap f) = firsts key (zs.flatMap f) := by
  obtain @⟨front, back, item, again, hmem, hsame⟩ := h
  rw [List.flatMap_append, List.flatMap_append, List.flatMap_cons, ← List.append_assoc]
  apply firsts_append_congr_left
  apply firsts_append_of_known
  intro y hy
  obtain ⟨x, hx, hkey⟩ := hf item again hsame y hy
  exact ⟨x, List.mem_flatMap.2 ⟨item, hmem, hx⟩, hkey⟩

theorem Repeats.ne_nil {of : β → γ} {zs zs' : List β} (h : Repeats of zs zs') : zs ≠ [] ∧ zs' ≠ [] := by
  obtain ⟨front, back, hmem, -⟩ := h
  exact ⟨List.ne_nil_of_mem (List.mem_append_left _ hmem), List.ne_nil_of_mem (List.mem_append_left _ hmem)⟩

theorem Repeats.firsts_map {of : β → γ} {zs zs' : List β} {f : β → α} (h : Repeats of zs zs')
    (hf : ∀ z z', of z = of z' → key (f z) = key (f z')) : firsts key (zs'.map f) = firsts key (zs.map f) := by
  have hone : ∀ z z', of z = of z' → ∀ y ∈ [f z'], ∃ x ∈ [f z], key x = key y := by
    intro z z' hz y hy
    rw [List.mem_singleton.1 hy]
    exact ⟨f z, List.mem_singleton_self _, hf z z' hz⟩
  rw [List.map_eq_flatMap, List.map_eq_flatMap]
  exact h.firsts_flatMap hone

theorem Repeats.firsts_eq (h : Repeats key xs ys) : firsts key ys = firsts key xs := by
  have := h.firsts_map (f := id) fun _ _ hz => hz
  rwa [List.map_id, List.map_id] at this

end TemplateDebug
