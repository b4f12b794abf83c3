import Mathlib.Data.Finset.Card
import Mathlib.Data.List.Nodup
import TemplateDebug.Cache.Recency
/-!
# What a bounded list by recency holds

Keys are put one after the other into a list by recency, or taken out of it. A key is held when it was put and fewer
other keys than the bound allows were put since. When no key was ever taken out, these are all that are held: what
stands in front of a key are exactly the keys that were put after it.
-/

namespace TemplateDebug.Recency

variable {κ α : Type} [DecidableEq κ]

/-- The keys, the most recently used first. -/
def keys (r : Recency κ α) : List κ := r.entries.map (·.1)

/-! ## Operations on keys -/

theorem keys_erase (r : Recency κ α) (key : κ) : (r.erase key).keys = r.keys.filter (· ≠ key) := by
  simp only [keys, erase, List.filter_map]
  rfl

theorem keys_put (r : Recency κ α) (key : κ) (value : α) :
    (r.put key value).keys = (key :: r.keys.filter (· ≠ key)).take r.bound := by
  rw [← keys_erase]
  simp only [keys, put, List.map_take, List.map_cons]

theorem contains_iff (r : Recency κ α) (key : κ) : r.contains key = true ↔ key ∈ r.keys := by
  simp only [contains, find?, keys]
  induction r.entries with
  | nil => simp
  | cons e es ih =>
    obtain ⟨k, v⟩ := e
    by_cases hk : key = k
    · subst hk
      simp
    · rw [List.lookup_cons, beq_false_of_ne hk, List.map_cons, List.mem_cons, ih]
      simp [hk]

/-! ## The bound -/

/-- There are no more entries than the bound allows, which is at least one. -/
structure Bounded (r : Recency κ α) : Prop where
  size_le : r.size ≤ r.bound
  bound_pos : 0 < r.bound

omit [DecidableEq κ] in
theorem bounded_empty (bound : Nat) : (empty bound : Recency κ α).Bounded where
  size_le := Nat.zero_le _
  bound_pos := Nat.lt_of_lt_of_le Nat.one_pos (Nat.le_max_left 1 bound)

theorem Bounded.put {r : Recency κ α} (h : r.Bounded) (key : κ) (value : α) : (r.put key value).Bounded where
  size_le := List.length_take_le _ _
  bound_pos := h.bound_pos

theorem Bounded.erase {r : Recency κ α} (h : r.Bounded) (key : κ) : (r.erase key).Bounded where
  size_le := Nat.le_trans (List.length_filter_le _ _) h.size_le
  bound_pos := h.bound_pos

omit [DecidableEq κ] in
theorem bounded_resize (r : Recency κ α) (bound : Nat) : (r.resize bound).Bounded where
  size_le := List.length_take_le _ _
  bound_pos := Nat.lt_of_lt_of_le Nat.one_pos (Nat.le_max_left 1 bound)

omit [DecidableEq κ] in
theorem Bounded.clear {r : Recency κ α} (h : r.Bounded) : r.clear.Bounded where
  size_le := Nat.zero_le _
  bound_pos := h.bound_pos

/-! ## Uses -/

/-- The keys that a list of this bound holds after these uses, the latest first: a use with `true` puts its key, one
with `false` takes it out. -/
def held (bound : Nat) : List (κ × Bool) → List κ
  | [] => []
  | (key, true) :: earlier => (key :: (held bound earlier).filter (· ≠ key)).take bound
  | (key, false) :: earlier => (held bound earlier).filter (· ≠ key)

/-- The last use of a key had this outcome, and these uses came after it. -/
def LastUse (uses : List (κ × Bool)) (key : κ) (outcome : Bool) (since : List (κ × Bool)) : Prop :=
  (∃ before, uses = since ++ (key, outcome) :: before) ∧ ∀ use ∈ since, use.1 ≠ key

/-- The keys that were put. -/
def putKeys (uses : List (κ × Bool)) : Finset κ := ((uses.filter (·.2)).map (·.1)).toFinset

variable {bound : Nat} {uses since before : List (κ × Bool)} {key : κ}

theorem putKeys_cons_true (key : κ) (uses : List (κ × Bool)) :
    putKeys ((key, true) :: uses) = insert key (putKeys uses) := by
  simp [putKeys]

theorem putKeys_cons_false (key : κ) (uses : List (κ × Bool)) : putKeys ((key, false) :: uses) = putKeys uses := by
  simp [putKeys]

/-- Taking another key out leaves a key where it stands. -/
theorem filter_split {front rest : List κ} {other : κ} (h : other ≠ key) :
    (front ++ key :: rest).filter (· ≠ other) = front.filter (· ≠ other) ++ key :: rest.filter (· ≠ other) := by
  simp [List.filter_append, Ne.symm h]

omit [DecidableEq κ] in
/-- A key that stands within the bound stays when the list is cut. -/
theorem take_split {front rest : List κ} (h : front.length < bound) :
    (front ++ key :: rest).take bound = front ++ key :: rest.take (bound - front.length - 1) := by
  rw [List.take_append, List.take_of_length_le (Nat.le_of_lt h)]
  obtain ⟨n, hn⟩ : ∃ n, bound - front.length = n + 1 := ⟨bound - front.length - 1, by omega⟩
  simp [hn]

omit [DecidableEq κ] in
/-- A key in a list that was cut stood within the bound, if it stands only there. -/
theorem lt_of_mem_take {front rest : List κ} (h : key ∈ (front ++ key :: rest).take bound) (hfront : key ∉ front) :
    front.length < bound := by
  by_contra hle
  rw [List.take_append_of_le_length (by omega)] at h
  exact hfront (List.mem_of_mem_take h)

/-- Where a key stands that was put while fewer other keys than the bound allows were put: behind some of these. -/
theorem held_split (before : List (κ × Bool)) (hsince : ∀ use ∈ since, use.1 ≠ key)
    (hcard : (putKeys since).card < bound) :
    ∃ front rest, held bound (since ++ (key, true) :: before) = front ++ key :: rest ∧ front.Nodup ∧
      ∀ k ∈ front, k ∈ putKeys since := by
  induction since with
  | nil =>
    have hpos : 0 < bound := by omega
    exact ⟨[], _, take_split (show ([] : List κ).length < bound from hpos), List.nodup_nil, by simp⟩
  | cons use since ih =>
    obtain ⟨other, outcome⟩ := use
    have hother : other ≠ key := hsince _ List.mem_cons_self
    have hrest : ∀ use ∈ since, use.1 ≠ key := fun use hu => hsince use (List.mem_cons_of_mem _ hu)
    cases outcome with
    | false =>
      rw [putKeys_cons_false] at hcard ⊢
      obtain ⟨front, rest, hheld, hnodup, hfront⟩ := ih hrest hcard
      rw [List.cons_append, held, hheld, filter_split hother]
      exact ⟨_, _, rfl, hnodup.filter (· ≠ other), fun k hk => hfront k (List.mem_filter.1 hk).1⟩
    | true =>
      rw [putKeys_cons_true] at hcard ⊢
      have hle : (putKeys since).card ≤ (insert other (putKeys since)).card :=
        Finset.card_le_card (Finset.subset_insert _ _)
      obtain ⟨front, rest, hheld, hnodup, hfront⟩ := ih hrest (by omega)
      have hnodup' : (other :: front.filter (· ≠ other)).Nodup :=
        List.nodup_cons.2 ⟨by simp, hnodup.filter (· ≠ other)⟩
      have hfront' : ∀ k ∈ other :: front.filter (· ≠ other), k ∈ insert other (putKeys since) := by
        intro k hk
        rcases List.mem_cons.1 hk with rfl | hk
        · exact Finset.mem_insert_self _ _
        · exact Finset.mem_insert_of_mem (hfront k (List.mem_filter.1 hk).1)
      -- what stands in front of the key are keys that were put since, so there is room for it
      have hlength : (other :: front.filter (· ≠ other)).length < bound := by
        rw [← List.toFinset_card_of_nodup hnodup']
        refine Nat.lt_of_le_of_lt (Finset.card_le_card ?_) hcard
        intro k hk
        exact hfront' k (List.mem_toFinset.1 hk)
      rw [List.cons_append, held, hheld, filter_split hother, ← List.cons_append, take_split hlength]
      exact ⟨_, _, rfl, hnodup', hfront'⟩

/-- A key that was put last, with fewer other keys put since than the bound allows, is held. -/
theorem mem_held_of_lastUse (h : LastUse uses key true since) (hcard : (putKeys since).card < bound) :
    key ∈ held bound uses := by
  obtain ⟨⟨before, rfl⟩, hsince⟩ := h
  obtain ⟨front, rest, hheld, -, -⟩ := held_split before hsince hcard
  rw [hheld]
  simp

/-- When no key was taken out, a key that is held stands behind all that were put since it was put. -/
theorem split_of_mem_held (hputs : ∀ use ∈ uses, use.2 = true) (h : key ∈ held bound uses) :
    ∃ since front rest, LastUse uses key true since ∧ held bound uses = front ++ key :: rest ∧ key ∉ front ∧
      ∀ k ∈ putKeys since, k ∈ front := by
  induction uses with
  | nil => cases h
  | cons use uses ih =>
    obtain ⟨other, outcome⟩ := use
    have houtcome : outcome = true := hputs _ List.mem_cons_self
    subst houtcome
    have hpos : 0 < bound := by
      by_contra hzero
      simp [held, Nat.eq_zero_of_not_pos hzero] at h
    by_cases hother : other = key
    · subst hother
      exact ⟨[], [], _, ⟨⟨uses, rfl⟩, by simp⟩, take_split (show ([] : List κ).length < bound from hpos), by simp,
        by simp [putKeys]⟩
    · have hmem : key ∈ held bound uses := by
        rcases List.mem_cons.1 (List.mem_of_mem_take h) with heq | hmem
        · exact absurd heq.symm hother
        · exact (List.mem_filter.1 hmem).1
      obtain ⟨since, front, rest, ⟨⟨before, huses⟩, hsince⟩, hheld, hfront, hsub⟩ :=
        ih (fun use hu => hputs use (List.mem_cons_of_mem _ hu)) hmem
      have hfront' : key ∉ other :: front.filter (· ≠ other) := by
        intro hk
        rcases List.mem_cons.1 hk with heq | hk
        · exact hother heq.symm
        · exact hfront (List.mem_filter.1 hk).1
      rw [held, hheld, filter_split hother, ← List.cons_append] at h ⊢
      refine ⟨(other, true) :: since, _, _, ⟨⟨before, by rw [huses]; rfl⟩, ?_⟩,
        take_split (lt_of_mem_take h hfront'), hfront', ?_⟩
      · intro use hu
        rcases List.mem_cons.1 hu with rfl | hu
        · exact hother
        · exact hsince use hu
      · intro k hk
        rw [putKeys_cons_true] at hk
        by_cases hko : k = other
        · subst hko
          exact List.mem_cons_self
        · have hks : k ∈ putKeys since := (Finset.mem_insert.1 hk).resolve_left hko
          exact List.mem_cons_of_mem _ (List.mem_filter.2 ⟨hsub k hks, by simpa using hko⟩)

theorem length_held_le (bound : Nat) (uses : List (κ × Bool)) : (held bound uses).length ≤ bound := by
  induction uses with
  | nil => exact Nat.zero_le _
  | cons use uses ih =>
    obtain ⟨other, outcome⟩ := use
    cases outcome with
    | true => exact List.length_take_le _ _
    | false => exact Nat.le_trans (List.length_filter_le _ _) ih

/-- When no key was taken out, the keys that are held are those that were put, with fewer other keys put since than the
bound allows. -/
theorem mem_held_iff (hputs : ∀ use ∈ uses, use.2 = true) :
    key ∈ held bound uses ↔ ∃ since, LastUse uses key true since ∧ (putKeys since).card < bound := by
  constructor
  · intro h
    obtain ⟨since, front, rest, hlast, hheld, -, hsub⟩ := split_of_mem_held hputs h
    refine ⟨since, hlast, ?_⟩
    have hlength := length_held_le bound uses
    rw [hheld, List.length_append, List.length_cons] at hlength
    have hcard : (putKeys since).card ≤ front.length := by
      refine Nat.le_trans (Finset.card_le_card ?_) (List.toFinset_card_le front)
      intro k hk
      exact List.mem_toFinset.2 (hsub k hk)
    omega
  · rintro ⟨since, hlast, hcard⟩
    exact mem_held_of_lastUse hlast hcard

end TemplateDebug.Recency
