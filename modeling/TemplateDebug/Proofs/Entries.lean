import TemplateDebug.Cache.Memo
import TemplateDebug.Cache.Recency
/-!
# Entries under keys

Lists of entries, each with its key: what is found after an entry is erased, and where the entries of a bounded list
and of a memo come from. Every operation on these keeps entries or puts the one it is given.
-/

namespace TemplateDebug

variable {κ α : Type} [DecidableEq κ]

theorem mem_of_lookup {key : κ} {value : α} {es : List (κ × α)} (h : es.lookup key = some value) :
    (key, value) ∈ es := by
  obtain ⟨l, r, rfl, -⟩ := List.lookup_eq_some_iff.1 h
  simp

theorem lookup_filter_of_ne {key other : κ} (h : other ≠ key) (es : List (κ × α)) :
    (es.filter fun e => e.1 ≠ key).lookup other = es.lookup other := by
  induction es with
  | nil => rfl
  | cons e es ih =>
    obtain ⟨k, v⟩ := e
    by_cases hk : k = key
    · subst hk
      simp only [List.filter_cons, ne_eq, not_true_eq_false, decide_false, Bool.false_eq_true, if_false,
        List.lookup_cons, beq_false_of_ne h]
      simpa using ih
    · simp only [List.filter_cons, ne_eq, hk, not_false_eq_true, decide_true, if_true, List.lookup_cons]
      simp only [ne_eq] at ih
      rw [ih]

namespace Recency

variable {r : Recency κ α} {key : κ} {value : α} {e : κ × α}

theorem mem_of_find? (h : r.find? key = some value) : (key, value) ∈ r.entries := mem_of_lookup h

theorem mem_erase (h : e ∈ (r.erase key).entries) : e ∈ r.entries := (List.mem_filter.1 h).1

theorem key_ne_of_mem_erase (h : e ∈ (r.erase key).entries) : e.1 ≠ key := of_decide_eq_true (List.mem_filter.1 h).2

/-- An entry that is there after one is put is that one, or was there under another key. -/
theorem mem_put_cases (h : e ∈ (r.put key value).entries) : e = (key, value) ∨ e ∈ (r.erase key).entries :=
  List.mem_cons.1 (List.mem_of_mem_take h)

theorem mem_put (h : e ∈ (r.put key value).entries) : e = (key, value) ∨ e ∈ r.entries :=
  (mem_put_cases h).imp_right mem_erase

omit [DecidableEq κ] in
theorem mem_resize {bound : Nat} (h : e ∈ (r.resize bound).entries) : e ∈ r.entries := List.mem_of_mem_take h

end Recency

namespace Memo

variable {memo : Memo κ α} {ttl now : Nat} {key : κ} {value : α}

/-- A fresh answer was recorded less than `ttl` ago. -/
theorem mem_of_fresh? (h : memo.fresh? ttl now key = some value) :
    ∃ t, (key, ⟨t, value⟩) ∈ memo.entries ∧ now - t < ttl := by
  simp only [fresh?] at h
  split at h
  · rename_i answer ha
    split at h
    · rename_i hlt
      simp only [Option.some.injEq] at h
      subst h
      exact ⟨answer.lookedUpAt, mem_of_lookup ha, hlt⟩
    · cases h
  · cases h

theorem mem_record {e : κ × Answer α} (h : e ∈ (memo.record now key value).entries) :
    e = (key, ⟨now, value⟩) ∨ e ∈ memo.entries := by
  rcases List.mem_cons.1 h with rfl | h
  · exact .inl rfl
  · exact .inr ((List.mem_filter.1 h).1)

end Memo

end TemplateDebug
