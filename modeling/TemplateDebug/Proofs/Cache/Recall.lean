import TemplateDebug.Proofs.Entries
/-!
# What a memo recalls

A memo is asked at the moments of a history. A recorded answer is given again while it is good; otherwise an answer is
found anew and recorded. So what a memo recalls was found at the last moment that had to find it: giving it again makes
it no younger.
-/

namespace TemplateDebug.Memo

variable {M κ α : Type} [DecidableEq κ]

/-- The answer that was recorded last under a key. -/
def last? (memo : Memo κ α) (key : κ) : Option (Answer α) := memo.entries.lookup key

theorem last?_record (memo : Memo κ α) (now : Nat) (key other : κ) (value : α) :
    (memo.record now key value).last? other = if other = key then some ⟨now, value⟩ else memo.last? other := by
  unfold record last?
  by_cases h : other = key
  · simp [h]
  · simp only [List.lookup_cons, beq_false_of_ne h, h, if_false]
    exact lookup_filter_of_ne h memo.entries

/-- What is fresh is what was recorded last, if that is young enough. -/
theorem fresh?_eq (memo : Memo κ α) (ttl now : Nat) (key : κ) :
    memo.fresh? ttl now key =
      ((memo.last? key).filter fun answer => now - answer.lookedUpAt < ttl).map (·.value) := by
  unfold fresh? last?
  cases memo.entries.lookup key with
  | none => rfl
  | some answer => by_cases h : now - answer.lookedUpAt < ttl <;> simp [h, Option.filter]

/-- How a memo is used at the moments of a history: the key that is asked for, whether recorded answers stay, the time,
and whether, after an earlier history, the answer of a moment is good at another. -/
structure Use (M κ : Type) where
  asks? : M → Option κ
  keeps : M → Bool
  now : M → Nat
  good : List M → M → M → Bool

namespace Use

variable {u : Use M κ} {answer : M → α} {memo : Memo κ α} {key : κ} {earlier moments : List M} {m n : M}

/-- The latest of these moments, the latest first, at which the answer under a key had to be found: it was asked for,
and the one found before was not good any more. -/
def foundAt? (u : Use M κ) (key : κ) : List M → Option M
  | [] => none
  | m :: earlier =>
    if u.keeps m then
      if u.asks? m = some key then some (((u.foundAt? key earlier).filter (u.good earlier · m)).getD m)
      else u.foundAt? key earlier
    else none

/-- Answers are found at moments that ask for them, since the recorded ones were last dropped. -/
theorem mem_of_foundAt? (h : u.foundAt? key moments = some n) :
    n ∈ moments.takeWhile u.keeps ∧ u.asks? n = some key := by
  induction moments with
  | nil => cases h
  | cons m earlier ih =>
    rw [foundAt?] at h
    split at h
    · rename_i hkeeps
      rw [List.takeWhile_cons_of_pos hkeeps]
      have hbefore : u.foundAt? key earlier = some n →
          n ∈ m :: earlier.takeWhile u.keeps ∧ u.asks? n = some key :=
        fun hn => ⟨List.mem_cons_of_mem _ (ih hn).1, (ih hn).2⟩
      split at h
      · rename_i hasks
        cases hgood : (u.foundAt? key earlier).filter (u.good earlier · m) with
        | some n' =>
          rw [hgood, Option.getD_some] at h
          obtain rfl := Option.some.inj h
          exact hbefore (Option.filter_eq_some_iff.1 hgood).1
        | none =>
          rw [hgood, Option.getD_none] at h
          obtain rfl := Option.some.inj h
          exact ⟨List.mem_cons_self, hasks⟩
      · exact hbefore h
    · cases h

/-- An answer that is given was found at the moment, or is good. -/
theorem good_of_foundAt? (hasks : u.asks? m = some key) (h : u.foundAt? key (m :: earlier) = some n) :
    n = m ∨ u.good earlier n m = true := by
  rw [foundAt?, if_pos hasks] at h
  split at h
  · cases hgood : (u.foundAt? key earlier).filter (u.good earlier · m) with
    | some n' =>
      rw [hgood, Option.getD_some] at h
      obtain rfl := Option.some.inj h
      exact .inr (Option.filter_eq_some_iff.1 hgood).2
    | none =>
      rw [hgood, Option.getD_none] at h
      exact .inl (Option.some.inj h).symm
  · cases h

/-- Answers are found at moments of which this holds, with the key asked for. -/
def Finds (u : Use M κ) (P : κ → M → Prop) (moments : List M) : Prop :=
  ∀ key n, u.foundAt? key moments = some n → P key n

theorem finds_nil (u : Use M κ) (P : κ → M → Prop) : u.Finds P [] := fun _ _ h => by cases h

theorem finds_dropped (P : κ → M → Prop) (hkeeps : u.keeps m = false) : u.Finds P (m :: earlier) := by
  intro key n h
  rw [foundAt?, hkeeps] at h
  cases h

/-- A moment joins those at which answers are found only if its answer has to be found. -/
theorem Finds.asked {P : κ → M → Prop} (h : u.Finds P earlier)
    (hfound : ∀ key, u.asks? m = some key → (u.foundAt? key earlier).filter (u.good earlier · m) = none → P key m) :
    u.Finds P (m :: earlier) := by
  intro key n hn
  rw [foundAt?] at hn
  split at hn
  · split at hn
    · rename_i hasks
      cases hgood : (u.foundAt? key earlier).filter (u.good earlier · m) with
      | some n' =>
        rw [hgood, Option.getD_some] at hn
        obtain rfl := Option.some.inj hn
        exact h key n' (Option.filter_eq_some_iff.1 hgood).1
      | none =>
        rw [hgood, Option.getD_none] at hn
        obtain rfl := Option.some.inj hn
        exact hfound key hasks hgood
    · exact h key n hn
  · cases hn

/-! ## Recalling -/

/-- Under every key, the memo has the answer of the moment at which it was found, and the time of that moment. -/
def Recalls (u : Use M κ) (answer : M → α) (moments : List M) (memo : Memo κ α) : Prop :=
  ∀ key, memo.last? key = (u.foundAt? key moments).map fun n => ⟨u.now n, answer n⟩

theorem recalls_empty (u : Use M κ) (answer : M → α) : u.Recalls answer [] Memo.empty := fun _ => rfl

theorem recalls_dropped (answer : M → α) (hkeeps : u.keeps m = false) : u.Recalls answer (m :: earlier) Memo.empty := by
  intro key
  rw [foundAt?, hkeeps]
  rfl

namespace Recalls

theorem fresh?_eq (h : u.Recalls answer earlier memo) (ttl now : Nat) (key : κ) :
    memo.fresh? ttl now key = ((u.foundAt? key earlier).filter fun n => now - u.now n < ttl).map answer := by
  rw [Memo.fresh?_eq, h key]
  cases u.foundAt? key earlier with
  | none => rfl
  | some n => by_cases hn : now - u.now n < ttl <;> simp [Option.filter, hn]

theorem not_asked (h : u.Recalls answer earlier memo) (hkeeps : u.keeps m = true) (hasks : u.asks? m = none) :
    u.Recalls answer (m :: earlier) memo := by
  intro key
  rw [foundAt?, hkeeps, hasks]
  exact h key

/-- A good answer is given again and not recorded anew. -/
theorem reused (h : u.Recalls answer earlier memo) (hkeeps : u.keeps m = true) (hasks : u.asks? m = some key)
    (hgood : (u.foundAt? key earlier).filter (u.good earlier · m) = some n) :
    u.foundAt? key (m :: earlier) = some n ∧ u.Recalls answer (m :: earlier) memo := by
  have hfound : u.foundAt? key (m :: earlier) = some n := by
    rw [foundAt?, if_pos hkeeps, if_pos hasks, hgood, Option.getD_some]
  refine ⟨hfound, fun other => ?_⟩
  by_cases hkey : other = key
  · subst hkey
    rw [hfound, h other, (Option.filter_eq_some_iff.1 hgood).1]
  · rw [foundAt?, if_pos hkeeps, hasks, if_neg fun hsome => hkey (Option.some.inj hsome).symm]
    exact h other

/-- An answer that had to be found is recorded. -/
theorem found (h : u.Recalls answer earlier memo) (hkeeps : u.keeps m = true) (hasks : u.asks? m = some key)
    (hgood : (u.foundAt? key earlier).filter (u.good earlier · m) = none) :
    u.foundAt? key (m :: earlier) = some m ∧
      u.Recalls answer (m :: earlier) (memo.record (u.now m) key (answer m)) := by
  have hfound : u.foundAt? key (m :: earlier) = some m := by
    rw [foundAt?, if_pos hkeeps, if_pos hasks, hgood, Option.getD_none]
  refine ⟨hfound, fun other => ?_⟩
  rw [last?_record]
  by_cases hkey : other = key
  · subst hkey
    rw [if_pos rfl, hfound]
    rfl
  · rw [if_neg hkey, foundAt?, if_pos hkeeps, hasks, if_neg fun hsome => hkey (Option.some.inj hsome).symm]
    exact h other

end Recalls

end Use

end TemplateDebug.Memo
