import Mathlib.Data.List.Nodup
import Mathlib.Data.Option.Basic
import TemplateDebug.Proofs.Entries
import TemplateDebug.Toml.Reader
/-!
# Keys of tables

No table of a document has a key twice. Members are only added under keys that are free, and a member that is replaced
keeps its key. So whatever a statement does, the tables that it adds to and those around them stay as they should be.
-/

namespace TemplateDebug.Toml

variable {key name last : String} {value t changed : Toml} {ms made : Members} {names : List String}
  {add fill change : Members → Option Members} {assignments : List (Key × Toml)}

/-- Every table in the value has each of its keys once. -/
inductive Distinct : Toml → Prop where
  | text (s : String) : Distinct (.text s)
  | integer (n : Int) : Distinct (.integer n)
  | real (x : Double) : Distinct (.real x)
  | flag (b : Bool) : Distinct (.flag b)
  | dateTime (s : String) : Distinct (.dateTime s)
  | list {items : List Toml} (h : ∀ t ∈ items, Distinct t) : Distinct (.list items)
  | tables {items : List Toml} (h : ∀ t ∈ items, Distinct t) : Distinct (.tables items)
  | table {origin : Origin} {ms : Members} (hkeys : (ms.map Prod.fst).Nodup) (h : ∀ m ∈ ms, Distinct m.2) :
      Distinct (.table origin ms)

/-- No key comes twice, neither here nor in a value. -/
structure DistinctMembers (ms : Members) : Prop where
  keys : (ms.map Prod.fst).Nodup
  values : ∀ m ∈ ms, Distinct m.2

/-- What is made of members without a key that comes twice has none either. -/
def Keeps (f : Members → Option Members) : Prop :=
  ∀ ms made, DistinctMembers ms → f ms = some made → DistinctMembers made

/-! ## Changes of members -/

theorem DistinctMembers.nil : DistinctMembers [] := ⟨List.nodup_nil, fun _ h => absurd h List.not_mem_nil⟩

theorem DistinctMembers.distinct {origin : Origin} (h : DistinctMembers ms) : Distinct (.table origin ms) :=
  .table h.keys h.values

/-- A table that is made from nothing. -/
theorem Keeps.distinct {origin : Origin} (hadd : Keeps add) (h : add [] = some made) : Distinct (.table origin made) :=
  (hadd [] made .nil h).distinct

theorem DistinctMembers.lookup (h : DistinctMembers ms) (hv : ms.lookup key = some value) : Distinct value :=
  h.values _ (mem_of_lookup hv)

theorem not_mem_keys_of_lookup (h : ms.lookup key = none) : key ∉ ms.map Prod.fst := by
  intro hm
  obtain ⟨m, hm', rfl⟩ := List.mem_map.1 hm
  have := List.lookup_eq_none_iff.1 h m hm'
  simp at this

theorem DistinctMembers.append (h : DistinctMembers ms) (hkey : key ∉ ms.map Prod.fst) (hv : Distinct value) :
    DistinctMembers (ms ++ [(key, value)]) where
  keys := by
    rw [List.map_append, List.map_singleton, ← List.concat_eq_append]
    exact h.keys.concat hkey
  values m hm := by
    rcases List.mem_append.1 hm with hm | hm
    · exact h.values m hm
    · cases List.mem_singleton.1 hm
      exact hv

theorem DistinctMembers.append_free (h : DistinctMembers ms) (hfree : ms.lookup key = none) (hv : Distinct value) :
    DistinctMembers (ms ++ [(key, value)]) := h.append (not_mem_keys_of_lookup hfree) hv

theorem keys_replace (key : String) (value : Toml) (ms : Members) :
    (replace key value ms).map Prod.fst = ms.map Prod.fst := by
  rw [replace, List.map_map]
  refine List.map_congr_left fun m _ => ?_
  dsimp only [Function.comp]
  split
  · rename_i h
    exact h.symm
  · rfl

theorem DistinctMembers.replace (h : DistinctMembers ms) (hv : Distinct value) :
    DistinctMembers (replace key value ms) where
  keys := by
    rw [keys_replace]
    exact h.keys
  values m hm := by
    obtain ⟨m', hm', rfl⟩ := List.mem_map.1 hm
    split
    · exact hv
    · exact h.values m' hm'

theorem DistinctMembers.erase (h : DistinctMembers ms) (key : String) :
    DistinctMembers (ms.filter fun m => m.1 ≠ key) where
  keys := h.keys.sublist (List.filter_sublist.map _)
  values m hm := h.values m (List.mem_filter.1 hm).1

theorem keeps_append? (hv : Distinct value) : Keeps (append? key value) := by
  intro ms made h hmade
  unfold append? at hmade
  split at hmade
  · cases hmade
  · rename_i hfree
    cases hmade
    exact h.append_free (Option.not_isSome_iff_eq_none.1 hfree) hv

/-- A value that is changed in its members stays as it should be. -/
theorem distinct_extendAny? (hadd : Keeps add) (ht : Distinct t) (h : extendAny? add t = some changed) :
    Distinct changed := by
  cases ht with
  | table hkeys hvalues =>
    obtain ⟨made, hmade, rfl⟩ := Option.map_eq_some_iff.1 h
    exact (hadd _ made ⟨hkeys, hvalues⟩ hmade).distinct
  | _ => cases h

theorem extendAny?_of_extend? {direct : Bool} (h : extend? direct add t = some changed) :
    extendAny? add t = some changed := by
  unfold extend? at h
  split at h
  · exact h
  · split at h
    · cases h
    · exact h
  · cases h

theorem forall_mem_changeLast? {α : Type} {P : α → Prop} {f : α → Option α} {items made : List α}
    (hf : ∀ a b, P a → f a = some b → P b) (hitems : ∀ a ∈ items, P a) (h : changeLast? f items = some made) :
    ∀ a ∈ made, P a := by
  obtain ⟨last, hlast, h⟩ := Option.bind_eq_some_iff.1 h
  obtain ⟨changed, hchanged, rfl⟩ := Option.map_eq_some_iff.1 h
  intro a ha
  rcases List.mem_append.1 ha with ha | ha
  · exact hitems a (List.dropLast_subset _ ha)
  · cases List.mem_singleton.1 ha
    exact hf last changed (hitems last (List.mem_of_getLast? hlast)) hchanged

/-- The last table of an array is changed in its members. -/
theorem distinct_changeLast? {items made : List Toml} (hadd : Keeps add) (hitems : ∀ t ∈ items, Distinct t)
    (h : changeLast? (extendAny? add) items = some made) : Distinct (.tables made) :=
  .tables (forall_mem_changeLast? (fun _ _ => distinct_extendAny? hadd) hitems h)

/-! ## Dotted keys -/

theorem keeps_assign? (hv : Distinct value) (above : List String) : Keeps (assign? last value above) := by
  induction above with
  | nil =>
    intro ms made h hmade
    rw [assign?] at hmade
    exact keeps_append? hv ms made h hmade
  | cons name above ih =>
    -- the table under the first name is made, or changed in its members, which `ih` is about
    intro ms made h hmade
    rw [assign?] at hmade
    split at hmade
    · rename_i hfree
      obtain ⟨inner, hinner, rfl⟩ := Option.map_eq_some_iff.1 hmade
      exact h.append_free hfree (ih.distinct hinner)
    · rename_i items hitems
      split at hmade
      · cases hmade
      · obtain ⟨items', hitems', rfl⟩ := Option.map_eq_some_iff.1 hmade
        cases h.lookup hitems with
        | tables hall => exact h.replace (distinct_changeLast? ih hall hitems')
    · rename_i node _ hnode
      obtain ⟨node', hnode', rfl⟩ := Option.map_eq_some_iff.1 hmade
      exact h.replace (distinct_extendAny? ih (h.lookup hnode) (extendAny?_of_extend? hnode'))

theorem keeps_assignAll? (h : ∀ a ∈ assignments, Distinct a.2) : Keeps (assignAll? assignments) := by
  induction assignments with
  | nil =>
    intro ms made hms hmade
    cases hmade
    exact hms
  | cons a assignments ih =>
    intro ms made hms hmade
    obtain ⟨ha, hrest⟩ := List.forall_mem_cons.1 h
    obtain ⟨next, hnext, hmade⟩ := Option.bind_eq_some_iff.1 hmade
    exact ih hrest next made (keeps_assign? ha _ ms next hms hnext) hmade

/-! ## Headers -/

theorem keeps_within? (hchange : Keeps change) (names : List String) : Keeps (within? change names) := by
  induction names with
  | nil =>
    intro ms made h hmade
    rw [within?] at hmade
    exact hchange ms made h hmade
  | cons name names ih =>
    intro ms made h hmade
    rw [within?] at hmade
    split at hmade
    · rename_i hfree
      obtain ⟨inner, hinner, rfl⟩ := Option.map_eq_some_iff.1 hmade
      exact h.append_free hfree (ih.distinct hinner)
    · rename_i items hitems
      obtain ⟨items', hitems', rfl⟩ := Option.map_eq_some_iff.1 hmade
      cases h.lookup hitems with
      | tables hall => exact h.replace (distinct_changeLast? ih hall hitems')
    · cases hmade
    · rename_i node _ _ hnode
      obtain ⟨node', hnode', rfl⟩ := Option.map_eq_some_iff.1 hmade
      exact h.replace (distinct_extendAny? ih (h.lookup hnode) hnode')

theorem keeps_define? (hfill : Keeps fill) : Keeps (define? name fill) := by
  intro ms made h hmade
  unfold define? at hmade
  split at hmade
  · rename_i hfree
    obtain ⟨inner, hinner, rfl⟩ := Option.map_eq_some_iff.1 hmade
    exact h.append_free hfree (hfill.distinct hinner)
  · rename_i inner hinner
    obtain ⟨inner', hinner', rfl⟩ := Option.map_eq_some_iff.1 hmade
    cases h.lookup hinner with
    | table hkeys hvalues =>
      -- the table that was there is gone
      have hfree : name ∉ (ms.filter fun m => m.1 ≠ name).map Prod.fst := by simp
      exact (h.erase name).append hfree (hfill _ _ ⟨hkeys, hvalues⟩ hinner').distinct
  · cases hmade

theorem keeps_addElement? (hfill : Keeps fill) : Keeps (addElement? name fill) := by
  intro ms made h hmade
  unfold addElement? at hmade
  split at hmade
  · rename_i hfree
    obtain ⟨inner, hinner, rfl⟩ := Option.map_eq_some_iff.1 hmade
    exact h.append_free hfree (.tables (List.forall_mem_singleton.2 (hfill.distinct hinner)))
  · rename_i items hitems
    obtain ⟨inner, hinner, rfl⟩ := Option.map_eq_some_iff.1 hmade
    cases h.lookup hitems with
    | tables hall =>
      refine h.replace (.tables fun t ht => ?_)
      rcases List.mem_append.1 ht with ht | ht
      · exact hall t ht
      · cases List.mem_singleton.1 ht
        exact hfill.distinct hinner
  · cases hmade

/-! ## Values that are read -/

theorem distinct_fitting? {n : Int} (h : fitting? n = some t) : Distinct t := by
  unfold fitting? at h
  split at h
  · cases h
    exact .integer n
  · cases h

theorem distinct_integer? {s : List Char} (h : integer? s = some t) : Distinct t := by
  unfold integer? at h
  split at h
  all_goals
    obtain ⟨_, -, h⟩ := Option.bind_eq_some_iff.1 h
    exact distinct_fitting? h

theorem distinct_real? {s : List Char} (h : real? s = some t) : Distinct t := by
  simp only [real?, Option.bind_eq_bind, Option.bind_eq_some_iff] at h
  obtain ⟨_, -, _, -, _, -, _, -, h⟩ := h
  split at h
  · cases h
  · cases h
    exact .real _

theorem distinct_special? {s : List Char} (h : special? s = some t) : Distinct t := by
  unfold special? at h
  dsimp only at h
  split at h
  · cases h
    exact .real _
  · split at h
    · cases h
      exact .real _
    · cases h

theorem distinct_word? {s : List Char} (h : word? s = some t) : Distinct t := by
  unfold word? at h
  split at h
  · cases h
    exact .flag true
  · split at h
    · cases h
      exact .flag false
    · split at h
      · cases h
        exact .dateTime _
      · rcases Option.or_eq_some_iff.1 h with h | ⟨-, h⟩
        · exact distinct_special? h
        · rcases Option.or_eq_some_iff.1 h with h | ⟨-, h⟩
          · exact distinct_integer? h
          · exact distinct_real? h

theorem distinct_readBare? {s rest : List Char} (h : readBare? s = some (t, rest)) : Distinct t := by
  unfold readBare? at h
  dsimp only at h
  split at h
  · split at h
    · split at h
      · cases h
        exact .dateTime _
      · cases h
    · obtain ⟨_, hword, h⟩ := Option.map_eq_some_iff.1 h
      cases h
      exact distinct_word? hword
  · obtain ⟨_, hword, h⟩ := Option.map_eq_some_iff.1 h
    cases h
    exact distinct_word? hword

/-- No table in what the three readers give with so much fuel has a key twice, if none in what they have read has. -/
structure ReadsDistinct (fuel : Nat) : Prop where
  value : ∀ depth s t rest, readValue fuel depth s = some (t, rest) → Distinct t
  items : ∀ depth done s t rest, (∀ d ∈ done, Distinct d) → readItems fuel depth done s = some (t, rest) → Distinct t
  inlined : ∀ depth done s t rest, (∀ d ∈ done, Distinct d.2) → readInline fuel depth done s = some (t, rest) →
    Distinct t

theorem readsDistinct (fuel : Nat) : ReadsDistinct fuel := by
  induction fuel with
  | zero =>
    constructor
    · intro depth s t rest h
      cases h
    · intro depth done s t rest _ h
      cases h
    · intro depth done s t rest _ h
      cases h
  | succ fuel ih =>
    constructor
    · intro depth s t rest h
      unfold readValue at h
      split at h
      · split at h
        · cases h
        · exact ih.items _ _ _ _ _ (by simp) h
      · split at h
        · cases h
        · split at h
          · cases h
            exact .table List.nodup_nil (by simp)
          · exact ih.inlined _ _ _ _ _ (by simp) h
      · split at h
        · obtain ⟨_, -, h⟩ := Option.map_eq_some_iff.1 h
          cases h
          exact .text _
        · exact distinct_readBare? h
      · cases h
    · intro depth done s t rest hdone h
      rw [readItems] at h
      split at h
      · cases h
        exact .list fun d hd => hdone d (List.mem_reverse.1 hd)
      · split at h
        · cases h
        · rename_i item _ hitem
          have hall : ∀ d ∈ item :: done, Distinct d := List.forall_mem_cons.2 ⟨ih.value _ _ _ _ hitem, hdone⟩
          split at h
          · exact ih.items _ _ _ _ _ hall h
          · cases h
            exact .list fun d hd => hall d (List.mem_reverse.1 hd)
          · cases h
    · intro depth done s t rest hdone h
      rw [readInline] at h
      split at h
      · split at h
        · cases h
        · rename_i key _ _ _ value _ hvalue
          have hall : ∀ d ∈ (key, value) :: done, Distinct d.2 :=
            List.forall_mem_cons.2 ⟨ih.value _ _ _ _ hvalue, hdone⟩
          split at h
          · exact ih.inlined _ _ _ _ _ hall h
          · obtain ⟨members, hmembers, h⟩ := Option.map_eq_some_iff.1 h
            cases h
            exact (keeps_assignAll? fun d hd => hall d (List.mem_reverse.1 hd)).distinct hmembers
          · cases h
      · cases h

/-! ## Documents -/

/-- The value that the statement assigns, if it assigns one, has no table with a key twice. -/
def Statement.Distinct : Statement → Prop
  | .assign _ value => Toml.Distinct value
  | _ => True

theorem distinct_readStatement? {s rest : List Char} {found : Option Statement}
    (h : readStatement? s = some (found, rest)) : ∀ statement ∈ found, statement.Distinct := by
  unfold readStatement? at h
  split at h
  · simp only [Option.bind_eq_bind, Option.bind_eq_some_iff] at h
    obtain ⟨_, -, _, -, h⟩ := h
    cases h
    rintro _ ⟨⟩
    trivial
  · simp only [Option.bind_eq_bind, Option.bind_eq_some_iff] at h
    obtain ⟨_, -, _, -, h⟩ := h
    cases h
    rintro _ ⟨⟩
    trivial
  · split at h
    · obtain ⟨_, -, h⟩ := Option.map_eq_some_iff.1 h
      cases h
      rintro _ ⟨⟩
    · split at h
      · simp only [Option.bind_eq_bind, Option.bind_eq_some_iff] at h
        obtain ⟨_, hvalue, _, -, h⟩ := h
        cases h
        rintro _ ⟨⟩
        exact (readsDistinct _).value _ _ _ _ hvalue
      · cases h
  · cases h

theorem distinct_readStatements {fuel : Nat} {done found : List Statement} {s : List Char}
    (hdone : ∀ statement ∈ done, statement.Distinct) (h : readStatements fuel done s = some found) :
    ∀ statement ∈ found, statement.Distinct := by
  induction fuel generalizing done s with
  | zero => cases h
  | succ fuel ih =>
    rw [readStatements] at h
    split at h
    · cases h
      exact fun statement hs => hdone statement (List.mem_reverse.1 hs)
    · split at h
      · rename_i hread
        refine ih (fun statement hs => ?_) h
        rcases List.mem_append.1 hs with hs | hs
        · exact distinct_readStatement? hread statement (Option.mem_toList.1 hs)
        · exact hdone statement hs
      · cases h

theorem distinct_takeAssignments {statements : List Statement} (h : ∀ statement ∈ statements, statement.Distinct) :
    (∀ a ∈ (takeAssignments statements).1, Distinct a.2) ∧
      ∀ statement ∈ (takeAssignments statements).2, statement.Distinct := by
  fun_induction takeAssignments statements with
  | case1 key value rest r ih =>
    obtain ⟨hvalue, hrest⟩ := List.forall_mem_cons.1 h
    obtain ⟨htaken, hleft⟩ := ih hrest
    exact ⟨List.forall_mem_cons.2 ⟨hvalue, htaken⟩, hleft⟩
  | case2 rest _ => exact ⟨by simp, h⟩

theorem keeps_assemble? {statements : List Statement} {root : Members} (hroot : DistinctMembers root)
    (hstatements : ∀ statement ∈ statements, statement.Distinct) (h : assemble? root statements = some made) :
    DistinctMembers made := by
  fun_induction assemble? root statements with
  | case1 root =>
    cases h
    exact hroot
  | case2 root key value rest ih =>
    obtain ⟨hvalue, hrest⟩ := List.forall_mem_cons.1 hstatements
    obtain ⟨next, hnext, h⟩ := Option.bind_eq_some_iff.1 h
    exact ih next (keeps_assign? hvalue _ root next hroot hnext) hrest h
  | case3 root key rest r ih =>
    obtain ⟨hassigned, hrest⟩ := distinct_takeAssignments (List.forall_mem_cons.1 hstatements).2
    obtain ⟨next, hnext, h⟩ := Option.bind_eq_some_iff.1 h
    have hdefined : Keeps (define? key.last (assignAll? r.1)) := keeps_define? (keeps_assignAll? hassigned)
    exact ih next (keeps_within? hdefined key.above root next hroot hnext) hrest h
  | case4 root key rest r ih =>
    obtain ⟨hassigned, hrest⟩ := distinct_takeAssignments (List.forall_mem_cons.1 hstatements).2
    obtain ⟨next, hnext, h⟩ := Option.bind_eq_some_iff.1 h
    have hadded : Keeps (addElement? key.last (assignAll? r.1)) := keeps_addElement? (keeps_assignAll? hassigned)
    exact ih next (keeps_within? hadded key.above root next hroot hnext) hrest h

/-- No table of a document has a key twice. -/
theorem distinct_of_parse? {text : String} (h : parse? text = some ms) : DistinctMembers ms := by
  obtain ⟨statements, hread, hmade⟩ := Option.bind_eq_some_iff.1 h
  exact keeps_assemble? .nil (distinct_readStatements (by simp) hread) hmade

end TemplateDebug.Toml
