import TemplateDebug.Json.Reader
import TemplateDebug.Proofs.Entries
/-!
# Members in order

Every object that is read lists its members in the order of their keys, each key once. In such an object, a member set
to the value it has leaves the object as it was.
-/

namespace TemplateDebug.Json

mutual
/-- Every object in the value lists its members in the order of their keys, each key once. -/
def ordered : Json → Bool
  | arr items => orderedItems items
  | obj members => orderedMembers members
  | _ => true

def orderedItems : List Json → Bool
  | [] => true
  | j :: js => j.ordered && orderedItems js

def orderedMembers : List (String × Json) → Bool
  | [] => true
  | (key, j) :: members => members.all (fun m => key < m.1) && j.ordered && orderedMembers members
end

variable {key : String} {value j : Json} {members : List (String × Json)}

theorem orderedItems_iff {items : List Json} : orderedItems items = true ↔ ∀ j ∈ items, j.ordered = true := by
  induction items with
  | nil => simp [orderedItems]
  | cons j js ih => simp [orderedItems, ih]

theorem orderedMembers_iff :
    orderedMembers members = true ↔ (members.Pairwise fun a b => a.1 < b.1) ∧ ∀ m ∈ members, m.2.ordered = true := by
  induction members with
  | nil => simp [orderedMembers]
  | cons m members ih =>
    obtain ⟨key, j⟩ := m
    simp only [orderedMembers, Bool.and_eq_true, ih, List.all_eq_true, decide_eq_true_eq, List.pairwise_cons,
      List.forall_mem_cons, and_assoc, and_left_comm]

theorem ordered_of_get? (h : j.ordered = true) (hv : j.get? key = some value) : value.ordered = true := by
  cases j with
  | obj members => exact (orderedMembers_iff.1 h).2 _ (mem_of_lookup hv)
  | _ => cases hv

/-! ## Setting a member to the value it has -/

theorem insertMember_self (h : members.Pairwise fun a b => a.1 < b.1) (hv : members.lookup key = some value) :
    insertMember key value members = members := by
  induction members with
  | nil => cases hv
  | cons m members ih =>
    obtain ⟨k, v⟩ := m
    obtain ⟨hlt, h⟩ := List.pairwise_cons.1 h
    rw [insertMember]
    by_cases hk : key = k
    · subst hk
      rw [List.lookup_cons_self] at hv
      cases hv
      rw [if_pos rfl]
    · rw [List.lookup_cons, beq_false_of_ne hk] at hv
      -- the key stands further back, so after the first one
      have hafter : k < key := hlt (key, value) (mem_of_lookup hv)
      rw [if_neg hk, if_neg (String.lt_asymm hafter), ih h hv]

theorem set_self (h : j.ordered = true) (hv : j.get? key = some value) : j.set key value = j := by
  cases j with
  | obj members => exact congrArg obj (insertMember_self (orderedMembers_iff.1 h).1 hv)
  | _ => rfl

/-! ## What is read -/

theorem mem_insertMember {m : String × Json} (h : m ∈ insertMember key value members) :
    m = (key, value) ∨ m ∈ members := by
  induction members with
  | nil => exact .inl (List.mem_singleton.1 h)
  | cons first members ih =>
    obtain ⟨k, v⟩ := first
    rw [insertMember] at h
    split at h
    · rcases List.mem_cons.1 h with h | h
      · exact .inl h
      · exact .inr (List.mem_cons_of_mem _ h)
    · split at h
      · exact List.mem_cons.1 h
      · rcases List.mem_cons.1 h with rfl | h
        · exact .inr List.mem_cons_self
        · exact (ih h).imp_right (List.mem_cons_of_mem _)

theorem pairwise_insertMember (h : members.Pairwise fun a b => a.1 < b.1) :
    (insertMember key value members).Pairwise fun a b => a.1 < b.1 := by
  induction members with
  | nil => exact List.pairwise_singleton _ _
  | cons first members ih =>
    obtain ⟨k, v⟩ := first
    obtain ⟨hlt, h'⟩ := List.pairwise_cons.1 h
    rw [insertMember]
    split
    · rename_i hk
      subst hk
      exact List.pairwise_cons.2 ⟨hlt, h'⟩
    · rename_i hne
      split
      · rename_i hbefore
        refine List.pairwise_cons.2 ⟨?_, h⟩
        intro m hm
        rcases List.mem_cons.1 hm with rfl | hm
        · exact hbefore
        · exact String.lt_trans hbefore (hlt m hm)
      · rename_i hnot
        refine List.pairwise_cons.2 ⟨?_, ih h'⟩
        intro m hm
        rcases mem_insertMember hm with rfl | hm
        · -- neither equal nor before, so after
          exact Decidable.byContradiction fun hle =>
            hne (String.le_antisymm (String.not_lt.1 hle) (String.not_lt.1 hnot))
        · exact hlt m hm

theorem orderedMembers_insertMember (h : orderedMembers members = true) (hv : value.ordered = true) :
    orderedMembers (insertMember key value members) = true := by
  obtain ⟨hsorted, hall⟩ := orderedMembers_iff.1 h
  refine orderedMembers_iff.2 ⟨pairwise_insertMember hsorted, ?_⟩
  intro m hm
  rcases mem_insertMember hm with rfl | hm
  · exact hv
  · exact hall m hm

theorem ordered_ofMembers (h : ∀ m ∈ members, m.2.ordered = true) : (ofMembers members).ordered = true := by
  unfold ofMembers
  refine List.foldlRecOn members _ (motive := fun ms => orderedMembers ms = true) rfl ?_
  intro ms hms m hm
  exact orderedMembers_insertMember hms (h m hm)

theorem ordered_scaledWord {negative : Bool} {word : Nat} {exponent : Int}
    (h : scaledWord negative word exponent = some j) : j.ordered = true := by
  obtain ⟨x, -, rfl⟩ := Option.map_eq_some_iff.1 h
  rfl

theorem ordered_number {t : NumberText} (h : t.value? = some j) : j.ordered = true := by
  unfold NumberText.value? at h
  dsimp only at h
  split at h
  · cases h
    rfl
  · split at h
    · exact ordered_scaledWord h
    · split at h
      · exact ordered_scaledWord h
      · split at h
        · cases h
          rfl
        · cases h

theorem ordered_readNumber {negative : Bool} {s rest : List Char} (h : readNumber negative s = some (j, rest)) :
    j.ordered = true := by
  unfold readNumber at h
  simp only [] at h
  split at h
  · cases h
  · simp only [Option.bind_eq_bind, Option.bind_eq_some_iff] at h
    obtain ⟨_, -, _, -, value, hv, h⟩ := h
    cases h
    exact ordered_number hv

/-- What the three readers give with so much fuel is ordered, when what they have read so far is. -/
structure ReadsOrdered (fuel : Nat) : Prop where
  value : ∀ depth s j rest, readValue fuel depth s = some (j, rest) → j.ordered = true
  items : ∀ depth done s j rest, (∀ d ∈ done, d.ordered = true) → readItems fuel depth done s = some (j, rest) →
    j.ordered = true
  members : ∀ depth done s j rest, (∀ d ∈ done, d.2.ordered = true) →
    readMembers fuel depth done s = some (j, rest) → j.ordered = true

theorem readsOrdered (fuel : Nat) : ReadsOrdered fuel := by
  induction fuel with
  | zero =>
    constructor
    · intro depth s j rest h
      cases h
    · intro depth done s j rest _ h
      cases h
    · intro depth done s j rest _ h
      cases h
  | succ fuel ih =>
    constructor
    · intro depth s j rest h
      rw [readValue] at h
      split at h
      · obtain ⟨_, -, h⟩ := Option.map_eq_some_iff.1 h
        cases h
        rfl
      · obtain ⟨_, -, h⟩ := Option.map_eq_some_iff.1 h
        cases h
        rfl
      · obtain ⟨_, -, h⟩ := Option.map_eq_some_iff.1 h
        cases h
        rfl
      · obtain ⟨_, -, h⟩ := Option.map_eq_some_iff.1 h
        cases h
        rfl
      · exact ordered_readNumber h
      · split at h
        · cases h
        · split at h
          · cases h
            rfl
          · exact ih.items _ _ _ _ _ (by simp) h
      · split at h
        · cases h
        · split at h
          · cases h
            rfl
          · exact ih.members _ _ _ _ _ (by simp) h
      · exact ordered_readNumber h
    · intro depth done s j rest hdone h
      rw [readItems] at h
      split at h
      · cases h
      · rename_i j' rest' hj
        have hall : ∀ d ∈ j' :: done, d.ordered = true := by
          intro d hd
          rcases List.mem_cons.1 hd with rfl | hd
          · exact ih.value _ _ _ _ hj
          · exact hdone d hd
        split at h
        · exact ih.items _ _ _ _ _ hall h
        · cases h
          exact orderedItems_iff.2 fun d hd => hall d (List.mem_reverse.1 hd)
        · cases h
    · intro depth done s j rest hdone h
      rw [readMembers] at h
      split at h
      · split at h
        · cases h
        · split at h
          · split at h
            · cases h
            · rename_i key _ _ _ _ _ _ j' rest' hj
              have hall : ∀ d ∈ (key, j') :: done, d.2.ordered = true := by
                intro d hd
                rcases List.mem_cons.1 hd with rfl | hd
                · exact ih.value _ _ _ _ hj
                · exact hdone d hd
              split at h
              · exact ih.members _ _ _ _ _ hall h
              · cases h
                exact ordered_ofMembers fun d hd => hall d (List.mem_reverse.1 hd)
              · cases h
          · cases h
      · cases h

/-- Every message that arrives is ordered. -/
theorem ordered_of_parseBytes? {bytes : Bytes} (h : parseBytes? bytes = some j) : j.ordered = true := by
  obtain ⟨text, -, h⟩ := Option.bind_eq_some_iff.1 h
  unfold parse? parseWithin at h
  dsimp only at h
  split at h
  · rename_i hread
    split at h
    · cases h
      exact (readsOrdered _).value _ _ _ _ hread
    · cases h
  · cases h

end TemplateDebug.Json
