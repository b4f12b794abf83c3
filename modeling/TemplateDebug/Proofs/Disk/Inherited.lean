import TemplateDebug.Disk.Tree
import TemplateDebug.Proofs.Entries
/-!
# What a whole tree has

A property that every directory passes on to its entries holds of each node that a path leads to, if it holds of the
root: a look-up only goes down from a directory, up to one it came through, and on from a link.
-/

namespace TemplateDebug

/-- Every directory passes the property on to its entries, and an empty one has it. -/
structure Node.Inherited (P : Node → Prop) : Prop where
  entry : ∀ {entries : List (String × Node)}, P (.dir entries) → ∀ e ∈ entries, P e.2
  empty : P (.dir [])

namespace Disk

variable {P : Node → Prop} {root node : Node} {follow : Bool} {above : List (String × Node)}
  {names found : List String} {disk : Disk} {p : Path}

/-- The node where a look-up stands. -/
theorem inherited_head (hroot : P root) (h : ∀ x ∈ above, P x.2) : P ((above.head?.map (·.2)).getD root) := by
  cases above with
  | nil => exact hroot
  | cons x above => exact h x List.mem_cons_self

theorem inherited_walk {jump : List (String × Node) → List String → Except FileError Place} (hP : Node.Inherited P)
    (hroot : P root) (h : ∀ x ∈ above, P x.2)
    (hjump : ∀ above names, (∀ x ∈ above, P x.2) → jump above names = .ok (.found found node) → P node)
    (hw : walk root follow jump above names = .ok (.found found node)) : P node := by
  induction names generalizing above with
  | nil =>
    rw [walk] at hw
    cases hw
    exact inherited_head hroot h
  | cons name rest ih =>
    have hhead := inherited_head hroot h
    rw [walk] at hw
    split at hw
    · rename_i entries hdir
      rw [hdir] at hhead
      split at hw
      · -- a dot stays
        exact ih h hw
      · split at hw
        · -- two dots go up
          exact ih (fun x hx => h x (List.mem_of_mem_tail hx)) hw
        · split at hw
          · cases hw
          · split at hw
            · split at hw <;> cases hw
            · rename_i target hlookup
              split at hw
              · -- a link at the end that is not followed
                cases hw
                exact hP.entry hhead _ (mem_of_lookup hlookup)
              · -- a link starts again, from the root or from here
                refine hjump _ _ ?_ hw
                split
                · exact fun _ hx => by cases hx
                · exact h
            · rename_i child _ hlookup
              refine ih ?_ hw
              rintro x (_ | ⟨_, hx⟩)
              · exact hP.entry hhead _ (mem_of_lookup hlookup)
              · exact h x hx
    · cases hw

theorem inherited_descend {links : Nat} (hP : Node.Inherited P) (hroot : P root) (h : ∀ x ∈ above, P x.2)
    (hd : descend root follow links above names = .ok (.found found node)) : P node := by
  induction links generalizing above names with
  | zero => exact inherited_walk hP hroot h (fun _ _ _ hj => by cases hj) hd
  | succ links ih => exact inherited_walk hP hroot h (fun _ _ hw hj => ih hw hj) hd

theorem inherited_ancestors (hP : Node.Inherited P) (hroot : P root) (names : List String) :
    ∀ x ∈ ancestors root names, P x.2 := by
  -- the fold keeps the property of the node it stands at, too
  suffices h : ∀ acc : Node × List (String × Node), P acc.1 → (∀ x ∈ acc.2, P x.2) →
      ∀ x ∈ (names.foldl (fun (acc : Node × List (String × Node)) name =>
        let n := (acc.1.entries.lookup name).getD (.dir [])
        (n, (name, n) :: acc.2)) acc).2, P x.2 from h (root, []) hroot fun _ hx => by cases hx
  induction names with
  | nil => exact fun acc _ h => h
  | cons name names ih =>
    intro acc ha h
    have hn : P ((acc.1.entries.lookup name).getD (.dir [])) := by
      cases hl : acc.1.entries.lookup name with
      | none => exact hP.empty
      | some n =>
        cases hacc : acc.1 with
        | dir es =>
          rw [hacc] at hl ha
          exact hP.entry ha _ (mem_of_lookup hl)
        | file => simp [hacc, Node.entries] at hl
        | link => simp [hacc, Node.entries] at hl
    refine ih _ hn ?_
    rintro x (_ | ⟨_, hx⟩)
    · exact hn
    · exact h x hx

theorem inherited_lookup (hP : Node.Inherited P) (hroot : P disk.root)
    (hl : disk.lookup follow p = .ok (.found found node)) : P node := by
  unfold lookup at hl
  split at hl
  · cases hl
  · split at hl
    · cases hl
    · split at hl
      · cases hl
      · refine inherited_descend hP hroot ?_ hl
        split
        · exact fun _ hx => by cases hx
        · exact inherited_ancestors hP hroot _

/-- What the root has and every directory passes on is had by what a path leads to. -/
theorem inherited_node (hP : Node.Inherited P) (hroot : P disk.root) (hn : disk.node p = .ok node) : P node := by
  unfold Disk.node at hn
  split at hn
  · rename_i hl
    cases hn
    exact inherited_lookup hP hroot hl
  · cases hn
  · cases hn

end Disk

end TemplateDebug
