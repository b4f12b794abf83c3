import TemplateDebug.Disk.Edit
import TemplateDebug.Proofs.Disk.Answers
import TemplateDebug.Proofs.Disk.Inherited
import TemplateDebug.Proofs.Text.Order
/-!
# The files below a directory

A walk lists the files that names lead to through directories that can be opened, each once: depth first, the entries of
a directory by the bytes of their names. So the lists of names stand in lexicographic order.
-/

namespace TemplateDebug

namespace Node

/-! ## Ordered trees -/

mutual
/-- Every directory at or below a node lists its entries by the bytes of their names. -/
def Ordered : Node → Prop
  | dir entries => OrderedIn entries
  | _ => True

def OrderedIn : List (String × Node) → Prop
  | [] => True
  | (name, node) :: rest => (∀ e ∈ rest, Utf8.encode name < Utf8.encode e.1) ∧ Ordered node ∧ OrderedIn rest
end

variable {es : List (String × Node)} {name : String} {node : Node} {path : Path} {ns : List String}

theorem orderedIn_iff :
    OrderedIn es ↔ es.Pairwise (fun a b => Utf8.encode a.1 < Utf8.encode b.1) ∧ ∀ e ∈ es, e.2.Ordered := by
  induction es with
  | nil => simp [OrderedIn]
  | cons e es ih =>
    rw [OrderedIn, ih, List.pairwise_cons, List.forall_mem_cons]
    constructor
    · rintro ⟨hlt, hnode, hpairwise, hall⟩
      exact ⟨⟨hlt, hpairwise⟩, hnode, hall⟩
    · rintro ⟨⟨hlt, hpairwise⟩, hnode, hall⟩
      exact ⟨hlt, hnode, hpairwise, hall⟩

theorem Ordered.entries (h : node.Ordered) : OrderedIn node.entries := by
  cases node with
  | dir es => rwa [Ordered] at h
  | file | link => trivial

theorem inherited_ordered : Inherited Ordered where
  entry h := by
    rw [Ordered, orderedIn_iff] at h
    exact h.2
  empty := by simp [Ordered, OrderedIn]

theorem mem_insertEntry {e : String × Node} (h : e ∈ insertEntry name node es) : e = (name, node) ∨ e ∈ es := by
  induction es with
  | nil => exact .inl (List.mem_singleton.1 h)
  | cons e' es ih =>
    rw [insertEntry] at h
    split at h
    · exact (List.mem_cons.1 h).imp_right (List.mem_cons_of_mem _)
    · split at h
      · exact List.mem_cons.1 h
      · rcases List.mem_cons.1 h with rfl | h
        · exact .inr List.mem_cons_self
        · exact (ih h).imp_right (List.mem_cons_of_mem _)

theorem OrderedIn.insertEntry (h : OrderedIn es) (hnode : node.Ordered) : OrderedIn (insertEntry name node es) := by
  induction es with
  | nil =>
    rw [Node.insertEntry, OrderedIn]
    exact ⟨fun _ he => (List.not_mem_nil he).elim, hnode, trivial⟩
  | cons e es ih =>
    obtain ⟨k, n⟩ := e
    rw [OrderedIn] at h
    obtain ⟨hlt, hn, hrest⟩ := h
    rw [Node.insertEntry]
    split
    · rename_i hname
      exact ⟨hname ▸ hlt, hnode, hrest⟩
    · rename_i hname
      split
      · rename_i hbefore
        refine ⟨?_, hnode, hlt, hn, hrest⟩
        rintro e (_ | ⟨_, he⟩)
        · exact Utf8.encode_lt hbefore
        · exact List.lt_trans (Utf8.encode_lt hbefore) (hlt e he)
      · rename_i hafter
        refine ⟨fun e he => ?_, hn, ih hrest⟩
        rcases mem_insertEntry he with rfl | he
        · exact Utf8.encode_lt (Std.lt_of_le_of_ne (String.not_lt.1 hafter) (Ne.symm hname))
        · exact hlt e he

theorem OrderedIn.filter (h : OrderedIn es) (keep : String × Node → Bool) : OrderedIn (es.filter keep) := by
  rw [orderedIn_iff] at h ⊢
  exact ⟨h.1.filter keep, fun e he => h.2 e (List.mem_filter.1 he).1⟩

/-- A tree stays ordered when a change puts an ordered node into it, or takes one out. -/
theorem Ordered.changeAt {change : Option Node → Option Node} {names : List String}
    (hchange : ∀ old new, change old = some new → new.Ordered) (h : node.Ordered) :
    (node.changeAt change names).Ordered := by
  induction names generalizing node with
  | nil =>
    rw [Node.changeAt]
    cases hnew : change (some node) with
    | none => exact h
    | some new => exact hchange _ _ hnew
  | cons name names ih =>
    cases names with
    | nil =>
      rw [Node.changeAt]
      cases hnew : change (node.entries.lookup name) with
      | none =>
        rw [Ordered]
        exact h.entries.filter _
      | some new =>
        rw [Ordered]
        exact h.entries.insertEntry (hchange _ _ hnew)
    | cons next names =>
      rw [Node.changeAt]
      · cases hn : node.entries.lookup name with
        | none => exact h
        | some n =>
          rw [Ordered]
          exact h.entries.insertEntry (ih ((orderedIn_iff.1 h.entries).2 _ (mem_of_lookup hn)))
      · simp

/-! ## Walking a tree -/

mutual
/-- The names that lead from a node, under the path given, to the files that a walk visits, in its order. -/
def fileNames (path : Path) : Node → List (List String)
  | file .. => [[]]
  | dir entries => if 4095 < path.text.utf8ByteSize then [] else fileNamesIn path entries
  | link _ => []

def fileNamesIn (path : Path) : List (String × Node) → List (List String)
  | [] => []
  | (name, node) :: rest => (fileNames (path.join name) node).map (name :: ·) ++ fileNamesIn path rest
end

/-- Names lead from a node, under the path given, to a regular file: down through directories that can be opened. -/
inductive Reaches : Path → Node → List String → Prop where
  | here (path : Path) (f : RegularFile) : Reaches path (.file f) []
  | inside {path : Path} {es : List (String × Node)} {name : String} {node : Node} {ns : List String}
      (opens : path.text.utf8ByteSize ≤ 4095) (entry : (name, node) ∈ es) (rest : Reaches (path.join name) node ns) :
      Reaches path (.dir es) (name :: ns)

mutual
theorem files_eq (path : Path) : ∀ node : Node, node.files path = (node.fileNames path).map (·.foldl Path.join path)
  | file .. => rfl
  | dir es => by
    rw [files, fileNames]
    split
    · rfl
    · exact filesIn_eq path es
  | link _ => rfl

theorem filesIn_eq (path : Path) :
    ∀ es : List (String × Node), filesIn path es = (fileNamesIn path es).map (·.foldl Path.join path)
  | [] => rfl
  | (name, node) :: rest => by
    rw [filesIn, fileNamesIn, List.map_append, List.map_map, files_eq (path.join name) node, filesIn_eq path rest]
    rfl
end

mutual
theorem mem_fileNames :
    ∀ (node : Node) (path : Path) (ns : List String), ns ∈ node.fileNames path ↔ Reaches path node ns
  | file f, path, ns => by
    rw [fileNames, List.mem_singleton]
    constructor
    · rintro rfl
      exact .here ..
    · rintro ⟨⟩
      rfl
  | dir es, path, ns => by
    rw [fileNames]
    split
    · rename_i hlong
      constructor
      · intro h
        cases h
      · rintro ⟨⟩
        omega
    · rename_i hopens
      rw [mem_fileNamesIn es path ns]
      constructor
      · rintro ⟨name, node, ns', rfl, hmem, hreach⟩
        exact .inside (Nat.not_lt.1 hopens) hmem hreach
      · rintro (_ | ⟨-, hmem, hreach⟩)
        exact ⟨_, _, _, rfl, hmem, hreach⟩
  | link _, path, ns => by
    rw [fileNames]
    constructor
    · intro h
      cases h
    · rintro ⟨⟩

theorem mem_fileNamesIn : ∀ (es : List (String × Node)) (path : Path) (ns : List String),
    ns ∈ fileNamesIn path es ↔
      ∃ name node ns', ns = name :: ns' ∧ (name, node) ∈ es ∧ Reaches (path.join name) node ns'
  | [], path, ns => by simp [fileNamesIn]
  | (name, node) :: rest, path, ns => by
    rw [fileNamesIn, List.mem_append, List.mem_map, mem_fileNamesIn rest path ns]
    simp only [mem_fileNames node (path.join name), List.mem_cons, Prod.mk.injEq]
    constructor
    · rintro (⟨ns', hreach, rfl⟩ | ⟨name', node', ns', rfl, hmem, hreach⟩)
      · exact ⟨name, node, ns', rfl, .inl ⟨rfl, rfl⟩, hreach⟩
      · exact ⟨name', node', ns', rfl, .inr hmem, hreach⟩
    · rintro ⟨name', node', ns', rfl, ⟨rfl, rfl⟩ | hmem, hreach⟩
      · exact .inl ⟨ns', hreach, rfl⟩
      · exact .inr ⟨name', node', ns', rfl, hmem, hreach⟩
end

/-- One list of names comes before another, by bytes. -/
def Before (a b : List String) : Prop := a.map Utf8.encode < b.map Utf8.encode

theorem Before.asymm {a b : List String} (h : Before a b) : ¬ Before b a := fun h' =>
  List.lt_irrefl _ (List.lt_trans h h')

theorem Before.ne {a b : List String} (h : Before a b) : a ≠ b := by
  rintro rfl
  exact List.lt_irrefl _ h

mutual
theorem pairwise_fileNames : ∀ (node : Node) (path : Path), node.Ordered → (node.fileNames path).Pairwise Before
  | file .., path, _ => by simp [fileNames]
  | dir es, path, h => by
    rw [fileNames]
    split
    · exact .nil
    · rw [Ordered] at h
      exact pairwise_fileNamesIn es path h
  | link _, path, _ => by simp [fileNames]

theorem pairwise_fileNamesIn :
    ∀ (es : List (String × Node)) (path : Path), OrderedIn es → (fileNamesIn path es).Pairwise Before
  | [], path, _ => by simp [fileNamesIn]
  | (name, node) :: rest, path, h => by
    rw [OrderedIn] at h
    obtain ⟨hlt, hnode, hrest⟩ := h
    rw [fileNamesIn, List.pairwise_append]
    refine ⟨?_, pairwise_fileNamesIn rest path hrest, ?_⟩
    · rw [List.pairwise_map]
      refine (pairwise_fileNames node (path.join name) hnode).imp fun {a b} hab => ?_
      exact List.cons_lt_cons_iff.2 (.inr ⟨rfl, hab⟩)
    · -- every file below a later entry comes after those below this one
      intro a ha b hb
      obtain ⟨ns, -, rfl⟩ := List.mem_map.1 ha
      obtain ⟨name', node', ns', rfl, hmem, -⟩ := (mem_fileNamesIn rest path b).1 hb
      exact List.cons_lt_cons_iff.2 (.inl (hlt _ hmem))
end

end Node

namespace Disk

variable {disk : Disk} {dir : Path}

/-- The files are those below a directory that a walk reaches, each once, in the order of their names; where there is
no directory there are none. -/
inductive Lists (disk : Disk) (dir : Path) : List Path → Prop where
  | walked {es : List (String × Node)} {names : List (List String)} (there : disk.node dir = .ok (.dir es))
      (reached : ∀ ns, ns ∈ names ↔ Node.Reaches dir (.dir es) ns) (sorted : names.Pairwise Node.Before) :
      Lists disk dir (names.map (·.foldl Path.join dir))
  | missing (absent : ∀ es, disk.node dir ≠ .ok (.dir es)) : Lists disk dir []

/-- There is one such list. -/
theorem Lists.unique {files files' : List Path} (h : disk.Lists dir files) (h' : disk.Lists dir files') :
    files = files' := by
  cases h with
  | @walked es names there reached sorted =>
    cases h' with
    | @walked es' names' there' reached' sorted' =>
      rw [there] at there'
      cases there'
      have hperm : names.Perm names' := by
        rw [List.perm_ext_iff_of_nodup (sorted.imp Node.Before.ne) (sorted'.imp Node.Before.ne)]
        exact fun ns => (reached ns).trans (reached' ns).symm
      rw [hperm.eq_of_pairwise (fun a b _ _ hab hba => (Node.Before.asymm hab hba).elim) sorted sorted']
    | missing absent => exact absurd there (absent es)
  | missing absent =>
    cases h' with
    | walked there' => exact absurd there' (absent _)
    | missing => rfl

/-- A path that leads anywhere is not too long. -/
theorem utf8ByteSize_le_of_node {node : Node} (h : disk.node dir = .ok node) : dir.text.utf8ByteSize ≤ 4095 := by
  by_contra hlong
  obtain ⟨e, he⟩ : ∃ e, disk.stat dir = .error e := stat_tooLong (Nat.not_le.1 hlong)
  simp only [stat, h] at he
  cases node <;> cases he

theorem filesBelow_lists (h : disk.root.Ordered) (dir : Path) : disk.Lists dir (disk.filesBelow dir) := by
  unfold filesBelow
  split
  · rename_i es hn
    have hes : (Node.dir es).Ordered := inherited_node Node.inherited_ordered h hn
    have hopens : ¬ 4095 < dir.text.utf8ByteSize := Nat.not_lt.2 (utf8ByteSize_le_of_node hn)
    have hnames : Node.fileNames dir (.dir es) = Node.fileNamesIn dir es := by rw [Node.fileNames, if_neg hopens]
    rw [Node.filesIn_eq, ← hnames]
    exact .walked hn (Node.mem_fileNames _ dir) (Node.pairwise_fileNames _ dir hes)
  · rename_i hn
    exact .missing hn

/-! ## Changes keep the order -/

theorem ordered_change {names : List String} {f : Option Node → Option Node} (h : disk.root.Ordered)
    (hf : ∀ old new, f old = some new → new.Ordered) : (disk.change names f).root.Ordered := h.changeAt hf

theorem ordered_putNode {names : List String} {node : Node} (h : disk.root.Ordered) (hnode : node.Ordered) :
    (disk.change names fun _ => some node).root.Ordered :=
  ordered_change h fun _ _ hnew => Option.some.inj hnew ▸ hnode

theorem ordered_makeDirectory (h : disk.root.Ordered) (p : Path) : (disk.makeDirectory p).root.Ordered := by
  unfold makeDirectory
  split
  · exact ordered_putNode h (by simp [Node.Ordered, Node.OrderedIn])
  · exact h

theorem ordered_makeDirectories (h : disk.root.Ordered) (p : Path) : (disk.makeDirectories p).root.Ordered :=
  List.foldlRecOn (List.range _) _ (motive := fun disk : Disk => disk.root.Ordered) h
    fun _ hdisk _ _ => ordered_makeDirectory hdisk _

theorem ordered_changeFile (h : disk.root.Ordered) (p : Path) (f : RegularFile → RegularFile) :
    (disk.changeFile p f).root.Ordered := by
  unfold changeFile
  split
  · exact ordered_putNode h trivial
  · exact h

theorem ordered_put (h : disk.root.Ordered) (p : Path) (modified : FileTime) (bytes : Bytes → Bytes) :
    (disk.put p modified bytes).root.Ordered := by
  unfold put
  split
  · exact ordered_putNode h trivial
  · exact ordered_changeFile h p _

theorem ordered_remove (h : disk.root.Ordered) (p : Path) : (disk.remove p).root.Ordered := by
  unfold remove
  split
  · exact ordered_change h fun _ _ hnew => by cases hnew
  · exact h

/-- What is moved stood in the tree, so it is ordered. -/
theorem ordered_rename (h : disk.root.Ordered) (p target : Path) : (disk.rename p target).root.Ordered := by
  unfold rename
  split
  · rename_i names n hl
    have hn : n.Ordered := inherited_lookup Node.inherited_ordered h hl
    have hmoved : (disk.change names fun _ => none).root.Ordered := ordered_change h fun _ _ hnew => by cases hnew
    dsimp only
    split
    · exact ordered_putNode hmoved hn
    · exact ordered_putNode hmoved hn
    · exact h
  · exact h

theorem ordered_makeLink (h : disk.root.Ordered) (p : Path) (target : String) :
    (disk.makeLink p target).root.Ordered := by
  unfold makeLink
  split
  · exact ordered_putNode h trivial
  · exact h

/-- A disk that programs made by changes, from one without files. -/
inductive Built : Disk → Prop where
  | empty (workingDirectory : List String) (nextIdentity : FileIdentity) :
      Built ⟨.dir [], workingDirectory, nextIdentity⟩
  | makeDirectories {disk : Disk} (built : Built disk) (p : Path) : Built (disk.makeDirectories p)
  | write {disk : Disk} (built : Built disk) (p : Path) (modified : FileTime) (bytes : Bytes) :
      Built (disk.write p modified bytes)
  | append {disk : Disk} (built : Built disk) (p : Path) (modified : FileTime) (bytes : Bytes) :
      Built (disk.append p modified bytes)
  | touch {disk : Disk} (built : Built disk) (p : Path) (modified : FileTime) : Built (disk.touch p modified)
  | permit {disk : Disk} (built : Built disk) (p : Path) (readable : Bool) : Built (disk.permit p readable)
  | remove {disk : Disk} (built : Built disk) (p : Path) : Built (disk.remove p)
  | rename {disk : Disk} (built : Built disk) (p target : Path) : Built (disk.rename p target)
  | makeLink {disk : Disk} (built : Built disk) (p : Path) (target : String) : Built (disk.makeLink p target)

/-- Every such disk lists its entries by the bytes of their names. -/
theorem Built.ordered (h : Built disk) : disk.root.Ordered := by
  induction h with
  | empty => exact trivial
  | makeDirectories _ p ih => exact ordered_makeDirectories ih p
  | write _ p modified bytes ih => exact ordered_put (ordered_makeDirectories ih _) p modified _
  | append _ p modified bytes ih => exact ordered_put ih p modified _
  | touch _ p modified ih => exact ordered_changeFile ih p _
  | permit _ p readable ih => exact ordered_changeFile ih p _
  | remove _ p ih => exact ordered_remove ih p
  | rename _ p target ih => exact ordered_rename ih p target
  | makeLink _ p target ih => exact ordered_makeLink ih p target

end Disk

end TemplateDebug
