import TemplateDebug.Proofs.Disk.Answers
import TemplateDebug.Proofs.Disk.Inherited
/-!
# The versions on a disk

A file that a path leads to stands in the tree of the disk. So fingerprints tell versions apart on disks of which no two
hold files with one fingerprint that reading tells apart.
-/

namespace TemplateDebug

namespace Node

mutual
/-- The regular files at or below a node. -/
def regularFiles : Node → List RegularFile
  | file f => [f]
  | dir entries => regularFilesIn entries
  | link _ => []

def regularFilesIn : List (String × Node) → List RegularFile
  | [] => []
  | (_, node) :: rest => regularFiles node ++ regularFilesIn rest
end

theorem regularFiles_subset_of_mem {entries : List (String × Node)} {name : String} {node : Node}
    (h : (name, node) ∈ entries) : node.regularFiles ⊆ regularFilesIn entries := by
  induction entries with
  | nil => cases h
  | cons e entries ih =>
    rw [regularFilesIn]
    rcases List.mem_cons.1 h with rfl | h
    · exact List.subset_append_left _ _
    · exact List.Subset.trans (ih h) (List.subset_append_right _ _)

/-- The files below a node of a tree are files of the tree. -/
theorem inherited_regularFiles (root : Node) : Inherited fun node => node.regularFiles ⊆ root.regularFiles where
  entry h e he := List.Subset.trans (regularFiles_subset_of_mem he) (by rwa [regularFiles] at h)
  empty := by simp [regularFiles, regularFilesIn]

end Node

namespace Disk

variable {disk : Disk} {p : Path} {bytes : Bytes}

/-- A file that a path leads to is one of the tree. -/
theorem mem_regularFiles {file : RegularFile} (h : disk.node p = .ok (.file file)) : file ∈ disk.root.regularFiles :=
  inherited_node (Node.inherited_regularFiles disk.root) (List.Subset.refl _) h (by simp [Node.regularFiles])

/-- Where files with one fingerprint agree in some part, files that a path leads to and that differ in it have
fingerprints that differ. -/
theorem differs_of_part_ne {ι β : Type} {disk : ι → Disk} {ms : List ι} {part : RegularFile → β}
    (h : ∀ m ∈ ms, ∀ n ∈ ms, ∀ x ∈ (disk m).root.regularFiles, ∀ y ∈ (disk n).root.regularFiles,
      x.fingerprint.describes y.fingerprint = true → part x = part y)
    {m n : ι} (hm : m ∈ ms) (hn : n ∈ ms) {x y : RegularFile} (hx : (disk m).node p = .ok (.file x))
    (hy : (disk n).node p = .ok (.file y)) (hne : part x ≠ part y) : x.fingerprint.Differs y.fingerprint := by
  by_contra hnot
  exact hne (h m hm n hn x (mem_regularFiles hx) y (mem_regularFiles hy) ((Fingerprint.describes_iff _ _).2 hnot))

/-- Disks of a list of which no two hold files with one fingerprint that reading tells apart tell versions apart. -/
theorem tellsVersions_of_list {ι : Type} (disk : ι → Disk) {ms : List ι}
    (h : ∀ m ∈ ms, ∀ n ∈ ms, ∀ x ∈ (disk m).root.regularFiles, ∀ y ∈ (disk n).root.regularFiles,
      x.fingerprint.describes y.fingerprint = true → x.read = y.read) : TellsVersions {d | ∃ m ∈ ms, disk m = d} := by
  rintro _ ⟨m, hm, rfl⟩ _ ⟨n, hn, rfl⟩ p f g hf hg hne
  obtain ⟨x, hx, rfl⟩ := stat_eq_regular_iff.1 hf
  obtain ⟨y, hy, rfl⟩ := stat_eq_regular_iff.1 hg
  rw [read_of_node hx, read_of_node hy] at hne
  exact differs_of_part_ne h hm hn hx hy hne

/-- Where no two of their files with one fingerprint have different bytes, the bytes are told apart, whatever may be
read. -/
theorem tellsContents_of_list {ι : Type} (disk : ι → Disk) {ms : List ι}
    (h : ∀ m ∈ ms, ∀ n ∈ ms, ∀ x ∈ (disk m).root.regularFiles, ∀ y ∈ (disk n).root.regularFiles,
      x.fingerprint.describes y.fingerprint = true → x.bytes = y.bytes) :
    TellsContents {d | ∃ m ∈ ms, disk m = d} := by
  rintro _ ⟨m, hm, rfl⟩ _ ⟨n, hn, rfl⟩ p f g hf hg hne
  obtain ⟨x, hx, rfl⟩ := stat_eq_regular_iff.1 hf
  obtain ⟨y, hy, rfl⟩ := stat_eq_regular_iff.1 hg
  simp only [contents?, hx, hy, ne_eq, Option.some.injEq] at hne
  exact differs_of_part_ne h hm hn hx hy hne

end Disk

end TemplateDebug
