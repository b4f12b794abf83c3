import TemplateDebug.Compiled.Locator
import TemplateDebug.Proofs.Disk.Clock
import TemplateDebug.Proofs.Disk.Spelling
import TemplateDebug.Template.Resolver
/-!
# What a disk answers

The three questions behind every mapping, answered from a disk alone: the markers of a file, the file a reference
leads to, and the compiled source of a template. A disk that changes is a set of disks, one for each moment; its
fingerprints tell the versions of a file apart when what reading it gives, its bytes or a refusal, changes only with
them. That different bytes come with different fingerprints is less: a file that may no longer be read keeps both.
-/

namespace TemplateDebug

/-- The fingerprints differ in time, in length, or in identity. -/
def Fingerprint.Differs (a b : Fingerprint) : Prop :=
  a.modified ≠ b.modified ∨ a.length ≠ b.length ∨ ∃ i j, a.identity = some i ∧ b.identity = some j ∧ i ≠ j

/-- The comparison of fingerprints misses no difference. -/
theorem Fingerprint.describes_iff (a b : Fingerprint) : a.describes b = true ↔ ¬ a.Differs b := by
  obtain ⟨t, n, i⟩ := a
  obtain ⟨u, m, j⟩ := b
  cases i <;> cases j <;> simp [describes, Differs, FileIdentity.agree, and_assoc]

namespace Disk

def isFile (disk : Disk) (p : Path) : Bool :=
  match disk.stat p with
  | .ok (.regular _) => true
  | _ => false

/-- The bytes of the regular file a path leads to, which may be read or not. -/
def contents? (disk : Disk) (p : Path) : Option Bytes :=
  match disk.node p with
  | .ok (.file f) => some f.bytes
  | _ => none

/-- The markers of the file a path leads to, in its bytes as they are; none if it may not be read. -/
def markers (disk : Disk) (p : Path) : Option (Array Marker) :=
  match disk.stat p, disk.read p with
  | .ok (.regular _), .ok bytes => some (MarkerCache.markersIn bytes)
  | _, _ => none

/-- Markers in the bytes of the file a path leads to, which may be read or not; none only if it cannot be read. -/
structure Yields (disk : Disk) (p : Path) (given : Option (Array Marker)) : Prop where
  parsed : ∀ ms, given = some ms → ∃ bytes, disk.contents? p = some bytes ∧ ms = MarkerCache.markersIn bytes
  unread : given = none → disk.markers p = none

/-- The file a reference leads to below the web roots, or by itself. -/
def search (disk : Disk) (webRoots : List Path) (ref : String) : Option Path :=
  (Template.places webRoots ref).find? disk.isFile

/-- The first compiled source, among so many files of the work directories, with a marker that the references name. -/
def locate (disk : Disk) (workDirs : List Path) (limit : Nat) (refs : List String) : Option Path :=
  if refs.isEmpty then none
  else ((workDirs.flatMap disk.filesBelow).take limit).find? fun p =>
    Source.isCompiled p.text && (disk.markers p).any (Compiled.Locator.names refs)

/-- Versions of a file that reading tells apart, by their bytes or by a refusal, have fingerprints that differ. -/
def TellsVersions (disks : Set Disk) : Prop :=
  ∀ a ∈ disks, ∀ b ∈ disks, ∀ p f g, a.stat p = .ok (.regular f) → b.stat p = .ok (.regular g) →
    a.read p ≠ b.read p → f.Differs g

/-- Versions of a file with different bytes have fingerprints that differ. -/
def TellsContents (disks : Set Disk) : Prop :=
  ∀ a ∈ disks, ∀ b ∈ disks, ∀ p f g, a.stat p = .ok (.regular f) → b.stat p = .ok (.regular g) →
    a.contents? p ≠ b.contents? p → f.Differs g

variable {disk : Disk} {p q : Path} {f : Fingerprint} {ms : Array Marker} {bytes : Bytes}

theorem always_isFile (disk : Disk) (p : Path) :
    Always (disk.tickingHost.isFile p) fun b => b = disk.isFile p := by
  refine always_stat ?_
  unfold isFile
  cases disk.stat p with
  | error e => exact .of_pure rfl
  | ok state => cases state <;> exact .of_pure rfl

theorem stat_eq_regular_iff :
    disk.stat p = .ok (.regular f) ↔ ∃ file, disk.node p = .ok (.file file) ∧ file.fingerprint = f := by
  unfold stat
  cases disk.node p with
  | error e => simp
  | ok node => cases node <;> simp

theorem read_of_node {file : RegularFile} (h : disk.node p = .ok (.file file)) : disk.read p = file.read := by
  simp only [read, h]

theorem contents?_eq_some_iff :
    disk.contents? p = some bytes ↔ ∃ file, disk.node p = .ok (.file file) ∧ file.bytes = bytes := by
  unfold contents?
  cases disk.node p with
  | error e => simp
  | ok node => cases node <;> simp

/-- What can be read is a regular file. -/
theorem stat_of_read (h : disk.read p = .ok bytes) : ∃ f, disk.stat p = .ok (.regular f) := by
  unfold read at h
  split at h
  · rename_i file hn
    exact ⟨file.fingerprint, stat_eq_regular_iff.2 ⟨file, hn, rfl⟩⟩
  · cases h
  · cases h

theorem contents?_of_read (h : disk.read p = .ok bytes) : disk.contents? p = some bytes := by
  obtain ⟨f, hf⟩ := stat_of_read h
  obtain ⟨file, hn, -⟩ := stat_eq_regular_iff.1 hf
  rw [read_of_node hn, RegularFile.read] at h
  split at h
  · exact contents?_eq_some_iff.2 ⟨file, hn, Except.ok.inj h⟩
  · cases h

theorem namesFile_of_stat (h : disk.stat p = .ok (.regular f)) : p.NamesFile := by
  obtain ⟨file, hn, -⟩ := stat_eq_regular_iff.1 h
  exact namesFile_of_node hn

/-- What is too long for the file system cannot be looked up. -/
theorem stat_tooLong (h : 4095 < p.text.utf8ByteSize) : ∃ e, disk.stat p = .error e := by
  have hl : ∃ e, disk.lookup true p = .error e := by
    unfold lookup
    split
    · exact ⟨_, rfl⟩
    · split <;> exact ⟨_, rfl⟩
  obtain ⟨e, he⟩ := hl
  exact ⟨e, by simp [stat, node, he]⟩

theorem stat_congr (h : p.components = q.components) (hp : p.NamesFile) (hq : q.NamesFile) :
    disk.stat p = disk.stat q := by
  simp only [stat, node_congr h hp hq]

theorem read_congr (h : p.components = q.components) (hp : p.NamesFile) (hq : q.NamesFile) :
    disk.read p = disk.read q := by
  simp only [read, node_congr h hp hq]

theorem markers_congr (h : p.components = q.components) (hp : p.NamesFile) (hq : q.NamesFile) :
    disk.markers p = disk.markers q := by
  simp only [markers, stat_congr h hp hq, read_congr h hp hq]

theorem stat_of_markers (h : disk.markers p = some ms) : ∃ f, disk.stat p = .ok (.regular f) := by
  unfold markers at h
  split at h
  · rename_i f _ hs _
    exact ⟨f, hs⟩
  · cases h

theorem isFile_eq_true_iff : disk.isFile p = true ↔ ∃ f, disk.stat p = .ok (.regular f) := by
  unfold isFile
  cases disk.stat p with
  | error e => simp
  | ok state => cases state <;> simp

theorem isFile_of_contents? (h : disk.contents? p = some bytes) : disk.isFile p = true := by
  obtain ⟨file, hn, -⟩ := contents?_eq_some_iff.1 h
  exact isFile_eq_true_iff.2 ⟨_, stat_eq_regular_iff.2 ⟨file, hn, rfl⟩⟩

theorem namesFile_of_isFile (h : disk.isFile p = true) : p.NamesFile := by
  obtain ⟨f, hf⟩ := isFile_eq_true_iff.1 h
  exact namesFile_of_stat hf

theorem isFile_congr (h : p.components = q.components) (hp : p.NamesFile) (hq : q.NamesFile) :
    disk.isFile p = disk.isFile q := by
  simp only [isFile, stat_congr h hp hq]

theorem namesFile_of_markers (h : disk.markers p = some ms) : p.NamesFile := by
  obtain ⟨f, hf⟩ := stat_of_markers h
  exact namesFile_of_stat hf

/-- A file has markers when it is there and can be read, and they are those in its bytes. -/
theorem markers_eq_some_iff :
    disk.markers p = some ms ↔
      disk.isFile p = true ∧ ∃ bytes, disk.read p = .ok bytes ∧ ms = MarkerCache.markersIn bytes := by
  unfold markers isFile
  cases disk.stat p with
  | error e => simp
  | ok state =>
    cases state with
    | directory => simp
    | regular f => cases disk.read p <;> simp [eq_comm]

theorem isSome_markers_iff :
    (disk.markers p).isSome = true ↔ disk.isFile p = true ∧ ∃ bytes, disk.read p = .ok bytes := by
  simp only [Option.isSome_iff_exists, markers_eq_some_iff]
  constructor
  · rintro ⟨_, hfile, bytes, hread, -⟩
    exact ⟨hfile, bytes, hread⟩
  · rintro ⟨hfile, bytes, hread⟩
    exact ⟨_, hfile, bytes, hread, rfl⟩

/-- The markers of a compiled source are those of a source text. -/
theorem exists_parse_of_markers (h : disk.markers p = some ms) : ∃ text, ms = Marker.parse text := by
  unfold markers at h
  split at h
  · rename_i bytes _ _
    exact ⟨_, (Option.some.inj h).symm⟩
  · cases h

/-- What a file yields that can be read are the markers in its bytes. -/
theorem Yields.eq_some {given : Option (Array Marker)} (h : disk.Yields p given) (hread : disk.read p = .ok bytes) :
    given = some (MarkerCache.markersIn bytes) := by
  have hcontents := contents?_of_read hread
  cases given with
  | none =>
    have hmarkers : disk.markers p = some (MarkerCache.markersIn bytes) :=
      markers_eq_some_iff.2 ⟨isFile_of_contents? hcontents, bytes, hread, rfl⟩
    cases (h.unread rfl).symm.trans hmarkers
  | some ms =>
    obtain ⟨bytes', hbytes', rfl⟩ := h.parsed ms rfl
    rw [Option.some.inj (hbytes'.symm.trans hcontents)]

theorem TellsVersions.mono {disks disks' : Set Disk} (h : TellsVersions disks') (hsub : disks ⊆ disks') :
    TellsVersions disks := fun a ha b hb => h a (hsub ha) b (hsub hb)

/-- The present state of a disk alone tells versions apart. -/
theorem tellsVersions_singleton (disk : Disk) : TellsVersions {disk} := by
  rintro a rfl b rfl p f g - - hne
  exact absurd rfl hne

end Disk

/-! ## References of a template -/

namespace Template

/-- Equal paths have the same spellings as references. -/
theorem plausibleRefs_congr {p q : Path} (h : p.components = q.components) (webRoots : List Path) :
    plausibleRefs p webRoots = plausibleRefs q webRoots := by
  have hb : below? p = below? q := by
    funext root
    simp only [below?, h]
  simp only [plausibleRefs, hb, Path.fileName?, h]

end Template

end TemplateDebug
