import Mathlib.Data.List.TakeWhile
import TemplateDebug.Proofs.Source.Kind
import TemplateDebug.Proofs.Text.Pattern
/-!
# Compiled sources by their segments

The text of a compiled source is described by a pattern, read after its letters are folded and its backslashes turned:
a servlet's own name at the end, or a `.java` file somewhere below a generated package. On paths without line feeds
that is a statement about the segments between slashes. So it does not matter which slashes a path is written with, nor
what stands in front of it.
-/

open scoped Computability

namespace TemplateDebug.Source

variable {s t front rest name : List Char}

/-! ## Where segments start -/

/-- A segment starts after this text. -/
def AtStart (front : List Char) : Prop := front = [] ∨ ∃ before, front = before ++ ['/']

theorem mem_segmentStarts_iff : t ∈ segmentStarts s ↔ ∃ before, s = before ++ '/' :: t := by
  induction s with
  | nil => simp [segmentStarts]
  | cons c s ih =>
    rw [segmentStarts]
    by_cases hc : c = '/'
    · subst hc
      rw [if_pos rfl, List.mem_cons, ih]
      constructor
      · rintro (rfl | ⟨before, rfl⟩)
        · exact ⟨[], rfl⟩
        · exact ⟨'/' :: before, rfl⟩
      · rintro ⟨before, h⟩
        cases before with
        | nil =>
          cases h
          exact .inl rfl
        | cons b before => exact .inr ⟨before, (List.cons.inj h).2⟩
    · rw [if_neg hc, ih]
      constructor
      · rintro ⟨before, rfl⟩
        exact ⟨c :: before, rfl⟩
      · rintro ⟨before, h⟩
        cases before with
        | nil => exact absurd (List.cons.inj h).1 hc
        | cons b before => exact ⟨before, (List.cons.inj h).2⟩

theorem mem_starts_iff : t ∈ s :: segmentStarts s ↔ ∃ front, AtStart front ∧ s = front ++ t := by
  rw [List.mem_cons, mem_segmentStarts_iff]
  constructor
  · rintro (rfl | ⟨before, rfl⟩)
    · exact ⟨[], .inl rfl, rfl⟩
    · exact ⟨before ++ ['/'], .inr ⟨before, rfl⟩, by simp⟩
  · rintro ⟨front, rfl | ⟨before, rfl⟩, rfl⟩
    · exact .inl rfl
    · exact .inr ⟨before, by simp⟩

/-! ## Names -/

theorem directory_append_lastSegment (s : List Char) : directory s ++ lastSegment s = s := by
  rw [directory, lastSegment, ← List.reverse_append, List.takeWhile_append_dropWhile, List.reverse_reverse]

theorem slash_notMem_lastSegment (s : List Char) : '/' ∉ lastSegment s := by
  intro h
  simpa using List.mem_takeWhile_imp (List.mem_reverse.1 h)

theorem atStart_directory (s : List Char) : AtStart (directory s) := by
  unfold directory
  cases h : s.reverse.dropWhile (· ≠ '/') with
  | nil => exact .inl rfl
  | cons c before =>
    have hc : c = '/' := by
      have hhead := List.head?_dropWhile_not (· ≠ '/') s.reverse
      rw [h] at hhead
      simpa using hhead
    exact .inr ⟨before.reverse, by rw [hc, List.reverse_cons]⟩

theorem lastSegment_append (hf : AtStart front) (hn : '/' ∉ name) :
    lastSegment (front ++ name) = name ∧ directory (front ++ name) = front := by
  have hall : ∀ c ∈ name.reverse, decide (c ≠ '/') = true := by
    intro c hc
    refine decide_eq_true ?_
    rintro rfl
    exact hn (List.mem_reverse.1 hc)
  rw [lastSegment, directory, List.reverse_append, List.takeWhile_append_of_pos hall,
    List.dropWhile_append_of_pos hall]
  rcases hf with rfl | ⟨before, rfl⟩ <;> simp

theorem isJavaFileBelow_iff : isJavaFileBelow s = true ↔
    ∃ front stem, s = front ++ (stem ++ ".java".toList) ∧ AtStart front ∧ '\n' ∉ front ∧ stem ≠ [] ∧ '/' ∉ stem := by
  simp only [isJavaFileBelow, Bool.and_eq_true, decide_eq_true_eq, Bool.not_eq_true', endsWith_iff]
  constructor
  · rintro ⟨⟨⟨stem, hstem⟩, hlen⟩, hfeed⟩
    have hslash := slash_notMem_lastSegment s
    rw [← hstem, List.mem_append, not_or] at hslash
    refine ⟨directory s, stem, ?_, atStart_directory s, by simpa using hfeed, ?_, hslash.1⟩
    · rw [hstem, directory_append_lastSegment]
    · rintro rfl
      rw [← hstem] at hlen
      exact absurd hlen (by decide)
  · rintro ⟨front, stem, rfl, hfront, hfeed, hne, hslash⟩
    have hname : '/' ∉ stem ++ ".java".toList := by simp [hslash]
    obtain ⟨hlast, hdir⟩ := lastSegment_append hfront hname
    rw [hlast, hdir]
    have hpos : 0 < stem.length := List.length_pos_iff.2 hne
    refine ⟨⟨List.suffix_append _ _, ?_⟩, by simpa using hfeed⟩
    rw [List.length_append]
    have hfive : ".java".toList.length = 5 := by decide
    omega

/-! ## The pattern -/

section

open TemplateDebug.Pattern

/-- The word itself. -/
def word (w : String) : Language Char := {w.toList}

/-- All up to where a segment starts. -/
def toSegment : Language Char := 1 + ⊤ * only '/'

/-- A `.java` file with a name, in directories without line feeds in their names. -/
def javaFile : Language Char :=
  orNothing ((one (· ≠ '\n'))∗ * only '/') * (many (· ≠ '/') * word ".java")

/-- What the text of a compiled source looks like, once it is folded. -/
def pattern : Language Char :=
  ⊤ * (word "_jsp" * (orNothing (word "x") * word ".java")) +
    toSegment * ((word "org/apache/jsp" + word "jsp_servlet" + word "_jsp") * (only '/' * javaFile))

theorem mem_word_mul {w : String} {Y : Language Char} : s ∈ word w * Y ↔ ∃ t ∈ Y, s = w.toList ++ t := by
  constructor
  · rintro ⟨_, rfl, t, ht, rfl⟩
    exact ⟨t, ht, rfl⟩
  · rintro ⟨t, ht, rfl⟩
    exact ⟨_, rfl, t, ht, rfl⟩

theorem mem_toSegment_iff : s ∈ toSegment ↔ AtStart s := by
  refine or_congr Iff.rfl ?_
  constructor
  · rintro ⟨before, -, _, ⟨c, hc, rfl⟩, rfl⟩
    exact ⟨before, by rw [of_decide_eq_true hc]⟩
  · rintro ⟨before, rfl⟩
    exact ⟨before, trivial, ['/'], ⟨'/', rfl, rfl⟩, rfl⟩

theorem mem_directories_iff :
    s ∈ orNothing ((one (· ≠ '\n'))∗ * only '/') ↔ AtStart s ∧ '\n' ∉ s := by
  rw [orNothing, Language.mem_add, Language.mem_one]
  constructor
  · rintro (rfl | ⟨before, hb, _, ⟨c, hc, rfl⟩, rfl⟩)
    · exact ⟨.inl rfl, List.not_mem_nil⟩
    · obtain rfl := of_decide_eq_true hc
      refine ⟨.inr ⟨before, rfl⟩, ?_⟩
      intro hfeed
      rcases List.mem_append.1 hfeed with h | h
      · simpa using mem_star_iff.1 hb _ h
      · exact absurd h (by decide)
  · rintro ⟨rfl | ⟨before, rfl⟩, hfeed⟩
    · exact .inl rfl
    · have hbefore : ∀ c ∈ before, decide (c ≠ '\n') = true := by
        intro c hc
        refine decide_eq_true ?_
        rintro rfl
        exact hfeed (List.mem_append_left _ hc)
      exact .inr ⟨before, mem_star_iff.2 hbefore, ['/'], ⟨'/', rfl, rfl⟩, rfl⟩

theorem mem_javaFile_iff : s ∈ javaFile ↔ isJavaFileBelow s = true := by
  rw [isJavaFileBelow_iff, javaFile]
  constructor
  · rintro ⟨front, hfront, _, ⟨stem, hstem, _, rfl, rfl⟩, rfl⟩
    obtain ⟨hstart, hfeed⟩ := mem_directories_iff.1 hfront
    obtain ⟨hne, hall⟩ := mem_many_iff.1 hstem
    refine ⟨front, stem, rfl, hstart, hfeed, hne, ?_⟩
    intro hslash
    simpa using hall _ hslash
  · rintro ⟨front, stem, rfl, hstart, hfeed, hne, hslash⟩
    have hstem : stem ∈ many (· ≠ '/') := by
      refine mem_many_iff.2 ⟨hne, ?_⟩
      intro c hc
      refine decide_eq_true ?_
      rintro rfl
      exact hslash hc
    exact ⟨front, mem_directories_iff.2 ⟨hstart, hfeed⟩, _, ⟨stem, hstem, _, rfl, rfl⟩, rfl⟩

theorem mem_pattern_iff : s ∈ pattern ↔
    (∃ front, s = front ++ "_jsp.java".toList ∨ s = front ++ "_jspx.java".toList) ∨
      ∃ front, AtStart front ∧ ∃ package ∈ generatedPackages, ∃ rest,
        s = front ++ (package.toList ++ '/' :: rest) ∧ isJavaFileBelow rest = true := by
  rw [pattern, Language.mem_add]
  refine or_congr ?_ ?_
  · constructor
    · rintro ⟨front, -, _, hname, rfl⟩
      obtain ⟨_, ⟨x, rfl | rfl, _, rfl, rfl⟩, rfl⟩ := mem_word_mul.1 hname
      · exact ⟨front, .inl rfl⟩
      · exact ⟨front, .inr rfl⟩
    · rintro ⟨front, rfl | rfl⟩
      · exact ⟨front, trivial, _, mem_word_mul.2 ⟨_, ⟨[], .inl rfl, _, rfl, rfl⟩, rfl⟩, rfl⟩
      · exact ⟨front, trivial, _, mem_word_mul.2 ⟨_, ⟨_, .inr rfl, _, rfl, rfl⟩, rfl⟩, rfl⟩
  · have hpackage : ∀ w, w ∈ word "org/apache/jsp" + word "jsp_servlet" + word "_jsp" ↔
        ∃ package ∈ generatedPackages, w = package.toList := by
      intro w
      simp only [generatedPackages, List.mem_cons, List.not_mem_nil, or_false, exists_eq_or_imp, exists_eq_left]
      exact or_assoc
    constructor
    · rintro ⟨front, hfront, _, ⟨w, hw, _, hbelow, rfl⟩, rfl⟩
      obtain ⟨package, hp, rfl⟩ := (hpackage w).1 hw
      obtain ⟨rest, rfl, hrest⟩ := mem_only_mul_iff.1 hbelow
      exact ⟨front, mem_toSegment_iff.1 hfront, package, hp, rest, rfl, mem_javaFile_iff.1 hrest⟩
    · rintro ⟨front, hfront, package, hp, rest, rfl, hrest⟩
      exact ⟨front, mem_toSegment_iff.2 hfront, _, ⟨_, (hpackage _).2 ⟨package, hp, rfl⟩, _,
        mem_only_mul_iff.2 ⟨rest, rfl, mem_javaFile_iff.2 hrest⟩, rfl⟩, rfl⟩

end

/-! ## Folded text -/

theorem toNat_toLower (c : Char) :
    c.toLower.toNat = if 65 ≤ c.toNat ∧ c.toNat ≤ 90 then c.toNat + 32 else c.toNat := by
  have hiff : c.val ≥ 'A'.val ∧ c.val ≤ 'Z'.val ↔ 65 ≤ c.toNat ∧ c.toNat ≤ 90 := by
    rw [ge_iff_le, UInt32.le_iff_toNat_le, UInt32.le_iff_toNat_le]
    rfl
  unfold Char.toLower
  split
  · rename_i hc
    have hbound := (hiff.1 hc).2
    rw [if_pos (hiff.1 hc)]
    simp only [Char.toNat] at hbound ⊢
    rw [UInt32.toNat_add]
    change (c.val.toNat + 32) % 2 ^ 32 = _
    omega
  · rename_i hc
    rw [if_neg (mt hiff.2 hc)]

theorem toLower_eq_iff {c d : Char} (hd : 128 ≤ d.toNat) : c.toLower = d ↔ c = d := by
  rw [← Char.toNat_inj, ← Char.toNat_inj, toNat_toLower]
  split <;> omega

theorem fold_fold (c : Char) : Text.fold (Text.fold c) = Text.fold c := by
  unfold Text.fold
  split
  · decide
  · split
    · decide
    · rename_i hs hk
      rw [if_neg (mt (toLower_eq_iff (by decide)).1 hs), if_neg (mt (toLower_eq_iff (by decide)).1 hk),
        ← Char.toNat_inj]
      simp only [toNat_toLower]
      split_ifs <;> omega

theorem fold_foldedChar (c : Char) : Text.fold (foldedChar c) = foldedChar c := by
  unfold foldedChar
  split
  · decide
  · exact fold_fold c

theorem map_fold_folded (path : String) : (folded path).map Text.fold = folded path := by
  rw [folded_eq, List.map_map]
  exact List.map_congr_left fun c _ => fold_foldedChar c

/-- In folded text a word matches where it stands. -/
theorem dropWord?_iff_of_folded {w : List Char} (hs : s.map Text.fold = s) :
    Text.dropWord? w s = some rest ↔ s = w ++ rest := by
  rw [Pattern.dropWord?_eq_some_iff]
  constructor
  · rintro ⟨v, rfl, rfl⟩
    rw [List.map_append] at hs
    rw [(List.append_inj hs (by simp)).1]
  · rintro rfl
    rw [List.map_append] at hs
    exact ⟨w, (List.append_inj hs (by simp)).1, rfl⟩

theorem startsInPackage_iff (hs : s.map Text.fold = s) : startsInPackage s = true ↔
    ∃ package ∈ generatedPackages, ∃ rest, s = package.toList ++ '/' :: rest ∧ isJavaFileBelow rest = true := by
  rw [startsInPackage, List.any_eq_true]
  refine exists_congr fun package => and_congr_right fun _ => ?_
  constructor
  · intro h
    split at h
    · rename_i rest hrest
      exact ⟨rest, by simpa using (dropWord?_iff_of_folded hs).1 hrest, h⟩
    · cases h
  · rintro ⟨rest, heq, h⟩
    have hdrop : Text.dropWord? (package.toList ++ ['/']) s = some rest :=
      (dropWord?_iff_of_folded hs).2 (by simpa using heq)
    rw [hdrop]
    exact h

/-- The reader finds exactly what the pattern describes, in any text. -/
theorem isCompiled_iff_mem_pattern (path : String) : isCompiled path = true ↔ folded path ∈ pattern := by
  have hend : ∀ ending, endsWith (folded path) ending = true ↔ ∃ front, folded path = front ++ ending.toList := by
    intro ending
    rw [endsWith_iff]
    exact exists_congr fun _ => eq_comm
  rw [mem_pattern_iff, isCompiled, Bool.or_eq_true, Bool.or_eq_true, hend, hend, exists_or, List.any_eq_true]
  refine or_congr Iff.rfl ?_
  constructor
  · rintro ⟨t, ht, hp⟩
    obtain ⟨front, hfront, hs⟩ := mem_starts_iff.1 ht
    have hfold := map_fold_folded path
    rw [hs, List.map_append] at hfold
    obtain ⟨package, hmem, rest, rfl, hrest⟩ :=
      (startsInPackage_iff (List.append_inj hfold (by simp)).2).1 hp
    exact ⟨front, hfront, package, hmem, rest, hs, hrest⟩
  · rintro ⟨front, hfront, package, hmem, rest, hs, hrest⟩
    have hfold := map_fold_folded path
    rw [hs, List.map_append] at hfold
    exact ⟨_, mem_starts_iff.2 ⟨front, hfront, hs⟩,
      (startsInPackage_iff (List.append_inj hfold (by simp)).2).2 ⟨package, hmem, rest, rfl, hrest⟩⟩

/-! ## Segments -/

/-- The generated packages by their directories. -/
def packageDirectories : List (List String) := [["org", "apache", "jsp"], ["jsp_servlet"], ["_jsp"]]

/-- Read with its letters folded, the text ends in the name of a servlet, or its last segment is the name of a `.java`
file and the segments before that lead through a generated package. -/
def LooksGenerated (path : List Char) : Prop :=
  let text := path.map Text.fold
  "_jsp.java".toList <:+ text ∨ "_jspx.java".toList <:+ text ∨
    ∃ directories stem, text.splitOn '/' = directories ++ [stem ++ ".java".toList] ∧ stem ≠ [] ∧
      ∃ package ∈ packageDirectories, package.map String.toList <:+: directories

theorem intercalate_append {ps qs : List (List Char)} (hp : ps ≠ []) (hq : qs ≠ []) :
    ['/'].intercalate (ps ++ qs) = ['/'].intercalate ps ++ '/' :: ['/'].intercalate qs := by
  induction ps with
  | nil => exact absurd rfl hp
  | cons p ps ih =>
    cases ps with
    | nil => simp [List.intercalate_cons_of_ne_nil hq]
    | cons p' ps =>
      rw [List.cons_append, List.intercalate_cons_of_ne_nil (by simp), ih (List.cons_ne_nil _ _),
        List.intercalate_cons_cons]
      simp

/-- Segments, and then all that follows them, begin where a segment starts. -/
theorem exists_front (ps : List (List Char)) {qs : List (List Char)} (hq : qs ≠ []) :
    ∃ front, AtStart front ∧ ['/'].intercalate (ps ++ qs) = front ++ ['/'].intercalate qs := by
  cases ps with
  | nil => exact ⟨[], .inl rfl, rfl⟩
  | cons p ps =>
    refine ⟨['/'].intercalate (p :: ps) ++ ['/'], .inr ⟨_, rfl⟩, ?_⟩
    rw [intercalate_append (List.cons_ne_nil _ _) hq]
    simp

/-- Where a segment starts, the segments are those before and those after. -/
theorem exists_splitOn_append (hf : AtStart front) (t : List Char) :
    ∃ before, (front ++ t).splitOn '/' = before ++ t.splitOn '/' := by
  rcases hf with rfl | ⟨before, rfl⟩
  · exact ⟨[], rfl⟩
  · refine ⟨before.splitOn '/', ?_⟩
    rw [List.append_assoc, List.singleton_append, List.splitOn_append_cons_self]

theorem slash_notMem_of_mem_splitOn {part : List Char} (h : part ∈ s.splitOn '/') : '/' ∉ part := by
  induction s generalizing part with
  | nil =>
    obtain rfl := List.mem_singleton.1 h
    exact List.not_mem_nil
  | cons c s ih =>
    rw [List.splitOn_cons_eq_if_modifyHead] at h
    split at h
    · rcases List.mem_cons.1 h with rfl | h
      · exact List.not_mem_nil
      · exact ih h
    · rename_i hc
      obtain ⟨first, parts, hparts⟩ := List.exists_cons_of_ne_nil (List.splitOn_ne_nil '/' s)
      rw [hparts] at h ih
      rcases List.mem_cons.1 h with rfl | h
      · rw [List.mem_cons, not_or]
        exact ⟨fun heq => hc (beq_iff_eq.2 heq.symm), ih List.mem_cons_self⟩
      · exact ih (List.mem_cons_of_mem _ h)

theorem splitOn_generatedPackages :
    generatedPackages.map (fun package => package.toList.splitOn '/') =
      packageDirectories.map (·.map String.toList) := by
  decide

/-- A text that leads through a generated package has the package's directories among its own. -/
theorem segments_of_below (package : String) (hf : AtStart front) (h : isJavaFileBelow rest = true) :
    ∃ directories stem, (front ++ (package.toList ++ '/' :: rest)).splitOn '/' =
        directories ++ [stem ++ ".java".toList] ∧ stem ≠ [] ∧ package.toList.splitOn '/' <:+: directories := by
  obtain ⟨inner, stem, rfl, hinner, -, hne, hslash⟩ := isJavaFileBelow_iff.1 h
  have hname : '/' ∉ stem ++ ".java".toList := by simp [hslash]
  obtain ⟨before, hbefore⟩ := exists_splitOn_append hf (package.toList ++ '/' :: (inner ++ (stem ++ ".java".toList)))
  obtain ⟨between, hbetween⟩ := exists_splitOn_append hinner (stem ++ ".java".toList)
  refine ⟨before ++ package.toList.splitOn '/' ++ between, stem, ?_, hne, before, between, rfl⟩
  rw [hbefore, List.splitOn_append_cons_self, hbetween, List.splitOn_eq_singleton hname]
  simp

/-- A text without line feeds whose directories hold those of a generated package leads through it. -/
theorem below_of_segments {package : String} {directories : List (List Char)} {stem : List Char} (hfeed : '\n' ∉ s)
    (hs : s.splitOn '/' = directories ++ [stem ++ ".java".toList]) (hne : stem ≠ [])
    (hp : package.toList.splitOn '/' <:+: directories) :
    ∃ front, AtStart front ∧ ∃ rest, s = front ++ (package.toList ++ '/' :: rest) ∧ isJavaFileBelow rest = true := by
  obtain ⟨before, between, rfl⟩ := hp
  obtain ⟨inner, hinner, hrest⟩ := exists_front between (List.cons_ne_nil (stem ++ ".java".toList) [])
  have hbehind : package.toList.splitOn '/' ++ (between ++ [stem ++ ".java".toList]) ≠ [] := by simp
  obtain ⟨front, hfront, htext⟩ := exists_front before hbehind
  rw [intercalate_append (List.splitOn_ne_nil _ _) (by simp), List.intercalate_splitOn, hrest,
    List.intercalate_singleton] at htext
  have hjoined : s = front ++ (package.toList ++ '/' :: (inner ++ (stem ++ ".java".toList))) := by
    have hself : ['/'].intercalate (s.splitOn '/') = s := List.intercalate_splitOn '/'
    rw [← htext, ← hself, hs]
    simp
  have hslash : '/' ∉ stem := by
    have hname : stem ++ ".java".toList ∈ s.splitOn '/' := by simp [hs]
    exact fun h => slash_notMem_of_mem_splitOn hname (List.mem_append_left _ h)
  have hinnerFeed : '\n' ∉ inner := by
    rw [hjoined] at hfeed
    simp only [List.mem_append, List.mem_cons, not_or] at hfeed
    exact hfeed.2.2.2.1
  exact ⟨front, hfront, _, hjoined, isJavaFileBelow_iff.2 ⟨inner, stem, rfl, hinner, hinnerFeed, hne, hslash⟩⟩

theorem fold_eq_lineFeed_iff {c : Char} : Text.fold c = '\n' ↔ c = '\n' := by
  unfold Text.fold
  split
  · rename_i h
    subst h
    decide
  · split
    · rename_i h
      subst h
      decide
    · rw [← Char.toNat_inj, ← Char.toNat_inj, toNat_toLower]
      change (_ = 10 ↔ _ = 10)
      split <;> omega

/-- On text without line feeds the pattern is a statement about segments. -/
theorem mem_pattern_iff_looksGenerated {path : List Char} (hfeed : '\n' ∉ path) :
    path.map Text.fold ∈ pattern ↔ LooksGenerated path := by
  have hfolded : '\n' ∉ path.map Text.fold := by
    intro h
    obtain ⟨c, hc, hfold⟩ := List.mem_map.1 h
    exact hfeed (fold_eq_lineFeed_iff.1 hfold ▸ hc)
  have hpackages : ∀ directories : List (List Char),
      (∃ package ∈ packageDirectories, package.map String.toList <:+: directories) ↔
        ∃ package ∈ generatedPackages, package.toList.splitOn '/' <:+: directories := by
    intro directories
    have hwords : (∃ package ∈ packageDirectories, package.map String.toList <:+: directories) ↔
        ∃ words ∈ packageDirectories.map (·.map String.toList), words <:+: directories := by
      simp only [List.mem_map, exists_exists_and_eq_and]
    rw [hwords, ← splitOn_generatedPackages]
    simp only [List.mem_map, exists_exists_and_eq_and]
  rw [mem_pattern_iff, exists_or, or_assoc, LooksGenerated]
  refine or_congr (exists_congr fun _ => eq_comm) (or_congr (exists_congr fun _ => eq_comm) ?_)
  constructor
  · rintro ⟨front, hfront, package, hmem, rest, hs, hrest⟩
    obtain ⟨directories, stem, hsplit, hne, hinfix⟩ := segments_of_below package hfront hrest
    rw [← hs] at hsplit
    exact ⟨directories, stem, hsplit, hne, (hpackages _).2 ⟨package, hmem, hinfix⟩⟩
  · rintro ⟨directories, stem, hsplit, hne, hpackage⟩
    obtain ⟨package, hmem, hinfix⟩ := (hpackages _).1 hpackage
    obtain ⟨front, hfront, rest, hs, hrest⟩ := below_of_segments hfolded hsplit hne hinfix
    exact ⟨front, hfront, package, hmem, rest, hs, hrest⟩

/-! ## Slashes and directories in front -/

/-- The text with its backslashes turned into slashes. -/
def slashed (path : String) : List Char := path.toList.map fun c => if c = '\\' then '/' else c

/-- The text with slashes and backslashes exchanged. -/
def exchanged (path : String) : String :=
  String.ofList (path.toList.map fun c => if c = '/' then '\\' else if c = '\\' then '/' else c)

theorem folded_eq_map_slashed (path : String) : folded path = (slashed path).map Text.fold := by
  rw [folded, slashed, List.map_map]
  refine List.map_congr_left fun c _ => ?_
  rw [Function.comp_apply]
  split
  · decide
  · rfl

theorem folded_exchanged (path : String) : folded (exchanged path) = folded path := by
  rw [folded_eq, folded_eq, exchanged, String.toList_ofList, List.map_map]
  refine List.map_congr_left fun c _ => ?_
  rw [Function.comp_apply]
  split
  · rename_i h
    subst h
    decide
  · split
    · rename_i h
      subst h
      decide
    · rfl

theorem isCompiled_exchanged (path : String) : isCompiled (exchanged path) = isCompiled path := by
  rw [Bool.eq_iff_iff, isCompiled_iff_mem_pattern, isCompiled_iff_mem_pattern, folded_exchanged]

/-- What the pattern describes it describes below any directory. -/
theorem mem_pattern_below (directory : List Char) (h : s ∈ pattern) : directory ++ '/' :: s ∈ pattern := by
  rw [mem_pattern_iff] at h ⊢
  rcases h with ⟨front, hname⟩ | ⟨front, hfront, package, hmem, rest, rfl, hrest⟩
  · refine .inl ⟨directory ++ '/' :: front, ?_⟩
    rcases hname with rfl | rfl <;> simp
  · refine .inr ⟨directory ++ '/' :: front, ?_, package, hmem, rest, by simp, hrest⟩
    rcases hfront with rfl | ⟨before, rfl⟩
    · exact .inr ⟨directory, rfl⟩
    · exact .inr ⟨directory ++ '/' :: before, by simp⟩

theorem isCompiled_below (directory : String) {path separator : String} (hs : separator = "/" ∨ separator = "\\")
    (h : isCompiled path = true) : isCompiled (directory ++ separator ++ path) = true := by
  rw [isCompiled_iff_mem_pattern] at h ⊢
  have hslash : folded (directory ++ separator ++ path) = folded directory ++ '/' :: folded path := by
    rw [folded_eq, String.toList_append, String.toList_append, List.map_append, List.map_append]
    have hseparator : separator.toList.map foldedChar = ['/'] := by rcases hs with rfl | rfl <;> decide
    rw [hseparator, folded_eq, folded_eq, List.append_assoc, List.singleton_append]
  rw [hslash]
  exact mem_pattern_below _ h

/-! ## Compiled sources -/

/-- A path without line feeds is a compiled source exactly when its segments say so. A path stays what it is with other
slashes, a compiled source below any directory is one, and none is a template, line feeds or not. -/
theorem isCompiled_by_segments :
    (∀ path : String, '\n' ∉ path.toList → (isCompiled path = true ↔ LooksGenerated (slashed path))) ∧
      (∀ path : String, isCompiled (exchanged path) = isCompiled path) ∧
      (∀ directory path separator : String, separator = "/" ∨ separator = "\\" → isCompiled path = true →
        isCompiled (directory ++ separator ++ path) = true) ∧
      ∀ path : String, ¬ (isCompiled path = true ∧ isTemplate path = true) := by
  refine ⟨?_, isCompiled_exchanged, fun directory _ _ hs h => isCompiled_below directory hs h, ?_⟩
  · intro path hfeed
    have hslashed : '\n' ∉ slashed path := by
      intro h
      obtain ⟨c, hc, heq⟩ := List.mem_map.1 h
      split at heq
      · exact absurd heq (by decide)
      · exact hfeed (heq ▸ hc)
    rw [isCompiled_iff_mem_pattern, folded_eq_map_slashed, mem_pattern_iff_looksGenerated hslashed]
  · rintro path ⟨hcompiled, htemplate⟩
    rw [isTemplate_eq_false hcompiled] at htemplate
    cases htemplate

namespace Sample

/-- A path with both kinds of slashes, capital letters and a long s. -/
def mixed : String := "C:\\work\\ORG/apache\\J\u017fp/admin/List.JAVA"

end Sample

theorem isCompiled_by_segments_mixed :
    '\n' ∉ Sample.mixed.toList ∧ LooksGenerated (slashed Sample.mixed) ∧ isCompiled Sample.mixed = true ∧
      isCompiled ("/ws" ++ "\\" ++ Sample.mixed) = true := by
  obtain ⟨hsegments, -, hbelow, -⟩ := isCompiled_by_segments
  have hfeed : '\n' ∉ Sample.mixed.toList := by decide
  have hlooks : LooksGenerated (slashed Sample.mixed) := by
    refine .inr (.inr ⟨["c:", "work", "org", "apache", "jsp", "admin"].map String.toList, "list".toList, by decide,
      by decide, ["org", "apache", "jsp"], by decide, ?_⟩)
    exact ⟨["c:", "work"].map String.toList, ["admin"].map String.toList, by decide⟩
  have hcompiled := (hsegments Sample.mixed hfeed).2 hlooks
  exact ⟨hfeed, hlooks, hcompiled, hbelow "/ws" Sample.mixed "\\" (.inr rfl) hcompiled⟩

end TemplateDebug.Source
