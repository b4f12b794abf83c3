import TemplateDebug.Proofs.Disk.Spelling
import TemplateDebug.Source.Kind
/-!
# Compiled sources and templates

The path of a compiled source ends in `.java`, up to the case of its letters. So it names a file unless it is too long,
and is no template.
-/

namespace TemplateDebug.Source

/-- A character as the kinds of sources read it. -/
def foldedChar (c : Char) : Char := if c = '\\' then '/' else Text.fold c

theorem folded_eq (path : String) : folded path = path.toList.map foldedChar := rfl

theorem endsWith_iff {s : List Char} {ending : String} : endsWith s ending = true ↔ ending.toList <:+ s :=
  List.isSuffixOf_iff_suffix

/-- What stands before the name of a servlet makes no difference. -/
theorem isCompiled_append (front : String) {text : String} (h : endsWith (folded text) "_jsp.java" = true) :
    isCompiled (front ++ text) = true := by
  have hs : endsWith (folded (front ++ text)) "_jsp.java" = true := by
    rw [endsWith_iff, folded_eq, String.toList_append, List.map_append]
    exact (endsWith_iff.1 h).trans (List.suffix_append _ _)
  simp [isCompiled, hs]

/-! ## The end of a compiled source -/

theorem suffix_of_mem_segmentStarts {s t : List Char} (h : t ∈ segmentStarts s) : t <:+ s := by
  induction s with
  | nil => cases h
  | cons c s ih =>
    rw [segmentStarts] at h
    split at h
    · rcases List.mem_cons.1 h with rfl | h
      · exact List.suffix_cons c t
      · exact (ih h).trans (List.suffix_cons c s)
    · exact (ih h).trans (List.suffix_cons c s)

theorem suffix_of_dropWord? {word s rest : List Char} (h : Text.dropWord? word s = some rest) : rest <:+ s := by
  induction word generalizing s with
  | nil =>
    cases h
    exact List.suffix_refl _
  | cons w word ih =>
    cases s with
    | nil => cases h
    | cons c s =>
      rw [Text.dropWord?] at h
      split at h
      · exact (ih h).trans (List.suffix_cons c s)
      · cases h

theorem lastSegment_suffix (s : List Char) : lastSegment s <:+ s := by
  rw [lastSegment, ← List.reverse_prefix, List.reverse_reverse]
  exact List.takeWhile_prefix _

theorem endsInJava_of_startsInPackage {s : List Char} (h : startsInPackage s = true) : endsWith s ".java" = true := by
  obtain ⟨package, -, hp⟩ := List.any_eq_true.1 h
  split at hp
  · rename_i rest hr
    simp only [isJavaFileBelow, Bool.and_eq_true] at hp
    have hseg : ".java".toList <:+ lastSegment rest := endsWith_iff.1 hp.1.1
    exact endsWith_iff.2 ((hseg.trans (lastSegment_suffix rest)).trans (suffix_of_dropWord? hr))
  · cases hp

/-- A compiled source is a `.java` file. -/
theorem endsInJava_of_isCompiled {path : String} (h : isCompiled path = true) :
    endsWith (folded path) ".java" = true := by
  simp only [isCompiled, Bool.or_eq_true, List.any_eq_true, List.mem_cons] at h
  rcases h with (h | h) | ⟨t, ht, hp⟩
  · exact endsWith_iff.2 (.trans (by decide) (endsWith_iff.1 h))
  · exact endsWith_iff.2 (.trans (by decide) (endsWith_iff.1 h))
  · have hj := endsWith_iff.1 (endsInJava_of_startsInPackage hp)
    rcases ht with rfl | ht
    · exact endsWith_iff.2 hj
    · exact endsWith_iff.2 (hj.trans (suffix_of_mem_segmentStarts ht))

theorem ne_of_foldedChar {c : Char} (h : foldedChar c = 'a') : c ≠ '/' ∧ c ≠ '\\' ∧ c ≠ '.' := by
  refine ⟨?_, ?_, ?_⟩ <;> rintro rfl <;> exact absurd h (by decide)

/-- The last character of a compiled source is an `a`. -/
theorem exists_last_of_isCompiled {path : String} (h : isCompiled path = true) :
    ∃ front c, path.toList = front ++ [c] ∧ foldedChar c = 'a' := by
  have hj := endsWith_iff.1 (endsInJava_of_isCompiled h)
  rw [folded_eq] at hj
  obtain ⟨ending, ⟨front, hf⟩, he⟩ := List.suffix_map_iff.1 hj
  have hlen : ending.length = 5 := by simpa using (congrArg List.length he).symm
  match ending, hlen with
  | [c₁, c₂, c₃, c₄, c₅], _ =>
    refine ⟨front ++ [c₁, c₂, c₃, c₄], c₅, by rw [← hf]; simp, ?_⟩
    have := congrArg List.getLast? he
    simpa using this.symm

/-- A compiled source is spelled as a file is, when it is short enough. -/
theorem namesFile_of_isCompiled {path : String} (h : isCompiled path = true) (hl : path.utf8ByteSize ≤ 4095) :
    (Path.mk path).NamesFile := by
  obtain ⟨front, c, hp, hc⟩ := exists_last_of_isCompiled h
  obtain ⟨hslash, -, hdot⟩ := ne_of_foldedChar hc
  obtain ⟨parts, part, hs⟩ := Text.splitParts_append_singleton (· = '/') front (decide_eq_false hslash)
  refine ⟨hl, fun hlast => ?_⟩
  -- the last name ends in the last character, so it is no dot
  have hname : String.ofList (part ++ [c]) = "." := by simpa [Disk.steps, Path.names, hp, hs, hslash] using hlast
  have hchar := congrArg (fun n : String => n.toList.getLast?) hname
  exact hdot (by simpa using hchar)

/-! ## Templates -/

theorem toLower_of_foldedChar {c : Char} (h : foldedChar c = 'a') : c.toLower = 'a' := by
  unfold foldedChar Text.fold at h
  split at h
  · cases h
  · split at h
    · cases h
    · split at h
      · cases h
      · exact h

/-- No extension of a template ends as a compiled source does. -/
theorem getLast?_of_mem_templateExtensions {t : String} (h : t ∈ templateExtensions) :
    (t.toList.map Char.toLower).getLast? ≠ some 'a' := by
  simp only [templateExtensions, List.mem_cons, List.not_mem_nil, or_false] at h
  rcases h with rfl | rfl | rfl | rfl | rfl <;> decide

theorem getLast?_of_extension? {name e : List Char} {c : Char} (hc : c ≠ '.')
    (h : extension? (name ++ [c]) = some e) : e.getLast? = some c := by
  unfold extension? at h
  split at h
  · cases h
    simp [hc]
  · cases h

/-- A compiled source is no template. -/
theorem isTemplate_eq_false {path : String} (h : isCompiled path = true) : isTemplate path = false := by
  obtain ⟨front, c, hp, hc⟩ := exists_last_of_isCompiled h
  obtain ⟨hs, hb, hdot⟩ := ne_of_foldedChar hc
  have hslash : (c ≠ '/' && c ≠ '\\') = true := by simp [hs, hb]
  have hname : (path.toList.reverse.takeWhile fun c => c ≠ '/' && c ≠ '\\').reverse =
      (front.reverse.takeWhile fun c => c ≠ '/' && c ≠ '\\').reverse ++ [c] := by
    rw [hp, List.reverse_append, List.reverse_singleton, List.singleton_append, List.takeWhile_cons, if_pos hslash,
      List.reverse_cons]
  unfold isTemplate
  rw [hname]
  dsimp only
  split
  · rename_i e he
    have hlast := getLast?_of_extension? hdot he
    rw [List.any_eq_false]
    intro t ht hsame
    have heq : e.map Char.toLower = t.toList.map Char.toLower := by simpa [Text.sameIgnoringAsciiCase] using hsame
    refine getLast?_of_mem_templateExtensions ht ?_
    rw [← heq, List.getLast?_map, hlast, Option.map_some, toLower_of_foldedChar hc]
  · rfl

end TemplateDebug.Source
