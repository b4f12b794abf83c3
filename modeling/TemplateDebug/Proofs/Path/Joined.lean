import Mathlib.Data.List.Induction
import TemplateDebug.Proofs.Disk.Spelling
/-!
# Paths extended by names

A path that is joined with another one depends on the components of both alone, whatever their spelling. A path that is
extended by names has its own components and, after them, the names. It is spelled as the path joined with the names
between slashes, which split again into these names; and unless it is too long it can name a file.
-/

namespace TemplateDebug

namespace Text

/-- At a separator a text splits into the parts before it and those after it. -/
theorem splitParts_append {sep : Char → Bool} {c : Char} (hc : sep c = true) (s t : List Char) :
    splitParts sep (s ++ c :: t) = splitParts sep s ++ splitParts sep t := by
  induction s with
  | nil =>
    rw [List.nil_append, splitParts_cons, if_pos hc]
    rfl
  | cons d s ih =>
    rw [List.cons_append, splitParts_cons, splitParts_cons, ih]
    split
    · rfl
    · cases hs : splitParts sep s with
      | nil => exact absurd hs (splitParts_ne_nil sep s)
      | cons part parts => rfl

/-- Without a separator the text is one part. -/
theorem splitParts_eq_singleton {sep : Char → Bool} {s : List Char} (h : ∀ c ∈ s, sep c = false) :
    splitParts sep s = [s] := by
  induction s with
  | nil => rfl
  | cons c s ih =>
    rw [List.forall_mem_cons] at h
    rw [splitParts_cons, ih h.2, if_neg (by simp [h.1])]
    rfl

end Text

namespace Path

variable {p q r : Path} {name rel : String} {ns : List String}

/-! ## Names -/

/-- A name stands for an entry of a directory: it is no dot or double dot, is not empty and has no slash. -/
structure IsName (name : String) : Prop where
  ne_empty : name ≠ ""
  ne_here : name ≠ "."
  ne_parent : name ≠ ".."
  noSlash : '/' ∉ name.toList

theorem IsName.toList_ne_nil (h : IsName name) : name.toList ≠ [] := by
  intro hnil
  exact h.ne_empty (String.toList_eq_nil_iff.1 hnil)

theorem IsName.head?_ne (h : IsName name) : name.toList.head? ≠ some '/' := by
  intro hhead
  exact h.noSlash (List.mem_of_mem_head? hhead)

theorem IsName.componentOf_eq (h : IsName name) : componentOf name = .normal name := if_neg h.ne_parent

theorem names_append_slash (s t : List Char) : names (s ++ '/' :: t) = names s ++ names t := by
  simp only [names]
  rw [Text.splitParts_append (decide_eq_true rfl), List.filter_append, List.map_append]

theorem names_toList (hne : name ≠ "") (hslash : '/' ∉ name.toList) : names name.toList = [name] := by
  have hone : Text.splitParts (fun c => decide (c = '/')) name.toList = [name.toList] := by
    apply Text.splitParts_eq_singleton
    intro c hc
    apply decide_eq_false
    rintro rfl
    exact hslash hc
  have hfull : name.toList.isEmpty = false := by
    rw [List.isEmpty_eq_false_iff]
    exact fun hnil => hne (String.toList_eq_nil_iff.1 hnil)
  simp [names, hone, hfull]

/-- What stands between slashes is not empty and has none. -/
theorem of_mem_names {s : List Char} (h : name ∈ names s) : name ≠ "" ∧ '/' ∉ name.toList := by
  simp only [names, List.mem_map, List.mem_filter] at h
  obtain ⟨part, ⟨hpart, hfull⟩, rfl⟩ := h
  constructor
  · rintro hempty
    have hnil : part = [] := by simpa using congrArg String.toList hempty
    simp [hnil] at hfull
  · intro hslash
    rw [String.toList_ofList] at hslash
    have hsep := ((Text.mem_splitParts _ s '/').1 ⟨part, hpart, hslash⟩).2
    simp at hsep

/-- The normal components of a path are names. -/
theorem isName_of_mem_components (h : .normal name ∈ p.components) : IsName name := by
  have hreal : name ∈ p.realNames ∧ name ≠ ".." := by
    rw [components_eq, List.mem_append] at h
    rcases h with hlead | hname
    · rcases p.lead_cases with ⟨-, hl⟩ | ⟨-, hl | hl⟩ <;> simp [hl] at hlead
    · obtain ⟨name', hmem, heq⟩ := List.mem_map.1 hname
      unfold componentOf at heq
      split at heq
      · cases heq
      · rename_i hne
        cases heq
        exact ⟨hmem, hne⟩
  obtain ⟨hmem, hdot⟩ := List.mem_filter.1 hreal.1
  obtain ⟨hne, hslash⟩ := of_mem_names hmem
  exact ⟨hne, of_decide_eq_true hdot, hreal.2, hslash⟩

/-- Names between slashes split again into the names. -/
theorem names_intercalate (h : ∀ name ∈ ns, IsName name) : names ("/".intercalate ns).toList = ns := by
  induction ns with
  | nil => simp [names, Text.splitParts]
  | cons name ns ih =>
    rw [List.forall_mem_cons] at h
    have hname : names name.toList = [name] := names_toList h.1.ne_empty h.1.noSlash
    cases ns with
    | nil => simpa using hname
    | cons next ns =>
      rw [String.intercalate_cons_cons, String.toList_append, String.toList_append, List.append_assoc,
        show "/".toList = ['/'] from rfl, List.singleton_append, names_append_slash, hname, ih h.2]
      rfl

/-- Names between slashes begin as the first of them does. -/
theorem head?_intercalate (h : IsName name) (ns : List String) :
    ("/".intercalate (name :: ns)).toList.head? ≠ some '/' := by
  cases ns with
  | nil => simpa using h.head?_ne
  | cons next ns =>
    rw [String.intercalate_cons_cons, String.append_assoc, String.toList_append,
      List.head?_append_of_ne_nil _ h.toList_ne_nil]
    exact h.head?_ne

/-- A text that is not empty and does not begin with a slash has names. -/
theorem names_ne_nil {s : List Char} (hne : s ≠ []) (hhead : s.head? ≠ some '/') : names s ≠ [] := by
  obtain ⟨c, rest, rfl⟩ := List.exists_cons_of_ne_nil hne
  have hc : c ≠ '/' := by
    rintro rfl
    exact hhead rfl
  obtain ⟨name, hname, -⟩ := (mem_names hc).2 List.mem_cons_self
  exact List.ne_nil_of_mem hname

/-! ## Joined paths -/

theorem head?_ne_of_isAbsolute_eq_false (h : r.isAbsolute = false) : r.text.toList.head? ≠ some '/' :=
  of_decide_eq_false h

/-- An absolute path stands alone. -/
theorem join_of_isAbsolute (p : Path) (h : r.isAbsolute = true) : p.join r.text = r :=
  if_pos (of_decide_eq_true h)

theorem join_of_text_eq_empty (hp : p.text = "") (rel : String) : p.join rel = ⟨rel⟩ := by
  unfold join
  split
  · rfl
  · rw [if_pos (.inl (by simp [hp])), hp, String.empty_append]

/-- The text of a path and a relative text: a slash stands between them, unless the path is empty or ends in one. -/
theorem join_cases (p : Path) (h : rel.toList.head? ≠ some '/') :
    p.text = "" ∧ p.join rel = ⟨rel⟩ ∨
      (∃ front, p.text.toList = front ++ ['/'] ∧ p.join rel = ⟨p.text ++ rel⟩) ∨
      p.text ≠ "" ∧ p.join rel = ⟨p.text ++ "/" ++ rel⟩ := by
  by_cases hempty : p.text = ""
  · left
    exact ⟨hempty, join_of_text_eq_empty hempty rel⟩
  · right
    rw [join, if_neg h]
    by_cases hlast : p.text.toList.getLast? = some '/'
    · left
      obtain ⟨front, hfront⟩ := List.getLast?_eq_some_iff.1 hlast
      exact ⟨front, hfront, if_pos (.inr hlast)⟩
    · right
      exact ⟨hempty, if_neg (by simp [hempty, hlast])⟩

theorem names_join (p : Path) (h : rel.toList.head? ≠ some '/') :
    names (p.join rel).text.toList = names p.text.toList ++ names rel.toList := by
  have hnil : names [] = [] := rfl
  rcases join_cases p h with ⟨hempty, hjoin⟩ | ⟨front, hfront, hjoin⟩ | ⟨-, hjoin⟩
  · rw [hjoin, hempty, String.toList_empty, hnil, List.nil_append]
  · rw [hjoin, String.toList_append, hfront, List.append_assoc, List.singleton_append, names_append_slash,
      names_append_slash, hnil, List.append_nil]
  · rw [hjoin, String.toList_append, String.toList_append, List.append_assoc, show "/".toList = ['/'] from rfl,
      List.singleton_append, names_append_slash]

theorem isAbsolute_join (p : Path) (h : rel.toList.head? ≠ some '/') : (p.join rel).isAbsolute = p.isAbsolute := by
  rcases join_cases p h with ⟨hempty, hjoin⟩ | ⟨front, hfront, hjoin⟩ | ⟨hne, hjoin⟩
  · rw [hjoin]
    simp [isAbsolute, hempty, h]
  · rw [hjoin]
    simp only [isAbsolute, String.toList_append, hfront]
    cases front <;> rfl
  · rw [hjoin]
    have htext : p.text.toList ≠ [] := fun hnil => hne (String.toList_eq_nil_iff.1 hnil)
    simp only [isAbsolute, String.toList_append]
    cases hp : p.text.toList with
    | nil => exact absurd hp htext
    | cons c text => rfl

theorem components_eq_nil_iff : p.components = [] ↔ p.text = "" := by
  constructor
  · intro hnone
    rw [components_eq, List.append_eq_nil_iff, List.map_eq_nil_iff] at hnone
    obtain ⟨hlead, hreal⟩ := hnone
    by_contra hne
    have htext : p.text.toList ≠ [] := fun hnil => hne (String.toList_eq_nil_iff.1 hnil)
    unfold lead at hlead
    split at hlead
    · cases hlead
    · rename_i habsolute
      have hhead := head?_ne_of_isAbsolute_eq_false (by simpa using habsolute)
      obtain ⟨first, others, hnames⟩ := List.exists_cons_of_ne_nil (names_ne_nil htext hhead)
      -- the first name counts, or is a dot that begins the path
      by_cases hdot : first = "."
      · simp [hnames, hdot] at hlead
      · simp [realNames, hnames, hdot] at hreal
  · intro hempty
    obtain rfl : p = ⟨""⟩ := Path.ext hempty
    rfl

/-- A relative path behind one that is not empty adds its names, without the dots. -/
theorem components_join_of_ne_empty (hp : p.text ≠ "") (hr : r.isAbsolute = false) :
    (p.join r.text).components = p.components ++ r.realNames.map componentOf := by
  have hrel := head?_ne_of_isAbsolute_eq_false hr
  have hreal : (p.join r.text).realNames = p.realNames ++ r.realNames := by
    rw [realNames, names_join p hrel, List.filter_append]
    rfl
  have hlead : (p.join r.text).lead = p.lead := by
    unfold lead
    rw [isAbsolute_join p hrel, names_join p hrel]
    cases habsolute : p.isAbsolute with
    | true => rfl
    | false =>
      have hnames := names_ne_nil (fun hnil => hp (String.toList_eq_nil_iff.1 hnil))
        (head?_ne_of_isAbsolute_eq_false habsolute)
      rw [List.head?_append_of_ne_nil _ hnames]
  rw [components_eq, components_eq p, hlead, hreal, List.map_append, List.append_assoc]

/-- Equal paths behind equal paths are equal. -/
theorem components_join_congr {p' r' : Path} (hp : p.components = p'.components) (hr : r.components = r'.components) :
    (p.join r.text).components = (p'.join r'.text).components := by
  obtain ⟨habsolute, hreal⟩ := names_of_components hr
  cases hr' : r'.isAbsolute with
  | true => rw [join_of_isAbsolute p (habsolute.trans hr'), join_of_isAbsolute p' hr', hr]
  | false =>
    have hempty : p.text = "" ↔ p'.text = "" := by rw [← components_eq_nil_iff, hp, components_eq_nil_iff]
    -- behind an empty path a dot at the beginning counts, behind any other it does not
    by_cases hne : p'.text = ""
    · rw [join_of_text_eq_empty (hempty.2 hne), join_of_text_eq_empty hne, hr]
    · rw [components_join_of_ne_empty (mt hempty.1 hne) (habsolute.trans hr'), components_join_of_ne_empty hne hr', hp,
        hreal]

/-! ## One name more -/

theorem components_join (p : Path) (h : IsName name) : (p.join name).components = p.components ++ [.normal name] := by
  have hreal : (Path.mk name).realNames = [name] := by
    rw [realNames, names_toList h.ne_empty h.noSlash]
    simp [h.ne_here]
  have hrel : (Path.mk name).isAbsolute = false := decide_eq_false h.head?_ne
  by_cases hp : p.text = ""
  · have hlead : (Path.mk name).lead = [] := by
      unfold lead
      rw [hrel, names_toList h.ne_empty h.noSlash]
      simp [h.ne_here]
    rw [join_of_text_eq_empty hp, components_eq_nil_iff.2 hp, components_eq, hlead, hreal]
    simp [h.componentOf_eq]
  · have hmany := components_join_of_ne_empty hp hrel
    rw [hmany, hreal, List.map_singleton, h.componentOf_eq]

/-- What is joined stands at the end, with no slash after it. -/
theorem getLast?_join (p : Path) (h : IsName name) :
    (p.join name).text ≠ "" ∧ (p.join name).text.toList.getLast? ≠ some '/' := by
  obtain ⟨before, hbefore⟩ : ∃ before, (p.join name).text.toList = before ++ name.toList := by
    rcases join_cases p h.head?_ne with ⟨-, hjoin⟩ | ⟨-, -, hjoin⟩ | ⟨-, hjoin⟩ <;> rw [hjoin]
    · exact ⟨[], rfl⟩
    · exact ⟨_, String.toList_append⟩
    · exact ⟨_, String.toList_append⟩
  constructor
  · rw [Ne, ← String.toList_eq_nil_iff, hbefore]
    simp [h.ne_empty]
  · rw [hbefore, List.getLast?_append_of_ne_nil _ h.toList_ne_nil]
    intro hslash
    exact h.noSlash (List.mem_of_getLast? hslash)

/-- A path that ends in a name can name a file. -/
theorem namesFile_join (p : Path) (h : IsName name) (hfit : (p.join name).text.utf8ByteSize ≤ 4095) :
    (p.join name).NamesFile := by
  refine ⟨hfit, ?_⟩
  rw [Disk.steps, if_neg (getLast?_join p h).2, List.append_nil, names_join p h.head?_ne,
    names_toList h.ne_empty h.noSlash, List.getLast?_concat]
  simpa using h.ne_here

/-- To join with a name and then with a relative text is to join with both, a slash between them. -/
theorem join_join (p : Path) (h : IsName name) {rel : String} (hrel : rel.toList.head? ≠ some '/') :
    (p.join name).join rel = p.join (name ++ "/" ++ rel) := by
  obtain ⟨hne, hlast⟩ := getLast?_join p h
  have hboth : (name ++ "/" ++ rel).toList.head? ≠ some '/' := by
    rw [String.append_assoc, String.toList_append, List.head?_append_of_ne_nil _ h.toList_ne_nil]
    exact h.head?_ne
  have houter : (p.join name).join rel = ⟨(p.join name).text ++ "/" ++ rel⟩ := by
    rw [join, if_neg hrel, if_neg (by simp [hne, hlast])]
  rw [houter, join, join, if_neg h.head?_ne, if_neg hboth]
  split <;> simp [String.append_assoc]

/-! ## Several names -/

/-- The path that the names lead to from a path. -/
def under (p : Path) (ns : List String) : Path := ns.foldl join p

theorem under_concat (p : Path) (ns : List String) (name : String) : p.under (ns ++ [name]) = (p.under ns).join name :=
  List.foldl_concat join p name ns

/-- A path extended by names has its own components and the names. -/
theorem components_under (p : Path) (h : ∀ name ∈ ns, IsName name) :
    (p.under ns).components = p.components ++ ns.map .normal := by
  induction ns using List.reverseRecOn with
  | nil => simp [under]
  | append_singleton ns name ih =>
    rw [List.forall_mem_append] at h
    rw [under_concat, components_join _ (h.2 name (List.mem_singleton_self name)), ih h.1, List.map_append,
      List.append_assoc]
    rfl

theorem namesFile_under (p : Path) (hne : ns ≠ []) (h : ∀ name ∈ ns, IsName name)
    (hfit : (p.under ns).text.utf8ByteSize ≤ 4095) : (p.under ns).NamesFile := by
  obtain ⟨front, name, rfl⟩ := List.eq_nil_or_concat' ns |>.resolve_left hne
  rw [under_concat] at hfit ⊢
  exact namesFile_join _ (h name (by simp)) hfit

/-- To join with names one after the other is to join with the names between slashes. -/
theorem under_eq_join (p : Path) (hne : ns ≠ []) (h : ∀ name ∈ ns, IsName name) :
    p.under ns = p.join ("/".intercalate ns) := by
  induction ns generalizing p with
  | nil => exact absurd rfl hne
  | cons name ns ih =>
    rw [List.forall_mem_cons] at h
    cases ns with
    | nil => simp [under]
    | cons next ns =>
      have hhead := head?_intercalate (h.2 next List.mem_cons_self) ns
      have hstep : p.under (name :: next :: ns) = (p.join name).under (next :: ns) := rfl
      rw [hstep, ih (p.join name) (List.cons_ne_nil _ _) h.2, join_join p h.1 hhead, String.intercalate_cons_cons]

end Path

end TemplateDebug
