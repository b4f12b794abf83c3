import Mathlib.Data.List.Basic
import TemplateDebug.Marker.Mapping
import TemplateDebug.Marker.Parser
/-!
# Lines and their markers

The markers of a source text stand in the order of their lines, so that halving finds the last one at or before a line.
The marker chosen for a template line is the greatest of its candidates. Where a breakpoint goes on the line after the
chosen marker, that line belongs to this marker again, unless another stands there.
-/

namespace TemplateDebug.Marker

variable {markers : Array Marker} {line : Nat} {m m' : Marker} {refs : List String}

/-! ## Order -/

/-- Every marker stands on a later line than those before it. -/
def Sorted (markers : Array Marker) : Prop := markers.toList.Pairwise fun a b => a.compiledLine < b.compiledLine

/-- No marker stands on an earlier line than those before it; several may stand on one line. -/
def Ascending (markers : Array Marker) : Prop := markers.toList.Pairwise fun a b => a.compiledLine ≤ b.compiledLine

theorem Sorted.ascending (hs : Sorted markers) : Ascending markers := hs.imp Nat.le_of_lt

theorem compiledLine_of_ofLine? {s : List Char} {number : Nat} (h : ofLine? s number = some m) :
    m.compiledLine = number := by
  unfold ofLine? at h
  split at h
  · simp only [Option.bind_eq_some_iff, Option.map_eq_some_iff] at h
    obtain ⟨r, -, n, -, rfl⟩ := h
    rfl
  · cases h

/-- The markers of a source text are sorted. -/
theorem sorted_parse (text : String) : Sorted (parse text) := by
  have hlines : (((Text.lines text.toList).take lastLine).zipIdx 1).Pairwise fun a b => a.2 < b.2 := by
    rw [← List.pairwise_map (f := Prod.snd), List.zipIdx_map_snd]
    exact List.pairwise_lt_range'
  refine hlines.filterMap _ ?_
  intro a b hab x hx y hy
  rw [compiledLine_of_ofLine? hx, compiledLine_of_ofLine? hy]
  exact hab

/-- The markers of a source text name lines. -/
theorem templateLine_of_mem_parse {text : String} (h : m ∈ parse text) :
    0 < m.templateLine ∧ m.templateLine ≤ lastLine := by
  obtain ⟨l, -, hl⟩ := List.mem_filterMap.1 (List.mem_toArray.1 h)
  unfold ofLine? at hl
  split at hl
  · simp only [Option.bind_eq_some_iff, Option.map_eq_some_iff] at hl
    obtain ⟨r, -, n, hn, rfl⟩ := hl
    unfold lineNumber? at hn
    split at hn
    · dsimp only at hn
      split at hn
      · rename_i hbounds
        cases hn
        exact hbounds
      · cases hn
    · cases hn
  · cases hl

/-- The markers of a source text stand on its lines. -/
theorem compiledLine_le_of_mem_parse {text : String} (h : m ∈ parse text) :
    m.compiledLine ≤ (Text.lines text.toList).length := by
  obtain ⟨⟨l, number⟩, hl, hm⟩ := List.mem_filterMap.1 (List.mem_toArray.1 h)
  rw [compiledLine_of_ofLine? hm]
  have hnumber := List.snd_lt_add_of_mem_zipIdx hl
  rw [List.length_take] at hnumber
  dsimp only at hnumber
  omega

theorem compiledLine_pos_of_mem_parse {text : String} (h : m ∈ parse text) : 0 < m.compiledLine := by
  obtain ⟨⟨l, number⟩, hl, hm⟩ := List.mem_filterMap.1 (List.mem_toArray.1 h)
  rw [compiledLine_of_ofLine? hm]
  exact List.le_snd_of_mem_zipIdx hl

/-! ## Halving -/

/-- The marker at this place stands at or before the line. -/
def AtOrBefore (markers : Array Marker) (line i : Nat) : Prop := ∃ m, markers[i]? = some m ∧ m.compiledLine ≤ line

/-- With one marker, those before it stand at or before the line, too. -/
theorem AtOrBefore.mono (hs : Ascending markers) {i j : Nat} (hij : i ≤ j) (h : AtOrBefore markers line j) :
    AtOrBefore markers line i := by
  obtain ⟨m, hm, hle⟩ := h
  obtain ⟨hj, rfl⟩ := Array.getElem?_eq_some_iff.1 hm
  refine ⟨markers[i], Array.getElem?_eq_getElem (by omega), ?_⟩
  rcases Nat.eq_or_lt_of_le hij with rfl | hlt
  · exact hle
  · have := List.pairwise_iff_getElem.1 hs i j (by simpa using (by omega : i < markers.size)) (by simpa using hj) hlt
    simp only [Array.getElem_toList] at this
    omega

/-- The place is the first of so many markers or one at or before the line, and none after it is one. -/
structure Halved (markers : Array Marker) (line base size place : Nat) : Prop where
  low : base ≤ place
  high : place < base + size
  here : place = base ∨ AtOrBefore markers line place
  after : ∀ i, place < i → i < base + size → ¬ AtOrBefore markers line i

theorem halve_spec (hs : Ascending markers) (line size : Nat) :
    ∀ base, 0 < size → base + size ≤ markers.size → Halved markers line base size (halve markers line base size) := by
  induction size using Nat.strongRecOn with
  | ind size ih =>
    intro base h0 hsize
    rw [halve]
    split
    · rename_i h1
      have hmid : base + size / 2 < markers.size := by omega
      simp only [Array.getElem?_eq_getElem hmid]
      split
      · rename_i hle
        have hat : AtOrBefore markers line (base + size / 2) := ⟨_, Array.getElem?_eq_getElem hmid, hle⟩
        have h := ih (size - size / 2) (by omega) (base + size / 2) (by omega) (by omega)
        refine ⟨by have := h.low; omega, by have := h.high; omega, .inr ?_, fun i hi hib => h.after i hi (by omega)⟩
        rcases h.here with heq | hor
        · rw [heq]
          exact hat
        · exact hor
      · rename_i hlt
        have h := ih (size - size / 2) (by omega) base (by omega) (by omega)
        refine ⟨h.low, by have := h.high; omega, h.here, fun i hi hib => ?_⟩
        by_cases hlast : i < base + (size - size / 2)
        · exact h.after i hi hlast
        · intro hat
          -- from the middle on, every marker stands after the line
          obtain ⟨m, hm, hle⟩ := hat.mono hs (show base + size / 2 ≤ i by omega)
          rw [Array.getElem?_eq_getElem hmid] at hm
          cases hm
          exact hlt hle
    · exact ⟨Nat.le_refl _, by omega, .inl rfl, fun i hi hib => by omega⟩

theorem countUpTo_le (markers : Array Marker) (line : Nat) : countUpTo markers line ≤ markers.size := by
  unfold countUpTo
  dsimp only
  split
  · rename_i m hm
    obtain ⟨hlt, -⟩ := Array.getElem?_eq_some_iff.1 hm
    split <;> omega
  · omega

/-- The markers at or before the line are those in front. -/
theorem lt_countUpTo_iff (hs : Ascending markers) {i : Nat} (hi : i < markers.size) :
    i < countUpTo markers line ↔ AtOrBefore markers line i := by
  obtain ⟨-, hhi, hor, hno⟩ := halve_spec hs line markers.size 0 (by omega) (by omega)
  rw [Nat.zero_add] at hhi hno
  unfold countUpTo
  dsimp only
  rw [Array.getElem?_eq_getElem hhi]
  dsimp only
  split
  · rename_i hle
    refine ⟨fun h => ?_, fun h => ?_⟩
    · exact AtOrBefore.mono hs (by omega) ⟨_, Array.getElem?_eq_getElem hhi, hle⟩
    · by_contra hlt
      exact hno i (by omega) hi h
  · -- halving can only stop after the line at the very first marker
    rename_i hnot
    have hnone : ¬ AtOrBefore markers line (halve markers line 0 markers.size) := by
      rintro ⟨m, hm, hle⟩
      rw [Array.getElem?_eq_getElem hhi] at hm
      cases hm
      exact hnot hle
    have hzero : halve markers line 0 markers.size = 0 := hor.resolve_right hnone
    rw [hzero] at hnone ⊢
    exact ⟨fun h => by omega, fun h => absurd (h.mono hs (Nat.zero_le i)) hnone⟩

/-- A line belongs to the last marker at or before it. -/
theorem locationOf?_eq (hs : Sorted markers) (hm : m ∈ markers) (hle : m.compiledLine ≤ line)
    (hlast : ∀ m' ∈ markers, m'.compiledLine ≤ line → m'.compiledLine ≤ m.compiledLine) :
    locationOf? markers line = some ⟨m.templateLine, m.templateRef⟩ := by
  obtain ⟨j, hj, rfl⟩ := Array.getElem_of_mem hm
  have hcount : countUpTo markers line = j + 1 := by
    have hge : j < countUpTo markers line := (lt_countUpTo_iff hs.ascending hj).2 ⟨_, Array.getElem?_eq_getElem hj, hle⟩
    have hbound := countUpTo_le markers line
    by_contra hne
    have hnext : j + 1 < markers.size := by omega
    have hat : AtOrBefore markers line (j + 1) := (lt_countUpTo_iff hs.ascending hnext).1 (by omega)
    obtain ⟨m', hm', hle'⟩ := hat
    obtain ⟨_, rfl⟩ := Array.getElem?_eq_some_iff.1 hm'
    have hlt := List.pairwise_iff_getElem.1 hs j (j + 1) (by simpa using hj) (by simpa using hnext) (by omega)
    simp only [Array.getElem_toList] at hlt
    exact absurd (hlast _ (Array.getElem_mem hnext) hle') (by omega)
  unfold locationOf?
  rw [hcount]
  simp [Array.getElem?_eq_getElem hj]

/-- What a line belongs to is one of the markers. -/
theorem mem_of_locationOf? {location : TemplateLocation}
    (h : locationOf? markers line = some location) :
    ∃ m ∈ markers, location = ⟨m.templateLine, m.templateRef⟩ := by
  unfold locationOf? at h
  split at h
  · cases h
  · obtain ⟨m, hm, rfl⟩ := Option.map_eq_some_iff.1 h
    exact ⟨m, Array.mem_of_getElem? hm, rfl⟩

/-- What a line of a source text belongs to is a line number. -/
theorem bounds_of_locationOf? {text : String} {templateLine : Nat} {ref : Option String}
    (h : locationOf? (parse text) line = some ⟨templateLine, ref⟩) : 0 < templateLine ∧ templateLine ≤ lastLine := by
  obtain ⟨m, hm, hplace⟩ := mem_of_locationOf? h
  rw [show templateLine = m.templateLine from congrArg TemplateLocation.line hplace]
  exact templateLine_of_mem_parse hm

/-! ## Choosing -/

/-- The marker may be chosen for the template line. -/
def Candidate (markers : Array Marker) (refs : List String) (line : Nat) (m : Marker) : Prop :=
  m ∈ markers ∧ m.templateLine ≤ line ∧ Template.anyMatches refs m.templateRef = true

theorem atMost_iff (a b : Marker) : atMost a b = true ↔
    a.templateLine < b.templateLine ∨ a.templateLine = b.templateLine ∧ a.compiledLine ≤ b.compiledLine := by
  simp [atMost]

theorem atMost_refl (a : Marker) : atMost a a = true := by
  simp [atMost_iff]

theorem atMost_trans {a b c : Marker} (h : atMost a b = true) (h' : atMost b c = true) : atMost a c = true := by
  rw [atMost_iff] at h h' ⊢
  omega

theorem atMost_later (a b : Marker) : atMost a (later a b) = true ∧ atMost b (later a b) = true := by
  unfold later
  split
  · rename_i h
    exact ⟨h, atMost_refl b⟩
  · rename_i h
    refine ⟨atMost_refl a, ?_⟩
    rw [atMost_iff] at h ⊢
    omega

theorem later_eq (a b : Marker) : later a b = a ∨ later a b = b := by
  unfold later
  split
  · exact .inr rfl
  · exact .inl rfl

/-- What is left of the markers, after the greatest so far, is the greatest of them all. -/
theorem foldl_later (l : List Marker) : ∀ {best : Option Marker} {m : Marker},
    l.foldl (fun best m => some (match best with | some b => later b m | none => m)) best = some m →
      (best = some m ∨ m ∈ l) ∧ (∀ b, best = some b → atMost b m = true) ∧ ∀ x ∈ l, atMost x m = true := by
  induction l with
  | nil =>
    intro best m h
    rw [List.foldl_nil] at h
    subst h
    exact ⟨.inl rfl, by rintro _ ⟨⟩; exact atMost_refl m, fun x hx => by cases hx⟩
  | cons a l ih =>
    intro best m h
    rw [List.foldl_cons] at h
    obtain ⟨hmem, hbest, hall⟩ := ih h
    have ha := hbest _ rfl
    cases best with
    | none =>
      refine ⟨.inr ?_, by simp, ?_⟩
      · rcases hmem with heq | hmem
        · cases heq
          exact List.mem_cons_self
        · exact List.mem_cons_of_mem _ hmem
      · rintro x (_ | ⟨_, hx⟩)
        · exact ha
        · exact hall x hx
    | some b =>
      obtain ⟨hb, ha'⟩ := atMost_later b a
      refine ⟨?_, ?_, ?_⟩
      · rcases hmem with heq | hmem
        · cases heq
          rcases later_eq b a with hl | hl
          · exact .inl (congrArg some hl.symm)
          · exact .inr (List.mem_cons.2 (.inl hl))
        · exact .inr (List.mem_cons_of_mem _ hmem)
      · rintro _ ⟨⟩
        exact atMost_trans hb ha
      · rintro x (_ | ⟨_, hx⟩)
        · exact atMost_trans ha' ha
        · exact hall x hx

/-- The marker chosen for a template line is the greatest candidate. -/
theorem chosen?_spec (h : chosen? markers refs line = some m) :
    Candidate markers refs line m ∧ ∀ m', Candidate markers refs line m' → atMost m' m = true := by
  obtain ⟨hmem, -, hall⟩ := foldl_later _ h
  have hcandidate : ∀ m, m ∈ markers.toList.filter (fun m => m.templateLine ≤ line &&
      Template.anyMatches refs m.templateRef) ↔ Candidate markers refs line m := by
    intro m
    simp [Candidate]
  exact ⟨(hcandidate m).1 (hmem.resolve_left (by simp)), fun m' hm' => hall m' ((hcandidate m').2 hm')⟩

/-- Where there is a candidate, one is chosen. -/
theorem exists_chosen? (h : Candidate markers refs line m) : ∃ m', chosen? markers refs line = some m' := by
  have hsome : ∀ (l : List Marker) (best : Option Marker), best.isSome ∨ l ≠ [] →
      (l.foldl (fun best m => some (match best with | some b => later b m | none => m)) best).isSome := by
    intro l
    induction l with
    | nil =>
      intro best h
      exact h.resolve_right (by simp)
    | cons a l ih => exact fun best _ => ih _ (.inl rfl)
  refine Option.isSome_iff_exists.1 (hsome _ none (.inr ?_))
  refine List.ne_nil_of_mem (a := m) ?_
  obtain ⟨hmem, hle, href⟩ := h
  simp [hmem, hle, href]

/-- Where none is chosen, the markers of the template stand for later lines. -/
theorem lt_of_chosen?_eq_none (h : chosen? markers refs line = none) (hm : m ∈ markers)
    (href : Template.anyMatches refs m.templateRef = true) : line < m.templateLine := by
  by_contra hle
  obtain ⟨m', hm'⟩ := exists_chosen? ⟨hm, Nat.not_lt.1 hle, href⟩
  cases h.symm.trans hm'

/-- The greatest of the candidates, by template line and then by compiled line. -/
structure Greatest (markers : Array Marker) (refs : List String) (line : Nat) (m : Marker) : Prop where
  candidate : Candidate markers refs line m
  greatest : ∀ m', Candidate markers refs line m' →
    m'.templateLine < m.templateLine ∨ m'.templateLine = m.templateLine ∧ m'.compiledLine ≤ m.compiledLine

/-- A breakpoint goes on the line after the greatest candidate, and nowhere without one. -/
theorem breakpointLine?_cases (hlast : ∀ m ∈ markers, m.compiledLine < lastLine) (refs : List String) (line : Nat) :
    (∃ m, Greatest markers refs line m ∧ breakpointLine? markers refs line = some (m.compiledLine + 1)) ∨
      (∀ m, ¬ Candidate markers refs line m) ∧ breakpointLine? markers refs line = none := by
  unfold breakpointLine?
  cases hc : chosen? markers refs line with
  | some m =>
    obtain ⟨hcandidate, hmax⟩ := chosen?_spec hc
    refine .inl ⟨m, ⟨hcandidate, fun m' hm' => (atMost_iff m' m).1 (hmax m' hm')⟩, ?_⟩
    simp [hlast m hcandidate.1]
  | none =>
    refine .inr ⟨fun m hm => ?_, rfl⟩
    obtain ⟨m', hm'⟩ := exists_chosen? hm
    cases hc.symm.trans hm'

/-- It has the template line asked for exactly when a candidate has. -/
theorem templateLine_chosen?_eq_iff (h : chosen? markers refs line = some m) :
    m.templateLine = line ↔
      ∃ m' ∈ markers, m'.templateLine = line ∧ Template.anyMatches refs m'.templateRef = true := by
  obtain ⟨⟨hmem, hle, href⟩, hmax⟩ := chosen?_spec h
  constructor
  · intro heq
    exact ⟨m, hmem, heq, href⟩
  · rintro ⟨m', hmem', heq, href'⟩
    have := (atMost_iff m' m).1 (hmax m' ⟨hmem', by omega, href'⟩)
    omega

theorem breakpointLine?_bounds {k : Nat} (h : breakpointLine? markers refs line = some k) : 0 < k ∧ k ≤ lastLine := by
  unfold breakpointLine? at h
  obtain ⟨m, -, hm⟩ := Option.bind_eq_some_iff.1 h
  split at hm
  · cases hm
    exact ⟨Nat.succ_pos _, by omega⟩
  · cases hm

/-! ## There and back -/

/-- The line after a marker belongs to this marker, unless another stands there. -/
theorem locationOf?_succ (hs : Sorted markers) (hm : m ∈ markers)
    (halone : ∀ m' ∈ markers, m'.compiledLine ≠ m.compiledLine + 1) :
    locationOf? markers (m.compiledLine + 1) = some ⟨m.templateLine, m.templateRef⟩ := by
  refine locationOf?_eq hs hm (by omega) fun m' hm' hle => ?_
  have := halone m' hm'
  omega

end TemplateDebug.Marker
