import Mathlib.Data.Finset.Card
import Mathlib.Data.List.Forall2
import TemplateDebug.Proofs.Compiled.MarkerCache
import TemplateDebug.Session.Breakpoints
import TemplateDebug.Session.StackTrace
/-!
# What the handlers make of the answers

A handler asks the caches of its session for markers, for the file behind a reference and for the compiled source of a
template, and what it returns is a function of the answers. A `View` says what is expected of the caches and of their
answers. There is one lemma for each handler, for any view; what caches know, and what they owe to the disk, is said by
views of its own.
-/

namespace TemplateDebug.Session

/-- What is expected of the caches of a session, and of what they answer. -/
structure View where
  caches : Caches → Prop
  /-- The markers of a compiled source that is checked. -/
  fresh : Path → Option (Array Marker) → Prop
  /-- The markers of a compiled source that may be trusted for a while. -/
  cached : Path → Option (Array Marker) → Prop
  finds : String → Option Path → Prop
  locates : Path → Option Path → Prop

/-- On the machine, caches that are as expected answer as expected what stack traces ask, and stay so. -/
structure View.Shows (v : View) (machine : Host (StateM Clock)) : Prop where
  fresh : ∀ {c : Caches}, v.caches c → ∀ p,
    Always (c.readFresh machine p) fun r => v.fresh p r.1 ∧ v.caches r.2
  resolve : ∀ {c : Caches}, v.caches c → ∀ ref,
    Always (c.resolve machine ref) fun r => v.finds ref r.1 ∧ v.caches r.2

/-- They so answer what breakpoints ask, too. -/
structure View.On (v : View) (machine : Host (StateM Clock)) : Prop extends v.Shows machine where
  cached : ∀ {c : Caches}, v.caches c → ∀ p,
    Always (c.readCached machine p) fun r => v.cached p r.1 ∧ v.caches r.2
  locate : ∀ {c : Caches}, v.caches c → ∀ template,
    Always (c.locate machine template (Template.plausibleRefs template c.resolver.webRoots)) fun r =>
      v.locates template r.1 ∧ v.caches r.2

variable {v : View} {machine : Host (StateM Clock)} {c : Caches}

/-! ## Requests -/

/-- The request on the compiled source that was found, with the markers that were read there. -/
def redirectWith (found : Option Path) (markers : Option (Array Marker)) (c : Caches) (requestSeq : Int)
    (arguments request : Json) : Option (Json × Pending) :=
  (templateOf? c arguments).bind fun template => found.bind fun compiled => markers.bind fun markers =>
    let refs := Template.plausibleRefs template c.resolver.webRoots
    let redirected := redirectArguments markers refs compiled arguments
    if redirected.2 = 0 then none
    else some (request.set "arguments" redirected.1, ⟨requestSeq, template, compiled, refs⟩)

theorem compiledSource_view (hv : v.On machine) (hc : v.caches c) (template : Path) :
    Always (compiledSource machine template (Template.plausibleRefs template c.resolver.webRoots) c) fun r =>
      (∃ found markers, v.locates template found ∧ (∀ compiled, found = some compiled → v.fresh compiled markers) ∧
        r.1 = found.bind fun compiled => markers.map (compiled, ·)) ∧ v.caches r.2 := by
  refine (hv.locate hc template).andThen ?_
  rintro ⟨found, c'⟩ ⟨hfound, hc'⟩
  cases found with
  | none => exact .any fun _ => .of_pure ⟨⟨none, none, hfound, by simp, rfl⟩, hc'⟩
  | some compiled =>
    refine (hv.fresh hc' compiled).andThen ?_
    rintro ⟨markers, c''⟩ ⟨hmarkers, hc''⟩
    refine .of_pure ⟨⟨some compiled, markers, hfound, ?_, rfl⟩, hc''⟩
    rintro _ ⟨⟩
    exact hmarkers

/-- A request that is redirected on answers that are as expected. -/
def View.Redirected (v : View) (c : Caches) (requestSeq : Int) (arguments request : Json)
    (redirected : Option (Json × Pending)) : Prop :=
  ∃ found markers, (∀ template, templateOf? c arguments = some template →
      v.locates template found ∧ ∀ compiled, found = some compiled → v.fresh compiled markers) ∧
    redirected = redirectWith found markers c requestSeq arguments request

theorem redirect_view (hv : v.On machine) (hc : v.caches c) (requestSeq : Int) (arguments request : Json) :
    Always (redirect machine requestSeq arguments request c) fun r =>
      v.Redirected c requestSeq arguments request r.1 ∧ v.caches r.2 := by
  unfold redirect
  cases ht : templateOf? c arguments with
  | none => exact .of_pure ⟨⟨none, none, by simp [ht], by simp [redirectWith, ht]⟩, hc⟩
  | some template =>
    refine (compiledSource_view hv hc template).andThen ?_
    rintro ⟨_, c'⟩ ⟨⟨found, markers, hfound, hmarkers, rfl⟩, hc'⟩
    have hwith : ∀ redirected, redirected = redirectWith found markers c requestSeq arguments request →
        v.Redirected c requestSeq arguments request redirected := by
      intro redirected hredirected
      refine ⟨found, markers, fun t ht' => ?_, hredirected⟩
      cases ht.symm.trans ht'
      exact ⟨hfound, hmarkers⟩
    cases found with
    | none => exact .of_pure ⟨hwith none (by simp [redirectWith]), hc'⟩
    | some compiled =>
      cases markers with
      | none => exact .of_pure ⟨hwith none (by simp [redirectWith]), hc'⟩
      | some markers =>
        simp only [redirectWith, ht, Option.bind_some] at hwith
        simp only [Option.bind_some, Option.map_some]
        split
        · rename_i hmoved
          exact .of_pure ⟨hwith _ (if_pos hmoved).symm, hc'⟩
        · rename_i hmoved
          split
          · exact .any fun _ => .of_pure ⟨hwith _ (if_neg hmoved).symm, hc'⟩
          · exact .of_pure ⟨hwith _ (if_neg hmoved).symm, hc'⟩

/-! ## Lines -/

/-- What was learnt to map a line of a compiled source: the markers there, and the file that a reference leads to. -/
structure Learnt where
  markers : Option (Array Marker)
  found : Option Path

namespace Learnt

/-- The template line, and the reference, of the line. -/
def place? (l : Learnt) (line : Nat) : Option (Nat × String) :=
  l.markers.bind fun markers =>
    (Marker.locationOf? markers line).bind fun place => place.templateRef.map fun ref => (place.line, ref)

/-- A breakpoint of a response, mapped by what was learnt. -/
def mapBack (l : Learnt) (pending : Pending) (breakpoint : Json) : Option Json :=
  (Dap.lineOf? breakpoint "line").bind fun line => (l.place? line).bind fun place =>
    (l.found.or (if Template.anyMatches pending.refs (some place.2) then some pending.template else none)).map
      fun template => Dap.setSource template (Dap.setLine place.1 breakpoint)

/-- A frame, shown by what was learnt. -/
def showFrame (l : Learnt) (frame : Json) : Option Json :=
  (compiledPlace? frame).bind fun compiled => (l.place? compiled.2).bind fun place =>
    l.found.map fun template => Dap.setLine place.1 (Dap.setSource template frame)

/-- The markers are as expected, and the file is as expected of the reference on the line. -/
structure Answers (gives : Option (Array Marker) → Prop) (finds : String → Option Path → Prop) (line : Nat)
    (l : Learnt) : Prop where
  markers : gives l.markers
  found : ∀ place, l.place? line = some place → finds place.2 l.found

variable {ms : Option (Array Marker)} {found : Option Path} {line templateLine : Nat} {ref : String}
  {gives : Option (Array Marker) → Prop} {finds : String → Option Path → Prop}

theorem place?_eq_some (h : ms.bind (Marker.locationOf? · line) = some ⟨templateLine, some ref⟩) :
    place? ⟨ms, found⟩ line = some (templateLine, ref) := by
  rw [place?, ← Option.bind_assoc, h]
  rfl

theorem place?_eq_none
    (h : ∀ templateLine ref, ms.bind (Marker.locationOf? · line) = some ⟨templateLine, some ref⟩ → False) :
    place? ⟨ms, found⟩ line = none := by
  rw [place?, ← Option.bind_assoc]
  cases hl : ms.bind (Marker.locationOf? · line) with
  | none => rfl
  | some location =>
    obtain ⟨templateLine, ref⟩ := location
    cases ref with
    | none => rfl
    | some ref => exact (h templateLine ref hl).elim

/-- Without a place there is nothing to find. -/
theorem Answers.of_none (hms : gives ms) (hplace : place? ⟨ms, found⟩ line = none) :
    Answers gives finds line ⟨ms, found⟩ where
  markers := hms
  found place hp := by cases hplace.symm.trans hp

theorem Answers.of_some (hms : gives ms) (hplace : place? ⟨ms, found⟩ line = some (templateLine, ref))
    (hfound : finds ref found) : Answers gives finds line ⟨ms, found⟩ where
  markers := hms
  found place hp := by
    cases hplace.symm.trans hp
    exact hfound

end Learnt

/-- A response, and it with the items of a list of its body changed one by one; without such a list it stays. -/
def ChangedItems (key : String) (R : Json → Json → Prop) (response changed : Json) : Prop :=
  match bodyItems key response with
  | .error _ => changed = response
  | .ok items => ∃ items', List.Forall₂ R items items' ∧ changed = setBodyItems key items' response

theorem ChangedItems.mono {key : String} {R R' : Json → Json → Prop} {response changed : Json}
    (h : ChangedItems key R response changed) (hR : ∀ i i', R i i' → R' i i') :
    ChangedItems key R' response changed := by
  unfold ChangedItems at h ⊢
  split at h
  · exact h
  · obtain ⟨items', hitems, hchanged⟩ := h
    exact ⟨items', hitems.imp hR, hchanged⟩

/-! ## Responses -/

/-- A breakpoint of a response and what becomes of it, on answers that are as expected. -/
def View.MappedBack (v : View) (pending : Pending) (breakpoint mapped : Json) : Prop :=
  ∃ l : Learnt, (∀ line, Dap.lineOf? breakpoint "line" = some line →
      l.Answers (v.cached (reportedSource pending breakpoint)) v.finds line) ∧
    mapped = (l.mapBack pending breakpoint).getD breakpoint

theorem templateFor_view (hv : v.On machine) (hc : v.caches c) (pending : Pending) (ref : String) :
    Always (templateFor machine pending ref c) fun r =>
      (∃ found, v.finds ref found ∧
        r.1 = found.or (if Template.anyMatches pending.refs (some ref) then some pending.template else none)) ∧
        v.caches r.2 := by
  refine (hv.resolve hc ref).andThen ?_
  rintro ⟨found, c'⟩ ⟨hfound, hc'⟩
  cases found with
  | none => exact .of_pure ⟨⟨none, hfound, rfl⟩, hc'⟩
  | some p => exact .of_pure ⟨⟨some p, hfound, rfl⟩, hc'⟩

theorem mapBack_view (hv : v.On machine) (hc : v.caches c) (pending : Pending) (breakpoint : Json) :
    Always (mapBack machine pending breakpoint c) fun r =>
      v.MappedBack pending breakpoint (r.1.getD breakpoint) ∧ v.caches r.2 := by
  unfold mapBack View.MappedBack
  cases hl : Dap.lineOf? breakpoint "line" with
  | none => exact .of_pure ⟨⟨⟨none, none⟩, by simp, by simp [Learnt.mapBack, hl]⟩, hc⟩
  | some line =>
    refine (hv.cached hc (reportedSource pending breakpoint)).andThen ?_
    rintro ⟨ms, c'⟩ ⟨hms, hc'⟩
    dsimp only
    split
    · rename_i templateLine ref hlocation
      refine (templateFor_view hv hc' pending ref).andThen ?_
      rintro ⟨_, c''⟩ ⟨⟨found, hfound, rfl⟩, hc''⟩
      have hplace : Learnt.place? ⟨ms, found⟩ line = some (templateLine, ref) := Learnt.place?_eq_some hlocation
      refine .of_pure ⟨⟨⟨ms, found⟩, ?_, by simp [Learnt.mapBack, hl, hplace]⟩, hc''⟩
      rintro _ ⟨⟩
      exact .of_some hms hplace hfound
    · rename_i hlocation
      have hplace : Learnt.place? ⟨ms, none⟩ line = none := Learnt.place?_eq_none hlocation
      refine .of_pure ⟨⟨⟨ms, none⟩, ?_, by simp [Learnt.mapBack, hl, hplace]⟩, hc'⟩
      rintro _ ⟨⟩
      exact .of_none hms hplace

theorem mapAllBack_view (hv : v.On machine) (pending : Pending) (breakpoints : List Json) :
    ∀ c : Caches, v.caches c → Always (mapAllBack machine pending breakpoints c) fun r =>
      List.Forall₂ (v.MappedBack pending) breakpoints r.1 ∧ v.caches r.2.2 := by
  induction breakpoints with
  | nil => exact fun c hc => .of_pure ⟨.nil, hc⟩
  | cons b bs ih =>
    intro c hc
    refine (mapBack_view hv hc pending b).andThen ?_
    rintro ⟨mapped, c'⟩ ⟨hb, hc'⟩
    refine (ih c' hc').andThen ?_
    rintro ⟨rest, count, c''⟩ ⟨hbs, hc''⟩
    exact .of_pure ⟨.cons hb hbs, hc''⟩

theorem answer_view (hv : v.On machine) (hc : v.caches c) (pending : Pending) (response : Json) :
    Always (answer machine pending response c) fun r =>
      ChangedItems "breakpoints" (v.MappedBack pending) response (r.1.toOption.getD response) ∧ v.caches r.2 := by
  unfold answer ChangedItems
  cases bodyItems "breakpoints" response with
  | error e => exact .of_pure ⟨rfl, hc⟩
  | ok breakpoints =>
    refine (mapAllBack_view hv pending breakpoints c hc).andThen ?_
    rintro ⟨items, count, c'⟩ ⟨hitems, hc'⟩
    dsimp only
    split
    · exact .any fun _ => .of_pure ⟨⟨items, hitems, rfl⟩, hc'⟩
    · exact .of_pure ⟨⟨items, hitems, rfl⟩, hc'⟩

/-! ## Stack traces

The sources that a response has looked at are kept apart from the cache for as long as the response lasts: each is
checked once, and all its frames are shown with the markers found then.
-/

/-- The sources of the frames that lie in compiled sources. -/
def sourcesOf (frames : List Json) : List String := frames.filterMap fun f => (compiledPlace? f).map (·.1)

theorem sourcesOf_cons (f : Json) (fs : List Json) : sourcesOf (f :: fs) = sourcesOf [f] ++ sourcesOf fs := by
  rw [← List.singleton_append]
  exact List.filterMap_append

theorem mem_sourcesOf {f : Json} {frames : List Json} {source : String} {line : Nat} (hf : f ∈ frames)
    (hp : compiledPlace? f = some (source, line)) : source ∈ sourcesOf frames :=
  List.mem_filterMap.2 ⟨f, hf, by rw [hp]; rfl⟩

/-- A frame, shown with the markers of its source and in a file to which its reference led. -/
def ShownWith (finds : String → Option Path → Prop) (markersOf : String → Option (Array Marker))
    (frame shown : Json) : Prop :=
  ∃ found, shown = (Learnt.showFrame ⟨(compiledPlace? frame).bind (markersOf ·.1), found⟩ frame).getD frame ∧
    ∀ source line place, compiledPlace? frame = some (source, line) →
      Learnt.place? ⟨markersOf source, found⟩ line = some place → finds place.2 found

namespace Checked

/-- The sources that a response has looked at so far. -/
def sources (checked : Checked) : Finset String := (checked.map Prod.fst).toFinset

/-- The markers with which the frames of a source are shown. -/
def markersOf (checked : Checked) (source : String) : Option (Array Marker) := (checked.lookup source).join

variable {checked : Checked} {source : String} {ms : Option (Array Marker)}

theorem mem_sources_of_lookup (h : checked.lookup source = some ms) : source ∈ checked.sources :=
  List.mem_toFinset.2 (List.mem_map_of_mem (mem_of_lookup h))

theorem not_mem_sources_of_lookup (h : checked.lookup source = none) : source ∉ checked.sources := by
  intro hmem
  obtain ⟨x, hx, rfl⟩ := List.mem_map.1 (List.mem_toFinset.1 hmem)
  simpa using List.lookup_eq_none_iff.1 h x hx

theorem lookup_of_mem_sources (h : source ∈ checked.sources) :
    checked.lookup source = some (checked.markersOf source) := by
  unfold markersOf
  cases hl : checked.lookup source with
  | none => exact absurd h (not_mem_sources_of_lookup hl)
  | some ms => rfl

end Checked

/-- What looking at the sources `new` does to the table of a response and to the caches. What the table has stays, and
each source that joins it has been read once. -/
structure Looked (v : View) (new : Finset String) (checked : Checked) (c : Caches) (checked' : Checked) (c' : Caches) :
    Prop where
  caches : v.caches c'
  gives : ∀ x ∈ checked', v.fresh ⟨x.1⟩ x.2
  kept : ∀ source ms, checked.lookup source = some ms → checked'.lookup source = some ms
  sources : checked'.sources = checked.sources ∪ new
  counted : c'.markers.metadataReads + checked.sources.card = c.markers.metadataReads + checked'.sources.card

variable {checked : Checked} {finds : String → Option Path → Prop}
  {markersOf : String → Option (Array Marker)}

namespace Looked

variable {new new' : Finset String} {checked' checked'' : Checked} {c' c'' : Caches}

theorem refl (hc : v.caches c) (hg : ∀ x ∈ checked, v.fresh ⟨x.1⟩ x.2) : Looked v ∅ checked c checked c :=
  ⟨hc, hg, fun _ _ => id, (Finset.union_empty _).symm, rfl⟩

theorem trans (h : Looked v new checked c checked' c') (h' : Looked v new' checked' c' checked'' c'') :
    Looked v (new ∪ new') checked c checked'' c'' where
  caches := h'.caches
  gives := h'.gives
  kept source ms hl := h'.kept source ms (h.kept source ms hl)
  sources := by rw [h'.sources, h.sources, Finset.union_assoc]
  counted := by
    have := h.counted
    have := h'.counted
    omega

/-- What has been looked at keeps its markers. -/
theorem markersOf_eq (h : Looked v new checked c checked' c') {source : String} (hs : source ∈ checked.sources) :
    checked'.markersOf source = checked.markersOf source := by
  rw [Checked.markersOf, h.kept source _ (Checked.lookup_of_mem_sources hs)]
  rfl

theorem gives_markersOf (h : Looked v new checked c checked' c') {source : String} (hs : source ∈ new) :
    v.fresh ⟨source⟩ (checked'.markersOf source) := by
  have hmem : source ∈ checked'.sources := by
    rw [h.sources]
    exact Finset.mem_union_right _ hs
  exact h.gives _ (mem_of_lookup (Checked.lookup_of_mem_sources hmem))

/-- Looking up a reference reads no markers. -/
theorem resolved (h : Looked v new checked c checked' c') (hc : v.caches c'') (hm : c''.markers = c'.markers) :
    Looked v new checked c checked' c'' :=
  ⟨hc, h.gives, h.kept, h.sources, hm ▸ h.counted⟩

end Looked

/-! ### One source -/

theorem Caches.readFresh_counted (machine : Host (StateM Clock)) (p : Path) (c : Caches) :
    Always (c.readFresh machine p) fun r => r.2.markers.metadataReads = c.markers.metadataReads + 1 :=
  (MarkerCache.readFresh_metadataReads machine p c.markers).andThen fun _ h => .of_pure h

theorem Caches.resolve_markers (machine : Host (StateM Clock)) (ref : String) (c : Caches) :
    Always (c.resolve machine ref) fun r => r.2.markers = c.markers :=
  .any fun _ => .of_pure rfl

theorem checkOnce_looked (hv : v.Shows machine) (hc : v.caches c) (hg : ∀ x ∈ checked, v.fresh ⟨x.1⟩ x.2)
    (source : String) :
    Always (checkOnce machine source checked c) fun r =>
      Looked v {source} checked c r.2.1 r.2.2 ∧ r.2.1.lookup source = some r.1 := by
  unfold checkOnce
  cases hl : checked.lookup source with
  | some ms =>
    have hsources : checked.sources = checked.sources ∪ {source} := by
      rw [Finset.union_comm, ← Finset.insert_eq, Finset.insert_eq_of_mem (Checked.mem_sources_of_lookup hl)]
    exact .of_pure ⟨⟨hc, hg, fun _ _ => id, hsources, rfl⟩, hl⟩
  | none =>
    refine ((hv.fresh hc ⟨source⟩).and (Caches.readFresh_counted machine _ c)).andThen ?_
    rintro ⟨ms, c'⟩ ⟨⟨hgives, hc'⟩, hreads⟩
    have hsources : Checked.sources ((source, ms) :: checked) = insert source checked.sources := List.toFinset_cons
    refine .of_pure ⟨⟨hc', ?_, ?_, ?_, ?_⟩, List.lookup_cons_self⟩
    · rintro x (_ | ⟨_, hx⟩)
      · exact hgives
      · exact hg x hx
    · -- the source is new, so what the table has is found as before
      intro other ms' hother
      have hne : other ≠ source := by
        rintro rfl
        cases hl.symm.trans hother
      rw [List.lookup_cons, beq_false_of_ne hne]
      exact hother
    · rw [hsources, Finset.insert_eq, Finset.union_comm]
    · rw [hsources, Finset.card_insert_of_notMem (Checked.not_mem_sources_of_lookup hl), hreads]
      omega

/-! ### One frame -/

/-- The frame is shown alike with any markers that are the same for its source. -/
theorem ShownWith.congr {frame shown : Json} {markersOf' : String → Option (Array Marker)}
    (h : ShownWith finds markersOf frame shown)
    (heq : ∀ source line, compiledPlace? frame = some (source, line) → markersOf' source = markersOf source) :
    ShownWith finds markersOf' frame shown := by
  obtain ⟨found, hshown, hfound⟩ := h
  refine ⟨found, ?_, fun source line place hp hplace => ?_⟩
  · rw [hshown]
    cases hp : compiledPlace? frame with
    | none => rfl
    | some compiled => simp only [Option.bind_some, heq compiled.1 compiled.2 hp]
  · rw [heq source line hp] at hplace
    exact hfound source line place hp hplace

theorem showFrame_looked (hv : v.Shows machine) (hc : v.caches c) (hg : ∀ x ∈ checked, v.fresh ⟨x.1⟩ x.2)
    (frame : Json) :
    Always (showFrame machine frame checked c) fun r =>
      Looked v (sourcesOf [frame]).toFinset checked c r.2.1 r.2.2 ∧
        ShownWith v.finds r.2.1.markersOf frame (r.1.getD frame) := by
  unfold showFrame
  cases hp : compiledPlace? frame with
  | none =>
    have hnone : sourcesOf [frame] = [] := by simp [sourcesOf, hp]
    rw [hnone]
    exact .of_pure ⟨.refl hc hg, ⟨none, by simp [Learnt.showFrame, hp], by simp [hp]⟩⟩
  | some compiled =>
    obtain ⟨source, line⟩ := compiled
    have hone : sourcesOf [frame] = [source] := by simp [sourcesOf, hp]
    rw [hone]
    refine (checkOnce_looked hv hc hg source).andThen ?_
    rintro ⟨ms, checked', c'⟩ ⟨hlooked, hl⟩
    have hmarkers : checked'.markersOf source = ms := by simp [Checked.markersOf, hl]
    dsimp only
    split
    · rename_i templateLine ref hlocation
      refine ((hv.resolve hlooked.caches ref).and (Caches.resolve_markers machine ref c')).andThen ?_
      rintro ⟨found, c''⟩ ⟨⟨hfound, hc''⟩, hsame⟩
      have hplace : Learnt.place? ⟨ms, found⟩ line = some (templateLine, ref) := Learnt.place?_eq_some hlocation
      have hlooked' : Looked v [source].toFinset checked c checked' c'' := hlooked.resolved hc'' hsame
      have hfinds : ∀ source' line' place, some (source, line) = some (source', line') →
          Learnt.place? ⟨checked'.markersOf source', found⟩ line' = some place → v.finds place.2 found := by
        rintro _ _ place ⟨⟩ hplace'
        rw [hmarkers] at hplace'
        cases hplace.symm.trans hplace'
        exact hfound
      have hshown : Learnt.showFrame ⟨(compiledPlace? frame).bind (checked'.markersOf ·.1), found⟩ frame =
          found.map fun template => Dap.setLine templateLine (Dap.setSource template frame) := by
        simp [Learnt.showFrame, hp, hmarkers, hplace]
      cases found with
      | none => exact .of_pure ⟨hlooked', ⟨none, by rw [hshown]; rfl, hp ▸ hfinds⟩⟩
      | some template =>
        dsimp only
        split
        · exact .any fun _ => .of_pure ⟨hlooked', ⟨some template, by rw [hshown]; rfl, hp ▸ hfinds⟩⟩
        · exact .of_pure ⟨hlooked', ⟨some template, by rw [hshown]; rfl, hp ▸ hfinds⟩⟩
    · rename_i hlocation
      have hplace : Learnt.place? ⟨ms, none⟩ line = none := Learnt.place?_eq_none hlocation
      refine .of_pure ⟨hlooked, ⟨none, by simp [Learnt.showFrame, hp], ?_⟩⟩
      rw [hp]
      rintro _ _ place ⟨⟩ hplace'
      rw [hmarkers] at hplace'
      cases hplace.symm.trans hplace'

/-! ### All frames -/

/-- Every frame is shown with the markers that the table has for its source in the end. -/
theorem showFrames_looked (hv : v.Shows machine) (frames : List Json) :
    ∀ (checked : Checked) (c : Caches), v.caches c → (∀ x ∈ checked, v.fresh ⟨x.1⟩ x.2) →
      Always (showFrames machine frames checked c) fun r =>
        ∃ checked', Looked v (sourcesOf frames).toFinset checked c checked' r.2 ∧
          List.Forall₂ (ShownWith v.finds checked'.markersOf) frames r.1 := by
  induction frames with
  | nil => exact fun checked c hc hg => .of_pure ⟨checked, .refl hc hg, .nil⟩
  | cons f fs ih =>
    intro checked c hc hg
    refine (showFrame_looked hv hc hg f).andThen ?_
    rintro ⟨shown, checked₁, c₁⟩ ⟨hlooked, hshown⟩
    refine (ih checked₁ c₁ hlooked.caches hlooked.gives).andThen ?_
    rintro ⟨rest, c₂⟩ ⟨checked₂, hlooked₂, hrest⟩
    refine .of_pure ⟨checked₂, ?_, .cons (hshown.congr fun source line hp => hlooked₂.markersOf_eq ?_) hrest⟩
    · rw [sourcesOf_cons, List.toFinset_append]
      exact hlooked.trans hlooked₂
    · rw [hlooked.sources]
      exact Finset.mem_union_right _ (List.mem_toFinset.2 (mem_sourcesOf List.mem_cons_self hp))

/-- The frames of a response that are shown. -/
theorem showTrace_looked (hv : v.Shows machine) (hc : v.caches c) {response : Json} {frames : List Json}
    (hframes : bodyItems "stackFrames" response = .ok frames) :
    Always (showTrace machine response c) fun r =>
      ∃ shown checked, r.1 = .ok (setBodyItems "stackFrames" shown response) ∧
        Looked v (sourcesOf frames).toFinset [] c checked r.2 ∧
        List.Forall₂ (ShownWith v.finds checked.markersOf) frames shown := by
  unfold showTrace
  rw [hframes]
  refine (showFrames_looked hv frames [] c hc (by simp)).andThen ?_
  rintro ⟨shown, c'⟩ ⟨checked, hlooked, hshown⟩
  exact .of_pure ⟨shown, checked, rfl, hlooked, hshown⟩

/-- A frame and what becomes of it, on answers that are as expected. -/
def View.Shown (v : View) (frame shown : Json) : Prop :=
  ∃ l : Learnt, (∀ source line, compiledPlace? frame = some (source, line) →
      l.Answers (v.fresh ⟨source⟩) v.finds line) ∧
    shown = (l.showFrame frame).getD frame

/-- Frames shown with markers that are as expected of each source are shown on answers that are as expected. -/
theorem ShownWith.forall_shown {frames shown : List Json} (h : List.Forall₂ (ShownWith v.finds markersOf) frames shown)
    (hgives : ∀ source ∈ sourcesOf frames, v.fresh ⟨source⟩ (markersOf source)) :
    List.Forall₂ v.Shown frames shown := by
  induction h with
  | nil => exact .nil
  | @cons f _ fs _ hf _ ih =>
    obtain ⟨found, hshown, hfound⟩ := hf
    refine .cons ⟨_, fun source line hp => ?_, hshown⟩ (ih fun source hs => hgives source ?_)
    · rw [hp]
      exact ⟨hgives source (mem_sourcesOf List.mem_cons_self hp), fun place => hfound source line place hp⟩
    · rw [sourcesOf_cons]
      exact List.mem_append_right _ hs

theorem showTrace_view (hv : v.Shows machine) (hc : v.caches c) (response : Json) :
    Always (showTrace machine response c) fun r =>
      ChangedItems "stackFrames" v.Shown response (r.1.toOption.getD response) ∧ v.caches r.2 := by
  unfold ChangedItems
  cases hframes : bodyItems "stackFrames" response with
  | error e =>
    unfold showTrace
    rw [hframes]
    exact .of_pure ⟨rfl, hc⟩
  | ok frames =>
    refine (showTrace_looked hv hc hframes).mono ?_
    rintro ⟨_, c'⟩ ⟨shown, checked, rfl, hlooked, hshown⟩
    have hall : List.Forall₂ v.Shown frames shown :=
      ShownWith.forall_shown hshown fun source hs => hlooked.gives_markersOf (List.mem_toFinset.2 hs)
    exact ⟨⟨shown, hall, rfl⟩, hlooked.caches⟩

end TemplateDebug.Session
