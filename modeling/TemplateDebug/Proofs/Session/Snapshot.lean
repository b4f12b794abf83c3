import TemplateDebug.Disk.Edit
import TemplateDebug.Proofs.Disk.Versions
import TemplateDebug.Proofs.Session.History
import TemplateDebug.Proofs.Session.RoundTrip
/-!
# One look at each compiled source

A stack trace is shown frame by frame, and the frames of several sources may alternate while the cache holds no more
than one of them. The sources of a response are kept apart from the cache for as long as the response lasts, so each is
checked once, and all its frames are shown with the markers found then.
-/

namespace TemplateDebug.Session

variable {v : View} {machine : Host (StateM Clock)} {frame shown : Json} {markersOf : String → Option (Array Marker)}
  {finds finds' : String → Option Path → Prop}

theorem ShownWith.mono (h : ShownWith finds markersOf frame shown)
    (hfinds : ∀ ref found, finds ref found → finds' ref found) : ShownWith finds' markersOf frame shown := by
  obtain ⟨found, hshown, hfound⟩ := h
  exact ⟨found, hshown, fun source line place hp hplace => hfinds _ _ (hfound source line place hp hplace)⟩

theorem mapTrace_looked (hv : v.Shows machine) {s : Session} (hc : v.caches s.caches) {message : Json}
    {frames : List Json} (hframes : bodyItems "stackFrames" message = .ok frames) :
    Always (s.mapTrace machine message) fun r =>
      ∃ shown checked, r.1 = setBodyItems "stackFrames" shown message ∧
        Looked v (sourcesOf frames).toFinset [] s.caches checked r.2.caches ∧
        List.Forall₂ (ShownWith v.finds checked.markersOf) frames shown := by
  refine (showTrace_looked hv hc hframes).andThen ?_
  rintro ⟨_, c'⟩ ⟨shown, checked, rfl, hlooked, hshown⟩
  refine (settle_eq s _ _ _).andThen ?_
  rintro _ rfl
  exact .of_pure ⟨shown, checked, rfl, hlooked, hshown⟩

/-! ## On disks -/

section
variable {past : Set Disk} {disk : Disk} {r : Template.Resolver} {s : Session} {history : List Passage} {message : Json}
  {frames : List Json}

/-- The disk is one of those that have been met. Markers are those of the disk as far as its fingerprints tell, and what
references lead to is what the disk answers if what is remembered at first is. -/
def View.ofDisk (past : Set Disk) (disk : Disk) (r : Template.Resolver) : View where
  caches c := c.markers.Known past ∧ (r.Current disk → c.resolver.Current disk) ∧
    c.resolver.SearchedBy (Disk.tickingHost '' past) ∧ c.resolver.webRoots = r.webRoots
  fresh p given := MarkerCache.ReadAs past disk p given
  cached _ _ := True
  finds ref found :=
    (r.Current disk → found = disk.search r.webRoots ref) ∧ ∃ old ∈ past, old.search r.webRoots ref = found
  locates _ _ := True

theorem View.ofDisk_shows (hd : disk ∈ past) : (View.ofDisk past disk r).Shows disk.tickingHost where
  fresh := by
    rintro c ⟨hknown, hresolver⟩ p clock
    exact ⟨MarkerCache.readFresh_readAs hknown hd p clock, (MarkerCache.readFresh_kept hknown hd p clock).known,
      hresolver⟩
  resolve := by
    rintro c ⟨hknown, hcurrent, hsearched, hroots⟩ ref clock
    obtain ⟨hanswer, hsearched', hroots'⟩ :=
      Template.Resolver.resolve_searched hsearched (Set.mem_image_of_mem _ hd) ref clock
    rw [Template.Resolver.searched_disks_iff, hroots] at hanswer
    refine ⟨⟨fun h => ?_, hanswer⟩, hknown, fun h => ?_, hsearched', hroots'.trans hroots⟩
    · rw [← hroots]
      exact (Template.Resolver.resolve_current (hcurrent h) clock).1
    · exact (Template.Resolver.resolve_current (hcurrent h) clock).2.current

/-- The caches of a session are as is expected of the disk that it meets. -/
theorem Met.view (h : Met (Disk.tickingHost '' past) history s) :
    (View.ofDisk past disk s.caches.resolver).caches s.caches :=
  ⟨h.versions.markers, id, h.answers.resolver.1, rfl⟩

/-- When versions are told apart and what is remembered is what the disk answers, each frame is shown by itself. -/
theorem mapTrace_eq_map (h : Met (Disk.tickingHost '' past) history s) (hd : disk ∈ past) (ht : Disk.TellsVersions past)
    (hcurrent : s.caches.resolver.Current disk) (hframes : bodyItems "stackFrames" message = .ok frames) :
    Always (s.mapTrace disk.tickingHost message) fun r =>
      r.1 = setBodyItems "stackFrames" (frames.map fun f => (s.caches.site.showFrame disk f).getD f) message := by
  refine (mapTrace_looked (View.ofDisk_shows hd) h.view hframes).mono ?_
  rintro r ⟨shown, checked, hout, hlooked, hshown⟩
  have hviewed : List.Forall₂ (View.ofDisk past disk s.caches.resolver).Shown frames shown :=
    ShownWith.forall_shown hshown fun source hs => hlooked.gives_markersOf (List.mem_toFinset.2 hs)
  have hall : shown = frames.map fun f => (s.caches.site.showFrame disk f).getD f :=
    eq_map_of_forall₂ hviewed fun f _ _ hf =>
      hf.eq_showFrame (fun _ _ hread => hread.eq_markers ht) fun _ _ hfound => hfound.1 hcurrent
  rw [hout, hall]

/-- A stack trace on a disk that a session meets. Each source of its frames is checked once, and its frames are shown
with one list of markers: those in the bytes of the source, when different bytes are told apart. When fingerprints tell
what reading gives, too, and what is remembered of references is what the disk answers, each frame is shown by itself,
so the frames of two lists in a row are shown as those of each. -/
theorem trace_from_snapshot (h : Met (Disk.tickingHost '' past) history s) (hd : disk ∈ past)
    (hframes : bodyItems "stackFrames" message = .ok frames) (clock : Clock) :
    let mapped := (s.mapTrace disk.tickingHost message clock).1
    (s.settings.enabled = true → adapterRoute message = .showTrace →
      (Relay.pass disk.tickingHost .adapter message s clock).1 = mapped) ∧
    mapped.2.caches.markers.metadataReads = s.caches.markers.metadataReads + (sourcesOf frames).toFinset.card ∧
    (∃ (shown : List Json) (markersOf : String → Option (Array Marker)),
      mapped.1 = setBodyItems "stackFrames" shown message ∧
      List.Forall₂ (ShownWith (fun ref found => ∃ old ∈ past, old.search s.caches.resolver.webRoots ref = found)
        markersOf) frames shown ∧
      ∀ source ∈ sourcesOf frames, MarkerCache.ReadAs past disk ⟨source⟩ (markersOf source)) ∧
    (Disk.TellsVersions past → s.caches.resolver.Current disk →
      mapped.1 = setBodyItems "stackFrames" (frames.map fun f => (s.caches.site.showFrame disk f).getD f) message ∧
      ∀ front back fs gs clock₁ clock₂, bodyItems "stackFrames" front = .ok fs → bodyItems "stackFrames" back = .ok gs →
        frames = fs ++ gs → ∃ shownFront shownBack,
          bodyItems "stackFrames" (s.mapTrace disk.tickingHost front clock₁).1.1 = .ok shownFront ∧
          bodyItems "stackFrames" (s.mapTrace disk.tickingHost back clock₂).1.1 = .ok shownBack ∧
          bodyItems "stackFrames" mapped.1 = .ok (shownFront ++ shownBack)) := by
  intro mapped
  obtain ⟨shown, checked, hout, hlooked, hshown⟩ :=
    mapTrace_looked (View.ofDisk_shows hd) h.view hframes clock
  refine ⟨fun hon hroute => ?_, ?_, ⟨shown, checked.markersOf, hout, ?_, ?_⟩, fun ht hcurrent => ⟨?_, ?_⟩⟩
  · rw [pass_eq, if_pos hon, Direct.route, hroute]
    rfl
  · have hcounted := hlooked.counted
    rw [hlooked.sources] at hcounted
    simpa [Checked.sources] using hcounted
  · exact hshown.imp fun f g hfg => hfg.mono fun ref found hfound => hfound.2
  · exact fun source hs => hlooked.gives_markersOf (List.mem_toFinset.2 hs)
  · exact mapTrace_eq_map h hd ht hcurrent hframes clock
  · rintro front back fs gs clock₁ clock₂ hfront hback rfl
    have hboth := mapTrace_eq_map h hd ht hcurrent hframes clock
    have hone := mapTrace_eq_map h hd ht hcurrent hfront clock₁
    have hother := mapTrace_eq_map h hd ht hcurrent hback clock₂
    refine ⟨fs.map fun f => (s.caches.site.showFrame disk f).getD f,
      gs.map fun f => (s.caches.site.showFrame disk f).getD f, ?_, ?_, ?_⟩
    · rw [hone, bodyItems_setBodyItems hfront]
    · rw [hother, bodyItems_setBodyItems hback]
    · rw [← List.map_append, ← bodyItems_setBodyItems hframes, ← hboth]

end

namespace Sample

/-- Two compiled sources and their templates. -/
def twoServlets : Disk :=
  ⟨.dir [
    ("work", .dir [("a_jsp.java", source 1 "// line 3 \"/a.jsp\"\n"),
      ("b_jsp.java", source 2 "// line 5 \"/b.jsp\"\n")]),
    ("ws", .dir [("a.jsp", source 3 ""), ("b.jsp", source 4 "")])], [], ⟨1, 0⟩⟩

/-- A session that keeps the markers of one compiled source. -/
def forgetful : Session := new { settings 0 with compiledCacheMaxEntries := 1 } ⟨[]⟩ [⟨"/ws"⟩]

/-- Frames that alternate between the two compiled sources, and what is no frame. -/
def alternating : List Json :=
  [reported 1 "/work/a_jsp.java", reported 1 "/work/b_jsp.java", .null, reported 2 "/work/a_jsp.java"]

def traceOf (frames : List Json) : Json :=
  .obj [("body", .obj [("stackFrames", .arr frames)]), ("command", .str "stackTrace"), ("request_seq", .int 9),
    ("success", .bool true), ("type", .str "response")]

end Sample

/-- The two sources are read once each, and each frame is shown in its template. -/
theorem trace_from_snapshot_alternating :
    let mapped := (Sample.forgetful.mapTrace Sample.twoServlets.tickingHost (Sample.traceOf Sample.alternating)
      (Stream'.const 0)).1
    mapped.2.caches.markers.metadataReads = 2 ∧
      (bodyItems "stackFrames" mapped.1).toOption.map (·.map fun f => (Dap.sourcePath? f, Dap.lineOf? f "line")) =
        some [(some "/ws/a.jsp", some 3), (some "/ws/b.jsp", some 5), (none, none), (some "/ws/a.jsp", some 3)] := by
  have hmet : Met (Disk.tickingHost '' {Sample.twoServlets}) [] Sample.forgetful := .fresh _ _ _
  have hframes : bodyItems "stackFrames" (Sample.traceOf Sample.alternating) = .ok Sample.alternating := rfl
  obtain ⟨-, hreads, -, hshown⟩ := trace_from_snapshot hmet (Set.mem_singleton _) hframes (Stream'.const 0)
  obtain ⟨hmapped, -⟩ := hshown (Disk.tellsVersions_singleton _) (Template.Resolver.current_new _ _ _)
  refine ⟨hreads.trans (by decide +kernel), ?_⟩
  rw [hmapped]
  decide +kernel

namespace Sample

/-- The first of the two compiled sources may no longer be read. -/
def firstRefused : Disk := twoServlets.permit ⟨"/work/a_jsp.java"⟩ false

/-- A stack trace with one frame for each of these compiled sources. -/
def traceThrough (sources : List String) : Json := traceOf (sources.map (reported 1))

/-- The session that has shown a frame of the first source before. -/
def shownFirst : Session :=
  (Relay.pass twoServlets.tickingHost .adapter (traceThrough ["/work/a_jsp.java"]) forgetful (Stream'.const 0)).1.2

/-- The lines on which the frames of a stack trace are shown. -/
def linesShown (trace : Json) : Option (List (Option Nat)) :=
  (bodyItems "stackFrames" (shownFirst.mapTrace firstRefused.tickingHost trace (Stream'.const 0)).1.1).toOption.map
    (·.map (Dap.lineOf? · "line"))

end Sample

/-- Where only different bytes come with different fingerprints, a frame may be shown by itself and not behind a frame
of another source, which takes the only place in the cache from a source that can no longer be read. -/
theorem frames_not_always_shown_apart :
    ¬ ∀ (past : Set Disk) (disk : Disk) (history : List Passage) (s : Session) (front back whole : Json)
      (fs gs : List Json) (clock : Clock), Disk.TellsContents past → Met (Disk.tickingHost '' past) history s →
      disk ∈ past → s.caches.resolver.Current disk → bodyItems "stackFrames" front = .ok fs →
      bodyItems "stackFrames" back = .ok gs → bodyItems "stackFrames" whole = .ok (fs ++ gs) →
      ∃ shownFront shownBack,
        bodyItems "stackFrames" (s.mapTrace disk.tickingHost front clock).1.1 = .ok shownFront ∧
        bodyItems "stackFrames" (s.mapTrace disk.tickingHost back clock).1.1 = .ok shownBack ∧
        bodyItems "stackFrames" (s.mapTrace disk.tickingHost whole clock).1.1 = .ok (shownFront ++ shownBack) := by
  intro h
  have hone : Sample.linesShown (Sample.traceThrough ["/work/b_jsp.java"]) = some [some 5] := by decide +kernel
  have hother : Sample.linesShown (Sample.traceThrough ["/work/a_jsp.java"]) = some [some 3] := by decide +kernel
  have hboth : Sample.linesShown (Sample.traceThrough ["/work/b_jsp.java", "/work/a_jsp.java"]) =
      some [some 5, some 1] := by decide +kernel
  have htells : Disk.TellsContents {disk | ∃ d ∈ [Sample.twoServlets, Sample.firstRefused], d = disk} :=
    Disk.tellsContents_of_list id (by decide +kernel)
  have hmet := (Met.fresh { Sample.settings 0 with compiledCacheMaxEntries := 1 } ⟨[]⟩ [⟨"/ws"⟩]).passed
    (Set.mem_image_of_mem Disk.tickingHost (show Sample.twoServlets ∈ {disk | ∃ d ∈
      [Sample.twoServlets, Sample.firstRefused], d = disk} from ⟨_, List.mem_cons_self, rfl⟩))
    .adapter (Sample.traceThrough ["/work/a_jsp.java"]) (Stream'.const 0)
  obtain ⟨shownFront, shownBack, hfront, hback, hwhole⟩ := h _ Sample.firstRefused _ Sample.shownFirst
    (Sample.traceThrough ["/work/b_jsp.java"]) (Sample.traceThrough ["/work/a_jsp.java"])
    (Sample.traceThrough ["/work/b_jsp.java", "/work/a_jsp.java"]) _ _ (Stream'.const 0) htells hmet
    ⟨_, List.mem_cons_of_mem _ List.mem_cons_self, rfl⟩ (.inl (by decide +kernel)) rfl rfl rfl
  simp only [Sample.linesShown, hfront, hback, hwhole, Except.toOption, Option.map_some, Option.some.injEq,
    List.map_append] at hone hother hboth
  rw [hone, hother] at hboth
  exact absurd hboth (by decide)

end TemplateDebug.Session
