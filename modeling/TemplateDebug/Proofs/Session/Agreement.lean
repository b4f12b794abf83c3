import TemplateDebug.Proofs.Session.EffectiveSource
import TemplateDebug.Proofs.Session.Interleaving
/-!
# Frames and breakpoints at one place

A frame of a stack trace and a breakpoint of a response may name the same line of the same compiled source. On a disk
that stays as it is, both are shown at the same place of a template. Only a breakpoint can fall back on the template of
its request, when the reference of the marker is a spelling of this template and leads to no file. A path too long for
the file system is the exception: the frame stays as it is, and the breakpoint may be mapped by an entry that is still
trusted.
-/

namespace TemplateDebug.Session

open Relay (Side)

/-- The frame that a stack trace lists at a place. -/
def frameAt? (trace : Json) (j : Nat) : Option Json := ((bodyItems "stackFrames" trace).toOption.getD [])[j]?

/-- What becomes of a frame and of a breakpoint on one line of a compiled source. -/
inductive Agreement (disk : Disk) (s : Session) (p : Pending) (source : Path) (line : Nat) :
    (frame breakpoint frame' breakpoint' : Json) → Prop where
  /-- Both are shown where the line stands for. -/
  | shown {f b f' b' : Json} {templateLine : Nat} {ref : String} {template : Path}
      (place : Site.placeOf? disk source line = some (templateLine, ref))
      (found : disk.search s.caches.resolver.webRoots ref = some template)
      (frame : PlacedAt f' template templateLine) (breakpoint : PlacedAt b' template templateLine) :
      Agreement disk s p source line f b f' b'
  /-- The reference leads to no file, and only the request tells which template it names. -/
  | pending {f b b' : Json} {templateLine : Nat} {ref : String}
      (place : Site.placeOf? disk source line = some (templateLine, ref))
      (nowhere : disk.search s.caches.resolver.webRoots ref = none)
      (named : Template.anyMatches p.refs (some ref) = true) (breakpoint : PlacedAt b' p.template templateLine) :
      Agreement disk s p source line f b f b'
  | kept {f b : Json} : Agreement disk s p source line f b f b
  /-- The path is too long for the file system, and entries are trusted unchecked. -/
  | tooLong {f b b' : Json} (trusting : 0 < s.caches.markers.debounce) (long : 4095 < source.text.utf8ByteSize) :
      Agreement disk s p source line f b f b'

variable {disk : Disk} {d : Direct} {s : Session} {times : Times} {p : Pending} {source : Path} {n : Int}
  {i j line : Nat} {f b trace response : Json}

/-! ## One item -/

theorem PlacedAt.compiledPlace? (h : PlacedAt f source line) (hc : Source.isCompiled source.text = true) :
    compiledPlace? f = some (source.text, line) := by
  simp [Session.compiledPlace?, h.source, Option.filter, hc, h.line]

theorem PlacedAt.reportedSource (h : PlacedAt b source line) (hc : Source.isCompiled source.text = true) :
    reportedSource p b = source := by
  simp [Session.reportedSource, h.source, Option.filter, hc]

/-! ## One message -/

/-- A frame of a stack trace is shown as without caches. -/
theorem frameAt?_pass (h : s.Mirrors {disk} disk times d) (hon : d.enabled = true)
    (htrace : adapterRoute trace = .showTrace) (hf : frameAt? trace j = some f) :
    Always (Relay.pass disk.tickingHost .adapter trace s) fun r =>
      frameAt? r.1 j = some ((d.site.showFrame disk f).getD f) := by
  rw [pass_eq, h.enabled, hon, if_pos rfl, Direct.route, htrace]
  refine (mapTrace_direct h rfl disk.tellsVersions_singleton trace).mono ?_
  rintro ⟨out, s'⟩ ⟨rfl, -⟩
  unfold frameAt? at hf ⊢
  unfold Site.changeItems
  cases hitems : bodyItems "stackFrames" trace with
  | error e => simp [hitems, Except.toOption] at hf
  | ok frames =>
    rw [hitems] at hf
    have hframe : frames[j]? = some f := hf
    dsimp only
    rw [bodyItems_setBodyItems hitems]
    simp [Except.toOption, hframe]

/-- A frame and a breakpoint on one line of a compiled source agree, whatever the session has met before and whenever
the two messages arrive. -/
theorem frame_breakpoint_agree (hs : Reachable disk s) (hon : s.settings.enabled = true)
    (hp : s.pending.find? (·.requestSeq = n) = some p) (hc : Source.isCompiled source.text = true)
    (htrace : adapterRoute trace = .showTrace) (hf : frameAt? trace j = some f) (hfat : PlacedAt f source line)
    (hroute : adapterRoute response = .mapBack n true) (hb : reported? response i = some b)
    (hbat : PlacedAt b source line) (clock clock' : Clock) :
    ∃ f' b', frameAt? (Relay.pass disk.tickingHost .adapter trace s clock).1.1 j = some f' ∧
      reported? (Relay.pass disk.tickingHost .adapter response s clock').1.1 i = some b' ∧
      Agreement disk s p source line f b f' b' := by
  obtain ⟨times, d, hm⟩ := hs.mirrors
  have hroots : s.caches.resolver.webRoots = d.site.webRoots := congrArg Site.webRoots hm.faithful.site_eq
  have hdebounce : s.caches.markers.debounce = times.debounce := congrArg Times.debounce hm.faithful.times_eq
  rw [hm.enabled] at hon
  rw [hm.pending] at hp
  obtain ⟨b', hshown, hanswered⟩ := reported?_answered hm hon hp hroute hb clock'
  refine ⟨_, b', frameAt?_pass hm hon htrace hf clock, hshown, ?_⟩
  rw [AnsweredAs, hbat.reportedSource hc] at hanswered
  unfold Site.mapBack at hanswered
  unfold Site.showFrame
  rw [hbat.reportedSource hc, hbat.line, Option.bind_some] at hanswered
  rw [hfat.compiledPlace? hc, Option.bind_some]
  dsimp only
  cases hplace : Site.placeOf? disk source line with
  | none =>
    -- nothing is read afresh; a trusted entry may still answer for a path that is too long
    simp only [hplace, Option.bind_none, Option.getD_none] at hanswered ⊢
    by_cases hshort : times.debounce = 0 ∨ source.text.utf8ByteSize ≤ 4095
    · have htimely : MarkerCache.Timely {disk} disk times.debounce source :=
        hshort.imp_right fun hsize => ⟨rfl, Source.namesFile_of_isCompiled hc hsize⟩
      rw [hanswered htimely]
      exact .kept
    · obtain ⟨htrusting, hlong⟩ := not_or.1 hshort
      exact .tooLong (hdebounce ▸ Nat.pos_of_ne_zero htrusting) (Nat.lt_of_not_le hlong)
  | some place =>
    obtain ⟨templateLine, ref⟩ := place
    obtain ⟨markers, hmarkers, -⟩ := placeOf?_eq_some hplace
    obtain ⟨hpos, hbound⟩ := bounds_of_placeOf? hplace
    have hb' := hanswered (.inr ⟨rfl, Disk.namesFile_of_markers hmarkers⟩)
    simp only [hplace, Option.bind_some, Site.templateFor] at hb' ⊢
    cases hsearch : disk.search d.site.webRoots ref with
    | some template =>
      rw [hsearch] at hb'
      rw [hb']
      exact .shown hplace (hroots ▸ hsearch) (hfat.moved hpos hbound template).2 (hbat.moved hpos hbound template).1
    | none =>
      rw [hsearch] at hb'
      by_cases hnamed : Template.anyMatches p.refs (some ref) = true
      · rw [if_pos hnamed] at hb'
        rw [hb']
        exact .pending hplace (hroots ▸ hsearch) hnamed (hbat.moved hpos hbound p.template).1
      · rw [if_neg hnamed] at hb'
        rw [hb']
        exact .kept

namespace Sample

/-- A stack trace with one frame. -/
def oneFrame (frame : Json) : Json :=
  .obj [("body", .obj [("stackFrames", .arr [frame])]), ("command", .str "stackTrace"), ("request_seq", .int 9),
    ("success", .bool true), ("type", .str "response")]

end Sample

/-- A frame and a breakpoint after the second marker are both shown in the second template. -/
theorem frame_breakpoint_agree_second : ∃ f' b' template templateLine,
    frameAt? (Relay.pass Sample.twoTemplates.tickingHost .adapter
      (Sample.oneFrame (Sample.reported 3 "/work/a_jsp.java")) Sample.askedInFirst (Stream'.const 0)).1.1 0 =
        some f' ∧
    reported? (Relay.pass Sample.twoTemplates.tickingHost .adapter
      (Sample.response 1 [Sample.reported 3 "/work/a_jsp.java"]) Sample.askedInFirst (Stream'.const 0)).1.1 0 =
        some b' ∧
    PlacedAt f' template templateLine ∧ PlacedAt b' template templateLine := by
  have hat : PlacedAt (Sample.reported 3 "/work/a_jsp.java") ⟨"/work/a_jsp.java"⟩ 3 := ⟨rfl, by decide +kernel⟩
  obtain ⟨f', b', hf', hb', hagree⟩ := frame_breakpoint_agree Sample.reachable_askedInFirst (by decide +kernel)
    (show Sample.askedInFirst.pending.find? (·.requestSeq = 1) = some Sample.pendingInFirst by decide +kernel)
    (by decide +kernel)
    (show adapterRoute (Sample.oneFrame (Sample.reported 3 "/work/a_jsp.java")) = .showTrace by decide +kernel)
    (show frameAt? _ 0 = some (Sample.reported 3 "/work/a_jsp.java") from rfl) hat
    (show adapterRoute (Sample.response 1 [Sample.reported 3 "/work/a_jsp.java"]) = .mapBack 1 true by decide +kernel)
    (show reported? _ 0 = some (Sample.reported 3 "/work/a_jsp.java") from rfl) hat (Stream'.const 0) (Stream'.const 0)
  -- the frame has changed, so both are shown
  cases hagree with
  | shown place found frame breakpoint => exact ⟨f', b', _, _, hf', hb', frame, breakpoint⟩
  | _ => exact absurd hf' (by decide +kernel)

namespace Sample

def longFirst : String := Path.slashes 4095 ++ "/work/a_jsp.java"

/-- The session after a breakpoint is asked for in the first template, while entries are trusted. -/
def trustingFirst : Session :=
  (Relay.pass twoTemplates.tickingHost .client (request 1 "/ws/a.jsp" [1]) (session 3600000) (Stream'.const 0)).1.2

theorem reachable_trustingFirst : Reachable twoTemplates trustingFirst :=
  ⟨settings 3600000, ⟨[]⟩, [⟨"/ws"⟩], [.message .client (request 1 "/ws/a.jsp" [1])], Stream'.const 0, rfl⟩

theorem placedAt_longFirst : PlacedAt (reported 2 longFirst) ⟨longFirst⟩ 2 := ⟨rfl, rfl⟩

theorem isCompiled_longFirst : Source.isCompiled longFirst = true := Source.isCompiled_append _ (by decide +kernel)

/-- The path cannot be read afresh. -/
theorem markers_longFirst : twoTemplates.markers ⟨longFirst⟩ = none := by
  obtain ⟨e, he⟩ : ∃ e, twoTemplates.stat ⟨longFirst⟩ = .error e := by
    refine Disk.stat_tooLong ?_
    simp only [longFirst, String.utf8ByteSize_append, Path.utf8ByteSize_slashes]
    decide +kernel
  cases hm : twoTemplates.markers ⟨longFirst⟩ with
  | none => rfl
  | some markers =>
    obtain ⟨file, hfile⟩ := Disk.stat_of_markers hm
    cases he.symm.trans hfile

/-- A frame there stays as it is. -/
theorem frame_longFirst (hs : Reachable twoTemplates s) (hon : s.settings.enabled = true) (clock : Clock) :
    frameAt? (Relay.pass twoTemplates.tickingHost .adapter (oneFrame (reported 2 longFirst)) s clock).1.1 0 =
      some (reported 2 longFirst) := by
  obtain ⟨times, d, hm⟩ := hs.mirrors
  have hroute : adapterRoute (oneFrame (reported 2 longFirst)) = .showTrace := by decide +kernel
  have hkept : d.site.showFrame twoTemplates (reported 2 longFirst) = none := by
    have hplace : Site.placeOf? twoTemplates ⟨longFirst⟩ 2 = none := by
      rw [Site.placeOf?, markers_longFirst, Option.bind_none]
    rw [Site.showFrame, placedAt_longFirst.compiledPlace? isCompiled_longFirst, Option.bind_some, hplace,
      Option.bind_none]
  have hf : frameAt? (oneFrame (reported 2 longFirst)) 0 = some (reported 2 longFirst) := rfl
  have hon' : d.enabled = true := hm.enabled.symm.trans hon
  rw [frameAt?_pass hm hon' hroute hf clock, hkept, Option.getD_none]

/-- A breakpoint there is shown in the second template, while the entry of the source is trusted. -/
theorem breakpoint_longFirst {clock : Clock} (hon : s.settings.enabled = true)
    (hp : s.pending.find? (·.requestSeq = 1) = some pendingInFirst)
    (hkey : (s.caches.markers.trusted? clock.head ⟨"/work/a_jsp.java"⟩).map (·.markers) =
      some #[⟨1, 1, some "/a.jsp"⟩, ⟨2, 7, some "/b.jsp"⟩])
    (hfor : (templateFor twoTemplates.tickingHost pendingInFirst "/b.jsp" s.caches clock.tail).1.1 =
      some ⟨"/ws/b.jsp"⟩) :
    reported? (Relay.pass twoTemplates.tickingHost .adapter (Sample.response 1 [reported 2 longFirst]) s clock).1.1 0 =
      some (Dap.setSource ⟨"/ws/b.jsp"⟩ (Dap.setLine 7 (reported 2 longFirst))) := by
  have hcomponents : (Path.mk longFirst).components = (Path.mk "/work/a_jsp.java").components :=
    Path.components_slashes 4095 (by decide +kernel)
  obtain ⟨e, he, hm⟩ := Option.map_eq_some_iff.1 hkey
  have htrusted : s.caches.markers.trusted? clock.head (reportedSource pendingInFirst (reported 2 longFirst)) =
      some e := by
    rw [← he, placedAt_longFirst.reportedSource isCompiled_longFirst, MarkerCache.trusted?, hcomponents]
    rfl
  have hplace : Marker.locationOf? e.markers 2 = some ⟨7, some "/b.jsp"⟩ := by
    rw [hm]
    decide +kernel
  rw [pass_one hon (by decide +kernel) hp rfl, mapBack_of_trusted rfl htrusted hplace, hfor]
  rfl

end Sample

/-- A breakpoint is not always shown in the template of its request where a frame at its place stays as it is. -/
theorem frame_breakpoint_not_always_agree :
    ¬ ∀ (disk : Disk) (s : Session) (n : Int) (p : Pending) (trace response f b : Json) (i j : Nat) (source : Path)
      (line : Nat) (clock clock' : Clock), Reachable disk s → s.settings.enabled = true →
      s.pending.find? (·.requestSeq = n) = some p → Source.isCompiled source.text = true →
      adapterRoute trace = .showTrace → frameAt? trace j = some f → PlacedAt f source line →
      adapterRoute response = .mapBack n true → reported? response i = some b → PlacedAt b source line →
      ∃ f' b', frameAt? (Relay.pass disk.tickingHost .adapter trace s clock).1.1 j = some f' ∧
        reported? (Relay.pass disk.tickingHost .adapter response s clock').1.1 i = some b' ∧
        (f' = f → b' ≠ b → Dap.sourcePath? b' = some p.template.text) := by
  intro hall
  have hon : Sample.trustingFirst.settings.enabled = true := by decide +kernel
  have hp : Sample.trustingFirst.pending.find? (·.requestSeq = 1) = some Sample.pendingInFirst := by decide +kernel
  have htrace : adapterRoute (Sample.oneFrame (Sample.reported 2 Sample.longFirst)) = .showTrace := by decide +kernel
  have hroute : adapterRoute (Sample.response 1 [Sample.reported 2 Sample.longFirst]) = .mapBack 1 true := by
    decide +kernel
  obtain ⟨f', b', hf', hb', htemplate⟩ := hall Sample.twoTemplates Sample.trustingFirst 1 Sample.pendingInFirst
    (Sample.oneFrame (Sample.reported 2 Sample.longFirst)) (Sample.response 1 [Sample.reported 2 Sample.longFirst])
    (Sample.reported 2 Sample.longFirst) (Sample.reported 2 Sample.longFirst) 0 0 ⟨Sample.longFirst⟩ 2
    (Stream'.const 0) (Stream'.const 0) Sample.reachable_trustingFirst hon hp Sample.isCompiled_longFirst htrace rfl
    Sample.placedAt_longFirst hroute rfl Sample.placedAt_longFirst
  -- the frame stays, and the breakpoint is shown in the second template
  have hframe := Sample.frame_longFirst Sample.reachable_trustingFirst hon (Stream'.const 0)
  have hbreakpoint := Sample.breakpoint_longFirst hon hp (show (Sample.trustingFirst.caches.markers.trusted?
    (Stream'.const 0).head ⟨"/work/a_jsp.java"⟩).map (·.markers) = _ by decide +kernel) (by decide +kernel)
  have hmoved : PlacedAt b' ⟨"/ws/b.jsp"⟩ 7 := by
    rw [Option.some.inj (hb'.symm.trans hbreakpoint)]
    exact (Sample.placedAt_longFirst.moved (by decide) (by decide) _).1
  have hne : b' ≠ Sample.reported 2 Sample.longFirst := by
    rintro rfl
    exact absurd (Option.some.inj (hmoved.line.symm.trans Sample.placedAt_longFirst.line)) (by decide)
  have hpath := htemplate (Option.some.inj (hf'.symm.trans hframe)) hne
  exact absurd (Option.some.inj (hmoved.source.symm.trans hpath)) (by decide)

end TemplateDebug.Session
