import TemplateDebug.Proofs.Session.RoundTrip
/-!
# The template of a pending request

The breakpoints of a response belong to the template that the request was for. A marker that names this template by one
of its references is searched for in the web roots all the same, and only where nothing is found is the breakpoint
shown in the template that the request named. With two web roots that hold a file under one path, it is shown in the
file of the first, whichever the request was for.
-/

namespace TemplateDebug.Session

open Relay (Side)

variable {disk : Disk} {n : Int} {s : Session} {i line : Nat}

/-- A reported breakpoint whose line belongs to a marker of the template that was asked for. -/
structure Reports (disk : Disk) (p : Pending) (response : Json) (i : Nat) (b : Json) (templateLine : Nat) (ref : String) :
    Prop where
  reported : reported? response i = some b
  source : ∃ source, b.get? "source" = some source ∧ source.IsObject
  placed : ∃ line markers, Dap.lineOf? b "line" = some line ∧ disk.markers (reportedSource p b) = some markers ∧
    Marker.locationOf? markers line = some ⟨templateLine, some ref⟩
  named : Template.anyMatches p.refs (some ref) = true

/-- Such a breakpoint is shown on the line of the marker, in the file that a search for its reference finds, and in the
template of the request if it finds none. -/
theorem shown_in_found_or_template (hs : Reachable disk s) (hon : s.settings.enabled = true) {p : Pending}
    (hp : s.pending.find? (·.requestSeq = n) = some p) {response b : Json}
    (hroute : adapterRoute response = .mapBack n true) {templateLine : Nat} {ref : String}
    (hreports : Reports disk p response i b templateLine ref) (clock : Clock) :
    ∃ shown, reported? (Relay.pass disk.tickingHost .adapter response s clock).1.1 i = some shown ∧
      Dap.lineOf? shown "line" = some templateLine ∧
      Dap.sourcePath? shown = some ((disk.search s.caches.resolver.webRoots ref).getD p.template).text := by
  obtain ⟨hreported, ⟨source, hsource, hobject⟩, ⟨line, markers, hline, hmarkers, hlocation⟩, hnamed⟩ := hreports
  obtain ⟨times, d, hm⟩ := hs.mirrors
  obtain ⟨text, rfl⟩ := Disk.exists_parse_of_markers hmarkers
  obtain ⟨m, hmem, hplace⟩ := Marker.mem_of_locationOf? hlocation
  have hbounds := Marker.templateLine_of_mem_parse hmem
  rw [← show templateLine = m.templateLine from congrArg TemplateLocation.line hplace] at hbounds
  refine ⟨_, shown_placed hm hon hp hmarkers hlocation hnamed hroute hreported hline clock, ?_, ?_⟩
  · rw [Dap.lineOf?_setSource]
    exact Dap.lineOf?_setLine (Dap.isObject_of_lineOf? hline) hbounds.1 hbounds.2
  · exact Dap.sourcePath?_setSource_of_object ((Dap.get?_source_setLine _ b).trans hsource) hobject _

namespace Sample

/-- Two workspace roots hold a template under one path. -/
def twoRoots : Disk :=
  ⟨.dir [("work", .dir [("a_jsp.java", source 1 "// line 1 \"/a.jsp\"\n")]), ("ws1", .dir [("a.jsp", source 2 "")]),
    ("ws2", .dir [("a.jsp", source 3 "")])], [], ⟨1, 0⟩⟩

/-- The session after a breakpoint is asked for in the template of the second root. -/
def askedInSecond : Session :=
  after twoRoots [.message .client (request 1 "/ws2/a.jsp" [1])] (new (settings 0) ⟨[]⟩ [⟨"/ws1"⟩, ⟨"/ws2"⟩])
    (Stream'.const 0)

theorem reachable_askedInSecond : Reachable twoRoots askedInSecond :=
  ⟨settings 0, ⟨[]⟩, [⟨"/ws1"⟩, ⟨"/ws2"⟩], _, _, rfl⟩

def pendingInSecond : Pending := ⟨1, ⟨"/ws2/a.jsp"⟩, ⟨"/work/a_jsp.java"⟩, ["a.jsp", "/a.jsp"]⟩

theorem reports_askedInSecond : Reports twoRoots pendingInSecond (response 1 [reported 2 "/work/a_jsp.java"]) 0
    (reported 2 "/work/a_jsp.java") 1 "/a.jsp" where
  reported := rfl
  source := ⟨_, rfl, trivial⟩
  placed := ⟨2, #[⟨1, 1, some "/a.jsp"⟩], by decide +kernel, by decide +kernel, by decide +kernel⟩
  named := by decide +kernel

end Sample

/-- The breakpoint asked for in the second root is shown in the first. -/
theorem shown_in_first : ∃ shown,
    reported? (Relay.pass Sample.twoRoots.tickingHost .adapter
      (Sample.response 1 [Sample.reported 2 "/work/a_jsp.java"]) Sample.askedInSecond (Stream'.const 0)).1.1 0 =
        some shown ∧
    Dap.lineOf? shown "line" = some 1 ∧ Dap.sourcePath? shown = some "/ws1/a.jsp" := by
  obtain ⟨shown, hshown, hline, hsource⟩ := shown_in_found_or_template Sample.reachable_askedInSecond
    (by decide +kernel) (show Sample.askedInSecond.pending.find? (·.requestSeq = 1) = some Sample.pendingInSecond by
      decide +kernel) (by decide +kernel) Sample.reports_askedInSecond (Stream'.const 0)
  refine ⟨shown, hshown, hline, hsource.trans ?_⟩
  decide +kernel

/-- A breakpoint of a response is not always shown in the template that its request was for. -/
theorem not_always_shown_in_template :
    ¬ ∀ (disk : Disk) (s : Session) (n : Int) (p : Pending) (response b : Json) (i templateLine : Nat) (ref : String)
      (clock : Clock), Reachable disk s → s.settings.enabled = true → s.pending.find? (·.requestSeq = n) = some p →
      adapterRoute response = .mapBack n true → Reports disk p response i b templateLine ref →
      ∃ shown, reported? (Relay.pass disk.tickingHost .adapter response s clock).1.1 i = some shown ∧
        Dap.sourcePath? shown = some p.template.text := by
  intro hall
  -- two roots, one path below both, and a request for the file of the second
  obtain ⟨shown, hshown, hsource⟩ := hall Sample.twoRoots Sample.askedInSecond 1 Sample.pendingInSecond
    (Sample.response 1 [Sample.reported 2 "/work/a_jsp.java"]) (Sample.reported 2 "/work/a_jsp.java") 0 1 "/a.jsp"
    (Stream'.const 0) Sample.reachable_askedInSecond (by decide +kernel) (by decide +kernel) (by decide +kernel)
    Sample.reports_askedInSecond
  have hfirst : (reported? (Relay.pass Sample.twoRoots.tickingHost .adapter
      (Sample.response 1 [Sample.reported 2 "/work/a_jsp.java"]) Sample.askedInSecond (Stream'.const 0)).1.1 0).bind
        Dap.sourcePath? = some "/ws1/a.jsp" := by decide +kernel
  rw [hshown, Option.bind_some, hsource] at hfirst
  exact absurd hfirst (by decide +kernel)

end TemplateDebug.Session
