import TemplateDebug.Proofs.Session.BreakpointTable
import TemplateDebug.Proofs.Session.History
import TemplateDebug.Proofs.Session.Transparency
/-!
# Redirects on a changing disk

Whatever was remembered about a disk as it was, a request is redirected by the disk as it is: to a compiled source that
is there, on lines that the markers in its bytes give. Memory decides only which compiled source is taken, and where
that can be read and has a marker for one of the lines, the request is redirected to it. One that could be read before
is still taken when it can no longer be read, since that does not change its fingerprint.
-/

namespace TemplateDebug.Session

open Relay (Side)
open Marker (Candidate Greatest)

/-- The references of a template under the web roots as they are set. -/
abbrev refsOf (c : Caches) (template : Path) : List String := Template.plausibleRefs template c.resolver.webRoots

/-- The compiled source that the locator gives for a template, the clock showing this. -/
def located? (disk : Disk) (c : Caches) (template : Path) (clock : Clock) : Option Path :=
  (c.locate disk.tickingHost template (refsOf c template) clock).1.1

/-- An item of a request goes on the line after the greatest candidate for its line, or stays without a candidate. -/
def ItemRedirected (line? : Json → Option Nat) (on : Nat → Json → Json) (markers : Array Marker) (refs : List String)
    (item item' : Json) : Prop :=
  (∃ line m, line? item = some line ∧ Greatest markers refs line m ∧ item' = on (m.compiledLine + 1) item) ∨
    (∀ line m, line? item = some line → ¬ Candidate markers refs line m) ∧ item' = item

/-- The list under a key of the arguments of a request. -/
def askedItems? (key : String) (message : Json) : Option (List Json) := (message.get? "arguments").bind (listed? key)

/-- A request for a template and what it became are as a compiled source on the disk, with these bytes, wants it. -/
structure Justified (disk : Disk) (c : Caches) (message out : Json) (template compiled : Path) (bytes : Bytes) : Prop where
  asked : askedSource? message = some template.text
  isTemplate : Source.isTemplate template.text = true
  inWorkspace : c.inWorkspace template = true
  isCompiled : Source.isCompiled compiled.text = true
  isFile : disk.isFile compiled = true
  contents : disk.contents? compiled = some bytes
  breakpoints : Option.Rel
    (List.Forall₂ (ItemRedirected (Dap.lineOf? · "line") Dap.setLine (MarkerCache.markersIn bytes) (refsOf c template)))
    (askedItems? "breakpoints" message) (askedItems? "breakpoints" out)
  lines : Option.Rel
    (List.Forall₂ (ItemRedirected Dap.word? (fun line _ => .int line) (MarkerCache.markersIn bytes) (refsOf c template)))
    (askedItems? "lines" message) (askedItems? "lines" out)

/-- Every compiled source on the disk has fewer lines than can be numbered. -/
def Short (disk : Disk) : Prop :=
  ∀ compiled bytes, Source.isCompiled compiled.text = true → disk.contents? compiled = some bytes →
    (Text.lines (Utf8.decodeLossy bytes).toList).length < lastLine

variable {past : Set Disk} {disk : Disk} {c : Caches} {s : Session} {history : List Passage} {machine : Host (StateM Clock)}
  {message arguments : Json} {n : Int} {template compiled : Path} {markers : Array Marker} {refs : List String}

/-! ## What a redirect depends on -/

/-- The compiled source of a template is where it is located, with the markers that are read there. -/
theorem exists_compiledSource (machine : Host (StateM Clock)) (c : Caches) (template : Path) (refs : List String)
    (clock : Clock) :
    ∃ given, (compiledSource machine template refs c clock).1.1 =
        (c.locate machine template refs clock).1.1.bind (fun compiled => given.map (compiled, ·)) ∧
      ∀ compiled, (c.locate machine template refs clock).1.1 = some compiled →
        given = ((c.locate machine template refs clock).1.2.readFresh machine compiled
          (c.locate machine template refs clock).2).1.1 := by
  simp only [compiledSource, bind, StateT.bind]
  generalize c.locate machine template refs clock = r
  obtain ⟨⟨found, c'⟩, clock'⟩ := r
  cases found with
  | none => exact ⟨none, rfl, by simp⟩
  | some compiled =>
    refine ⟨(c'.readFresh machine compiled clock').1.1, rfl, ?_⟩
    rintro _ ⟨⟩
    rfl

theorem readFresh_readAs (h : c.markers.Known past) (hd : disk ∈ past) (p : Path) :
    Always (c.readFresh disk.tickingHost p) fun r => MarkerCache.ReadAs past disk p r.1 :=
  (MarkerCache.readFresh_readAs h hd p).andThen fun _ hr => .of_pure hr

/-- A request is redirected by the place that is located and the markers that are read there. -/
theorem redirect_readAs (h : c.Meet (.versions past)) (hd : disk ∈ past)
    (ha : templateOf? c arguments = some template) (n : Int) (request : Json) (clock : Clock) :
    ∃ given, (redirect disk.tickingHost n arguments request c clock).1.1 =
        ((located? disk c template clock).bind fun compiled => given.map (compiled, ·)).bind (fun source =>
          let redirected := redirectArguments source.2 (refsOf c template) source.1 arguments
          if redirected.2 = 0 then none
          else some (request.set "arguments" redirected.1, ⟨n, template, source.1, refsOf c template⟩)) ∧
      ∀ compiled, located? disk c template clock = some compiled → MarkerCache.ReadAs past disk compiled given := by
  have hmeet := (h.locate (Knowledge.on_versions hd) template (refsOf c template) clock).2
  obtain ⟨given, heq, hgiven⟩ := exists_compiledSource disk.tickingHost c template (refsOf c template) clock
  have hread : ∀ compiled, located? disk c template clock = some compiled →
      MarkerCache.ReadAs past disk compiled given := by
    intro compiled hl
    rw [hgiven compiled hl]
    exact readFresh_readAs hmeet.markers hd compiled _
  refine ⟨given, ?_, hread⟩
  rw [located?, ← heq]
  -- the rest is the same once the source is there: what is reported does not show in the result
  simp only [redirect, ha, bind, StateT.bind]
  generalize compiledSource disk.tickingHost template (refsOf c template) c clock = r
  obtain ⟨⟨source, c'⟩, clock'⟩ := r
  cases source with
  | none => rfl
  | some source =>
    obtain ⟨compiled, markers⟩ := source
    simp only [Option.bind_some]
    split
    · rfl
    · split <;> rfl

/-- A request goes on redirected, or as it came. -/
theorem pass_request_eq (hon : s.settings.enabled = true) (hseq : requestSeq? message = some n)
    (ha : message.get? "arguments" = some arguments) (clock : Clock) :
    (Relay.pass machine .client message s clock).1.1 =
      ((redirect machine n arguments message s.caches clock).1.1.map (·.1)).getD message := by
  have hroute := Direct.clientRoute_of_requestSeq? hseq
  rw [requestSeq?, if_pos hroute] at hseq
  have hparts : requestParts message = .ok (n, arguments) := by simp [requestParts, hseq, ha]
  rw [pass_eq, if_pos hon, Direct.route, hroute, follow, redirectRequest, hparts]
  simp only [bind, StateT.bind]
  generalize redirect machine n arguments message s.caches clock = r
  obtain ⟨⟨redirected, c'⟩, clock'⟩ := r
  cases redirected <;> rfl

/-! ## Items -/

/-- Each item is redirected, where no marker stands on the last line that can be numbered. -/
theorem forall₂_itemRedirected {line? : Json → Option Nat} {on : Nat → Json → Json} {change? : Json → Option Json}
    (hlast : ∀ m ∈ markers, m.compiledLine < lastLine)
    (hchange : ∀ item, change? item =
      ((line? item).bind (Marker.breakpointLine? markers refs)).map fun line => on line item) (items : List Json) :
    List.Forall₂ (ItemRedirected line? on markers refs) items (items.map fun i => (change? i).getD i) := by
  refine List.forall₂_map_right_iff.2 (List.forall₂_same.2 fun item _ => ?_)
  rw [hchange]
  cases hline : line? item with
  | none => exact .inr ⟨fun line m hl => (by cases hline.symm.trans hl), rfl⟩
  | some line =>
    rcases Marker.breakpointLine?_cases hlast refs line with ⟨m, hm, heq⟩ | ⟨hno, heq⟩
    · exact .inl ⟨line, m, hline, hm, by simp [heq]⟩
    · refine .inr ⟨fun line' m hl => ?_, by simp [heq]⟩
      cases hline.symm.trans hl
      exact hno m

theorem rel_map {R : List Json → List Json → Prop} {f : List Json → List Json} (h : ∀ items, R items (f items))
    (items? : Option (List Json)) : Option.Rel R items? (items?.map f) := by
  cases items? with
  | none => exact .none
  | some items => exact .some (h items)

theorem askedItems?_set {key : String} {j : Json} (ha : message.get? "arguments" = some arguments) :
    askedItems? key (message.set "arguments" j) = listed? key j := by
  rw [askedItems?, Json.get?_set (Json.isObject_of_get? ha), Option.bind_some]

/-! ## Requests -/

theorem mem_lastLine (hshort : Short disk) {bytes : Bytes} (hc : Source.isCompiled compiled.text = true)
    (hcontents : disk.contents? compiled = some bytes) :
    ∀ m ∈ MarkerCache.markersIn bytes, m.compiledLine < lastLine :=
  fun _ hm => Nat.lt_of_le_of_lt (Marker.compiledLine_le_of_mem_parse hm) (hshort compiled bytes hc hcontents)

theorem templateOf?_eq_some_iff :
    templateOf? c arguments = some template ↔
      Dap.sourcePath? arguments = some template.text ∧ Source.isTemplate template.text = true ∧
        c.inWorkspace template = true := by
  unfold templateOf?
  constructor
  · intro h
    obtain ⟨text, htext, hin⟩ := Option.bind_eq_some_iff.1 h
    obtain ⟨hsource, htemplate⟩ := Option.filter_eq_some_iff.1 htext
    split at hin
    · rename_i hworkspace
      cases hin
      exact ⟨hsource, htemplate, hworkspace⟩
    · cases hin
  · rintro ⟨hsource, htemplate, hin⟩
    simp [hsource, Option.filter, htemplate, hin]

theorem askedSource?_eq (ha : message.get? "arguments" = some arguments) :
    askedSource? message = Dap.sourcePath? arguments := by
  rw [askedSource?, ha, Option.bind_some]

/-- A request that names the compiled source it was redirected to. -/
theorem askedSource?_redirected (ha : message.get? "arguments" = some arguments)
    (ht : templateOf? c arguments = some template) :
    askedSource? (message.set "arguments" (redirectArguments markers refs compiled arguments).1) =
      some compiled.text := by
  rw [askedSource?_eq (Json.get?_set (Json.isObject_of_get? ha))]
  exact sourcePath?_redirectArguments (templateOf?_eq_some_iff.1 ht).1

/-- A request that goes on changed is one for a template, and goes to a compiled source. -/
theorem Outcome.exists_of_ne {k : Knowledge} {out : Json} {pending : List Pending}
    (h : Outcome k s .client message out pending) (hne : out ≠ message) :
    s.settings.enabled = true ∧ ∃ n arguments template, ∃ compiled : Path, requestSeq? message = some n ∧
      message.get? "arguments" = some arguments ∧ templateOf? s.caches arguments = some template ∧
      Source.isCompiled compiled.text = true ∧ askedSource? out = some compiled.text := by
  cases h with
  | kept _ => exact absurd rfl hne
  | redirected enabled numbered has redirected =>
    obtain ⟨template, compiled, markers, refs, ht, -, hcompiled, -, -, rfl, -⟩ := redirected
    exact ⟨enabled, _, _, template, compiled, numbered, has, ht, hcompiled, askedSource?_redirected has ht⟩

theorem justified_redirected (hshort : Short disk) (ha : message.get? "arguments" = some arguments)
    (ht : templateOf? c arguments = some template) (hcompiled : Source.isCompiled compiled.text = true) {bytes : Bytes}
    (hcontents : disk.contents? compiled = some bytes) :
    Justified disk c message
      (message.set "arguments"
        (redirectArguments (MarkerCache.markersIn bytes) (refsOf c template) compiled arguments).1)
      template compiled bytes := by
  obtain ⟨hsource, htemplate, hin⟩ := templateOf?_eq_some_iff.1 ht
  have hlast := mem_lastLine hshort hcompiled hcontents
  refine ⟨?_, htemplate, hin, hcompiled, Disk.isFile_of_contents? hcontents, hcontents, ?_, ?_⟩
  · rw [askedSource?_eq ha, hsource]
  · rw [askedItems?_set ha, listed?_breakpoints_redirectArguments, askedItems?, ha, Option.bind_some]
    exact rel_map (forall₂_itemRedirected hlast fun _ => rfl) _
  · rw [askedItems?_set ha, listed?_lines_redirectArguments, askedItems?, ha, Option.bind_some]
    refine rel_map (forall₂_itemRedirected hlast fun j => ?_) _
    unfold redirectLine?
    cases (Dap.word? j).bind (Marker.breakpointLine? (MarkerCache.markersIn bytes) (refsOf c template)) <;> rfl

/-- A request that goes on to a compiled source is justified by this as it is now. -/
theorem justified_of_asked (ht : Disk.TellsContents past) (h : Met (Disk.tickingHost '' past) history s)
    (hd : disk ∈ past) (hshort : Short disk) (clock : Clock)
    (hout : askedSource? (Relay.pass disk.tickingHost .client message s clock).1.1 = some compiled.text)
    (hasked : askedSource? message ≠ some compiled.text) :
    ∃ template bytes, located? disk s.caches template clock = some compiled ∧
      Justified disk s.caches message (Relay.pass disk.tickingHost .client message s clock).1.1 template compiled
        bytes ∧
      (Disk.TellsVersions past → disk.read compiled = .ok bytes) := by
  have hne : (Relay.pass disk.tickingHost .client message s clock).1.1 ≠ message := by
    intro heq
    rw [heq] at hout
    exact hasked hout
  have houtcome := h.outcome (Set.mem_image_of_mem _ hd) .client message clock
  obtain ⟨hon, n, arguments, template, dest, hseq, ha, htemplate, hcompiled, hto⟩ := houtcome.exists_of_ne hne
  obtain rfl : dest = compiled := Path.ext (Option.some.inj (hto.symm.trans hout))
  obtain ⟨given, heq, hgiven⟩ := redirect_readAs h.versions hd htemplate n message clock
  rw [pass_request_eq hon hseq ha, heq] at hne hto ⊢
  -- markers are read of what is located, and some line moves, or the request would be as it came
  cases hl : located? disk s.caches template clock with
  | none => simp [hl] at hne
  | some found =>
    obtain ⟨hyields, hmarkers⟩ := hgiven found hl
    cases given with
    | none => simp [hl] at hne
    | some markers =>
      obtain ⟨bytes, hcontents, rfl⟩ := (hyields ht).parsed _ rfl
      simp only [hl, Option.bind_some, Option.map_some] at hne hto ⊢
      split at hto
      · rename_i hzero
        rw [if_pos hzero] at hne
        exact absurd rfl hne
      · rename_i hmoved
        rw [Option.map_some, Option.getD_some, askedSource?_redirected ha htemplate] at hto
        obtain rfl : found = dest := Path.ext (Option.some.inj hto)
        rw [if_neg hmoved]
        refine ⟨template, bytes, hl, justified_redirected hshort ha htemplate hcompiled hcontents, fun htells => ?_⟩
        obtain ⟨-, bytes', hread, -⟩ := Disk.markers_eq_some_iff.1 (hmarkers htells).symm
        rw [hread, Option.some.inj ((Disk.contents?_of_read hread).symm.trans hcontents)]

/-- A candidate for a line of the arguments moves one. -/
theorem redirectArguments_moves {bytes : Bytes} {line : Nat} {m : Marker}
    (hlast : ∀ m ∈ MarkerCache.markersIn bytes, m.compiledLine < lastLine)
    (hline : line ∈ breakpointLines arguments ++ bareLines arguments)
    (hm : Candidate (MarkerCache.markersIn bytes) refs line m) :
    (redirectArguments (MarkerCache.markersIn bytes) refs compiled arguments).2 ≠ 0 := by
  intro hzero
  have hnone := redirectArguments_snd_eq_zero_iff.1 hzero line hline
  rcases Marker.breakpointLine?_cases hlast refs line with ⟨m', -, heq⟩ | ⟨hno, -⟩
  · cases hnone.symm.trans heq
  · exact hno m hm

/-- A request for a template whose compiled source is located, can be read, and has a candidate for one of the lines,
goes on to it. -/
theorem asked_of_candidate (ht : Disk.TellsContents past) (h : Met (Disk.tickingHost '' past) history s)
    (hd : disk ∈ past) (hshort : Short disk) (clock : Clock) {bytes : Bytes} {line : Nat} {m : Marker}
    (hon : s.settings.enabled = true) (hseq : requestSeq? message = some n)
    (hasked : askedSource? message = some template.text) (hkind : Source.isTemplate template.text = true)
    (hin : s.caches.inWorkspace template = true) (hl : located? disk s.caches template clock = some compiled)
    (hread : disk.read compiled = .ok bytes) (hline : line ∈ listedLines message)
    (hm : Candidate (MarkerCache.markersIn bytes) (refsOf s.caches template) line m) :
    askedSource? (Relay.pass disk.tickingHost .client message s clock).1.1 = some compiled.text := by
  obtain ⟨arguments, ha, hsource⟩ := Option.bind_eq_some_iff.1 hasked
  have htemplate : templateOf? s.caches arguments = some template := templateOf?_eq_some_iff.2 ⟨hsource, hkind, hin⟩
  have hcompiled : Source.isCompiled compiled.text = true :=
    (h.versions.locate (Knowledge.on_versions hd) template (refsOf s.caches template) clock).1 compiled hl
  rw [listedLines, ha] at hline
  have hmoved : (redirectArguments (MarkerCache.markersIn bytes) (refsOf s.caches template) compiled arguments).2 ≠ 0 :=
    redirectArguments_moves (mem_lastLine hshort hcompiled (Disk.contents?_of_read hread)) hline hm
  obtain ⟨given, heq, hgiven⟩ := redirect_readAs h.versions hd htemplate n message clock
  rw [pass_request_eq hon hseq ha, heq, hl, Option.bind_some, ((hgiven compiled hl).yields ht).eq_some hread,
    Option.map_some, Option.bind_some]
  simp only [if_neg hmoved, Option.map_some, Option.getD_some]
  exact askedSource?_redirected ha htemplate

/-- Where different bytes come with different fingerprints, a request that goes on to a compiled source is justified by
the bytes of this as it is now; that it can be read now is sure where what reading gives changes only with the
fingerprint. And a request for a template whose compiled source is located, can be read, and has a candidate for one of
the lines, goes on to it. -/
theorem redirects_by_disk (ht : Disk.TellsContents past) (h : Met (Disk.tickingHost '' past) history s)
    (hd : disk ∈ past) (hshort : Short disk) (message : Json) (clock : Clock) :
    (∀ compiled : Path,
      askedSource? (Relay.pass disk.tickingHost .client message s clock).1.1 = some compiled.text →
      askedSource? message ≠ some compiled.text →
      ∃ template bytes, located? disk s.caches template clock = some compiled ∧
        Justified disk s.caches message (Relay.pass disk.tickingHost .client message s clock).1.1 template compiled
          bytes ∧
        (Disk.TellsVersions past → disk.read compiled = .ok bytes)) ∧
    ∀ n template compiled bytes line m, s.settings.enabled = true → requestSeq? message = some n →
      askedSource? message = some template.text → Source.isTemplate template.text = true →
      s.caches.inWorkspace template = true → located? disk s.caches template clock = some compiled →
      disk.read compiled = .ok bytes → line ∈ listedLines message →
      Candidate (MarkerCache.markersIn bytes) (refsOf s.caches template) line m →
      askedSource? (Relay.pass disk.tickingHost .client message s clock).1.1 = some compiled.text := by
  constructor
  · intro compiled hout hasked
    exact justified_of_asked ht h hd hshort clock hout hasked
  · intro n template compiled bytes line m hon hseq hasked hkind hin hl hread hline hm
    exact asked_of_candidate ht h hd hshort clock hon hseq hasked hkind hin hl hread hline hm

/-! ## A compiled source that changes -/

theorem short_of_regularFiles
    (h : ∀ f ∈ disk.root.regularFiles, (Text.lines (Utf8.decodeLossy f.bytes).toList).length < lastLine) :
    Short disk := by
  intro compiled bytes _ hcontents
  obtain ⟨file, hn, rfl⟩ := Disk.contents?_eq_some_iff.1 hcontents
  exact h file (Disk.mem_regularFiles hn)

namespace Sample

def compiledTwice : Disk := workDisk [("a_jsp.java", source 2 "\n// line 1 \"/a.jsp\"\n")]

/-- A session that remembers, for long, what it found before the servlet was compiled again. -/
def remembering : List Passage × Session :=
  passAll servlet.tickingHost (Stream'.const 0) [(.client, request 1 "/ws/a.jsp" [1])] []
    (new { webRoots := [], workDirs := [⟨"/work"⟩], useDefaultWorkDirs := false } ⟨[]⟩ [⟨"/ws"⟩])

end Sample

/-- The remembered place is taken, with the markers that it has now. -/
theorem redirects_compiledTwice :
    ∃ template bytes, located? Sample.compiledTwice Sample.remembering.2.caches template (Stream'.const 0) =
        some ⟨"/work/a_jsp.java"⟩ ∧
      Justified Sample.compiledTwice Sample.remembering.2.caches (Sample.request 2 "/ws/a.jsp" [1])
        (Relay.pass Sample.compiledTwice.tickingHost .client (Sample.request 2 "/ws/a.jsp" [1]) Sample.remembering.2
          (Stream'.const 0)).1.1 template ⟨"/work/a_jsp.java"⟩ bytes ∧
      Sample.compiledTwice.read ⟨"/work/a_jsp.java"⟩ = .ok bytes := by
  have hfirst : Sample.servlet ∈ {disk | ∃ m ∈ recompiled, m.1 = disk} := ⟨_, List.mem_cons_self, rfl⟩
  have hmet : Met (Disk.tickingHost '' {disk | ∃ m ∈ recompiled, m.1 = disk}) Sample.remembering.1
      Sample.remembering.2 :=
    (Met.fresh _ _ _).passAll (Set.mem_image_of_mem _ hfirst) _ _
  have hd : Sample.compiledTwice ∈ {disk | ∃ m ∈ recompiled, m.1 = disk} :=
    ⟨_, List.mem_cons_of_mem _ List.mem_cons_self, rfl⟩
  have hshort : Short Sample.compiledTwice := short_of_regularFiles (by decide +kernel)
  obtain ⟨hsound, hcomplete⟩ := redirects_by_disk tellsContents_recompiled hmet hd hshort
    (Sample.request 2 "/ws/a.jsp" [1]) (Stream'.const 0)
  have hcandidate : Candidate (MarkerCache.markersIn (Utf8.encode "\n// line 1 \"/a.jsp\"\n"))
      (refsOf Sample.remembering.2.caches ⟨"/ws/a.jsp"⟩) 1 ⟨2, 1, some "/a.jsp"⟩ := by
    refine ⟨?_, ?_, ?_⟩ <;> decide +kernel
  have hasked := hcomplete 2 ⟨"/ws/a.jsp"⟩ ⟨"/work/a_jsp.java"⟩ (Utf8.encode "\n// line 1 \"/a.jsp\"\n") 1
    ⟨2, 1, some "/a.jsp"⟩ (by decide +kernel) (by decide +kernel) rfl (by decide +kernel) (by decide +kernel)
    (by decide +kernel) (by decide +kernel) (by decide +kernel) hcandidate
  obtain ⟨template, bytes, hlocated, hjustified, hread⟩ := hsound ⟨"/work/a_jsp.java"⟩ hasked (by decide +kernel)
  exact ⟨template, bytes, hlocated, hjustified, hread tellsVersions_recompiled⟩

/-- Where only different bytes come with different fingerprints, a request may go on to a compiled source that can no
longer be read. -/
theorem redirected_not_always_readable :
    ¬ ∀ (past : Set Disk) (disk : Disk) (history : List Passage) (s : Session) (message : Json) (clock : Clock)
      (compiled : Path), Disk.TellsContents past → Met (Disk.tickingHost '' past) history s → disk ∈ past → Short disk →
      askedSource? (Relay.pass disk.tickingHost .client message s clock).1.1 = some compiled.text →
      askedSource? message ≠ some compiled.text → ∃ bytes, disk.read compiled = .ok bytes := by
  intro h
  have hfirst : Sample.servlet ∈ {disk | ∃ m ∈ refusedLater, m.1 = disk} := ⟨_, List.mem_cons_self, rfl⟩
  have hmet : Met (Disk.tickingHost '' {disk | ∃ m ∈ refusedLater, m.1 = disk}) Sample.remembering.1
      Sample.remembering.2 :=
    (Met.fresh _ _ _).passAll (Set.mem_image_of_mem _ hfirst) _ _
  have hd : Sample.refused ∈ {disk | ∃ m ∈ refusedLater, m.1 = disk} :=
    ⟨_, List.mem_cons_of_mem _ List.mem_cons_self, rfl⟩
  obtain ⟨bytes, hread⟩ := h _ Sample.refused _ _ (Sample.request 2 "/ws/a.jsp" [1]) (Stream'.const 0)
    ⟨"/work/a_jsp.java"⟩ tellsContents_refusedLater hmet hd (short_of_regularFiles (by decide +kernel))
    (by decide +kernel) (by decide +kernel)
  have hrefused : Sample.refused.read ⟨"/work/a_jsp.java"⟩ = .error .permissionDenied := by decide +kernel
  cases hrefused.symm.trans hread

end TemplateDebug.Session
