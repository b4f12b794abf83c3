import Mathlib.Data.List.Induction
import TemplateDebug.Proofs.Session.Redirection
/-!
# The breakpoints that an adapter holds

An adapter holds lines for each source, and a request that sets breakpoints replaces those of the source it names. What
it holds for a compiled source is what the last request that was redirected there asked for. A request of which no line
can be mapped goes on to its template, and leaves the lines of the compiled source as they were.
-/

namespace TemplateDebug

open Relay (Side)

namespace Session

/-! ## The table of an adapter -/

/-- The lines that a request asks for: those of its breakpoints, or its bare lines if it lists no breakpoints. -/
def askedLines (message : Json) : List Nat :=
  match message.get? "arguments" with
  | some arguments =>
    if (listed? "breakpoints" arguments).isSome then breakpointLines arguments else bareLines arguments
  | none => []

/-- Every line that a request lists. -/
def listedLines (message : Json) : List Nat :=
  match message.get? "arguments" with
  | some arguments => breakpointLines arguments ++ bareLines arguments
  | none => []

/-- The lines that an adapter holds for each source. -/
abbrev Table := String → List Nat

namespace Table

/-- The message sets breakpoints in the source. -/
def names (source : String) (message : Json) : Bool :=
  clientRoute message = .redirect && askedSource? message = some source

def receive (table : Table) (message : Json) : Table := fun source =>
  if names source message then askedLines message else table source

/-- The table after some messages, empty at first. -/
def after (messages : List Json) : Table := messages.foldl receive fun _ => []

/-- What is held for a source is what the last message that names it asks for. -/
theorem after_eq (messages : List Json) (source : String) :
    after messages source = ((messages.filter (names source)).getLast?.map askedLines).getD [] := by
  unfold after
  induction messages using List.reverseRecOn with
  | nil => rfl
  | append_singleton messages m ih =>
    rw [List.foldl_append, List.foldl_cons, List.foldl_nil, List.filter_append, receive]
    cases h : names source m with
    | true => simp [h]
    | false => simpa [h] using ih

end Table

end Session

/-! ## Requests for templates -/

namespace Site

open Session

/-- The line of the compiled source that a line of the request's template is mapped to. -/
def compiledLine? (site : Site) (disk : Disk) (message : Json) (line : Nat) : Option Nat :=
  (site.template? message).bind fun template => (site.compiled? disk template).bind fun compiled =>
    (disk.markers compiled).bind fun markers => Marker.breakpointLine? markers (site.refsOf template) line

/-- The lines that a request asks for, translated as far as they can be. -/
def translatedLines (site : Site) (disk : Disk) (message : Json) : List Nat :=
  (askedLines message).map fun line => (site.compiledLine? disk message line).getD line

/-- The compiled source that a request is redirected to: where its template is located, if any line can be mapped. -/
def redirectedTo? (site : Site) (disk : Disk) (message : Json) : Option Path :=
  ((site.template? message).bind (site.compiled? disk)).filter fun _ =>
    (listedLines message).any fun line => (site.compiledLine? disk message line).isSome

/-- A request that sets breakpoints in a template of the workspace. -/
structure Asks (site : Site) (message : Json) : Prop where
  numbered : (requestSeq? message).isSome
  template : (site.template? message).isSome

instance (site : Site) (message : Json) : Decidable (site.Asks message) :=
  decidable_of_iff ((requestSeq? message).isSome ∧ (site.template? message).isSome)
    ⟨fun h => ⟨h.1, h.2⟩, fun h => ⟨h.1, h.2⟩⟩

variable {site : Site} {disk : Disk} {message arguments : Json} {compiled template : Path} {d : Direct}

/-- A request goes on as it came, or is redirected where `redirectedTo?` tells, with its lines translated. -/
theorem redirect_cases (site : Site) (disk : Disk) (ha : message.get? "arguments" = some arguments) (requestSeq : Int) :
    (site.redirect disk requestSeq arguments message = none ∧ site.redirectedTo? disk message = none) ∨
      ∃ compiled markers refs p, site.redirectedTo? disk message = some compiled ∧
        (∀ line, site.compiledLine? disk message line = Marker.breakpointLine? markers refs line) ∧
        site.redirect disk requestSeq arguments message =
          some (message.set "arguments" (redirectArguments markers refs compiled arguments).1, p) := by
  have htemplate : site.template? message = site.templateOf? arguments := by
    rw [template?, ha, Option.bind_some]
  unfold redirect redirectedTo? compiledLine? listedLines
  rw [htemplate, ha]
  cases site.templateOf? arguments with
  | none => exact .inl ⟨rfl, rfl⟩
  | some template =>
    simp only [Option.bind_some]
    cases hc : site.compiled? disk template with
    | none => exact .inl ⟨rfl, rfl⟩
    | some compiled =>
      simp only [Option.bind_some]
      cases hm : disk.markers compiled with
      | none => exact .inl ⟨rfl, by simp [Option.filter]⟩
      | some markers =>
        by_cases hmoved : (redirectArguments markers (site.refsOf template) compiled arguments).2 = 0
        · -- no line can be mapped
          refine .inl ⟨if_pos hmoved, ?_⟩
          have hnone := redirectArguments_snd_eq_zero_iff.1 hmoved
          rw [Option.filter_eq_none_iff]
          rintro _ ⟨⟩ hany
          obtain ⟨line, hline, hsome⟩ := List.any_eq_true.1 hany
          rw [Option.bind_some, hnone line hline] at hsome
          cases hsome
        · -- some line can, or nothing would have moved
          refine .inr ⟨compiled, markers, site.refsOf template, _, ?_, fun line => rfl, if_neg hmoved⟩
          refine Option.filter_eq_some_iff.2 ⟨rfl, ?_⟩
          by_contra hany
          refine hmoved (redirectArguments_snd_eq_zero_iff.2 fun line hline => ?_)
          have hnot := List.any_eq_false.1 (Bool.not_eq_true _ ▸ hany) line hline
          simpa using hnot

/-! ## What the adapter gets -/

/-- A request for a template goes on as it came, or names its compiled source and asks for the translated lines. -/
theorem pass_asks (disk : Disk) (hon : d.enabled = true) (h : d.site.Asks message) :
    (d.site.redirectedTo? disk message = none ∧ (d.pass disk .client message).1 = message) ∨
      ∃ compiled, d.site.redirectedTo? disk message = some compiled ∧
        clientRoute (d.pass disk .client message).1 = .redirect ∧
        askedSource? (d.pass disk .client message).1 = some compiled.text ∧
        askedLines (d.pass disk .client message).1 = d.site.translatedLines disk message := by
  obtain ⟨hnumbered, htemplate⟩ := h
  obtain ⟨template, ht⟩ := Option.isSome_iff_exists.1 htemplate
  obtain ⟨arguments, ha, -⟩ := Option.bind_eq_some_iff.1 ht
  obtain ⟨n, hn⟩ := Option.isSome_iff_exists.1 hnumbered
  have hset : ∀ j, (message.set "arguments" j).get? "arguments" = some j :=
    fun j => Json.get?_set (Json.isObject_of_get? ha)
  have hsource := (askedSource?_of_template? ht).1
  rw [Direct.pass_request hon hn, ha, Option.bind_some]
  rcases redirect_cases d.site disk ha n with ⟨hr, hto⟩ | ⟨compiled, markers, refs, p, hto, hline, hr⟩
  · exact .inl ⟨hto, by rw [hr]⟩
  · refine .inr ⟨compiled, hto, ?_, ?_, ?_⟩
    · rw [hr]
      exact (clientRoute_set_arguments _ _).trans (Direct.clientRoute_of_requestSeq? hn)
    · rw [hr, askedSource?, hset]
      rw [askedSource?, ha] at hsource
      exact sourcePath?_redirectArguments hsource
    · rw [hr, askedLines, hset]
      dsimp only
      rw [listed?_breakpoints_redirectArguments, Option.isSome_map, breakpointLines_redirectArguments,
        bareLines_redirectArguments, translatedLines, askedLines, ha]
      simp only [hline]
      split <;> rfl

end Site

namespace Session

variable {disk : Disk} {d : Direct}

/-- A request names a compiled source as it goes on exactly when it is redirected there. -/
theorem names_pass (disk : Disk) (hon : d.enabled = true) {m : Json} (hasks : d.site.Asks m) {compiled : Path}
    (hcompiled : Source.isCompiled compiled.text = true) :
    Table.names compiled.text (d.pass disk .client m).1 = true ↔ d.site.redirectedTo? disk m = some compiled := by
  unfold Table.names
  rcases Site.pass_asks disk hon hasks with ⟨hto, hpass⟩ | ⟨other, hto, hroute, hsource, -⟩
  · obtain ⟨template, ht⟩ := Option.isSome_iff_exists.1 hasks.template
    obtain ⟨hsource, htemplate⟩ := Site.askedSource?_of_template? ht
    -- a template is no compiled source
    have hne : template.text ≠ compiled.text := by
      intro heq
      rw [heq, Source.isTemplate_eq_false hcompiled] at htemplate
      cases htemplate
    simp [hto, hpass, hsource, hne]
  · have hpath : other.text = compiled.text ↔ other = compiled := ⟨Path.ext, congrArg Path.text⟩
    simp [hto, hroute, hsource, hpath]

/-- What an adapter holds for a compiled source is what the last request redirected there asked for, its lines
translated; whichever template that request was for, and whatever has been asked for since without being redirected. -/
theorem table_eq_last_redirected (settings : DebugSettings) (env : Environment) (roots : List Path) (disk : Disk)
    (t : Transcript) (clock : Clock) (hon : settings.enabled = true)
    (hasks : ∀ m ∈ t.from .client, (Site.ofSettings settings env roots).Asks m) (compiled : Path)
    (hcompiled : Source.isCompiled compiled.text = true) :
    Table.after (Transcript.from .client (run (t.on disk) (new settings env roots) clock).1.1) compiled.text =
      (((t.from .client).filter fun m =>
          (Site.ofSettings settings env roots).redirectedTo? disk m = some compiled).getLast?.map
        ((Site.ofSettings settings env roots).translatedLines disk)).getD [] := by
  let d := Direct.new settings env roots
  have houts : Transcript.from .client (run (t.on disk) (new settings env roots) clock).1.1 =
      (t.from .client).map fun m => (d.pass disk .client m).1 :=
    client_outputs t (mirrors_new {disk} disk settings env roots) clock
  have hfilter : (t.from .client).filter (Table.names compiled.text ∘ fun m => (d.pass disk .client m).1) =
      (t.from .client).filter fun m => d.site.redirectedTo? disk m = some compiled := by
    refine List.filter_congr fun m hm => ?_
    rw [Bool.eq_iff_iff, decide_eq_true_eq]
    exact names_pass disk hon (hasks m hm) hcompiled
  rw [houts, Table.after_eq, List.filter_map, hfilter, List.getLast?_map, Option.map_map]
  refine congrArg (Option.getD · []) (Option.map_congr fun m hlast => ?_)
  obtain ⟨hm, hto⟩ := List.mem_filter.1 (List.mem_of_getLast? hlast)
  rcases Site.pass_asks disk (d := d) hon (hasks m hm) with ⟨hnone, -⟩ | ⟨_, _, _, _, hlines⟩
  · simp [hnone] at hto
  · exact hlines

namespace Sample

/-- A breakpoint is set, and then the template is cleared. -/
def setAndClear : List Json := [request 1 "/ws/a.jsp" [1], request 2 "/ws/a.jsp" []]

end Sample

/-- The cleared template keeps its line in the compiled source. -/
theorem table_setAndClear :
    Table.after (Transcript.from .client
      (run (Transcript.on Sample.servlet (Sample.setAndClear.map (Side.client, ·))) (Sample.session 0)
        (Stream'.const 0)).1.1) "/work/a_jsp.java" = [2] :=
  (table_eq_last_redirected (Sample.settings 0) ⟨[]⟩ [⟨"/ws"⟩] Sample.servlet
    (Sample.setAndClear.map (Side.client, ·)) (Stream'.const 0) rfl (by decide +kernel)
    ⟨"/work/a_jsp.java"⟩ (by decide +kernel)).trans (by decide +kernel)

/-- An adapter does not hold, for each compiled source, the lines that the last requests of the templates located there
asked for. -/
theorem table_ne_last_of_templates :
    ¬ ∀ (settings : DebugSettings) (env : Environment) (roots : List Path) (disk : Disk) (requests : List Json)
      (clock : Clock), settings.enabled = true → (∀ m ∈ requests, (Site.ofSettings settings env roots).Asks m) →
      ∀ compiled, (∃ m ∈ requests, (Site.ofSettings settings env roots).redirectedTo? disk m = some compiled) →
        ∀ line, line ∈ Table.after (Transcript.from .client
            (run (Transcript.on disk (requests.map (Side.client, ·))) (new settings env roots) clock).1.1)
            compiled.text ↔
          ∃ template, (Site.ofSettings settings env roots).compiled? disk template = some compiled ∧
            ∃ m, (requests.filter fun m =>
                (Site.ofSettings settings env roots).template? m = some template).getLast? = some m ∧
              line ∈ (Site.ofSettings settings env roots).translatedLines disk m := by
  intro hall
  have hiff := hall (Sample.settings 0) ⟨[]⟩ [⟨"/ws"⟩] Sample.servlet Sample.setAndClear (Stream'.const 0) rfl
    (by decide +kernel) ⟨"/work/a_jsp.java"⟩ (by decide +kernel) 2
  have hheld : 2 ∈ Table.after (Transcript.from .client
      (run (Transcript.on Sample.servlet (Sample.setAndClear.map (Side.client, ·))) (Sample.session 0)
        (Stream'.const 0)).1.1) "/work/a_jsp.java" := by decide +kernel
  obtain ⟨template, -, m, hlast, hline⟩ := hiff.1 hheld
  obtain ⟨hm, ht⟩ := List.mem_filter.1 (List.mem_of_getLast? hlast)
  have hone : ∀ m ∈ Sample.setAndClear,
      (Site.ofSettings (Sample.settings 0) ⟨[]⟩ [⟨"/ws"⟩]).template? m = some ⟨"/ws/a.jsp"⟩ := by decide +kernel
  rw [decide_eq_true_eq, hone m hm] at ht
  cases ht
  have hcleared : (Sample.setAndClear.filter fun m =>
      (Site.ofSettings (Sample.settings 0) ⟨[]⟩ [⟨"/ws"⟩]).template? m = some ⟨"/ws/a.jsp"⟩).getLast? =
        some (Sample.request 2 "/ws/a.jsp" []) := by decide +kernel
  cases hcleared.symm.trans hlast
  exact absurd hline (by decide +kernel)

end Session

end TemplateDebug
