import TemplateDebug.Proofs.Marker.Floor
import TemplateDebug.Proofs.Text.Lines
/-!
# Markers line by line

A line holds its marker whatever stands before it; only the number of the line counts what does. So a text after whole
lines keeps its markers, further down, and where those lines hold no marker, all lines are mapped as before, further
down on the compiled side.
-/

namespace TemplateDebug.Marker

variable {markers : Array Marker} {refs : List String} {line number n : Nat} {m : Marker} {ls ls' : List (List Char)}

/-- The marker, `n` lines further down. -/
def moveDown (n : Nat) (m : Marker) : Marker := { m with compiledLine := m.compiledLine + n }

/-- The markers of lines, the first of which has this number. -/
def ofLines (number : Nat) (ls : List (List Char)) : List Marker :=
  (ls.zipIdx number).filterMap fun l => ofLine? l.1 l.2

/-! ## Numbered lines -/

theorem parseList_eq (text : String) : parseList text = ofLines 1 ((Text.lines text.toList).take lastLine) := rfl

theorem ofLine?_add (line : List Char) (number n : Nat) :
    ofLine? line (number + n) = (ofLine? line number).map (moveDown n) := by
  unfold ofLine?
  split
  · cases reading? line with
    | none => rfl
    | some r => cases h : lineNumber? r.digits <;> simp [h, moveDown]
  · rfl

theorem ofLines_cons (number : Nat) (l : List Char) (ls : List (List Char)) :
    ofLines number (l :: ls) = (ofLine? l number).toList ++ ofLines (number + 1) ls := by
  rw [ofLines, List.zipIdx_cons, List.filterMap_cons]
  cases ofLine? l number <;> rfl

theorem ofLines_append (number : Nat) (ls ls' : List (List Char)) :
    ofLines number (ls ++ ls') = ofLines number ls ++ ofLines (number + ls.length) ls' := by
  rw [ofLines, List.zipIdx_append, List.filterMap_append]
  rfl

theorem ofLines_add (number n : Nat) (ls : List (List Char)) :
    ofLines (number + n) ls = (ofLines number ls).map (moveDown n) := by
  induction ls generalizing number with
  | nil => rfl
  | cons l ls ih =>
    rw [ofLines_cons, ofLines_cons, List.map_append, ofLine?_add, ← ih, Nat.add_right_comm]
    cases ofLine? l number <;> rfl

/-- A text after whole lines has their markers and then its own, further down by as many lines. -/
theorem parse_append_eq {a b : String} (ha : Text.WholeLines a.toList)
    (hlines : (Text.lines (a ++ b).toList).length ≤ lastLine) :
    parse (a ++ b) = parse a ++ (parse b).map (moveDown (Text.lines a.toList).length) := by
  rw [String.toList_append, Text.lines_append ha] at hlines
  have hlist : parseList (a ++ b) = parseList a ++ (parseList b).map (moveDown (Text.lines a.toList).length) := by
    rw [List.length_append] at hlines
    rw [parseList_eq, parseList_eq, parseList_eq, String.toList_append, Text.lines_append ha,
      List.take_of_length_le (by rwa [List.length_append]), List.take_of_length_le (by omega),
      List.take_of_length_le (by omega), ofLines_append, ofLines_add]
  simp only [parse, hlist, List.append_toArray, List.map_toArray]

/-! ## Mapping further down -/

theorem later_moveDown (n : Nat) (a b : Marker) : later (a.moveDown n) (b.moveDown n) = (later a b).moveDown n := by
  have hsame : atMost (a.moveDown n) (b.moveDown n) = atMost a b := by
    rw [Bool.eq_iff_iff, atMost_iff, atMost_iff]
    simp [moveDown]
  rw [later, later, hsame]
  split <;> rfl

theorem foldl_later_moveDown (n : Nat) (l : List Marker) : ∀ best : Option Marker,
    (l.map (moveDown n)).foldl (fun best m => some (match best with | some b => later b m | none => m))
        (best.map (moveDown n)) =
      (l.foldl (fun best m => some (match best with | some b => later b m | none => m)) best).map (moveDown n) := by
  induction l with
  | nil => exact fun _ => rfl
  | cons m l ih =>
    intro best
    rw [List.map_cons, List.foldl_cons, List.foldl_cons, ← ih]
    cases best with
    | none => rfl
    | some b => simp only [Option.map_some, later_moveDown]

theorem chosen?_moveDown (markers : Array Marker) (refs : List String) (line n : Nat) :
    chosen? (markers.map (moveDown n)) refs line = (chosen? markers refs line).map (moveDown n) := by
  rw [chosen?, chosen?, Array.toList_map, List.filter_map]
  exact foldl_later_moveDown n _ none

/-- Where the last line is still far enough, a breakpoint moves down with the markers. -/
theorem breakpointLine?_moveDown (hlast : ∀ m ∈ markers, m.compiledLine + n < lastLine) :
    breakpointLine? (markers.map (moveDown n)) refs line = (breakpointLine? markers refs line).map (· + n) := by
  rw [breakpointLine?, breakpointLine?, chosen?_moveDown]
  cases hm : chosen? markers refs line with
  | none => rfl
  | some m =>
    have hlt := hlast m (chosen?_spec hm).1.1
    have hlt' : m.compiledLine < lastLine := by omega
    simp [moveDown, hlt, hlt', Nat.add_right_comm]

theorem Ascending.moveDown (hs : Ascending markers) (n : Nat) : Ascending (markers.map (moveDown n)) := by
  rw [Ascending, Array.toList_map, List.pairwise_map]
  exact hs.imp fun h => Nat.add_le_add_right h n

theorem locationOf?_moveDown (hs : Ascending markers) (line n : Nat) :
    locationOf? (markers.map (moveDown n)) (line + n) = locationOf? markers line := by
  rw [((hs.moveDown n).mapsToFloor _).location, (hs.mapsToFloor _).location, Array.findRev?_eq_find?_reverse,
    Array.findRev?_eq_find?_reverse, ← Array.map_reverse, Array.find?_map, Option.map_map]
  simp [Function.comp_def, TemplateDebug.Marker.moveDown]

/-- A text after whole lines has the markers of those lines and then its own, further down by as many lines. If those
lines hold no marker, a breakpoint goes on the line it went on, further down, a line of the text belongs to the template
line it belonged to, and the lines before belong to none. -/
theorem parse_append {a b : String} (ha : a = "" ∨ a.toList.getLast? = some '\n')
    (hlines : (Text.lines (a ++ b).toList).length < lastLine) :
    parse (a ++ b) = parse a ++ (parse b).map (moveDown (Text.lines a.toList).length) ∧
      (parse a = #[] → ∀ (refs : List String) (line : Nat),
        breakpointLine? (parse (a ++ b)) refs line =
            (breakpointLine? (parse b) refs line).map (· + (Text.lines a.toList).length) ∧
          locationOf? (parse (a ++ b)) (line + (Text.lines a.toList).length) = locationOf? (parse b) line ∧
          (line ≤ (Text.lines a.toList).length → locationOf? (parse (a ++ b)) line = none)) := by
  have hwhole : Text.WholeLines a.toList := ha.imp_left fun h => by rw [h]; rfl
  have happend := parse_append_eq hwhole (Nat.le_of_lt hlines)
  rw [String.toList_append, Text.lines_append hwhole, List.length_append] at hlines
  refine ⟨happend, fun hnone refs line => ?_⟩
  have hs := (sorted_parse b).ascending
  rw [happend, hnone, Array.empty_append]
  refine ⟨breakpointLine?_moveDown fun m hm => ?_, locationOf?_moveDown hs line _, fun hle => ?_⟩
  · have := compiledLine_le_of_mem_parse hm
    omega
  · refine ((hs.moveDown _).mapsToFloor line).none_iff.2 fun _ hmoved => ?_
    obtain ⟨m, hm, rfl⟩ := Array.mem_map.1 hmoved
    have hpos := compiledLine_pos_of_mem_parse hm
    simp only [moveDown]
    omega

namespace Sample

/-- Two lines without a marker. -/
def header : String := "package shop;\r\n\n"

/-- A marker below one line. -/
def body : String := "import shop;\n// line 5 \"/a.jsp\"\n"

end Sample

/-- The lines of the body below two more: its marker moves from the second line to the fourth. -/
theorem parse_append_header :
    (Sample.header = "" ∨ Sample.header.toList.getLast? = some '\n') ∧
      (Text.lines (Sample.header ++ Sample.body).toList).length < lastLine ∧
      parse (Sample.header ++ Sample.body) = #[⟨4, 5, some "/a.jsp"⟩] ∧ parse Sample.header = #[] ∧
      breakpointLine? (parse (Sample.header ++ Sample.body)) ["/a.jsp"] 7 = some 5 ∧
      locationOf? (parse (Sample.header ++ Sample.body)) (2 + 2) = some ⟨5, some "/a.jsp"⟩ ∧
      locationOf? (parse (Sample.header ++ Sample.body)) 2 = none := by
  have hwhole : Sample.header = "" ∨ Sample.header.toList.getLast? = some '\n' := .inr (by decide)
  have hlines : (Text.lines (Sample.header ++ Sample.body).toList).length < lastLine := by decide +kernel
  have hbody : parse Sample.body = #[⟨2, 5, some "/a.jsp"⟩] := by decide +kernel
  have hcount : (Text.lines Sample.header.toList).length = 2 := by decide +kernel
  obtain ⟨happend, hmoved⟩ := parse_append hwhole hlines
  have hnone : parse Sample.header = #[] := by decide +kernel
  have hseven := (hmoved hnone ["/a.jsp"] 7).1
  obtain ⟨-, htwo, hbefore⟩ := hmoved hnone ["/a.jsp"] 2
  rw [hcount, hbody] at happend hseven htwo
  rw [hnone] at happend
  exact ⟨hwhole, hlines, happend.trans (by simp [moveDown]), hnone, hseven.trans (by decide +kernel),
    htwo.trans (by decide +kernel), hbefore (Nat.le_of_eq hcount.symm)⟩

end TemplateDebug.Marker
