/-!
# Markers

A template engine leaves comments in the servlet it generates. Each ties the statement after it to a line of a
template. Lines count from one and fit 32 bits.
-/

namespace TemplateDebug

/-- The greatest line number. -/
def lastLine : Nat := 4294967295

/-- A comment on a line of the compiled source, the template line it names, and the reference it names the template
by, as written; a bare marker has none. -/
structure Marker where
  compiledLine : Nat
  templateLine : Nat
  templateRef : Option String
  deriving DecidableEq, Repr

/-- A line of a template, which the reference names. -/
structure TemplateLocation where
  line : Nat
  templateRef : Option String
  deriving DecidableEq, Repr

end TemplateDebug
