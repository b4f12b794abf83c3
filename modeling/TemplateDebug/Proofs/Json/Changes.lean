import Mathlib.Data.List.Forall2
import Mathlib.Data.Option.Defs
import TemplateDebug.Proofs.Json.Members
/-!
# Where values differ

Two values agree but for some members when they are equal without them. A change of a member, of a member of a member,
or of the items of a list says so, and what it does to the part that it touches.
-/

namespace TemplateDebug.Json

/-- The object without its members under the keys; other values stay. -/
def apartFrom (keys : List String) : Json → Json
  | obj members => obj (members.filter fun m => m.1 ∉ keys)
  | j => j

/-- The values differ at most in their members under the keys. -/
def AgreeBut (keys : List String) (j j' : Json) : Prop := j.apartFrom keys = j'.apartFrom keys

/-- Both have a member under the key, and the members are as `R` says. -/
def Under (key : String) (R : Json → Json → Prop) (j j' : Json) : Prop :=
  ∃ value value', j.get? key = some value ∧ j'.get? key = some value' ∧ R value value'

/-- The values differ at most under the key, where they are as `R` says. -/
structure Within (key : String) (R : Json → Json → Prop) (j j' : Json) : Prop where
  others : AgreeBut [key] j j'
  under : Under key R j j'

/-- Two lists of one length, in which each item is kept or as `R` says. -/
def EachKeptOr (R : Json → Json → Prop) (items items' : List Json) : Prop :=
  List.Forall₂ (fun i i' => i' = i ∨ R i i') items items'

variable {key : String} {keys : List String} {R : Json → Json → Prop} {j j' j'' value value' : Json}

theorem AgreeBut.trans (h : AgreeBut keys j j') (h' : AgreeBut keys j' j'') : AgreeBut keys j j'' := Eq.trans h h'

theorem filter_insertMember (h : key ∈ keys) (members : List (String × Json)) :
    (insertMember key value members).filter (fun m => m.1 ∉ keys) = members.filter fun m => m.1 ∉ keys := by
  induction members with
  | nil => simp [insertMember, h]
  | cons m members ih =>
    obtain ⟨k, v⟩ := m
    rw [insertMember]
    split
    · rename_i hk
      subst hk
      simp [h]
    · split
      · simp [h]
      · simp only [List.filter_cons, ih]

theorem agreeBut_set (h : key ∈ keys) (j value : Json) : AgreeBut keys j (j.set key value) := by
  cases j with
  | obj members => exact congrArg obj (filter_insertMember h members).symm
  | _ => rfl

theorem agreeBut_erase (h : key ∈ keys) (j : Json) : AgreeBut keys j (j.erase key) := by
  cases j with
  | obj members =>
    refine congrArg obj ?_
    rw [List.filter_filter]
    refine (List.filter_congr fun m _ => ?_).symm
    by_cases hk : m.1 = key
    · simp [hk, h]
    · simp [hk]
  | _ => rfl

theorem within_set (h : j.get? key = some value) (hR : R value value') : Within key R j (j.set key value') where
  others := agreeBut_set (List.mem_singleton.2 rfl) j value'
  under := ⟨value, value', h, get?_set (isObject_of_get? h), hR⟩

/-- Lists are the same, or an item is changed. -/
theorem EachKeptOr.eq_or_exists {items items' : List Json} (h : EachKeptOr R items items') :
    items' = items ∨ ∃ x ∈ items.zip items', R x.1 x.2 := by
  induction h with
  | nil => exact .inl rfl
  | cons hi _ ih =>
    rename_i i i' items items' _
    rcases hi with rfl | hR
    · rcases ih with rfl | ⟨x, hx, hR⟩
      · exact .inl rfl
      · exact .inr ⟨x, List.mem_cons_of_mem _ hx, hR⟩
    · exact .inr ⟨(i, i'), List.mem_cons_self, hR⟩

end TemplateDebug.Json

/-! ## Lines and sources -/

namespace TemplateDebug.Dap

open Json (AgreeBut agreeBut_set agreeBut_erase)

variable {keys : List String}

/-- The sources differ at most in what names a file. -/
def SourceMoved : Json → Json → Prop := AgreeBut ["name", "path", "sourceReference"]

theorem sourceMoved_setSourcePath (p : Path) (source : Json) : SourceMoved source (setSourcePath p source) := by
  unfold setSourcePath
  refine AgreeBut.trans ?_ (agreeBut_erase (by simp) _)
  refine AgreeBut.trans ?_ (agreeBut_set (by simp) _ _)
  cases p.fileName? with
  | none => rfl
  | some name => exact agreeBut_set (by simp) _ _

theorem agreeBut_setSource (h : "source" ∈ keys) (p : Path) (j : Json) : AgreeBut keys j (setSource p j) := by
  unfold setSource
  split
  · exact agreeBut_set h j _
  · rfl

theorem agreeBut_setLine (h : "line" ∈ keys) (line : Nat) (j : Json) : AgreeBut keys j (setLine line j) :=
  agreeBut_set h j _

theorem rel_sourceMoved (p : Path) (source? : Option Json) :
    Option.Rel SourceMoved source? (source?.map (setSourcePath p)) := by
  cases source? with
  | none => exact .none
  | some source => exact .some (sourceMoved_setSourcePath p source)

end TemplateDebug.Dap
