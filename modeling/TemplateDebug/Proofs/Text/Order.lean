import Mathlib.Tactic.SplitIfs
import TemplateDebug.Text.Utf8
/-!
# The order of UTF-8

Texts and their bytes have the same order: of two characters the greater has the greater first byte, or the same one
and then greater bytes after it.
-/

namespace TemplateDebug.Utf8

theorem encode_eq_flatMap (s : String) : encode s = s.toList.flatMap String.utf8EncodeChar := by
  obtain ⟨cs, rfl⟩ : ∃ cs, s = String.ofList cs := ⟨s.toList, by simp⟩
  simp only [encode, String.toUTF8_eq_toByteArray, String.toByteArray_ofList, List.utf8Encode,
    List.data_toByteArray, String.toList_ofList]

theorem ofNat_inj {m n : Nat} (hm : m < 256) (hn : n < 256) : UInt8.ofNat m = UInt8.ofNat n ↔ m = n := by
  rw [← UInt8.toNat_inj, UInt8.toNat_ofNat_of_lt' hm, UInt8.toNat_ofNat_of_lt' hn]

/-- The bytes of a greater character are greater, whatever follows. -/
theorem utf8EncodeChar_lt {c d : Char} (h : c < d) (s t : Bytes) :
    String.utf8EncodeChar c ++ s < String.utf8EncodeChar d ++ t := by
  have hcd : c.val.toNat < d.val.toNat := h
  have hbound : d.val.toNat < 0x110000 := by
    have hvalid := d.valid
    simp only [UInt32.isValidChar, Nat.isValidChar] at hvalid
    omega
  unfold String.utf8EncodeChar
  dsimp only
  generalize c.val.toNat = x at *
  generalize d.val.toNat = y at *
  -- each byte but the last has the bits above those of the byte after it
  have hsix : x / 64 ≤ y / 64 := by omega
  have htwelve : x / 64 / 64 ≤ y / 64 / 64 := by omega
  have heighteen : x / 64 / 64 / 64 ≤ y / 64 / 64 / 64 := by omega
  have hfirst : y / 64 / 64 / 64 < 8 := by omega
  have hdiv : ∀ z : Nat, z / 4096 = z / 64 / 64 ∧ z / 262144 = z / 64 / 64 / 64 := by omega
  have hsize : UInt8.size = 256 := rfl
  simp only [hdiv]
  split_ifs <;> try (exfalso; omega)
  all_goals
    simp only [List.cons_append, List.nil_append, List.cons_lt_cons_iff]
    simp (disch := omega) only [UInt8.ofNat_lt_iff_lt, ofNat_inj]
    omega

/-- The bytes of a greater text are greater. -/
theorem encode_lt {s t : String} (h : s < t) : encode s < encode t := by
  rw [encode_eq_flatMap, encode_eq_flatMap]
  rw [String.lt_iff] at h
  generalize s.toList = cs at h ⊢
  generalize t.toList = ds at h ⊢
  induction h with
  | @nil d ds =>
    have hd : String.utf8EncodeChar d ≠ [] := by
      rw [← List.length_pos_iff, String.length_utf8EncodeChar]
      exact d.utf8Size_pos
    obtain ⟨b, bs, hb⟩ := List.exists_cons_of_ne_nil hd
    rw [List.flatMap_cons, hb]
    exact List.nil_lt_cons _ _
  | cons h ih => exact List.append_left_lt ih
  | rel h => exact utf8EncodeChar_lt h _ _

end TemplateDebug.Utf8
