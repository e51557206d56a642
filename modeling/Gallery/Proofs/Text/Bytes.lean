import Mathlib.Data.String.Basic
import Mathlib.Tactic

/-!
# The order of bytes

A store compares texts byte by byte in their encoded form, a list of characters
is compared by code points.  The two orders are the same: at the first character
in which two texts differ the encoded forms differ as well, and in the same
direction, whatever follows.
-/

namespace Gallery.Text

/-- The bytes of a text in its encoded form. -/
def utf8Bytes (text : String) : List UInt8 :=
  text.toUTF8.data.toList

theorem utf8Bytes_eq_flatMap (text : String) :
    utf8Bytes text = text.toList.flatMap String.utf8EncodeChar := by
  have hencoded : text.toUTF8 = text.toList.utf8Encode :=
    String.utf8Encode_toList.symm
  rw [utf8Bytes, hencoded, List.utf8Encode]
  simp

theorem byte_lt_iff {x y : ℕ} (hx : x < 256) (hy : y < 256) :
    UInt8.ofNat x < UInt8.ofNat y ↔ x < y := by
  rw [UInt8.lt_iff_toNat_lt, UInt8.toNat_ofNat', UInt8.toNat_ofNat']
  omega

theorem byte_eq_iff {x y : ℕ} (hx : x < 256) (hy : y < 256) :
    UInt8.ofNat x = UInt8.ofNat y ↔ x = y := by
  rw [← UInt8.toNat_inj, UInt8.toNat_ofNat', UInt8.toNat_ofNat']
  omega

/-- The greater of two characters has the greater encoded form, and this is so
before either form ends.  The first bytes decide unless the lengths agree. -/
theorem utf8EncodeChar_append_lt
    {c d : Char} (hlt : c < d) (left right : List UInt8) :
    String.utf8EncodeChar c ++ left < String.utf8EncodeChar d ++ right := by
  have hcd : c.val.toNat < d.val.toNat := by
    simpa [Char.lt_def, UInt32.lt_iff_toNat_lt] using hlt
  have hd : d.val.toNat < 0x110000 := by
    have hvalid := d.valid
    simp only [UInt32.isValidChar, Nat.isValidChar] at hvalid
    omega
  have htwice : ∀ n : ℕ, n / 4096 = n / 64 / 64 := fun n => by omega
  have hthrice : ∀ n : ℕ, n / 262144 = n / 64 / 64 / 64 := fun n => by omega
  unfold String.utf8EncodeChar
  generalize c.val.toNat = x at *
  generalize d.val.toNat = y at *
  simp only [htwice, hthrice]
  split_ifs <;>
    simp only [List.cons_append, List.nil_append, List.cons_lt_cons_iff] <;>
    (repeat rw [byte_lt_iff (by omega) (by omega)]) <;>
    (repeat rw [byte_eq_iff (by omega) (by omega)]) <;>
    omega

theorem nil_lt_utf8EncodeChar_append (c : Char) (rest : List UInt8) :
    [] < String.utf8EncodeChar c ++ rest := by
  have hlength : 0 < (String.utf8EncodeChar c).length := by
    rw [String.length_utf8EncodeChar]
    exact Char.utf8Size_pos c
  obtain ⟨byte, bytes, hbytes⟩ := List.exists_cons_of_length_pos hlength
  rw [hbytes]
  exact List.nil_lt_cons ..

theorem flatMap_utf8EncodeChar_lt {left right : List Char} (hlt : left < right) :
    left.flatMap String.utf8EncodeChar < right.flatMap String.utf8EncodeChar := by
  induction left generalizing right with
  | nil =>
      cases right with
      | nil => simp at hlt
      | cons d right => exact nil_lt_utf8EncodeChar_append d _
  | cons c left ih =>
      cases right with
      | nil => simp at hlt
      | cons d right =>
          rw [List.flatMap_cons, List.flatMap_cons]
          rcases List.cons_lt_cons_iff.1 hlt with hhead | ⟨rfl, htail⟩
          · exact utf8EncodeChar_append_lt hhead _ _
          · exact List.append_left_lt (ih htail)

theorem utf8Bytes_lt_iff {a b : String} : utf8Bytes a < utf8Bytes b ↔ a < b := by
  have hmono : ∀ {a b : String}, a < b → utf8Bytes a < utf8Bytes b := by
    intro a b hlt
    rw [utf8Bytes_eq_flatMap, utf8Bytes_eq_flatMap]
    exact flatMap_utf8EncodeChar_lt hlt
  constructor
  · intro hbytes
    rcases lt_trichotomy a b with hlt | rfl | hgt
    · exact hlt
    · exact absurd hbytes (List.lt_irrefl _)
    · exact absurd hbytes (List.lt_asymm (hmono hgt))
  · exact hmono

end Gallery.Text
