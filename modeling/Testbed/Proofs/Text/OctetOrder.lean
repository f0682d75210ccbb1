import Mathlib.Data.String.Basic
import Testbed.Text.Utf8

/-!
# The order of texts in octets

**Theorem (`encode_lt_encode_iff`).** Texts are in the order of their octets: comparing two texts
character by character and comparing their UTF-8 octet by octet give the same answer.

A smaller character has a smaller octet where the octets of two characters first differ, whatever
follows them (`encodeChar_append_lt`). The rest is an induction on the characters that both texts
begin with.
-/

namespace Testbed.Utf8

open String (utf8EncodeChar)

/-- **A smaller character has smaller octets**, whatever is written behind the two. -/
theorem encodeChar_append_lt {c d : Char} (h : c < d) (bs bs' : Bytes) :
    utf8EncodeChar c ++ bs < utf8EncodeChar d ++ bs' := by
  have hlt : c.val.toNat < d.val.toNat := h
  have hmax : d.val.toNat < 64 * 64 * 64 * 8 := by
    rcases d.valid with h | h <;> omega
  unfold utf8EncodeChar
  simp only
  generalize c.val.toNat = m at hlt ⊢
  generalize d.val.toNat = n at hlt hmax ⊢
  -- Each octet behind the first takes six bits off the upper ones.
  simp only [show 4096 = 64 * 64 from rfl, show 262144 = 64 * (64 * 64) from rfl,
    ← Nat.div_div_eq_div_mul]
  split_ifs <;>
    simp only [List.cons_append, List.cons_lt_cons_iff, UInt8.lt_iff_toNat_lt, ← UInt8.toNat_inj,
      UInt8.toNat_ofNat'] <;>
    omega

theorem flatMap_encodeChar_lt {cs ds : List Char} (h : cs < ds) :
    cs.flatMap utf8EncodeChar < ds.flatMap utf8EncodeChar := by
  induction cs generalizing ds with
  | nil =>
    cases ds with
    | nil => exact absurd h (List.lt_irrefl _)
    | cons d ds =>
      have hne : utf8EncodeChar d ≠ [] := String.utf8EncodeChar_ne_nil
      obtain ⟨b, bs, hd⟩ := List.exists_cons_of_ne_nil hne
      rw [List.flatMap_cons, hd]
      exact List.nil_lt_cons _ _
  | cons c cs ih =>
    cases ds with
    | nil => cases h
    | cons d ds =>
      rw [List.flatMap_cons, List.flatMap_cons]
      rcases List.cons_lt_cons_iff.mp h with hcd | ⟨rfl, hrest⟩
      · exact encodeChar_append_lt hcd _ _
      · exact List.append_left_lt (ih hrest)

/-- **The order of texts is that of their octets.** -/
theorem encode_lt_encode_iff {s t : String} : encode s < encode t ↔ s < t := by
  have hlt {s t : String} (h : s < t) : encode s < encode t :=
    flatMap_encodeChar_lt (String.lt_iff_toList_lt.mp h)
  refine ⟨fun h => ?_, hlt⟩
  by_contra hnot
  rcases eq_or_lt_of_le (not_lt.mp hnot) with rfl | hts
  · exact List.lt_irrefl _ h
  · exact List.lt_asymm h (hlt hts)

end Testbed.Utf8
