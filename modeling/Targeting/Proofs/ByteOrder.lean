import Mathlib.Data.String.Basic
import Targeting.Text.Utf8

/-!
The order of text by its bytes. Texts are kept in the order of their characters, a store keeps them
in the order of their bytes; for text that has bytes the two are the same. Both write code points
one after the other, with code words that are in order themselves and none of which is a beginning
of another.
-/

namespace Targeting.Text

section Codes

variable {α : Type} [LinearOrder α]

/-- Code words that are ordered as the code points of a set are, whatever follows them. -/
structure KeepsOrder (code : Nat → List α) (valid : Nat → Prop) : Prop where
  nonempty : ∀ n, valid n → code n ≠ []
  lt : ∀ m n, valid m → valid n → m < n → ∀ u v, code m ++ u < code n ++ v

variable {code : Nat → List α} {valid : Nat → Prop}

theorem KeepsOrder.flatMap_lt (h : KeepsOrder code valid) {xs ys : List Nat}
    (hxs : ∀ n ∈ xs, valid n) (hys : ∀ n ∈ ys, valid n) (hlt : xs < ys) :
    xs.flatMap code < ys.flatMap code := by
  induction xs generalizing ys with
  | nil =>
      cases ys with
      | nil => exact absurd hlt (List.lt_irrefl [])
      | cons n ys =>
          obtain ⟨c, rest, hcode⟩ := List.exists_cons_of_ne_nil (h.nonempty n (hys n (by simp)))
          rw [List.flatMap_cons, hcode]
          exact List.nil_lt_cons c _
  | cons m xs ih =>
      cases ys with
      | nil => exact absurd hlt (List.not_lt_nil _)
      | cons n ys =>
          have hm := hxs m (by simp)
          have hn := hys n (by simp)
          rw [List.flatMap_cons, List.flatMap_cons]
          rcases List.cons_lt_cons_iff.mp hlt with hmn | ⟨rfl, hrest⟩
          · exact h.lt m n hm hn hmn _ _
          · have htail := ih (fun k hk => hxs k (by simp [hk])) (fun k hk => hys k (by simp [hk]))
              hrest
            exact List.append_left_lt htail

theorem KeepsOrder.lt_of_flatMap_lt (h : KeepsOrder code valid) {xs ys : List Nat}
    (hxs : ∀ n ∈ xs, valid n) (hys : ∀ n ∈ ys, valid n)
    (hlt : xs.flatMap code < ys.flatMap code) : xs < ys := by
  rcases lt_trichotomy xs ys with hbefore | rfl | hafter
  · exact hbefore
  · exact absurd hlt (lt_irrefl _)
  · exact absurd (hlt.trans (h.flatMap_lt hys hxs hafter)) (lt_irrefl _)

end Codes

/-- A code point that is a character. -/
def IsCharacter (n : Nat) : Prop := n ≤ lastPoint ∧ isSurrogate n = false

instance : DecidablePred IsCharacter := fun _ => inferInstanceAs (Decidable (_ ∧ _))

theorem keepsOrder_utf8Bytes : KeepsOrder utf8Bytes IsCharacter where
  nonempty := by
    intro n _
    unfold utf8Bytes
    split_ifs <;> exact List.cons_ne_nil _ _
  lt := by
    intro m n _ hn hlt u v
    have hlast := hn.1
    unfold lastPoint at hlast
    unfold utf8Bytes
    split_ifs
    all_goals
      simp only [List.cons_append, List.nil_append, List.cons_lt_cons_iff]
      omega

theorem isValidChar_of_isCharacter {n : Nat} (h : IsCharacter n) : n.isValidChar := by
  obtain ⟨hlast, hpair⟩ := h
  simp only [isSurrogate, isHighSurrogate, isLowSurrogate, Bool.or_eq_false_iff,
    Bool.and_eq_false_iff, decide_eq_false_iff_not] at hpair
  unfold lastPoint at hlast
  unfold Nat.isValidChar
  omega

theorem ofNat_lt_ofNat {m n : Nat} (hm : IsCharacter m) (hn : IsCharacter n) (h : m < n) :
    Char.ofNat m < Char.ofNat n := by
  rw [Char.lt_def, UInt32.lt_iff_toNat_lt]
  change (Char.ofNat m).toNat < (Char.ofNat n).toNat
  rwa [toNat_ofNat (isValidChar_of_isCharacter hm), toNat_ofNat (isValidChar_of_isCharacter hn)]

theorem keepsOrder_written : KeepsOrder written IsCharacter where
  nonempty := by
    intro n _
    unfold written
    split_ifs <;> exact List.cons_ne_nil _ _
  lt := by
    intro m n hm hn hlt u v
    have hfirst : Char.ofNat m < Char.ofNat n := ofNat_lt_ofNat hm hn hlt
    have hlast : m ≠ lastPoint := by
      have hle := hn.1
      omega
    by_cases hmark : n = lastPoint
    · subst hmark
      simp only [written, hm.2, hn.2, hlast, Bool.false_eq_true, if_false, if_true,
        List.cons_append, List.nil_append]
      exact List.cons_lt_cons_iff.mpr (.inl hfirst)
    · simp only [written, hm.2, hn.2, hlast, hmark, Bool.false_eq_true, if_false,
        List.cons_append, List.nil_append]
      exact List.cons_lt_cons_iff.mpr (.inl hfirst)

/-- Text that has bytes, and so can lie in a store. -/
def HasBytes (s : String) : Prop := ∃ ns, (∀ n ∈ ns, IsCharacter n) ∧ s = ofPoints ns

/-- Texts are ordered as their bytes are. -/
theorem bytesOf_lt {s t : String} (hs : HasBytes s) (ht : HasBytes t) (h : s < t) :
    bytesOf s < bytesOf t := by
  obtain ⟨xs, hxs, rfl⟩ := hs
  obtain ⟨ys, hys, rfl⟩ := ht
  have hpoints : ∀ {ns : List Nat}, (∀ n ∈ ns, IsCharacter n) → points (ofPoints ns) = ns := by
    intro ns hns
    rw [points, ofPoints, String.toList_ofList, pointsOf_flatMap_written fun n hn => (hns n hn).1]
  have hchars : xs.flatMap written < ys.flatMap written := by
    rw [String.lt_iff_toList_lt, ofPoints, ofPoints, String.toList_ofList,
      String.toList_ofList] at h
    exact h
  rw [bytesOf, bytesOf, hpoints hxs, hpoints hys]
  exact keepsOrder_utf8Bytes.flatMap_lt hxs hys (keepsOrder_written.lt_of_flatMap_lt hxs hys hchars)

end Targeting.Text
