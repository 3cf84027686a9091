import TagSearch.Predicate.Like

/-!
# Characters in patterns

A pattern takes a letter for the same letter in the other ASCII case, and the replacement character and the
two code points behind it for one another.  All other characters it tells apart
(`toLower_eq_of_likeForm_eq`).
-/

namespace TagSearch

/-- A pattern takes the character for another one. -/
def isConfusable (c : Char) : Bool := c == '\ufffd' || c == '\ufffe' || c == '\uffff'

theorem eq_of_toLower_eq {c d : Char} (hd : d.isLower = false) (h : c.toLower = d) : c = d := by
  unfold Char.toLower at h
  split at h
  · next hc =>
    have hlow : 65 ≤ c.val.toNat := UInt32.le_iff_toNat_le.1 hc.1
    have hhigh : c.val.toNat ≤ 90 := UInt32.le_iff_toNat_le.1 hc.2
    have hn := congrArg UInt32.toNat (congrArg Char.val h)
    rw [UInt32.toNat_add, show ('a'.val - 'A'.val).toNat = 32 from rfl] at hn
    have hd : (decide (d.val ≥ 'a'.val) && decide (d.val ≤ 'z'.val)) = false := hd
    simp only [Bool.and_eq_false_iff, decide_eq_false_iff_not, ge_iff_le,
      UInt32.le_iff_toNat_le, show 'a'.val.toNat = 97 from rfl,
      show 'z'.val.toNat = 122 from rfl] at hd
    omega
  · exact h

theorem toLower_eq_of_likeForm_eq {p c : Char} (h : likeForm p = likeForm c)
    (hc : isConfusable c = false) : p.toLower = c.toLower := by
  simp only [isConfusable, Bool.or_eq_false_iff, beq_eq_false_iff_ne] at hc
  obtain ⟨⟨h1, h2⟩, h3⟩ := hc
  simp only [likeForm, beq_eq_false_iff_ne.2 h2, beq_eq_false_iff_ne.2 h3, Bool.or_self] at h
  split at h
  · exact absurd (eq_of_toLower_eq (by decide) h.symm) h1
  · exact h

end TagSearch
