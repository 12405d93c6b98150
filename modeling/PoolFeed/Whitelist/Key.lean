import PoolFeed.Text.Blank

/-!
# Pool keys

A pool is known by its address. Spellings that differ in the blanks around the address or in the
case of its ASCII letters name the same pool.

## Main statements

* `normalizeKey_normalizeKey` — a normal spelling is its own normal spelling
-/

namespace PoolFeed

open Text

/-- The normal spelling of a key: no blanks at its ends, ASCII letters in lower case. -/
def normalizeKey (raw : String) : String :=
  String.ofList ((trim raw.toList).map Char.toLower)

/-! ## Lower case and blanks -/

theorem toNat_toLower {c : Char} (h : c.val ≥ 'A'.val ∧ c.val ≤ 'Z'.val) :
    c.toLower.toNat = c.toNat + 32 := by
  have hle : c.toNat ≤ 90 := h.2
  unfold Char.toLower
  rw [dif_pos h]
  show (c.val + 32).toNat = c.toNat + 32
  rw [UInt32.toNat_add]
  show (c.toNat + 32) % 2 ^ 32 = c.toNat + 32
  omega

theorem toLower_toLower (c : Char) : c.toLower.toLower = c.toLower := by
  by_cases h : c.val ≥ 'A'.val ∧ c.val ≤ 'Z'.val
  · have hge : 65 ≤ c.toNat := h.1
    have hn := toNat_toLower h
    have hnot : ¬ (c.toLower.val ≥ 'A'.val ∧ c.toLower.val ≤ 'Z'.val) := by
      intro hl
      have : c.toLower.toNat ≤ 90 := hl.2
      omega
    generalize c.toLower = d at hnot ⊢
    unfold Char.toLower
    rw [dif_neg hnot]
  · have : c.toLower = c := by
      unfold Char.toLower
      rw [dif_neg h]
    rw [this, this]

theorem isBlank_toLower (c : Char) : isBlank c.toLower = isBlank c := by
  by_cases h : c.val ≥ 'A'.val ∧ c.val ≤ 'Z'.val
  · have hge : 65 ≤ c.toNat := h.1
    have hle : c.toNat ≤ 90 := h.2
    unfold isBlank
    rw [toNat_toLower h]
    simp
    grind
  · unfold Char.toLower
    rw [dif_neg h]

/-- **A normal spelling is its own normal spelling.** -/
theorem normalizeKey_normalizeKey (raw : String) :
    normalizeKey (normalizeKey raw) = normalizeKey raw := by
  have hends := trim_eq_self_iff.mp (trim_trim raw.toList)
  have htrim : trim ((trim raw.toList).map Char.toLower) = (trim raw.toList).map Char.toLower := by
    refine trim_eq_self_iff.mpr ⟨?_, ?_⟩
    · intro c hc
      rw [List.head?_map] at hc
      obtain ⟨d, hd, rfl⟩ := Option.map_eq_some_iff.mp hc
      rw [isBlank_toLower]
      exact hends.1 d hd
    · intro c hc
      rw [List.getLast?_map] at hc
      obtain ⟨d, hd, rfl⟩ := Option.map_eq_some_iff.mp hc
      rw [isBlank_toLower]
      exact hends.2 d hd
  unfold normalizeKey
  rw [String.toList_ofList, htrim, List.map_map]
  congr 1
  exact List.map_congr_left fun c _ => toLower_toLower c

end PoolFeed
