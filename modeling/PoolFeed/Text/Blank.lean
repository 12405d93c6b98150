/-!
# White space

The characters with the Unicode property White_Space, and trimming by it. `Char.isWhitespace`
knows only the ASCII ones.

## Main statements

* `trim_eq_self_iff` — trimming leaves a text alone exactly when no blank stands at its ends
* `trim_trim` — trimming twice is trimming once
-/

namespace PoolFeed.Text

/-- The characters with the property White_Space. -/
def isBlank (c : Char) : Bool :=
  let n := c.toNat
  (0x09 ≤ n && n ≤ 0x0D) || n == 0x20 || n == 0x85 || n == 0xA0 || n == 0x1680
    || (0x2000 ≤ n && n ≤ 0x200A) || n == 0x2028 || n == 0x2029 || n == 0x202F || n == 0x205F
    || n == 0x3000

def trimFront (cs : List Char) : List Char := cs.dropWhile isBlank

/-- Drops the blanks at the end. -/
def trimBack (cs : List Char) : List Char := (trimFront cs.reverse).reverse

/-- Drops the blanks at both ends. -/
def trim (cs : List Char) : List Char := trimBack (trimFront cs)

/-- A text without the blanks at its ends. -/
def trimmed (s : String) : String := String.ofList (trim s.toList)

theorem trimFront_eq_self_iff {cs : List Char} :
    trimFront cs = cs ↔ ∀ c ∈ cs.head?, isBlank c = false := by
  cases cs with
  | nil => simp [trimFront]
  | cons c rest =>
    by_cases h : isBlank c
    · have : (trimFront (c :: rest)).length ≤ rest.length := by
        rw [trimFront, List.dropWhile_cons_of_pos h]
        exact (List.dropWhile_suffix _).length_le
      have hne : trimFront (c :: rest) ≠ c :: rest := by
        intro he
        rw [he] at this
        exact absurd this (by simp)
      simp [hne, h]
    · simp [trimFront, h]

theorem head?_trimFront (cs : List Char) : ∀ c ∈ (trimFront cs).head?, isBlank c = false := by
  intro c hc
  unfold trimFront at hc
  induction cs with
  | nil => simp at hc
  | cons d rest ih =>
    by_cases h : isBlank d
    · rw [List.dropWhile_cons_of_pos h] at hc
      exact ih hc
    · rw [List.dropWhile_cons_of_neg h] at hc
      simp only [List.head?_cons, Option.mem_def, Option.some.injEq] at hc
      subst hc
      simpa using h

theorem trimBack_eq_self_iff {cs : List Char} :
    trimBack cs = cs ↔ ∀ c ∈ cs.getLast?, isBlank c = false := by
  rw [trimBack, List.reverse_eq_iff, trimFront_eq_self_iff, List.head?_reverse]

theorem getLast?_trimBack (cs : List Char) : ∀ c ∈ (trimBack cs).getLast?, isBlank c = false := by
  rw [trimBack, List.getLast?_reverse]
  exact head?_trimFront _

theorem isPrefix_trimBack (cs : List Char) : trimBack cs <+: cs := by
  have h : trimFront cs.reverse <:+ cs.reverse := List.dropWhile_suffix _
  have h' := List.reverse_prefix.mpr h
  rwa [List.reverse_reverse] at h'

/-- A text is left alone exactly when no blank stands at its ends. -/
theorem trim_eq_self_iff {cs : List Char} :
    trim cs = cs ↔
      (∀ c ∈ cs.head?, isBlank c = false) ∧ (∀ c ∈ cs.getLast?, isBlank c = false) := by
  constructor
  · intro h
    have hback : ∀ c ∈ cs.getLast?, isBlank c = false := by
      rw [← h]
      exact getLast?_trimBack _
    have hlen : cs.length ≤ (trimFront cs).length := by
      have := (isPrefix_trimBack (trimFront cs)).length_le
      rw [show trimBack (trimFront cs) = cs from h] at this
      exact this
    have hfront : trimFront cs = cs := (List.dropWhile_suffix _).eq_of_length_le hlen
    exact ⟨trimFront_eq_self_iff.mp hfront, hback⟩
  · rintro ⟨hf, hb⟩
    rw [trim, trimFront_eq_self_iff.mpr hf, trimBack_eq_self_iff.mpr hb]

/-- **Trimming twice is trimming once.** -/
theorem trim_trim (cs : List Char) : trim (trim cs) = trim cs := by
  refine trim_eq_self_iff.mpr ⟨?_, getLast?_trimBack _⟩
  intro c hc
  have hpre : trimBack (trimFront cs) <+: trimFront cs := isPrefix_trimBack _
  obtain ⟨tail, htail⟩ := hpre
  refine head?_trimFront cs c ?_
  rw [← htail]
  unfold trim at hc
  cases h : trimBack (trimFront cs) with
  | nil => simp [h] at hc
  | cons d rest => simpa [h] using hc

end PoolFeed.Text
