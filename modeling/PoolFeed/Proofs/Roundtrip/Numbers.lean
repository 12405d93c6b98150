import Mathlib
import PoolFeed.Proofs.Roundtrip.Strings

/-!
# Numbers read back

A number is read off the front of a text as it is read alone, if what follows it cannot be part of
a number. Whole numbers that fit 64 bits are read back from their decimal digits.

## Main statements

* `readNumber_append` — what follows a number does not change it
* `Number.readsBack_integer` — whole numbers read back
-/

namespace PoolFeed.Json

open Text (Bytes byte encode)

/-! ## Numbers in front of other text -/

/-- Whether a number ends where a text begins. -/
def EndsNumber (s : Bytes) : Prop :=
  ∀ b ∈ s.head?, isDigit b = false ∧ b ≠ byte '.' ∧ b ≠ byte 'e' ∧ b ≠ byte 'E'

theorem digits_append {s rest : Bytes} (hr : EndsNumber rest) :
    digits (s ++ rest) = ((digits s).1, (digits s).2 ++ rest) := by
  induction s with
  | nil =>
    cases rest with
    | nil => rfl
    | cons b rest =>
      have hb := (hr b rfl).1
      simp [digits, hb]
  | cons b s ih =>
    by_cases hb : isDigit b = true
    · simp only [digits, List.cons_append, List.takeWhile_cons_of_pos hb,
        List.dropWhile_cons_of_pos hb, Prod.mk.injEq, List.cons.injEq, true_and] at ih ⊢
      exact ih
    · simp [digits, hb]

theorem someDigits_append {s rest ds r : Bytes} (hr : EndsNumber rest)
    (h : someDigits s = .ok (ds, r)) : someDigits (s ++ rest) = .ok (ds, r ++ rest) := by
  cases s with
  | nil => cases h
  | cons b s =>
    simp only [someDigits, List.cons_append] at h ⊢
    split at h
    · next hb =>
      rw [if_pos hb, ← List.cons_append, digits_append hr]
      cases h
      rfl
    · cases h

theorem scanWhole_append {s rest ds r : Bytes} (hr : EndsNumber rest)
    (h : scanWhole s = .ok (ds, r)) : scanWhole (s ++ rest) = .ok (ds, r ++ rest) := by
  cases s with
  | nil => cases h
  | cons b s =>
    simp only [scanWhole, List.cons_append] at h ⊢
    split at h
    · next hb =>
      rw [if_pos hb]
      cases s with
      | nil =>
        cases h
        cases rest with
        | nil => rfl
        | cons c rest => simp [(hr c rfl).1]
      | cons c s =>
        simp only [List.cons_append] at h ⊢
        split at h
        · cases h
        · next hc =>
          cases h
          rw [if_neg hc]
          rfl
    · next hb =>
      rw [if_neg hb, ← List.cons_append]
      exact someDigits_append hr h

theorem scanPlaces_append {s rest r : Bytes} {ds : Option Bytes} (hr : EndsNumber rest)
    (h : scanPlaces s = .ok (ds, r)) : scanPlaces (s ++ rest) = .ok (ds, r ++ rest) := by
  cases s with
  | nil =>
    cases h
    cases rest with
    | nil => rfl
    | cons b rest => simp [scanPlaces, (hr b rfl).2.1]
  | cons b s =>
    simp only [scanPlaces, List.cons_append] at h ⊢
    split at h
    · next hb =>
      rw [if_pos hb]
      split at h
      · cases h
      · next hd =>
        cases h
        rw [someDigits_append hr hd]
    · next hb =>
      cases h
      rw [if_neg hb]
      rfl

theorem exponentSign_append {s rest : Bytes} (hs : s ≠ []) :
    exponentSign (s ++ rest) = ((exponentSign s).1, (exponentSign s).2 ++ rest) := by
  cases s with
  | nil => exact absurd rfl hs
  | cons b s =>
    simp only [exponentSign, List.cons_append]
    split
    · rfl
    · split <;> rfl

theorem scanExponent_append {s rest r : Bytes} {e : Option Int} (hr : EndsNumber rest)
    (h : scanExponent s = .ok (e, r)) : scanExponent (s ++ rest) = .ok (e, r ++ rest) := by
  cases s with
  | nil =>
    cases h
    cases rest with
    | nil => rfl
    | cons b rest => simp [scanExponent, (hr b rfl).2.2.1, (hr b rfl).2.2.2]
  | cons b s =>
    simp only [scanExponent, List.cons_append] at h ⊢
    split at h
    · next hb =>
      rw [if_pos hb]
      split at h
      · cases h
      · next hd =>
        have hs : s ≠ [] := by
          rintro rfl
          cases hd
        cases h
        rw [exponentSign_append hs]
        simp only
        rw [someDigits_append hr hd]
    · next hb =>
      cases h
      rw [if_neg hb]
      rfl

theorem scanNumber_append {negative : Bool} {s rest r : Bytes} {n : NumberText}
    (hr : EndsNumber rest) (h : scanNumber negative s = .ok (n, r)) :
    scanNumber negative (s ++ rest) = .ok (n, r ++ rest) := by
  unfold scanNumber at h ⊢
  split at h
  · cases h
  · next h₁ =>
    rw [scanWhole_append hr h₁]
    simp only
    split at h
    · cases h
    · next h₂ =>
      rw [scanPlaces_append hr h₂]
      simp only
      split at h
      · cases h
      · next h₃ =>
        rw [scanExponent_append hr h₃]
        cases h
        rfl

/-- A number is read off the front of a text as it is read alone. -/
theorem readNumber_append {negative : Bool} {s rest r : Bytes} {n : Number}
    (hr : EndsNumber rest) (h : readNumber negative s = .ok (n, r)) :
    readNumber negative (s ++ rest) = .ok (n, r ++ rest) := by
  unfold readNumber at h ⊢
  split at h
  · cases h
  · cases h
  · next hs =>
    rw [scanNumber_append hr hs]
    simp only
    split at h
    · next hv =>
      cases h
      rfl
    · cases h

/-! ## Whole numbers -/

theorem takeDigits_concat {ds : Bytes} {b : UInt8} {m v : Nat} (h : takeDigits m ds = (v, 0))
    (hb : 10 * v + (b.toNat - (byte '0').toNat) < 2 ^ 64) :
    takeDigits m (ds ++ [b]) = (10 * v + (b.toNat - (byte '0').toNat), 0) := by
  induction ds generalizing m with
  | nil =>
    cases h
    have hbits : 10 * v + (b.toNat - (byte '0').toNat) < 1 <<< 64 := hb
    simp only [List.nil_append, takeDigits]
    rw [if_pos hbits]
  | cons d ds ih =>
    simp only [takeDigits, List.cons_append] at h ⊢
    split at h
    · next hd =>
      rw [if_pos hd]
      exact ih h
    · simp at h

theorem digit_facts : ∀ d < 10, isDigit (byte (Nat.digitChar d)) = true
    ∧ encode [Nat.digitChar d] = [byte (Nat.digitChar d)]
    ∧ (byte (Nat.digitChar d)).toNat - (byte '0').toNat = d
    ∧ (d ≠ 0 → byte (Nat.digitChar d) ≠ byte '0') := by
  decide

theorem digits_of_all {s : Bytes} (h : ∀ b ∈ s, isDigit b = true) : digits s = (s, []) := by
  have htake : (s ++ []).takeWhile isDigit = s ++ [].takeWhile isDigit :=
    List.takeWhile_append_of_pos h
  have hdrop : (s ++ []).dropWhile isDigit = [].dropWhile isDigit :=
    List.dropWhile_append_of_pos h
  rw [List.append_nil, List.takeWhile_nil, List.append_nil] at htake
  rw [List.append_nil, List.dropWhile_nil] at hdrop
  rw [digits, htake, hdrop]

/-- A text of decimal digits with the value `n`, without a zero in front of others. -/
structure IsDecimal (n : Nat) (s : Bytes) : Prop where
  digits : ∀ b ∈ s, isDigit b = true
  front : n ≠ 0 → ∀ b ∈ s.head?, b ≠ byte '0'
  zero : n = 0 → s = [byte '0']
  ne_nil : s ≠ []
  value : n < 2 ^ 64 → takeDigits 0 s = (n, 0)

namespace IsDecimal

variable {n : Nat} {s : Bytes}

theorem of_lt_ten (hn : n < 10) : IsDecimal n (encode (Nat.toDigits 10 n)) := by
  obtain ⟨hd, he, hv, hz⟩ := digit_facts n hn
  rw [Nat.toDigits_of_lt_base hn, he]
  refine ⟨by simpa using hd, by simpa using hz, ?_, by simp, fun _ => ?_⟩
  · rintro rfl
    rfl
  · simp only [takeDigits, hv]
    rw [if_pos (by omega)]
    simp

/-- A digit behind the digits in front of it. -/
theorem concat (h : IsDecimal (n / 10) s) (hn : 10 ≤ n) :
    IsDecimal n (s ++ [byte (Nat.digitChar (n % 10))]) := by
  obtain ⟨hd, -, hv, -⟩ := digit_facts (n % 10) (by omega)
  refine ⟨?_, ?_, by omega, by simp, ?_⟩
  · intro b hb
    rcases List.mem_append.mp hb with hb | hb
    · exact h.digits b hb
    · rw [List.mem_singleton.mp hb]
      exact hd
  · intro _ b hb
    rw [List.head?_append_of_ne_nil _ h.ne_nil] at hb
    exact h.front (by omega) b hb
  · intro hlt
    rw [takeDigits_concat (h.value (by omega)) (by omega), hv]
    congr 1
    omega

theorem exists_cons (h : IsDecimal n s) : ∃ b t, s = b :: t ∧ isDigit b = true := by
  obtain ⟨b, t, rfl⟩ := List.exists_cons_of_ne_nil h.ne_nil
  exact ⟨b, t, rfl, h.digits b List.mem_cons_self⟩

/-- A zero stands alone, and any other number begins with another digit. -/
theorem scanWhole_eq_self (h : IsDecimal n s) : scanWhole s = .ok (s, []) := by
  by_cases hn : n = 0
  · rw [h.zero hn]
    rfl
  · obtain ⟨b, t, rfl, hb⟩ := h.exists_cons
    unfold scanWhole
    simp only
    rw [if_neg (h.front hn b rfl), someDigits, if_pos hb, digits_of_all h.digits]

/-- The digits of a natural number are read as a number without point and exponent. -/
theorem scanNumber_eq (h : IsDecimal n s) (negative : Bool) :
    scanNumber negative s = .ok (⟨negative, s, none, none⟩, []) := by
  rw [scanNumber, h.scanWhole_eq_self]
  rfl

theorem readNumber_positive (h : IsDecimal n s) (hn : n < 2 ^ 64) :
    readNumber false s = .ok (.integer n, []) := by
  rw [readNumber, h.scanNumber_eq]
  simp [NumberText.value?, NumberText.significant, h.value hn, takeDigits]

theorem readNumber_negative (h : IsDecimal n s) (hne : n ≠ 0) (hn : n ≤ 2 ^ 63) :
    readNumber true s = .ok (.integer (-(n : Int)), []) := by
  have hle : n ≤ 9223372036854775808 := hn
  rw [readNumber, h.scanNumber_eq]
  simp [NumberText.value?, NumberText.significant, h.value (by omega), takeDigits, hne, hle]

end IsDecimal

/-- The digits of a natural number as they are written. -/
theorem isDecimal_toDigits (n : Nat) : IsDecimal n (encode (Nat.toDigits 10 n)) := by
  induction n using Nat.strongRecOn with
  | ind n ih =>
    rcases Nat.lt_or_ge n 10 with hn | hn
    · exact .of_lt_ten hn
    · obtain ⟨-, he, -⟩ := digit_facts (n % 10) (by omega)
      rw [Nat.toDigits_of_base_le (by decide) hn, Text.encode_append, he]
      exact (ih (n / 10) (by omega)).concat hn

/-! ## Numbers as values -/

theorem skipBlanks_skipBlanks (s : Bytes) : skipBlanks (skipBlanks s) = skipBlanks s := by
  unfold skipBlanks
  cases h : s.dropWhile isSpace with
  | nil => rfl
  | cons b t =>
    have hb := List.head?_dropWhile_not isSpace s
    rw [h] at hb
    rw [List.dropWhile_cons_of_neg (by simpa using hb)]

theorem skipBlanks_append {s t rest : Bytes} {b : UInt8} (h : skipBlanks s = b :: t) :
    skipBlanks (s ++ rest) = b :: (t ++ rest) := by
  unfold skipBlanks at h ⊢
  rw [List.dropWhile_append, h]
  rfl

@[simp] theorem run_valueWithin_zero : (valueWithin 0).run = valueAround none := rfl

@[simp] theorem run_valueWithin_succ (n : Nat) :
    (valueWithin (n + 1)).run = valueAround (some (valueWithin n)) := rfl

/-- The text of a number, read as a value, gives the number back. -/
def Number.ReadsBack (n : Number) : Prop :=
  (valueWithin 0).run (Text.bytesOf n.text) = .ok (.number n, [])

/-- A number is read as a value where it is read as one alone. -/
theorem valueAround_number_append {inner : Option (Reader Json)} {s rest : Bytes} {n : Number}
    (hr : EndsNumber rest) (h : valueAround none s = .ok (.number n, [])) :
    valueAround inner (s ++ rest) = .ok (.number n, rest) := by
  have other : ∀ {α : Type} {x : Except Error (α × Bytes)} {f : α × Bytes → Json × Bytes},
      (∀ p, (f p).1 ≠ .number n) → x.map f ≠ .ok (.number n, []) := by
    intro α x f hf he
    obtain ⟨p, -, hp⟩ := Except.map_eq_ok he
    exact hf p (by rw [hp])
  have word : ∀ {v : Json} {x : Except Error Bytes},
      v ≠ .number n → x.map (v, ·) ≠ .ok (.number n, []) := by
    intro v x hv he
    obtain ⟨p, -, hp⟩ := Except.map_eq_ok he
    exact hv (congrArg Prod.fst hp)
  -- What begins with another character than a number does gives no number, or nothing.
  unfold valueAround at h ⊢
  split at h
  · cases h
  · next b t hb =>
    rw [skipBlanks_append hb]
    simp only
    split at h
    · exact absurd h (word (by simp))
    next h₁ =>
    split at h
    · exact absurd h (word (by simp))
    next h₂ =>
    split at h
    · exact absurd h (word (by simp))
    next h₃ =>
    rw [if_neg h₁, if_neg h₂, if_neg h₃]
    split at h
    · next h₄ =>
      obtain ⟨⟨m, r⟩, hp, he⟩ := Except.map_eq_ok h
      cases he
      rw [if_pos h₄, readNumber_append hr hp]
      rfl
    next h₄ =>
    split at h
    · next h₅ =>
      obtain ⟨⟨m, r⟩, hp, he⟩ := Except.map_eq_ok h
      cases he
      rw [if_neg h₄, if_pos h₅, ← List.cons_append, readNumber_append hr hp]
      rfl
    split at h
    · exact absurd h (other (by simp))
    split at h
    · cases h
    split at h
    · cases h
    · cases h

/-- A number that reads back does so in front of what may follow it. -/
theorem Number.ReadsBack.run {n : Number} (h : n.ReadsBack) {rest : Bytes} (hr : EndsNumber rest)
    (k : Nat) : (valueWithin k).run (Text.bytesOf n.text ++ rest) = .ok (.number n, rest) := by
  cases k with
  | zero => exact run_valueWithin_zero ▸ valueAround_number_append hr h
  | succ k => exact run_valueWithin_succ k ▸ valueAround_number_append hr h

theorem isDigit_facts {b : UInt8} (h : isDigit b = true) :
    isSpace b = false ∧ b ≠ byte 'n' ∧ b ≠ byte 't' ∧ b ≠ byte 'f' ∧ b ≠ byte '-' := by
  refine ⟨?_, ?_, ?_, ?_, ?_⟩
  · simp only [isSpace, Bool.or_eq_false_iff, decide_eq_false_iff_not]
    refine ⟨⟨⟨?_, ?_⟩, ?_⟩, ?_⟩ <;> (rintro rfl; revert h; decide)
  all_goals (rintro rfl; revert h; decide)

/-- Whole numbers of 64 bits read back. -/
theorem Number.readsBack_integer {i : Int} (hlow : -2 ^ 63 ≤ i) (hhigh : i < 2 ^ 64) :
    (Number.integer i).ReadsBack := by
  cases i with
  | ofNat n =>
    have hn : n < 2 ^ 64 := by
      have hcast : (n : Int) < 2 ^ 64 := hhigh
      omega
    have hread := (isDecimal_toDigits n).readNumber_positive hn
    have htext : Text.bytesOf (Number.integer n).text = encode (Nat.toDigits 10 n) := by
      rw [Text.bytesOf, ← Nat.toList_repr]
      rfl
    obtain ⟨b, t, hs, hb⟩ := (isDecimal_toDigits n).exists_cons
    obtain ⟨hspace, hn, ht, hf, hm⟩ := isDigit_facts hb
    rw [hs] at hread htext
    rw [Number.ReadsBack, Int.ofNat_eq_natCast, htext, run_valueWithin_zero, valueAround,
      skipBlanks, List.dropWhile_cons_of_neg (by simp [hspace])]
    simp only
    rw [if_neg hn, if_neg ht, if_neg hf, if_neg hm, if_pos hb, hread]
    rfl
  | negSucc n =>
    have hread := (isDecimal_toDigits (n + 1)).readNumber_negative (Nat.succ_ne_zero n) (by omega)
    have htext : Text.bytesOf (Number.integer (.negSucc n)).text
        = byte '-' :: encode (Nat.toDigits 10 (n + 1)) := by
      rw [Text.bytesOf, ← Nat.toList_repr]
      show encode ("-" ++ Nat.repr (n + 1)).toList = _
      rw [String.toList_append]
      rfl
    rw [Number.ReadsBack, htext, run_valueWithin_zero, valueAround, skipBlanks,
      List.dropWhile_cons_of_neg (by decide)]
    simp only
    rw [if_neg (by decide), if_neg (by decide), if_neg (by decide), if_pos trivial, hread]
    rfl

end PoolFeed.Json
