import Mathlib
import PoolFeed.Proofs.Time.Calendar
import PoolFeed.Time.Reader

/-!
# Points in time read back

The text of a point in time is read part by part. Every part is told from the next by a character
that is no digit, or has all the digits it may have.

## Main statements

* `Timestamp.number_append` — a number is read off the front of a text
* `Timestamp.read_text` — every point in time of the calendar is read back
-/

namespace PoolFeed.Timestamp

open Text (trimFront isBlank)

/-! ## Digits -/

variable {width n : Nat} {ds rest : List Char}

theorem toList_padded (width n : Nat) : (padded width n).toList
    = List.replicate (width - (Nat.toDigits 10 n).length) '0' ++ Nat.toDigits 10 n := by
  rw [padded, String.toList_ofList]

theorem isDigit_of_mem_padded : ∀ c ∈ (padded width n).toList, c.isDigit = true := by
  intro c hc
  rw [toList_padded] at hc
  rcases List.mem_append.mp hc with hc | hc
  · rw [(List.mem_replicate.mp hc).2]
    rfl
  · exact Nat.isDigit_of_mem_toDigits (by decide) (by decide) hc

theorem padded_ne_nil : (padded width n).toList ≠ [] := by
  rw [toList_padded]
  exact List.append_ne_nil_of_right_ne_nil _ Nat.toDigits_ne_nil

theorem length_padded (hwidth : 0 < width) (h : n < 10 ^ width) :
    (padded width n).toList.length = width := by
  have hlength := (Nat.length_toDigits_le_iff (by decide) hwidth).mpr h
  rw [toList_padded, List.length_append, List.length_replicate]
  omega

theorem digitsValue_padded : digitsValue (padded width n).toList = n := by
  show Nat.ofDigitChars 10 _ 0 = n
  rw [toList_padded, Nat.ofDigitChars_append, Nat.ofDigitChars_replicate_zero, Nat.mul_zero,
    Nat.ofDigitChars_ten_toDigits]

/-- A text does not go on with a digit. -/
def EndsDigits (rest : List Char) : Prop := ∀ c ∈ rest.head?, c.isDigit = false

theorem endsDigits_cons {c : Char} (h : c.isDigit = false) : EndsDigits (c :: rest) := by
  intro d hd
  cases hd
  exact h

theorem takeWhile_digits (hds : ∀ c ∈ ds, c.isDigit = true) (hend : EndsDigits rest) :
    (ds ++ rest).takeWhile Char.isDigit = ds := by
  rw [List.takeWhile_append_of_pos hds]
  cases rest with
  | nil => simp
  | cons c rest => simp [hend c rfl]

theorem dropWhile_digits (hds : ∀ c ∈ ds, c.isDigit = true) (hend : EndsDigits rest) :
    (ds ++ rest).dropWhile Char.isDigit = rest := by
  rw [List.dropWhile_append_of_pos hds]
  cases rest with
  | nil => rfl
  | cons c rest => simp [hend c rfl]

/-- The digits of a number are taken if there may be no more of them, or if there are no more. -/
theorem takeWhile_take_digits (hds : ∀ c ∈ ds, c.isDigit = true) (hlength : ds.length ≤ width)
    (hend : ds.length = width ∨ EndsDigits rest) :
    ((ds ++ rest).take width).takeWhile Char.isDigit = ds := by
  rw [List.take_append, List.take_of_length_le hlength]
  rcases hend with hwidth | hend
  · rw [hwidth, Nat.sub_self, List.take_zero, List.append_nil]
    exact List.takeWhile_eq_self_iff.mpr hds
  · refine takeWhile_digits hds fun c hc => ?_
    cases rest with
    | nil => simp at hc
    | cons d rest =>
      cases hk : width - ds.length with
      | zero => simp [hk] at hc
      | succ k =>
        rw [hk, List.take_succ_cons] at hc
        exact hend c hc

/-- **A number is read off the front of a text.** -/
theorem number_append (hds : ∀ c ∈ ds, c.isDigit = true) (hne : ds ≠ [])
    (hlength : ds.length ≤ width) (hend : ds.length = width ∨ EndsDigits rest)
    (hvalue : digitsValue ds < 2 ^ 63) :
    number width (ds ++ rest) = .ok (digitsValue ds, rest) := by
  have hbits : digitsValue ds < 1 <<< 63 := hvalue
  simp only [number, takeWhile_take_digits hds hlength hend]
  rw [if_neg (by simpa using hne), if_pos hbits, List.drop_left]

theorem number_padded {most : Nat} (hlength : (padded width n).toList.length ≤ most)
    (hend : (padded width n).toList.length = most ∨ EndsDigits rest) (h : n < 2 ^ 63) :
    number most ((padded width n).toList ++ rest) = .ok (n, rest) := by
  have hvalue : digitsValue (padded width n).toList = n := digitsValue_padded
  have hnumber := number_append isDigit_of_mem_padded padded_ne_nil hlength hend (hvalue.trans_lt h)
  rwa [hvalue] at hnumber

/-! ## Parts -/

theorem trimFront_cons {c : Char} (h : isBlank c = false) : trimFront (c :: rest) = c :: rest :=
  List.dropWhile_cons_of_neg (by simp [h])

theorem isBlank_of_isDigit {c : Char} (h : c.isDigit = true) : isBlank c = false := by
  have hbounds : 48 ≤ c.toNat ∧ c.toNat ≤ 57 := by
    simpa [Char.isDigit, Char.le_def, UInt32.le_iff_toNat_le] using h
  simp only [isBlank]
  simp
  omega

theorem trimFront_padded : trimFront ((padded width n).toList ++ rest)
    = (padded width n).toList ++ rest := by
  refine Text.trimFront_eq_self_iff.mpr fun c hc => ?_
  rw [List.head?_append_of_ne_nil _ padded_ne_nil] at hc
  exact isBlank_of_isDigit (isDigit_of_mem_padded c (List.mem_of_mem_head? hc))

theorem part_padded {least greatest : Nat} (hleast : least ≤ n) (hgreatest : n ≤ greatest)
    (h : greatest < 100) :
    part least greatest ((padded 2 n).toList ++ rest) = .ok (n, rest) := by
  have hlength : (padded 2 n).toList.length = 2 := length_padded (by decide) (by omega)
  have hbound : n < 2 ^ 63 := by omega
  rw [part, trimFront_padded, number_padded hlength.le (Or.inl hlength) hbound]
  exact if_pos ⟨hleast, hgreatest⟩

theorem separator_cons {c : Char} (h : isBlank c = false) :
    separator c (c :: rest) = .ok rest := by
  rw [separator, trimFront_cons h]
  exact if_pos rfl

theorem fraction_padded (hwidth : 0 < width) (hwidth' : width ≤ 9) (h : n < 10 ^ width)
    (hend : EndsDigits rest) : fraction ('.' :: ((padded width n).toList ++ rest))
      = .ok (n * 10 ^ (9 - width), rest) := by
  have hlength : (padded width n).toList.length = width := length_padded hwidth h
  have hbound : n < 2 ^ 63 := by
    have hpow : 10 ^ width ≤ 10 ^ 9 := Nat.pow_le_pow_right (by decide) hwidth'
    omega
  have hle : (padded width n).toList.length ≤ 9 := hlength.trans_le hwidth'
  simp only [fraction, number_padded hle (Or.inr hend) hbound,
    takeWhile_take_digits isDigit_of_mem_padded hle (Or.inr hend), digitsValue_padded, hlength,
    dropWhile_digits isDigit_of_mem_padded hend]
  rfl

/-- The fraction of a second is read back, whatever number of digits it is written in. -/
theorem fraction_text {nanoseconds : Nat} (h : nanoseconds < 1000000000) :
    fraction ((fractionText nanoseconds).toList ++ ['Z']) = .ok (nanoseconds, ['Z']) := by
  have hend : EndsDigits ['Z'] := endsDigits_cons rfl
  have hpoint : ∀ s : String, ("." ++ s).toList ++ ['Z'] = '.' :: (s.toList ++ ['Z']) := by
    intro s
    rw [String.toList_append]
    rfl
  unfold fractionText
  split
  · next hzero =>
    rw [hzero]
    rfl
  · split
    · rw [hpoint, fraction_padded (by decide) (by decide) (by omega) hend]
      congr 2
      omega
    · split
      · rw [hpoint, fraction_padded (by decide) (by decide) (by omega) hend]
        congr 2
        omega
      · rw [hpoint, fraction_padded (by decide) (by decide) h hend]
        congr 2
        omega

/-- A year without a sign has four digits. -/
theorem year_digits {c : Char} {more : List Char} (hc : c.isDigit = true) (h : n < 10000)
    (hnumber : number 4 (c :: more) = .ok (n, rest)) : year (c :: more) = .ok ((n : Int), rest) := by
  have hrange : -2147483648 ≤ (n : Int) ∧ (n : Int) < 2147483648 := by omega
  rw [year, trimFront_cons (isBlank_of_isDigit hc)]
  simp only
  split
  · next heq =>
    cases heq
    cases hc
  · next heq =>
    cases heq
    cases hc
  · simp only [hnumber, Except.map, bind, Except.bind]
    rw [if_pos hrange]

theorem year_minus {more : List Char} (h : n < 2147483648)
    (hnumber : number more.length more = .ok (n, rest)) :
    year ('-' :: more) = .ok (-(n : Int), rest) := by
  have hrange : -2147483648 ≤ -(n : Int) ∧ -(n : Int) < 2147483648 := by omega
  rw [year, trimFront_cons rfl]
  simp only [hnumber, Except.map, bind, Except.bind]
  rw [if_pos hrange]

theorem year_plus {more : List Char} (h : n < 2147483648)
    (hnumber : number more.length more = .ok (n, rest)) :
    year ('+' :: more) = .ok ((n : Int), rest) := by
  have hrange : -2147483648 ≤ (n : Int) ∧ (n : Int) < 2147483648 := by omega
  rw [year, trimFront_cons rfl]
  simp only [hnumber, Except.map, bind, Except.bind]
  rw [if_pos hrange]

/-- A year is read back, with a sign or without. -/
theorem year_text {y : Int} (h : Calendar.yearInRange y = true) (hend : EndsDigits rest) :
    year ((yearText y).toList ++ rest) = .ok (y, rest) := by
  have hrange : -262143 ≤ y ∧ y ≤ 262142 := by
    simpa [Calendar.yearInRange] using h
  unfold yearText
  split
  · next hplain =>
    have hlength : (padded 4 y.toNat).toList.length = 4 := length_padded (by decide) (by omega)
    have hnumber : number 4 ((padded 4 y.toNat).toList ++ rest) = .ok (y.toNat, rest) :=
      number_padded hlength.le (Or.inl hlength) (by omega)
    have hne : (padded 4 y.toNat).toList ≠ [] := padded_ne_nil
    obtain ⟨c, cs, hcons⟩ := List.exists_cons_of_ne_nil hne
    have hdigit : c.isDigit = true := isDigit_of_mem_padded c (hcons ▸ List.mem_cons_self)
    rw [hcons, List.cons_append] at hnumber
    have hint : ((y.toNat : Nat) : Int) = y := Int.toNat_of_nonneg hplain.1
    rw [hcons, List.cons_append, year_digits hdigit (by omega) hnumber, hint]
  · next hsigned =>
    have hnumber : number ((padded 4 y.natAbs).toList ++ rest).length
        ((padded 4 y.natAbs).toList ++ rest) = .ok (y.natAbs, rest) := by
      refine number_padded ?_ (Or.inr hend) (by omega)
      rw [List.length_append]
      exact Nat.le_add_right _ _
    rw [String.toList_append, List.append_assoc]
    by_cases hneg : y < 0
    · have hint : -((y.natAbs : Nat) : Int) = y := by omega
      have hsign : "-".toList = ['-'] := rfl
      rw [if_pos hneg, hsign, List.singleton_append, year_minus (by omega) hnumber, hint]
    · have hint : ((y.natAbs : Nat) : Int) = y := by omega
      have hsign : "+".toList = ['+'] := rfl
      rw [if_neg hneg, hsign, List.singleton_append, year_plus (by omega) hnumber, hint]

/-! ## Whole points in time -/

/--
A point in time of the calendar: its year is in range, and it lies in a leap second only behind the
last second of a minute.
-/
structure Valid (t : Timestamp) : Prop where
  year : Calendar.yearInRange (Calendar.Date.ofDays (t.seconds / 86400)).year = true
  nanoseconds : t.nanoseconds < 1000000000
    ∨ (t.nanoseconds < 2000000000 ∧ t.seconds % 60 = 59)

theorem valid_zero : (⟨0, 0⟩ : Timestamp).Valid := ⟨by decide, by decide⟩

/-- The text of a date, a time of day and a fraction of a second. -/
def written (date : Calendar.Date) (hour minute second nanoseconds : Nat) : List Char :=
  (yearText date.year).toList ++ '-' :: ((padded 2 date.month).toList ++ '-' ::
    ((padded 2 date.day).toList ++ 'T' :: ((padded 2 hour).toList ++ ':' ::
    ((padded 2 minute).toList ++ ':' :: ((padded 2 second).toList ++
    ((fractionText nanoseconds).toList ++ ['Z']))))))

theorem toList_text (t : Timestamp) : t.text.toList
    = written (.ofDays (t.seconds / 86400)) ((t.seconds % 86400).toNat / 3600)
      ((t.seconds % 86400).toNat / 60 % 60)
      ((t.seconds % 86400).toNat % 60 + t.nanoseconds / 1000000000)
      (t.nanoseconds % 1000000000) := by
  simp only [text, localText, String.toList_append, List.append_assoc]
  rfl

theorem bounds_of_isValid {date : Calendar.Date} (h : date.isValid = true) :
    Calendar.yearInRange date.year = true
      ∧ 1 ≤ date.month ∧ date.month ≤ 12 ∧ 1 ≤ date.day ∧ date.day ≤ 31 := by
  simp only [Calendar.Date.isValid, Bool.and_eq_true, decide_eq_true_iff] at h
  obtain ⟨⟨⟨⟨hyear, hmonth⟩, hmonth'⟩, hday⟩, hday'⟩ := h
  refine ⟨hyear, hmonth, hmonth', hday, Nat.le_trans hday' ?_⟩
  unfold Calendar.daysInMonth
  split
  · split <;> omega
  · split <;> omega

/-- What is read of a date and a time of day: second 60 is second 59 and a second more. -/
theorem read_written {date : Calendar.Date} {hour minute second nanoseconds : Nat} {seconds : Int}
    (hdate : date.isValid = true) (hhour : hour ≤ 23) (hminute : minute ≤ 59) (hsecond : second ≤ 60)
    (hnanoseconds : nanoseconds < 1000000000)
    (hseconds : date.toDays * 86400
      + ((hour * 3600 + minute * 60 + (if second = 60 then 59 else second) : Nat) : Int) = seconds)
    (hrange : Calendar.yearInRange (Calendar.Date.ofDays (seconds / 86400)).year = true) :
    read (written date hour minute second nanoseconds)
      = .ok ⟨seconds, nanoseconds + (if second = 60 then 1000000000 else 0)⟩ := by
  obtain ⟨hyear, hmonth, hmonth', hday, hday'⟩ := bounds_of_isValid hdate
  obtain ⟨y, month, day⟩ := date
  have hyear' : ∀ rest, year ((yearText y).toList ++ '-' :: rest) = .ok (y, '-' :: rest) :=
    fun rest => year_text hyear (endsDigits_cons rfl)
  have hdash : ∀ rest, separator '-' ('-' :: rest) = .ok rest := fun rest => separator_cons rfl
  have hcolon : ∀ rest, separator ':' (':' :: rest) = .ok rest := fun rest => separator_cons rfl
  have hend : ∀ rest, dateEnd ('T' :: rest) = .ok rest := fun rest => rfl
  have hzone : offset (trimFront ['Z']) = .ok (0, []) := rfl
  have hempty : (!(trimFront []).isEmpty) = false := rfl
  have hoffset : (!Calendar.Date.isValid ⟨y, month, day⟩ || decide (86400 ≤ (0 : Int).natAbs))
      = false := by
    rw [hdate]
    rfl
  simp only [read, written, bind, Except.bind, hyear', hdash,
    part_padded hmonth hmonth' (by decide), part_padded hday hday' (by decide), hend,
    part_padded (Nat.zero_le _) hhour (by decide), hcolon,
    part_padded (Nat.zero_le _) hminute (by decide),
    part_padded (Nat.zero_le _) hsecond (by decide), fraction_text hnanoseconds, hzone, hempty,
    hoffset, Int.sub_zero, hseconds, hrange]
  rfl

/-- **Every point in time of the calendar is read back.** -/
theorem read_text {t : Timestamp} (h : t.Valid) : read t.text.toList = .ok t := by
  have hdays := Calendar.Date.toDays_ofDays (t.seconds / 86400)
  obtain ⟨ofDay, hofDay⟩ : ∃ ofDay, ofDay = (t.seconds % 86400).toNat := ⟨_, rfl⟩
  have hday : ofDay < 86400 ∧ t.seconds / 86400 * 86400 + (ofDay : Int) = t.seconds := by omega
  rw [toList_text, ← hofDay]
  rcases Nat.lt_or_ge t.nanoseconds 1000000000 with hplain | hleap
  · have hnone : t.nanoseconds / 1000000000 = 0 := Nat.div_eq_of_lt hplain
    have hsecond : ¬ ofDay % 60 = 60 := by omega
    have hseconds : (Calendar.Date.ofDays (t.seconds / 86400)).toDays * 86400
        + ((ofDay / 3600 * 3600 + ofDay / 60 % 60 * 60
          + (if ofDay % 60 = 60 then 59 else ofDay % 60) : Nat) : Int) = t.seconds := by
      rw [hdays, if_neg hsecond]
      omega
    rw [hnone, Nat.add_zero, Nat.mod_eq_of_lt hplain, read_written
      (Calendar.Date.isValid_ofDays h.year) (by omega) (by omega) (by omega) hplain hseconds h.year,
      if_neg hsecond, Nat.add_zero]
  -- A leap second is written as second 60.
  · have hminute : t.nanoseconds < 2000000000 ∧ t.seconds % 60 = 59 :=
      h.nanoseconds.resolve_left (Nat.not_lt.mpr hleap)
    have hsecond : ofDay % 60 + t.nanoseconds / 1000000000 = 60 := by omega
    have hseconds : (Calendar.Date.ofDays (t.seconds / 86400)).toDays * 86400
        + ((ofDay / 3600 * 3600 + ofDay / 60 % 60 * 60
          + (if 60 = 60 then 59 else 60) : Nat) : Int) = t.seconds := by
      rw [hdays, if_pos rfl]
      omega
    have hwhole : t.nanoseconds % 1000000000 + 1000000000 = t.nanoseconds := by omega
    rw [hsecond, read_written (Calendar.Date.isValid_ofDays h.year) (by omega) (by omega)
      (Nat.le_refl 60) (Nat.mod_lt _ (by decide)) hseconds h.year, if_pos rfl, hwhole]

/-- A point in time whose text reads back. -/
structure ReadsBack (t : Timestamp) : Prop where
  read_text : read t.text.toList = .ok t

theorem Valid.readsBack {t : Timestamp} (h : t.Valid) : t.ReadsBack := ⟨read_text h⟩

/-- A leap second. -/
example : read "2016-12-31T23:59:60Z".toList = .ok ⟨1483228799, 1000000000⟩ := by rfl

end PoolFeed.Timestamp
