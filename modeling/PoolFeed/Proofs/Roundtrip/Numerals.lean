import PoolFeed.Proofs.Roundtrip.Values

/-!
# Where numbers end

The text of a number is made up of digits, perhaps a point with digits behind it, and perhaps an
exponent, all behind a sign if the number is negative. Whatever value is read from such a text, the
reader stops where the text ends, if what follows cannot be part of a number.

## Main statements

* `Number.text_cases` — the text of a number is a numeral, perhaps behind a sign
* `Numeral.scanNumber_rest` — a number that is read off the front of a numeral takes all of it
* `Number.valueAround_rest` — so does a value that is read off the front of a number's text
-/

namespace PoolFeed.Json

open Text (Bytes byte encode)

/-! ## Numerals -/

/-- One digit or more. -/
def Digits (cs : List Char) : Prop := cs ≠ [] ∧ ∀ c ∈ cs, c.isDigit = true

/-- A point with digits behind it, or nothing. -/
inductive Places : List Char → Prop
  | none : Places []
  | some {ds : List Char} (h : Digits ds) : Places ('.' :: ds)

/-- An exponent, or nothing. -/
inductive Exponent : List Char → Prop
  | none : Exponent []
  | some {sign ds : List Char} (hs : sign ∈ [[], ['+'], ['-']]) (h : Digits ds) :
    Exponent ('e' :: (sign ++ ds))

/-- The text of a number without its sign, zeros in front of its digits included. -/
inductive Numeral : List Char → Prop
  | mk {whole places exponent : List Char} (hw : Digits whole) (hp : Places places)
    (he : Exponent exponent) : Numeral (whole ++ (places ++ exponent))

theorem digits_toDigits (n : Nat) : Digits (Nat.toDigits 10 n) :=
  ⟨Nat.toDigits_ne_nil, fun _ hc => Nat.isDigit_of_mem_toDigits (by decide) (by decide) hc⟩

theorem digits_zero : Digits ['0'] := ⟨List.cons_ne_nil _ _, List.forall_mem_singleton.mpr rfl⟩

theorem Digits.append {cs ds : List Char} (h : Digits cs) (hds : ∀ c ∈ ds, c.isDigit = true) :
    Digits (cs ++ ds) :=
  ⟨List.append_ne_nil_of_left_ne_nil h.1 _, List.forall_mem_append.mpr ⟨h.2, hds⟩⟩

theorem Digits.zeros_append {ds : List Char} (h : Digits ds) (n : Nat) :
    Digits (List.replicate n '0' ++ ds) := by
  refine ⟨List.append_ne_nil_of_right_ne_nil _ h.1, List.forall_mem_append.mpr ⟨?_, h.2⟩⟩
  intro c hc
  rw [(List.mem_replicate.mp hc).2]
  rfl

theorem Numeral.of_digits {ds : List Char} (h : Digits ds) : Numeral ds := by
  have hnumeral := Numeral.mk h .none .none
  rwa [List.append_nil, List.append_nil] at hnumeral

/-! ## Texts of numbers -/

theorem toList_pointed (whole ds : List Char) :
    (NumberLayout.pointed (String.ofList whole) (String.ofList ds)).toList
      = whole ++ '.' :: ds := by
  simp [NumberLayout.pointed, String.toList_append]

theorem Numeral.pointed {whole ds : List Char} (hw : Digits whole) (h : Digits ds) :
    Numeral (whole ++ '.' :: ds) := by
  have hnumeral := Numeral.mk hw (.some h) .none
  rwa [List.append_nil] at hnumeral

/-- The text of a whole number is made up of digits, perhaps behind a sign. -/
theorem toList_toString_int (i : Int) :
    ∃ ds, Digits ds ∧ (toString i).toList = (if i < 0 then ['-'] else []) ++ ds := by
  cases i with
  | ofNat n =>
    refine ⟨Nat.toDigits 10 n, digits_toDigits n, ?_⟩
    rw [if_neg (by simp), List.nil_append, ← Nat.toList_repr]
    rfl
  | negSucc n =>
    refine ⟨Nat.toDigits 10 (n + 1), digits_toDigits (n + 1), ?_⟩
    rw [if_pos (Int.negSucc_lt_zero n), ← Nat.toList_repr]
    show ("-" ++ Nat.repr (n + 1)).toList = _
    rw [String.toList_append]
    rfl

/-- The text of an exponent, with or without a sign where it is not negative. -/
theorem exponent_text (signed : Bool) (i : Int) : Exponent ('e' ::
    (if i < 0 then toString i else (if signed then "+" else "") ++ toString i).toList) := by
  obtain ⟨ds, hds, htext⟩ := toList_toString_int i
  by_cases hneg : i < 0
  · rw [if_pos hneg, htext, if_pos hneg]
    exact .some (by simp) hds
  · rw [if_neg hneg, String.toList_append, htext, if_neg hneg]
    cases signed
    · have hnone : [] ∈ [[], ['+'], ['-']] := by simp
      exact .some hnone hds
    · have hplus : ['+'] ∈ [[], ['+'], ['-']] := by simp
      exact .some hplus hds

/-- Digits behind a point, or a zero if there is none. -/
theorem digits_rest {ds : List Char} (h : ∀ c ∈ ds, c.isDigit = true) :
    Digits (if ds.isEmpty then ['0'] else ds) := by
  split
  · exact digits_zero
  · next hne => exact ⟨fun hnil => hne (List.isEmpty_iff.mpr hnil), h⟩

/-- Digits with a point behind the first, if there are others. -/
def mantissa (digits : List Char) : String :=
  match digits with
  | [] => "0"
  | [c] => String.singleton c
  | c :: rest => NumberLayout.pointed (String.singleton c) (String.ofList rest)

theorem toList_mantissa {ds : List Char} (h : Digits ds) :
    ∃ whole places, Digits whole ∧ Places places ∧ (mantissa ds).toList = whole ++ places := by
  match ds, h with
  | [], h => exact absurd rfl h.1
  | [c], h => exact ⟨[c], [], h, .none, by simp [mantissa]⟩
  | c :: d :: rest, h =>
    obtain ⟨hc, hrest⟩ := List.forall_mem_cons.mp h.2
    exact ⟨[c], '.' :: d :: rest, ⟨List.cons_ne_nil _ _, List.forall_mem_singleton.mpr hc⟩,
      .some ⟨List.cons_ne_nil _ _, hrest⟩, toList_pointed [c] (d :: rest)⟩

/-- **The text of a number in any layout is a numeral, perhaps behind a sign.** -/
theorem write_cases (layout : NumberLayout) (x : Binary64) : ∃ cs, Numeral cs
    ∧ (layout.write x).toList = (if x.negative then ['-'] else []) ++ cs := by
  have hsign (s : String) : ((if x.negative then "-" else "") ++ s).toList
      = (if x.negative then ['-'] else []) ++ s.toList := by
    rw [String.toList_append]
    split <;> rfl
  have hdigits := digits_toDigits x.shortest.digits
  unfold NumberLayout.write
  simp only
  generalize Nat.toDigits 10 x.shortest.digits = digits at hdigits ⊢
  generalize x.shortest.exponent + (digits.length : Int) - 1 = first
  split
  · exact ⟨_, .pointed digits_zero digits_zero, hsign "0.0"⟩
  split
  · split
    · refine ⟨_, .pointed digits_zero (hdigits.zeros_append (-first - 1).toNat), ?_⟩
      rw [hsign, ← toList_pointed]
    · have hpadded : Digits (digits ++ List.replicate (first.toNat + 1 - digits.length) '0') :=
        hdigits.append fun c hc => by
          rw [(List.mem_replicate.mp hc).2]
          rfl
      generalize digits ++ List.replicate (first.toNat + 1 - digits.length) '0' = padded
        at hpadded ⊢
      have hwhole : Digits (padded.take (first.toNat + 1)) :=
        ⟨fun hnil => hpadded.1 ((List.take_eq_nil_iff.mp hnil).resolve_left (Nat.succ_ne_zero _)),
          fun c hc => hpadded.2 c (List.mem_of_mem_take hc)⟩
      have hrest : ∀ c ∈ padded.drop (first.toNat + 1), c.isDigit = true :=
        fun c hc => hpadded.2 c (List.mem_of_mem_drop hc)
      refine ⟨_, .pointed hwhole (digits_rest hrest), ?_⟩
      rw [hsign, toList_pointed]
  · obtain ⟨whole, places, hwhole, hplaces, hmantissa⟩ := toList_mantissa hdigits
    refine ⟨_, .mk hwhole hplaces (exponent_text layout.signedExponent first), ?_⟩
    rw [String.append_assoc, String.append_assoc, hsign, String.toList_append, String.toList_append,
      ← List.append_assoc whole, ← hmantissa]
    rfl

/-- The text of a number is a numeral, perhaps behind a sign. -/
theorem Number.text_cases (x : Number) :
    ∃ cs, Numeral cs ∧ (x.text.toList = cs ∨ x.text.toList = '-' :: cs) := by
  have hsplit {b : Prop} [Decidable b] {text cs : List Char}
      (h : text = (if b then ['-'] else []) ++ cs) : text = cs ∨ text = '-' :: cs := by
    split at h
    · exact .inr h
    · exact .inl h
  cases x with
  | integer i =>
    obtain ⟨ds, hds, htext⟩ := toList_toString_int i
    exact ⟨ds, .of_digits hds, hsplit htext⟩
  | float x =>
    obtain ⟨cs, hcs, htext⟩ := write_cases numberLayout x
    exact ⟨cs, hcs, hsplit htext⟩

/-! ## Where readers of numbers stop -/

/-- The bytes of digits. -/
theorem Digits.bytes {cs : List Char} (h : Digits cs) :
    encode cs ≠ [] ∧ ∀ b ∈ encode cs, isDigit b = true := by
  have hdigit : ∀ c : Char, c.isDigit = true → encode [c] = [byte c] ∧ isDigit (byte c) = true := by
    intro c hc
    have hbounds : 48 ≤ c.toNat ∧ c.toNat ≤ 57 := by
      simpa [Char.isDigit, Char.le_def, UInt32.le_iff_toNat_le] using hc
    have hascii : c.toNat < 128 := by omega
    have hzero : (byte '0').toNat = 48 := rfl
    have hnine : (byte '9').toNat = 57 := rfl
    refine ⟨encode_ascii hascii, ?_⟩
    simpa [isDigit, UInt8.le_iff_toNat_le, toNat_byte hascii, hzero, hnine] using hbounds
  obtain ⟨hne, hall⟩ := h
  refine ⟨?_, fun b hb => ?_⟩
  · obtain ⟨c, cs, rfl⟩ := List.exists_cons_of_ne_nil hne
    rw [encode_cons, (hdigit c (hall c List.mem_cons_self)).1]
    exact List.cons_ne_nil _ _
  · obtain ⟨c, hc, hb⟩ := List.mem_flatMap.mp hb
    obtain ⟨hbyte, hb'⟩ := hdigit c (hall c hc)
    have hsingle : b ∈ encode [c] := List.mem_flatMap.mpr ⟨c, List.mem_cons_self, hb⟩
    rw [hbyte, List.mem_singleton] at hsingle
    rw [hsingle]
    exact hb'

/-- Whether what follows digits is no digit. -/
def EndsDigits (s : Bytes) : Prop := ∀ b ∈ s.head?, isDigit b = false

theorem EndsNumber.endsDigits {s : Bytes} (h : EndsNumber s) : EndsDigits s :=
  fun b hb => (h b hb).1

variable {s ds r : Bytes}

theorem digits_front (hds : ∀ b ∈ ds, isDigit b = true) (hs : EndsDigits s) :
    digits (ds ++ s) = (ds, s) := by
  have hnone : s.takeWhile isDigit = [] ∧ s.dropWhile isDigit = s := by
    cases s with
    | nil => exact ⟨rfl, rfl⟩
    | cons b s => simp [hs b rfl]
  rw [digits, List.takeWhile_append_of_pos hds, List.dropWhile_append_of_pos hds, hnone.1, hnone.2,
    List.append_nil]

theorem someDigits_rest {w : Bytes} (hds : ∀ b ∈ ds, isDigit b = true) (hs : EndsDigits s)
    (h : someDigits (ds ++ s) = .ok (w, r)) : r = s := by
  unfold someDigits at h
  split at h
  · cases h
  · split at h
    · rw [digits_front hds hs] at h
      cases h
      rfl
    · cases h

/-- A zero in front of other digits is refused, and all other digits are taken. -/
theorem scanWhole_rest {w : Bytes} (hne : ds ≠ []) (hds : ∀ b ∈ ds, isDigit b = true)
    (hs : EndsDigits s) (h : scanWhole (ds ++ s) = .ok (w, r)) : r = s := by
  obtain ⟨b, ds, rfl⟩ := List.exists_cons_of_ne_nil hne
  simp only [List.cons_append, scanWhole] at h
  split at h
  · cases ds with
    | nil =>
      rw [List.nil_append] at h
      split at h
      · split at h
        · cases h
        · cases h
          rfl
      · cases h
        rfl
    | cons c ds =>
      have hc : isDigit c = true := hds c (List.mem_cons_of_mem _ List.mem_cons_self)
      simp only [List.cons_append, hc, if_true] at h
      cases h
  · exact someDigits_rest hds hs h

theorem Places.scanPlaces_rest {cs : List Char} {p : Option Bytes} (hcs : Places cs)
    (hs : EndsDigits s) (hpoint : ∀ b ∈ s.head?, b ≠ byte '.')
    (h : scanPlaces (encode cs ++ s) = .ok (p, r)) : r = s := by
  cases hcs with
  | none =>
    cases s with
    | nil =>
      cases h
      rfl
    | cons b s =>
      rw [show encode [] ++ b :: s = b :: s from rfl, scanPlaces, if_neg (hpoint b rfl)] at h
      cases h
      rfl
  | @some ds hds =>
    have hdot : encode ('.' :: ds) ++ s = byte '.' :: (encode ds ++ s) := by
      rw [encode_cons, List.append_assoc]
      rfl
    rw [hdot, scanPlaces, if_pos rfl] at h
    split at h
    · cases h
    · next hdigits =>
      cases h
      exact someDigits_rest hds.bytes.2 hs hdigits

theorem Places.endsDigits {cs : List Char} (hcs : Places cs) (hs : EndsDigits s) :
    EndsDigits (encode cs ++ s) := by
  cases hcs with
  | none => exact hs
  | some =>
    intro b hb
    cases hb
    rfl

/-- The sign of an exponent is told from its digits. -/
theorem exponentSign_rest {sign cs : List Char} (hsign : sign ∈ [[], ['+'], ['-']])
    (hcs : Digits cs) : (exponentSign (encode sign ++ (encode cs ++ s))).2 = encode cs ++ s := by
  obtain ⟨hne, hall⟩ := hcs.bytes
  obtain ⟨b, t, hb⟩ := List.exists_cons_of_ne_nil hne
  have hdigit : isDigit b = true := hall b (by rw [hb]; exact List.mem_cons_self)
  have hplus : b ≠ byte '+' := by
    rintro rfl
    cases hdigit
  have hminus : b ≠ byte '-' := by
    rintro rfl
    cases hdigit
  simp only [List.mem_cons, List.not_mem_nil, or_false] at hsign
  obtain rfl | rfl | rfl := hsign
  · show (exponentSign (encode cs ++ s)).2 = _
    rw [hb, List.cons_append, exponentSign, if_neg hplus, if_neg hminus]
  · rfl
  · rfl

theorem Exponent.scanExponent_rest {cs : List Char} {e : Option Int} (hcs : Exponent cs)
    (hs : EndsNumber s) (h : scanExponent (encode cs ++ s) = .ok (e, r)) : r = s := by
  cases hcs with
  | none =>
    cases s with
    | nil =>
      cases h
      rfl
    | cons b s =>
      have hb := hs b rfl
      change scanExponent (b :: s) = _ at h
      simp only [scanExponent, hb.2.2.1, hb.2.2.2, decide_false, Bool.or_false,
        Bool.false_eq_true, if_false] at h
      cases h
      rfl
  | @some sign ds hsign hds =>
    have htext : encode ('e' :: (sign ++ ds)) ++ s
        = byte 'e' :: (encode sign ++ (encode ds ++ s)) := by
      rw [encode_cons, Text.encode_append, List.append_assoc, List.append_assoc]
      rfl
    rw [htext] at h
    simp only [scanExponent, decide_true, Bool.true_or, if_true, exponentSign_rest hsign hds] at h
    split at h
    · cases h
    · next hdigits =>
      cases h
      exact someDigits_rest hds.bytes.2 hs.endsDigits hdigits

theorem Exponent.endsPlaces {cs : List Char} (hcs : Exponent cs) (hs : EndsNumber s) :
    ∀ b ∈ (encode cs ++ s).head?, isDigit b = false ∧ b ≠ byte '.' := by
  cases hcs with
  | none => exact fun b hb => ⟨(hs b hb).1, (hs b hb).2.1⟩
  | some =>
    intro b hb
    cases hb
    exact ⟨rfl, by decide⟩

/-- **A number that is read off the front of a numeral takes all of it.** -/
theorem Numeral.scanNumber_rest {cs : List Char} {negative : Bool} {n : NumberText}
    (hcs : Numeral cs) (hs : EndsNumber s)
    (h : scanNumber negative (encode cs ++ s) = .ok (n, r)) : r = s := by
  obtain ⟨hwhole, hplaces, hexponent⟩ := hcs
  have hends := hexponent.endsPlaces hs
  rw [Text.encode_append, Text.encode_append, List.append_assoc, List.append_assoc] at h
  unfold scanNumber at h
  split at h
  · cases h
  · next hscan =>
    obtain rfl := scanWhole_rest hwhole.bytes.1 hwhole.bytes.2
      (hplaces.endsDigits fun b hb => (hends b hb).1) hscan
    split at h
    · cases h
    · next hscan =>
      obtain rfl := hplaces.scanPlaces_rest (fun b hb => (hends b hb).1)
        (fun b hb => (hends b hb).2) hscan
      split at h
      · cases h
      · next hscan =>
        cases h
        exact hexponent.scanExponent_rest hs hscan

theorem Numeral.readNumber_rest {cs : List Char} {negative : Bool} {x : Number}
    (hcs : Numeral cs) (hs : EndsNumber s)
    (h : readNumber negative (encode cs ++ s) = .ok (x, r)) : r = s := by
  unfold readNumber at h
  split at h
  · cases h
  · cases h
  · next hscan =>
    split at h
    · cases h
      exact hcs.scanNumber_rest hs hscan
    · cases h

/-! ## Where readers of values stop -/

theorem Numeral.exists_cons {cs : List Char} (hcs : Numeral cs) :
    ∃ b t, encode cs = b :: t ∧ isDigit b = true := by
  obtain ⟨hwhole, -, -⟩ := hcs
  obtain ⟨hne, hall⟩ := hwhole.bytes
  obtain ⟨b, t, hb⟩ := List.exists_cons_of_ne_nil hne
  rw [Text.encode_append, hb]
  exact ⟨b, _, rfl, hall b (by rw [hb]; exact List.mem_cons_self)⟩

theorem Number.valueAround_rest {inner : Option (Reader Json)} {x : Number} {v : Json}
    (hs : EndsNumber s) (h : valueAround inner (Text.bytesOf x.text ++ s) = .ok (v, r)) :
    r = s := by
  obtain ⟨cs, hcs, htext | htext⟩ := x.text_cases
  · obtain ⟨b, t, hb, hdigit⟩ := hcs.exists_cons
    obtain ⟨hspace, hn, ht, hf, hm⟩ := isDigit_facts hdigit
    rw [Text.bytesOf, htext, hb, List.cons_append, valueAround, skipBlanks,
      List.dropWhile_cons_of_neg (by simp [hspace])] at h
    simp only at h
    rw [if_neg hn, if_neg ht, if_neg hf, if_neg hm, if_pos hdigit, ← List.cons_append, ← hb] at h
    obtain ⟨⟨y, r'⟩, hread, hpair⟩ := Except.map_eq_ok h
    cases hpair
    exact hcs.readNumber_rest hs hread
  · rw [Text.bytesOf, htext, encode_cons, List.append_assoc] at h
    change (readNumber true (encode cs ++ s)).map _ = _ at h
    obtain ⟨⟨y, r'⟩, hread, hpair⟩ := Except.map_eq_ok h
    cases hpair
    exact hcs.readNumber_rest hs hread

end PoolFeed.Json
