import PoolFeed.Json.Reader

/-!
# Strings read back

What is written between quotes is read back. Escapes are told from plain characters by the byte
they begin with, so it has to be known of every byte of a plain character that it is neither a
quote, nor a backslash, nor a control character.

## Main statements

* `stringRest_quoted` — a text is read back from between its quotes
-/

namespace PoolFeed.Json

open Text (Bytes byte encode)

/-! ## Bytes of characters -/

theorem encode_cons (c : Char) (cs : List Char) : encode (c :: cs) = encode [c] ++ encode cs :=
  Text.encode_append [c] cs

theorem encode_ascii {c : Char} (h : c.toNat < 128) : encode [c] = [byte c] := by
  have hc : c.val.toNat ≤ 0x7f := by
    show c.toNat ≤ 127
    omega
  simp only [encode, List.flatMap_cons, List.flatMap_nil, List.append_nil, String.utf8EncodeChar]
  rw [if_pos hc]
  rfl

theorem toNat_byte {c : Char} (h : c.toNat < 128) : (byte c).toNat = c.toNat := by
  rw [byte, UInt8.toNat_ofNat']
  omega

theorem byte_inj {c d : Char} (hc : c.toNat < 128) (hd : d.toNat < 128) (h : byte c = byte d) :
    c = d := by
  have hn : c.toNat = d.toNat := by rw [← toNat_byte hc, ← toNat_byte hd, h]
  rw [← Char.ofNat_toNat c, ← Char.ofNat_toNat d, hn]

theorem le_toNat_of_mem_encode {c : Char} (h : ¬ c.toNat < 128) :
    ∀ b ∈ encode [c], 128 ≤ b.toNat := by
  have hc : ¬ c.val.toNat ≤ 0x7f := by
    show ¬ c.toNat ≤ 127
    omega
  intro b hb
  simp only [encode, List.flatMap_cons, List.flatMap_nil, List.append_nil,
    String.utf8EncodeChar] at hb
  rw [if_neg hc] at hb
  generalize c.val.toNat = v at hb
  split at hb
  · simp only [List.mem_cons, List.not_mem_nil, or_false] at hb
    rcases hb with rfl | rfl <;> simp <;> omega
  · split at hb
    · simp only [List.mem_cons, List.not_mem_nil, or_false] at hb
      rcases hb with rfl | rfl | rfl <;> simp <;> omega
    · simp only [List.mem_cons, List.not_mem_nil, or_false] at hb
      rcases hb with rfl | rfl | rfl | rfl <;> simp <;> omega

/-! ## Plain bytes and escapes -/

/-- Bytes that stand for themselves inside quotes. -/
def IsPlain (b : UInt8) : Prop := b ≠ byte '"' ∧ b ≠ byte '\\' ∧ ¬ b < 0x20

theorem stringRest_plain {bytes : Bytes} (h : ∀ b ∈ bytes, IsPlain b) (done rest : Bytes) :
    stringRest done (bytes ++ rest) = stringRest (bytes.reverse ++ done) rest := by
  induction bytes generalizing done with
  | nil => rfl
  | cons b bytes ih =>
    obtain ⟨hq, hs, hc⟩ := h b List.mem_cons_self
    rw [List.cons_append, stringRest, if_neg hq, if_neg hs, if_neg hc,
      ih (fun x hx => h x (List.mem_cons_of_mem _ hx))]
    simp

theorem hexValue?_hexDigit : ∀ n < 16, hexValue? (byte (hexDigit n)) = some n := by
  decide

theorem encode_hexDigit : ∀ n < 16, encode [hexDigit n] = [byte (hexDigit n)] := by
  decide

/-- What an escape stands for is put behind what was read of a string. -/
theorem stringRest_escape {s rest : Bytes} {c : Char} (h : escape s = .ok (c, rest))
    (done : Bytes) :
    stringRest done (byte '\\' :: s) = stringRest ((encode [c]).reverse ++ done) rest := by
  rw [stringRest, if_neg (by decide), if_pos rfl]
  split
  · next h' => rw [h] at h'; cases h'
  · next h' =>
    rw [h] at h'
    cases h'
    rfl

/-- A control character as its four hexadecimal digits. -/
theorem escape_control {c : Char} (h : c.toNat < 0x20) (rest : Bytes) :
    escape (byte 'u' :: byte '0' :: byte '0' :: byte (hexDigit (c.toNat / 16))
      :: byte (hexDigit (c.toNat % 16)) :: rest) = .ok (c, rest) := by
  have hhi := hexValue?_hexDigit (c.toNat / 16) (by omega)
  have hlo := hexValue?_hexDigit (c.toNat % 16) (by omega)
  have hzero : hexValue? (byte '0') = some 0 := by decide
  have hunit : hexUnit (byte '0' :: byte '0' :: byte (hexDigit (c.toNat / 16))
      :: byte (hexDigit (c.toNat % 16)) :: rest) = .ok (c.toNat, rest) := by
    simp only [hexUnit, hzero, hhi, hlo]
    rw [show ((0 * 16 + 0) * 16 + c.toNat / 16) * 16 + c.toNat % 16 = c.toNat by omega]
  rw [escape, if_pos rfl, hexEscape, hunit]
  simp only
  rw [if_neg (by simp [isLowHalf]; omega), if_neg (by simp [isHighHalf]; omega),
    Char.ofNat_toNat]

/-- The bytes of a character without an escape stand for themselves. -/
theorem isPlain_of_mem_encode {c : Char} {b : UInt8} (hquote : c ≠ '"') (hslash : c ≠ '\\')
    (hcontrol : ¬ c.toNat < 0x20) (hb : b ∈ encode [c]) : IsPlain b := by
  by_cases hc : c.toNat < 128
  · rw [encode_ascii hc, List.mem_singleton] at hb
    subst hb
    refine ⟨fun he => hquote (byte_inj hc (by decide) he),
      fun he => hslash (byte_inj hc (by decide) he), ?_⟩
    rw [UInt8.lt_iff_toNat_lt, toNat_byte hc]
    exact hcontrol
  · have hlarge := le_toNat_of_mem_encode hc b hb
    refine ⟨?_, ?_, ?_⟩
    · rintro rfl
      exact absurd hlarge (by decide)
    · rintro rfl
      exact absurd hlarge (by decide)
    · rw [UInt8.lt_iff_toNat_lt]
      simp
      omega

/-- A character is read back from its form inside quotes. -/
theorem stringRest_escaped (c : Char) (done rest : Bytes) :
    stringRest done (encode (escaped c) ++ rest)
      = stringRest ((encode [c]).reverse ++ done) rest := by
  unfold escaped
  -- Seven characters have escapes of their own.
  iterate 7
    split
    · next h =>
      subst h
      exact stringRest_escape rfl done
  split
  · next h =>
    have hhi := encode_hexDigit (c.toNat / 16) (by omega)
    have hlo := encode_hexDigit (c.toNat % 16) (by omega)
    have hfront : ∀ cs, encode ('\\' :: 'u' :: '0' :: '0' :: cs)
        = byte '\\' :: byte 'u' :: byte '0' :: byte '0' :: encode cs := fun _ => rfl
    rw [hfront, encode_cons, hhi, hlo]
    exact stringRest_escape (escape_control h rest) done
  · next hquote hslash _ _ _ _ _ hcontrol =>
    exact stringRest_plain (fun b hb => isPlain_of_mem_encode hquote hslash hcontrol hb) done rest

/-- **A text is read back from between its quotes.** -/
theorem stringRest_quoted (s : String) (rest : Bytes) :
    stringRest [] (encode (s.toList.flatMap escaped ++ ['"']) ++ rest) = .ok (s, rest) := by
  have h : ∀ (cs : List Char) (done : Bytes),
      stringRest done (encode (cs.flatMap escaped ++ ['"']) ++ rest)
        = finishString ((encode cs).reverse ++ done) rest := by
    intro cs
    induction cs with
    | nil =>
      intro done
      show stringRest done (byte '"' :: rest) = _
      rw [stringRest, if_pos rfl]
      rfl
    | cons c cs ih =>
      intro done
      rw [List.flatMap_cons, List.append_assoc, Text.encode_append, List.append_assoc,
        stringRest_escaped, ih, encode_cons c cs]
      simp
  rw [h, finishString, List.append_nil, List.reverse_reverse, Text.decode?_encode]
  simp

end PoolFeed.Json
