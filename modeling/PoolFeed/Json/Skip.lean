import PoolFeed.Json.Reader

/-!
# Skipping a JSON value

A value that nobody asked for is passed over. Its brackets and separators are checked, but not the
range of its numbers, the characters of its strings or its nesting. The brackets that are open are
kept as a list, innermost first, so there is no limit to them.
-/

namespace PoolFeed.Json

open Text (Bytes byte)

/-- A string from behind its opening quote on, its escapes checked for their form only. -/
def skipString (s : Bytes) : Except Error Bytes :=
  match s with
  | [] => .error .cutString
  | b :: rest =>
    if b = byte '"' then .ok rest
    else if b = byte '\\' then
      match rest with
      | [] => .error .cutString
      | c :: more =>
        if c = byte 'u' then
          match _h : hexUnit more with
          | .error e => .error e
          | .ok (_, rest') => skipString rest'
        else if (shortEscape? c).isSome then skipString more
        else .error .badEscape
    else if b < 0x20 then .error .controlCharacter
    else skipString rest
termination_by s.length
decreasing_by
  · have := hexUnit_length _h
    simp only [List.length_cons]
    omega
  · simp only [List.length_cons]
    omega
  · simp

theorem skipString_length {s rest : Bytes} (h : skipString s = .ok rest) :
    rest.length < s.length := by
  fun_induction skipString s with
  | case1 => simp at h
  | case2 => simp_all
  | case3 => simp at h
  | case4 => simp at h
  | case5 _ _ _ hx _ ih =>
    have l₁ := hexUnit_length hx
    have l₂ := ih h
    simp only [List.length_cons]
    omega
  | case6 _ _ _ _ _ ih =>
    have := ih h
    simp only [List.length_cons]
    omega
  | case7 => simp at h
  | case8 => simp at h
  | case9 _ _ _ _ _ ih =>
    have := ih h
    simp only [List.length_cons]
    omega

/-- A number whose sign was passed, for its form only. -/
def skipNumber (s : Bytes) : Except Error Bytes :=
  match scanNumber false s with
  | .error _ => .error .badNumber
  | .ok (_, rest) => .ok rest

theorem skipNumber_length {s rest : Bytes} (h : skipNumber s = .ok rest) :
    rest.length < s.length := by
  unfold skipNumber at h
  split at h
  · simp at h
  · next hn =>
    have := scanNumber_length hn
    simp_all

/-- What was skipped at the front of a value: all of it, or an opening bracket. -/
inductive Skipped where
  | whole (rest : Bytes)
  | opened (br : Bracket) (rest : Bytes)

/-- The text behind what was skipped. -/
def Skipped.rest : Skipped → Bytes
  | .whole rest => rest
  | .opened _ rest => rest

/-- Skips a value that holds no others, or the bracket that opens one that does. -/
def skipFront (s : Bytes) : Except Error Skipped :=
  match skipBlanks s with
  | [] => .error .cutValue
  | b :: rest =>
    if b = byte 'n' then (expectWord ['u', 'l', 'l'] rest).map .whole
    else if b = byte 't' then (expectWord ['r', 'u', 'e'] rest).map .whole
    else if b = byte 'f' then (expectWord ['a', 'l', 's', 'e'] rest).map .whole
    else if b = byte '-' then (skipNumber rest).map .whole
    else if isDigit b then (skipNumber (b :: rest)).map .whole
    else if b = byte '"' then (skipString rest).map .whole
    else if b = byte '[' then .ok (.opened .array rest)
    else if b = byte '\x7b' then .ok (.opened .object rest)
    else .error .noValue

theorem skipFront_length {s : Bytes} {sk : Skipped} (h : skipFront s = .ok sk) :
    sk.rest.length < s.length := by
  unfold skipFront at h
  have hs := skipBlanks_length s
  split at h
  · simp at h
  · next b tail hb =>
    rw [hb] at hs
    simp only [List.length_cons] at hs
    have word : ∀ {w : List Char},
        (expectWord w tail).map Skipped.whole = .ok sk → sk.rest.length < s.length := by
      intro w hw
      obtain ⟨r, hr, he⟩ := Except.map_eq_ok hw
      have := expectWord_length hr
      rw [← he, Skipped.rest]
      omega
    split at h
    · exact word h
    split at h
    · exact word h
    split at h
    · exact word h
    split at h
    · obtain ⟨r, hr, he⟩ := Except.map_eq_ok h
      have := skipNumber_length hr
      rw [← he, Skipped.rest]
      omega
    split at h
    · obtain ⟨r, hr, he⟩ := Except.map_eq_ok h
      have := skipNumber_length hr
      simp only [List.length_cons] at this
      rw [← he, Skipped.rest]
      omega
    split at h
    · obtain ⟨r, hr, he⟩ := Except.map_eq_ok h
      have := skipString_length hr
      rw [← he, Skipped.rest]
      omega
    split at h
    · simp only [Except.ok.injEq] at h
      rw [← h, Skipped.rest]
      omega
    split at h
    · simp only [Except.ok.injEq] at h
      rw [← h, Skipped.rest]
      omega
    · simp at h

/-- The key and colon in front of a field's value. -/
def skipKey (s : Bytes) : Except Error Bytes :=
  match skipBlanks s with
  | [] => .error .cutObject
  | b :: rest =>
    if b = byte '"' then
      match skipString rest with
      | .error e => .error e
      | .ok rest' => colon rest'
    else .error .keyNotString

theorem skipKey_length {s rest : Bytes} (h : skipKey s = .ok rest) : rest.length < s.length := by
  unfold skipKey at h
  have hs := skipBlanks_length s
  split at h
  · simp at h
  · next hb =>
    rw [hb] at hs
    simp only [List.length_cons] at hs
    split at h
    · split at h
      · simp at h
      · next hk =>
        have l₁ := skipString_length hk
        have l₂ := colon_length h
        omega
    · simp at h

/-- The front of a member: its key, if members of the bracket have one. -/
def Bracket.skipKey (br : Bracket) (s : Bytes) : Except Error Bytes :=
  if br.keyed then Json.skipKey s else .ok s

theorem Bracket.skipKey_length {br : Bracket} {s rest : Bytes} (h : br.skipKey s = .ok rest) :
    rest.length ≤ s.length := by
  unfold Bracket.skipKey at h
  split at h
  · exact Nat.le_of_lt (Json.skipKey_length h)
  · simp_all

/-- Where a member begins: behind the comma if one is due, otherwise at once. -/
def memberFrom (behind : Bool) (b : UInt8) (rest : Bytes) : Bytes :=
  if behind then rest else b :: rest

theorem memberFrom_length (behind : Bool) (b : UInt8) (rest : Bytes) :
    (memberFrom behind b rest).length ≤ rest.length + 1 := by
  unfold memberFrom
  split <;> simp

/--
Skips up to the end of the outermost open bracket. `behind` says whether a member of the innermost
one was just passed, so that a comma may follow.
-/
def skipOpen (opened : List Bracket) (behind : Bool) (s : Bytes) : Except Error Bytes :=
  match opened with
  | [] => .ok s
  | br :: outer =>
    match _hs : skipBlanks s with
    | [] => .error br.cut
    | b :: rest =>
      if b = br.close then skipOpen outer true rest
      else if behind && b != byte ',' then .error br.noSeparator
      else
        match _hk : br.skipKey (memberFrom behind b rest) with
        | .error e => .error e
        | .ok t =>
          match _hf : skipFront t with
          | .error e => .error e
          | .ok (.whole rest') => skipOpen (br :: outer) true rest'
          | .ok (.opened inner rest') => skipOpen (inner :: br :: outer) false rest'
termination_by s.length
decreasing_by
  all_goals
    have l₀ := skipBlanks_length s
    rw [_hs] at l₀
    simp only [List.length_cons] at l₀
  · omega
  · have l₁ := Bracket.skipKey_length _hk
    have l₂ := skipFront_length _hf
    have l₃ := memberFrom_length behind b rest
    simp only [Skipped.rest] at l₂
    omega
  · have l₁ := Bracket.skipKey_length _hk
    have l₂ := skipFront_length _hf
    have l₃ := memberFrom_length behind b rest
    simp only [Skipped.rest] at l₂
    omega

theorem skipOpen_length {opened : List Bracket} {behind : Bool} {s rest : Bytes}
    (h : skipOpen opened behind s = .ok rest) : rest.length ≤ s.length := by
  fun_induction skipOpen opened behind s with
  | case1 => simp_all
  | case2 => simp at h
  | case3 _ s _ _ _ hs ih =>
    have l₀ := skipBlanks_length s
    rw [hs] at l₀
    simp only [List.length_cons] at l₀
    have := ih h
    omega
  | case4 => simp at h
  | case5 => simp at h
  | case6 => simp at h
  | case7 behind s br _ b tail hs _ _ _ hk _ hf ih =>
    have l₀ := skipBlanks_length s
    rw [hs] at l₀
    simp only [List.length_cons] at l₀
    have l₁ := Bracket.skipKey_length hk
    have l₂ := skipFront_length hf
    have l₃ := memberFrom_length behind b tail
    simp only [Skipped.rest] at l₂
    have := ih h
    omega
  | case8 behind s br _ b tail hs _ _ _ hk _ _ hf ih =>
    have l₀ := skipBlanks_length s
    rw [hs] at l₀
    simp only [List.length_cons] at l₀
    have l₁ := Bracket.skipKey_length hk
    have l₂ := skipFront_length hf
    have l₃ := memberFrom_length behind b tail
    simp only [Skipped.rest] at l₂
    have := ih h
    omega

def skipValue (s : Bytes) : Except Error Bytes :=
  match skipFront s with
  | .error e => .error e
  | .ok (.whole rest) => .ok rest
  | .ok (.opened br rest) => skipOpen [br] false rest

/-- A value that is passed over, in favour of one that is known. -/
def skipFor (a : α) : Reader α where
  run s :=
    match skipValue s with
    | .error e => .error e
    | .ok rest => .ok (a, rest)
  shorter {s b rest} h := by
    unfold skipValue at h
    split at h
    · simp at h
    · next hv =>
      simp only [Except.ok.injEq, Prod.mk.injEq] at h
      split at hv
      · simp at hv
      · next hf =>
        have := skipFront_length hf
        simp only [Except.ok.injEq] at hv
        rw [← h.2, ← hv]
        exact this
      · next hf =>
        have l₁ := skipFront_length hf
        have l₂ := skipOpen_length hv
        simp only [Skipped.rest] at l₁
        rw [← h.2]
        omega

end PoolFeed.Json
