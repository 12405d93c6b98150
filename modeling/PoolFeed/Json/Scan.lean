import PoolFeed.Json.Error

/-!
# The words, numbers and strings of JSON

Readers for the parts of a JSON text that hold no other values. Each takes its part off the front
of the text and returns the rest.

## Termination

A `Reader` leaves less text than it was given, and carries the proof. Loops over readers recurse on
the length of the text that is left.
-/

namespace PoolFeed.Json

open Text (Bytes byte)

/-- Takes a value off the front of a text. What it leaves is shorter than what it was given. -/
structure Reader (α : Type) where
  run : Bytes → Except Error (α × Bytes)
  shorter : ∀ {s : Bytes} {a : α} {rest : Bytes}, run s = .ok (a, rest) → rest.length < s.length

/-! ## Blanks and words -/

/-- The white space of JSON. -/
def isSpace (b : UInt8) : Bool := b = 0x20 || b = 0x09 || b = 0x0A || b = 0x0D

/-- Drops white space in front. -/
def skipBlanks (s : Bytes) : Bytes := s.dropWhile isSpace

theorem skipBlanks_length (s : Bytes) : (skipBlanks s).length ≤ s.length :=
  (List.dropWhile_suffix _).length_le

/-- Takes the rest of a word off the front. -/
def expectWord : List Char → Bytes → Except Error Bytes
  | [], s => .ok s
  | _ :: _, [] => .error .cutValue
  | c :: word, b :: s => if b = byte c then expectWord word s else .error .brokenWord

theorem expectWord_length {word : List Char} {s rest : Bytes} (h : expectWord word s = .ok rest) :
    rest.length ≤ s.length := by
  induction word generalizing s with
  | nil => simp only [expectWord, Except.ok.injEq] at h; simp [h]
  | cons c word ih =>
    cases s with
    | nil => simp [expectWord] at h
    | cons b s =>
      simp only [expectWord] at h
      split at h
      · exact Nat.le_succ_of_le (ih h)
      · simp at h

/-! ## Numbers -/

def isDigit (b : UInt8) : Bool := byte '0' ≤ b && b ≤ byte '9'

/-- The digits in front, and the rest. -/
def digits (s : Bytes) : Bytes × Bytes := (s.takeWhile isDigit, s.dropWhile isDigit)

/-- The value of some decimal digits. -/
def digitsValue (ds : Bytes) : Nat :=
  ds.foldl (fun n b => 10 * n + (b.toNat - (byte '0').toNat)) 0

/--
Takes digits behind a number that was read, for as long as it stays below `2^64`, and counts the
digits that are left.
-/
def takeDigits (n : Nat) : Bytes → Nat × Nat
  | [] => (n, 0)
  | b :: rest =>
    let next := 10 * n + (b.toNat - (byte '0').toNat)
    if next < 1 <<< 64 then takeDigits next rest else (n, rest.length + 1)

/-- A number as it is written. -/
structure NumberText where
  negative : Bool
  /-- The digits before the point. -/
  whole : Bytes
  /-- The digits behind the point, if there is a point. -/
  places : Option Bytes
  exponent : Option Int
  deriving Repr

/--
The digits of a number that count, and the power of ten that scales them. Digits that do not fit
64 bits are dropped.
-/
def NumberText.significant (n : NumberText) : Nat × Int :=
  let (v, dropped) := takeDigits 0 n.whole
  let places := n.places.getD []
  let (v', unused) := takeDigits v places
  (v', (dropped : Int) - (places.length - unused : Nat) + n.exponent.getD 0)

/--
The value of a number. A whole number that fits 64 bits stays whole, with the exception of `-0`;
anything else is a binary64 number.
-/
def NumberText.value? (n : NumberText) : Option Number :=
  let (digits, scale) := n.significant
  let whole := n.places.isNone && n.exponent.isNone && scale = 0
  if whole && !n.negative then some (.integer digits)
  else if whole && digits ≠ 0 && digits ≤ 1 <<< 63 then some (.integer (-(digits : Int)))
  else (Binary64.ofDecimal? n.negative digits scale).map .float

/-- Why a number is not written as one. -/
inductive NumberFault where
  /-- The text ends where a digit is due. -/
  | cut
  /-- Something else stands where a digit is due, or a digit behind a leading zero. -/
  | malformed

/-- Takes at least one digit off the front. -/
def someDigits (s : Bytes) : Except NumberFault (Bytes × Bytes) :=
  match s with
  | [] => .error .cut
  | b :: _ => if isDigit b then .ok (digits s) else .error .malformed

theorem someDigits_length {s ds rest : Bytes} (h : someDigits s = .ok (ds, rest)) :
    rest.length < s.length := by
  cases s with
  | nil => simp [someDigits] at h
  | cons b s =>
    simp only [someDigits] at h
    split at h
    · next hb =>
      have hr : rest = (digits (b :: s)).2 := by simp_all
      have : (digits (b :: s)).2 = s.dropWhile isDigit := by simp [digits, hb]
      rw [hr, this]
      exact Nat.lt_succ_of_le (List.dropWhile_suffix _).length_le
    · simp at h

/-- The digits before the point: one zero, or digits that do not begin with one. -/
def scanWhole (s : Bytes) : Except NumberFault (Bytes × Bytes) :=
  match s with
  | [] => .error .cut
  | b :: rest =>
    if b = byte '0' then
      match rest with
      | c :: _ => if isDigit c then .error .malformed else .ok ([b], rest)
      | [] => .ok ([b], rest)
    else someDigits s

theorem scanWhole_length {s ds rest : Bytes} (h : scanWhole s = .ok (ds, rest)) :
    rest.length < s.length := by
  cases s with
  | nil => simp [scanWhole] at h
  | cons b s =>
    simp only [scanWhole] at h
    split at h
    · split at h
      · split at h
        · simp at h
        · simp_all
      · simp only [Except.ok.injEq, Prod.mk.injEq] at h
        simp [← h.2]
    · exact someDigits_length h

/-- The point and the digits behind it, if there is a point. -/
def scanPlaces (s : Bytes) : Except NumberFault (Option Bytes × Bytes) :=
  match s with
  | b :: rest =>
    if b = byte '.' then
      match someDigits rest with
      | .error e => .error e
      | .ok (ds, rest') => .ok (some ds, rest')
    else .ok (none, s)
  | [] => .ok (none, s)

theorem scanPlaces_length {s rest : Bytes} {ds : Option Bytes}
    (h : scanPlaces s = .ok (ds, rest)) : rest.length ≤ s.length := by
  unfold scanPlaces at h
  split at h
  · split at h
    · split at h
      · simp at h
      · next hd =>
        have := someDigits_length hd
        simp only [Except.ok.injEq, Prod.mk.injEq] at h
        rw [← h.2]
        simp only [List.length_cons]
        omega
    · simp_all
  · simp_all

/-- The sign in front of an exponent, and what follows it. -/
def exponentSign (s : Bytes) : Bool × Bytes :=
  match s with
  | b :: rest =>
    if b = byte '+' then (false, rest) else if b = byte '-' then (true, rest) else (false, s)
  | [] => (false, s)

theorem exponentSign_length (s : Bytes) : (exponentSign s).2.length ≤ s.length := by
  unfold exponentSign
  split
  · split
    · simp
    · split <;> simp
  · simp

def scanExponent (s : Bytes) : Except NumberFault (Option Int × Bytes) :=
  match s with
  | b :: rest =>
    if b = byte 'e' || b = byte 'E' then
      match someDigits (exponentSign rest).2 with
      | .error e => .error e
      | .ok (ds, rest') =>
        let n : Int := digitsValue ds
        .ok (some (if (exponentSign rest).1 then -n else n), rest')
    else .ok (none, s)
  | [] => .ok (none, s)

theorem scanExponent_length {s rest : Bytes} {e : Option Int}
    (h : scanExponent s = .ok (e, rest)) : rest.length ≤ s.length := by
  unfold scanExponent at h
  split at h
  · next b tail =>
    split at h
    · split at h
      · simp at h
      · next hd =>
        have l₁ := someDigits_length hd
        have l₂ := exponentSign_length tail
        simp only [Except.ok.injEq, Prod.mk.injEq] at h
        rw [← h.2]
        simp only [List.length_cons]
        omega
    · simp_all
  · simp_all

/-- A number without its sign. -/
def scanNumber (negative : Bool) (s : Bytes) : Except NumberFault (NumberText × Bytes) :=
  match scanWhole s with
  | .error e => .error e
  | .ok (whole, s₁) =>
    match scanPlaces s₁ with
    | .error e => .error e
    | .ok (places, s₂) =>
      match scanExponent s₂ with
      | .error e => .error e
      | .ok (exponent, rest) =>
        .ok ({ negative, whole, places, exponent }, rest)

theorem scanNumber_length {negative : Bool} {s rest : Bytes} {n : NumberText}
    (h : scanNumber negative s = .ok (n, rest)) : rest.length < s.length := by
  unfold scanNumber at h
  split at h
  · simp at h
  · next h₁ =>
    split at h
    · simp at h
    · next h₂ =>
      split at h
      · simp at h
      · next h₃ =>
        have l₁ := scanWhole_length h₁
        have l₂ := scanPlaces_length h₂
        have l₃ := scanExponent_length h₃
        simp only [Except.ok.injEq, Prod.mk.injEq] at h
        rw [← h.2]
        omega

/-- The value of a number without its sign. -/
def readNumber (negative : Bool) (s : Bytes) : Except Error (Number × Bytes) :=
  match scanNumber negative s with
  | .error .cut => .error .cutValue
  | .error .malformed => .error .badNumber
  | .ok (n, rest) =>
    match n.value? with
    | some v => .ok (v, rest)
    | none => .error .numberOutOfRange

theorem readNumber_length {negative : Bool} {s rest : Bytes} {n : Number}
    (h : readNumber negative s = .ok (n, rest)) : rest.length < s.length := by
  unfold readNumber at h
  split at h
  · simp at h
  · simp at h
  · next hs =>
    split at h
    · have := scanNumber_length hs
      simp_all
    · simp at h

/-! ## Strings -/

/-- The value of a hexadecimal digit. -/
def hexValue? (b : UInt8) : Option Nat :=
  if isDigit b then some (b.toNat - (byte '0').toNat)
  else if byte 'a' ≤ b && b ≤ byte 'f' then some (b.toNat - (byte 'a').toNat + 10)
  else if byte 'A' ≤ b && b ≤ byte 'F' then some (b.toNat - (byte 'A').toNat + 10)
  else none

/-- Takes four hexadecimal digits off the front. -/
def hexUnit (s : Bytes) : Except Error (Nat × Bytes) :=
  match s with
  | a :: b :: c :: d :: rest =>
    match hexValue? a, hexValue? b, hexValue? c, hexValue? d with
    | some a, some b, some c, some d => .ok (((a * 16 + b) * 16 + c) * 16 + d, rest)
    | _, _, _, _ => .error .badEscape
  | _ => .error .cutString

theorem hexUnit_length {s rest : Bytes} {n : Nat} (h : hexUnit s = .ok (n, rest)) :
    rest.length < s.length := by
  unfold hexUnit at h
  split at h
  · split at h
    · simp only [Except.ok.injEq, Prod.mk.injEq] at h
      simp only [← h.2, List.length_cons]
      omega
    · simp at h
  · simp at h

/-- Whether a 16-bit unit is the first half of a surrogate pair. -/
def isHighHalf (n : Nat) : Bool := 0xD800 ≤ n && n ≤ 0xDBFF

/-- Whether a 16-bit unit is the second half of a surrogate pair. -/
def isLowHalf (n : Nat) : Bool := 0xDC00 ≤ n && n ≤ 0xDFFF

/-- The escape of a second half behind a first one. -/
def lowHalf (s : Bytes) : Except Error (Nat × Bytes) :=
  match s with
  | [] => .error .cutString
  | b :: rest =>
    if b ≠ byte '\\' then .error .halfPair
    else
      match rest with
      | [] => .error .cutString
      | c :: rest' =>
        if c ≠ byte 'u' then .error .halfPair
        else
          match hexUnit rest' with
          | .error e => .error e
          | .ok (n, rest'') => if isLowHalf n then .ok (n, rest'') else .error .loneSurrogate

theorem lowHalf_length {s rest : Bytes} {n : Nat} (h : lowHalf s = .ok (n, rest)) :
    rest.length < s.length := by
  unfold lowHalf at h
  split at h
  · simp at h
  · split at h
    · simp at h
    · split at h
      · simp at h
      · split at h
        · simp at h
        · split at h
          · simp at h
          · next hx =>
            have := hexUnit_length hx
            split at h
            · simp only [Except.ok.injEq, Prod.mk.injEq] at h
              simp only [← h.2, List.length_cons]
              omega
            · simp at h

/-- The character of a hexadecimal escape, from its digits on. -/
def hexEscape (s : Bytes) : Except Error (Char × Bytes) :=
  match hexUnit s with
  | .error e => .error e
  | .ok (n, rest) =>
    if isLowHalf n then .error .loneSurrogate
    else if isHighHalf n then
      match lowHalf rest with
      | .error e => .error e
      | .ok (m, rest') =>
        .ok (Char.ofNat (0x10000 + (n - 0xD800) * 0x400 + (m - 0xDC00)), rest')
    else .ok (Char.ofNat n, rest)

theorem hexEscape_length {s rest : Bytes} {c : Char} (h : hexEscape s = .ok (c, rest)) :
    rest.length < s.length := by
  unfold hexEscape at h
  split at h
  · simp at h
  · next hx =>
    have l₁ := hexUnit_length hx
    split at h
    · simp at h
    · split at h
      · split at h
        · simp at h
        · next hl =>
          have l₂ := lowHalf_length hl
          simp only [Except.ok.injEq, Prod.mk.injEq] at h
          rw [← h.2]
          omega
      · simp_all

/-- The character that a one-letter escape stands for. -/
def shortEscape? (b : UInt8) : Option Char :=
  if b = byte '"' then some '"'
  else if b = byte '\\' then some '\\'
  else if b = byte '/' then some '/'
  else if b = byte 'b' then some '\x08'
  else if b = byte 'f' then some '\x0c'
  else if b = byte 'n' then some '\n'
  else if b = byte 'r' then some '\r'
  else if b = byte 't' then some '\t'
  else none

/-- The character of an escape, from behind its backslash on. -/
def escape (s : Bytes) : Except Error (Char × Bytes) :=
  match s with
  | [] => .error .cutString
  | b :: rest =>
    if b = byte 'u' then hexEscape rest
    else
      match shortEscape? b with
      | some c => .ok (c, rest)
      | none => .error .badEscape

theorem escape_length {s rest : Bytes} {c : Char} (h : escape s = .ok (c, rest)) :
    rest.length < s.length := by
  unfold escape at h
  split at h
  · simp at h
  · split at h
    · exact Nat.lt_succ_of_lt (hexEscape_length h)
    · split at h
      · simp_all
      · simp at h

/-- The text of a string whose bytes have been read, last byte first. -/
def finishString (done rest : Bytes) : Except Error (String × Bytes) :=
  match Text.decode? done.reverse with
  | some text => .ok (text, rest)
  | none => .error .notUnicode

theorem finishString_rest {done s rest : Bytes} {text : String}
    (h : finishString done s = .ok (text, rest)) : rest = s := by
  unfold finishString at h
  split at h <;> simp_all

/--
A string from behind its opening quote on, `done` being what was read of it, last byte first. Its
bytes are checked for being UTF-8 when the closing quote is met.
-/
def stringRest (done : Bytes) (s : Bytes) : Except Error (String × Bytes) :=
  match s with
  | [] => .error .cutString
  | b :: rest =>
    if b = byte '"' then finishString done rest
    else if b = byte '\\' then
      match _h : escape rest with
      | .error e => .error e
      | .ok (c, rest') => stringRest ((Text.encode [c]).reverse ++ done) rest'
    else if b < 0x20 then .error .controlCharacter
    else stringRest (b :: done) rest
termination_by s.length
decreasing_by
  · have := escape_length _h
    simp only [List.length_cons]
    omega
  · simp

theorem stringRest_length {done s rest : Bytes} {text : String}
    (h : stringRest done s = .ok (text, rest)) : rest.length < s.length := by
  fun_induction stringRest done s with
  | case1 => simp at h
  | case2 => simp [finishString_rest h]
  | case3 => simp at h
  | case4 _ _ _ _ he _ ih =>
    have l₁ := escape_length he
    have l₂ := ih h
    simp only [List.length_cons]
    omega
  | case5 => simp at h
  | case6 _ _ _ _ _ _ ih =>
    have := ih h
    simp only [List.length_cons]
    omega

end PoolFeed.Json
