/-!
# Strings of TOML

A string stands between quotes of one of two kinds, on one line or, between three quotes each, on
several. Between double quotes a backslash begins an escape; between single quotes it is a
character like any other. Line breaks are single characters here.

## Main statements

* `escape?_length` — reading an escape uses up some of the text
-/

namespace PoolFeed.Toml

/-- Whether a character may stand in a text on one line, quotes and backslashes apart. -/
def isPlain (c : Char) : Bool := c = '\t' || (0x20 ≤ c.toNat && c.toNat ≠ 0x7F)

/-- A blank inside a line. -/
def isBlank (c : Char) : Bool := c = ' ' || c = '\t'

/-- The value of some hexadecimal digits. -/
def hexValue? (digits : List Char) : Option Nat :=
  digits.foldl (fun n c =>
    n.bind (fun n =>
      if c.isDigit then some (16 * n + (c.toNat - 48))
      else if 'a' ≤ c ∧ c ≤ 'f' then some (16 * n + (c.toNat - 87))
      else if 'A' ≤ c ∧ c ≤ 'F' then some (16 * n + (c.toNat - 55))
      else none)) (some 0)

/-- The character with a number, if there is one. -/
def charOf? (n : Nat) : Option Char := if h : n.isValidChar then some (Char.ofNatAux n h) else none

/-- The character that so many hexadecimal digits stand for. -/
def numbered? (count : Nat) (s : List Char) : Option (Char × List Char) :=
  if s.length < count then none
  else ((hexValue? (s.take count)).bind charOf?).map (·, s.drop count)

/-- The character that an escape stands for, from behind its backslash on. -/
def escape? : List Char → Option (Char × List Char)
  | 'b' :: rest => some ('\x08', rest)
  | 't' :: rest => some ('\t', rest)
  | 'n' :: rest => some ('\n', rest)
  | 'f' :: rest => some ('\x0c', rest)
  | 'r' :: rest => some ('\r', rest)
  | '"' :: rest => some ('"', rest)
  | '\\' :: rest => some ('\\', rest)
  | 'u' :: rest => numbered? 4 rest
  | 'U' :: rest => numbered? 8 rest
  | _ => none

theorem numbered?_length {count : Nat} {s rest : List Char} {c : Char}
    (h : numbered? count s = some (c, rest)) : rest.length ≤ s.length := by
  unfold numbered? at h
  split at h
  · simp at h
  · obtain ⟨_, _, he⟩ := Option.map_eq_some_iff.mp h
    simp only [Prod.mk.injEq] at he
    rw [← he.2]
    simp

/-- Reading an escape uses up some of the text. -/
theorem escape?_length {s rest : List Char} {c : Char} (h : escape? s = some (c, rest)) :
    rest.length < s.length := by
  unfold escape? at h
  split at h
  case h_8 =>
    have := numbered?_length h
    simp only [List.length_cons]
    omega
  case h_9 =>
    have := numbered?_length h
    simp only [List.length_cons]
    omega
  case h_10 => simp at h
  all_goals
    simp only [Option.some.injEq, Prod.mk.injEq] at h
    rw [← h.2]
    simp

/-- A text between double quotes, from behind the first one on, and what follows the second. -/
def basic? (s : List Char) : Option (List Char × List Char) :=
  match s with
  | [] => none
  | c :: rest =>
    if c = '"' then some ([], rest)
    else if c = '\\' then
      match _h : escape? rest with
      | none => none
      | some (d, rest') => (basic? rest').map (fun r => (d :: r.1, r.2))
    else if isPlain c then (basic? rest).map (fun r => (c :: r.1, r.2))
    else none
termination_by s.length
decreasing_by
  · have := escape?_length _h
    simp only [List.length_cons]
    omega
  · simp

/-- A text between single quotes, from behind the first one on, and what follows the second. -/
def literal? : List Char → Option (List Char × List Char)
  | [] => none
  | c :: rest =>
    if c = '\'' then some ([], rest)
    else if isPlain c then (literal? rest).map (fun r => (c :: r.1, r.2))
    else none

/--
The end of a text between three quotes each: up to two more of the quotes belong to the text.
-/
def close (quote : Char) : List Char → List Char × List Char
  | [] => ([], [])
  | [c] => if c = quote then ([c], []) else ([], [c])
  | c :: d :: rest =>
    if c = quote ∧ d = quote then ([c, d], rest)
    else if c = quote then ([c], d :: rest)
    else ([], c :: d :: rest)

/-- What follows three of the quotes that begin a text. -/
def dropTriple? (quote : Char) : List Char → Option (List Char)
  | a :: b :: c :: rest => if a = quote ∧ b = quote ∧ c = quote then some rest else none
  | _ => none

/-- What follows a backslash at the end of a line: blanks and line breaks up to the next text. -/
def continued? (s : List Char) : Option (List Char) :=
  match s.dropWhile isBlank with
  | '\n' :: rest => some (rest.dropWhile (fun c => isBlank c || c = '\n'))
  | _ => none

theorem continued?_length {s rest : List Char} (h : continued? s = some rest) :
    rest.length < s.length := by
  unfold continued? at h
  have hs : (s.dropWhile isBlank).length ≤ s.length := (List.dropWhile_suffix _).length_le
  split at h
  · next more hm =>
    simp only [Option.some.injEq] at h
    have hr : rest.length ≤ more.length := by
      rw [← h]
      exact (List.dropWhile_suffix _).length_le
    rw [hm] at hs
    simp only [List.length_cons] at hs
    omega
  · simp at h

/-- A text between three double quotes each, from behind the first three on. -/
def multilineBasic? (s : List Char) : Option (List Char × List Char) :=
  match s with
  | [] => none
  | c :: rest =>
    match dropTriple? '"' (c :: rest) with
    | some rest' => some (close '"' rest')
    | none =>
      if c = '\\' then
        match _h : continued? rest with
        | some rest' => multilineBasic? rest'
        | none =>
          match _h' : escape? rest with
          | none => none
          | some (d, rest') => (multilineBasic? rest').map (fun r => (d :: r.1, r.2))
      else if c = '\n' || isPlain c then (multilineBasic? rest).map (fun r => (c :: r.1, r.2))
      else none
termination_by s.length
decreasing_by
  · have := continued?_length _h
    simp only [List.length_cons]
    omega
  · have := escape?_length _h'
    simp only [List.length_cons]
    omega
  · simp

/-- A text between three single quotes each, from behind the first three on. -/
def multilineLiteral? : List Char → Option (List Char × List Char)
  | [] => none
  | c :: rest =>
    match dropTriple? '\'' (c :: rest) with
    | some rest' => some (close '\'' rest')
    | none =>
      if c = '\n' || isPlain c then (multilineLiteral? rest).map (fun r => (c :: r.1, r.2))
      else none

/-- A line break right behind the quotes does not belong to the text. -/
def dropFirstBreak : List Char → List Char
  | '\n' :: rest => rest
  | s => s

/-- A string of any kind, and what follows it. -/
def string? (s : List Char) : Option (List Char × List Char) :=
  match dropTriple? '"' s, dropTriple? '\'' s with
  | some rest, _ => multilineBasic? (dropFirstBreak rest)
  | none, some rest => multilineLiteral? (dropFirstBreak rest)
  | none, none =>
    match s with
    | '"' :: rest => basic? rest
    | '\'' :: rest => literal? rest
    | _ => none

end PoolFeed.Toml
