import PoolFeed.Json.Scan

/-!
# Reading JSON values

Readers for whole values and for the members of arrays and objects. A value is read in document
order and the first fault is the one reported.

## Nesting

Arrays and objects may stand inside each other up to a limit. `valueWithin n` reads a value of which
at most `n` arrays and objects are around the innermost one, by recursion on `n`.

## Main statements

* `Bracket.fold_length` — reading the members of an array or object consumes text
-/

namespace PoolFeed.Json

open Text (Bytes byte)

/-! ## Members of arrays and objects -/

/-- What tells arrays and objects apart when their members are read. -/
structure Bracket where
  close : UInt8
  /-- The fault of a text that ends between members. -/
  cut : Error
  /-- The fault of a member with neither comma nor closing bracket behind it. -/
  noSeparator : Error
  /-- Whether every member begins with a quoted key. -/
  keyed : Bool

def Bracket.array : Bracket := ⟨byte ']', .cutArray, .noArraySeparator, false⟩

/-- The braces of an object. -/
def Bracket.object : Bracket := ⟨byte '\x7d', .cutObject, .noObjectSeparator, true⟩

/-- Where the reading of members stands: a member begins, or the bracket was closed. -/
inductive Next where
  | member (s : Bytes)
  | closed (rest : Bytes)

/-- The text from a member on, if a member may begin there. -/
def Bracket.enter (br : Bracket) (b : UInt8) (rest : Bytes) : Except Error Next :=
  if br.keyed && b != byte '"' then .error .keyNotString else .ok (.member (b :: rest))

/-- Goes to the next member, over the comma in front of all but the first. -/
def Bracket.next (br : Bracket) (first : Bool) (s : Bytes) : Except Error Next :=
  match skipBlanks s with
  | [] => .error br.cut
  | b :: rest =>
    if b = br.close then .ok (.closed rest)
    else if first then br.enter b rest
    else if b = byte ',' then
      match skipBlanks rest with
      | [] => .error .cutValue
      | c :: more => if c = br.close then .error .trailingComma else br.enter c more
    else .error br.noSeparator

theorem Bracket.enter_length {br : Bracket} {b : UInt8} {rest s : Bytes}
    (h : br.enter b rest = .ok (.member s)) : s.length = rest.length + 1 := by
  unfold enter at h
  split at h
  · simp at h
  · simp only [Except.ok.injEq, Next.member.injEq] at h
    simp [← h]

theorem Bracket.enter_ne_closed {br : Bracket} {b : UInt8} {rest s : Bytes} :
    br.enter b rest ≠ .ok (.closed s) := by
  unfold enter
  split <;> simp

theorem Bracket.next_member_length {br : Bracket} {first : Bool} {s t : Bytes}
    (h : br.next first s = .ok (.member t)) : t.length ≤ s.length := by
  unfold next at h
  have hs := skipBlanks_length s
  split at h
  · simp at h
  · next b rest hb =>
    rw [hb] at hs
    simp only [List.length_cons] at hs
    split at h
    · simp at h
    · split at h
      · have := enter_length h
        omega
      · split at h
        · have hr := skipBlanks_length rest
          split at h
          · simp at h
          · next c more hc =>
            rw [hc] at hr
            simp only [List.length_cons] at hr
            split at h
            · simp at h
            · have := enter_length h
              omega
        · simp at h

theorem Bracket.next_closed_length {br : Bracket} {first : Bool} {s rest : Bytes}
    (h : br.next first s = .ok (.closed rest)) : rest.length < s.length := by
  unfold next at h
  have hs := skipBlanks_length s
  split at h
  · simp at h
  · next b tail hb =>
    rw [hb] at hs
    simp only [List.length_cons] at hs
    split at h
    · simp only [Except.ok.injEq, Next.closed.injEq] at h
      rw [← h]
      omega
    · split at h
      · exact absurd h enter_ne_closed
      · split at h
        · split at h
          · simp at h
          · split at h
            · simp at h
            · exact absurd h enter_ne_closed
        · simp at h

/-- Reads members up to the closing bracket, handing each what the ones before it came to. -/
def Bracket.fold (br : Bracket) (member : σ → Reader σ) (first : Bool) (state : σ) (s : Bytes) :
    Except Error (σ × Bytes) :=
  match _h : br.next first s with
  | .error e => .error e
  | .ok (.closed rest) => .ok (state, rest)
  | .ok (.member t) =>
    match _h' : (member state).run t with
    | .error e => .error e
    | .ok (state', rest) => br.fold member false state' rest
termination_by s.length
decreasing_by
  have := next_member_length _h
  have := (member state).shorter _h'
  omega

/-- Reading the members of an array or object consumes text. -/
theorem Bracket.fold_length {br : Bracket} {member : σ → Reader σ} {first : Bool}
    {state final : σ} {s rest : Bytes} (h : br.fold member first state s = .ok (final, rest)) :
    rest.length < s.length := by
  fun_induction Bracket.fold br member first state s with
  | case1 => simp at h
  | case2 _ _ _ _ hc =>
    have := next_closed_length hc
    simp_all
  | case3 => simp at h
  | case4 _ _ _ _ hm _ _ hr ih =>
    have l₁ := next_member_length hm
    have l₂ := Reader.shorter _ hr
    have l₃ := ih h
    omega

/-! ## Readers -/

def quotedString : Reader String where
  run s :=
    match s with
    | b :: rest => if b = byte '"' then stringRest [] rest else .error .noValue
    | [] => .error .cutValue
  shorter {s a rest} h := by
    cases s with
    | nil => simp at h
    | cons b s =>
      simp only at h
      split at h
      · exact Nat.lt_succ_of_lt (stringRest_length h)
      · simp at h

/-- The colon behind a key. -/
def colon (s : Bytes) : Except Error Bytes :=
  match skipBlanks s with
  | [] => .error .cutObject
  | b :: rest => if b = byte ':' then .ok rest else .error .noColon

theorem colon_length {s rest : Bytes} (h : colon s = .ok rest) : rest.length < s.length := by
  unfold colon at h
  have hs := skipBlanks_length s
  split at h
  · simp at h
  · next hb =>
    rw [hb] at hs
    simp only [List.length_cons] at hs
    split at h
    · simp only [Except.ok.injEq] at h
      rw [← h]
      omega
    · simp at h

/-- A key, its colon and a value that may depend on the key. -/
def field (value : String → Except Error (Reader α)) : Reader α where
  run s :=
    match quotedString.run s with
    | .error e => .error e
    | .ok (key, s₁) =>
      match value key with
      | .error e => .error e
      | .ok reader =>
        match colon s₁ with
        | .error e => .error e
        | .ok s₂ => reader.run s₂
  shorter {s a rest} h := by
    split at h
    · simp at h
    · next h₁ =>
      split at h
      · simp at h
      · split at h
        · simp at h
        · next h₂ =>
          have l₁ := quotedString.shorter h₁
          have l₂ := colon_length h₂
          have l₃ := Reader.shorter _ h
          omega

/-- A reader whose result is changed by a function. -/
def Reader.map (f : α → β) (r : Reader α) : Reader β where
  run s :=
    match r.run s with
    | .error e => .error e
    | .ok (a, rest) => .ok (f a, rest)
  shorter {s b rest} h := by
    split at h
    · simp at h
    · next hr =>
      simp only [Except.ok.injEq, Prod.mk.injEq] at h
      rw [← h.2]
      exact r.shorter hr

/-- The items of an array, in order, from behind its bracket on. -/
def itemsRest (value : Reader Json) (s : Bytes) : Except Error (List Json × Bytes) :=
  match Bracket.array.fold (fun done => value.map (· :: done)) true [] s with
  | .error e => .error e
  | .ok (done, rest) => .ok (done.reverse, rest)

/-- The fields of an object in key order, the last of each key, from behind its brace on. -/
def fieldsRest (value : Reader Json) (s : Bytes) :
    Except Error (List (String × Json) × Bytes) :=
  Bracket.object.fold
    (fun fields => field (fun key => .ok (value.map (Entries.insert key · fields)))) true [] s

theorem itemsRest_length {value : Reader Json} {s rest : Bytes} {items : List Json}
    (h : itemsRest value s = .ok (items, rest)) : rest.length < s.length := by
  unfold itemsRest at h
  split at h
  · simp at h
  · next hf =>
    have := Bracket.fold_length hf
    simp_all

/--
A value whose arrays and objects hold values read by `inner`; without `inner` there may be no array
and no object.
-/
def valueAround (inner : Option (Reader Json)) (s : Bytes) : Except Error (Json × Bytes) :=
  match skipBlanks s with
  | [] => .error .cutValue
  | b :: rest =>
    if b = byte 'n' then (expectWord ['u', 'l', 'l'] rest).map (.null, ·)
    else if b = byte 't' then (expectWord ['r', 'u', 'e'] rest).map (.bool true, ·)
    else if b = byte 'f' then (expectWord ['a', 'l', 's', 'e'] rest).map (.bool false, ·)
    else if b = byte '-' then (readNumber true rest).map (fun p => (.number p.1, p.2))
    else if isDigit b then (readNumber false (b :: rest)).map (fun p => (.number p.1, p.2))
    else if b = byte '"' then (stringRest [] rest).map (fun p => (.string p.1, p.2))
    else if b = byte '[' then
      match inner with
      | none => .error .tooDeep
      | some value => (itemsRest value rest).map (fun p => (.array p.1, p.2))
    else if b = byte '\x7b' then
      match inner with
      | none => .error .tooDeep
      | some value => (fieldsRest value rest).map (fun p => (.object p.1, p.2))
    else .error .noValue

theorem Except.map_eq_ok {f : α → β} {x : Except ε α} {b : β} (h : x.map f = .ok b) :
    ∃ a, x = .ok a ∧ f a = b := by
  cases x with
  | error e => simp [Except.map] at h
  | ok a => exact ⟨a, rfl, by simpa [Except.map] using h⟩

theorem valueAround_length {inner : Option (Reader Json)} {s rest : Bytes} {v : Json}
    (h : valueAround inner s = .ok (v, rest)) : rest.length < s.length := by
  unfold valueAround at h
  have hs := skipBlanks_length s
  split at h
  · simp at h
  · next b tail hb =>
    rw [hb] at hs
    simp only [List.length_cons] at hs
    have word : ∀ {w : List Char} {u : Json},
        (expectWord w tail).map (u, ·) = .ok (v, rest) → rest.length < s.length := by
      intro w u hw
      obtain ⟨r, hr, he⟩ := Except.map_eq_ok hw
      have := expectWord_length hr
      simp only [Prod.mk.injEq] at he
      rw [← he.2]
      omega
    split at h
    · exact word h
    split at h
    · exact word h
    split at h
    · exact word h
    split at h
    · obtain ⟨⟨a, r⟩, hp, he⟩ := Except.map_eq_ok h
      have := readNumber_length hp
      simp only [Prod.mk.injEq] at he
      rw [← he.2]
      omega
    split at h
    · obtain ⟨⟨a, r⟩, hp, he⟩ := Except.map_eq_ok h
      have := readNumber_length hp
      simp only [Prod.mk.injEq, List.length_cons] at he this
      rw [← he.2]
      omega
    split at h
    · obtain ⟨⟨a, r⟩, hp, he⟩ := Except.map_eq_ok h
      have := stringRest_length hp
      simp only [Prod.mk.injEq] at he
      rw [← he.2]
      omega
    split at h
    · split at h
      · simp at h
      · obtain ⟨⟨a, r⟩, hp, he⟩ := Except.map_eq_ok h
        have := itemsRest_length hp
        simp only [Prod.mk.injEq] at he
        rw [← he.2]
        omega
    split at h
    · split at h
      · simp at h
      · obtain ⟨⟨a, r⟩, hp, he⟩ := Except.map_eq_ok h
        have := Bracket.fold_length hp
        simp only [Prod.mk.injEq] at he
        rw [← he.2]
        omega
    · simp at h

/-- A value with at most `n` arrays and objects around the innermost one. -/
def valueWithin : Nat → Reader Json
  | 0 => ⟨valueAround none, valueAround_length⟩
  | n + 1 => ⟨valueAround (some (valueWithin n)), valueAround_length⟩

/-- How many arrays and objects may stand inside each other. -/
def nestingLimit : Nat := 127

/-- The whole text is read by a reader, up to blanks. -/
def readAll (reader : Reader α) (s : Bytes) : Except Error α :=
  match reader.run s with
  | .error e => .error e
  | .ok (a, rest) => if (skipBlanks rest).isEmpty then .ok a else .error .trailingText

/-- The value that a text is. -/
def read (s : Bytes) : Except Error Json := readAll (valueWithin nestingLimit) s

/-! ## Values of a wanted kind -/

/-- The kind of the value that begins here, as far as an error names it. -/
def found (s : Bytes) : Except Error Found :=
  match skipBlanks s with
  | [] => .error .cutValue
  | b :: rest =>
    if b = byte '[' then .ok .sequence
    else if b = byte '\x7b' then .ok .map
    else
      match valueAround none (b :: rest) with
      | .error e => .error e
      | .ok (.null, _) => .ok .null
      | .ok (.bool v, _) => .ok (.bool v)
      | .ok (.number n, _) => .ok (.number n)
      | .ok (.string t, _) => .ok (.string t)
      | .ok (.array _, _) => .ok .sequence
      | .ok (.object _, _) => .ok .map

/-- The fault of a value that is not of the wanted kind. -/
def notWanted (wanted : String) (s : Bytes) : Error :=
  match found s with
  | .error e => e
  | .ok kind => .wrongKind kind wanted

/-- The items of an array, each read by `value`; anything else is refused. -/
def arrayOf (value : Reader Json) : Reader (List Json) where
  run s :=
    match skipBlanks s with
    | b :: rest =>
      if b = byte '[' then itemsRest value rest else .error (notWanted "a sequence" s)
    | [] => .error .cutValue
  shorter {s a rest} h := by
    have hs := skipBlanks_length s
    split at h
    · next hb =>
      rw [hb] at hs
      simp only [List.length_cons] at hs
      split at h
      · have := itemsRest_length h
        omega
      · simp at h
    · simp at h

/-- The items of an array that is the whole text. -/
def readArray (s : Bytes) : Except Error (List Json) :=
  readAll (arrayOf (valueWithin (nestingLimit - 1))) s

/-- A string; anything else is refused, `wanted` being what it was to stand for. -/
def stringFor (wanted : String) : Reader String where
  run s :=
    match skipBlanks s with
    | b :: rest =>
      if b = byte '"' then stringRest [] rest else .error (notWanted wanted s)
    | [] => .error .cutValue
  shorter {s a rest} h := by
    have hs := skipBlanks_length s
    split at h
    · next hb =>
      rw [hb] at hs
      simp only [List.length_cons] at hs
      split at h
      · have := stringRest_length h
        omega
      · simp at h
    · simp at h

/-- A string whose text is read further. -/
def stringAs (wanted : String) (parse : String → Except Error α) : Reader α where
  run s :=
    match (stringFor wanted).run s with
    | .error e => .error e
    | .ok (text, rest) =>
      match parse text with
      | .error e => .error e
      | .ok a => .ok (a, rest)
  shorter {s a rest} h := by
    split at h
    · simp at h
    · next hs =>
      split at h
      · simp at h
      · have := Reader.shorter _ hs
        simp_all

/-- A whole number of 64 bits with sign. -/
def int64 : Reader Int where
  run s :=
    match (valueWithin 0).run s with
    | .ok (.number (.integer i), rest) =>
      if i < 9223372036854775808 then .ok (i, rest)
      else .error (.wrongValue (.number (.integer i)) "i64")
    | _ => .error (notWanted "i64" s)
  shorter {s a rest} h := by
    split at h
    · next hv =>
      split at h
      · have := Reader.shorter _ hv
        simp_all
      · simp at h
    · simp at h

/-- A value, or `null` for none. -/
def orNull (reader : Reader α) : Reader (Option α) where
  run s :=
    match skipBlanks s with
    | b :: rest =>
      if b = byte 'n' then (expectWord ['u', 'l', 'l'] rest).map (none, ·)
      else (reader.map some).run s
    | [] => .error .cutValue
  shorter {s a rest} h := by
    have hs := skipBlanks_length s
    split at h
    · next hb =>
      rw [hb] at hs
      simp only [List.length_cons] at hs
      split at h
      · obtain ⟨r, hr, he⟩ := Except.map_eq_ok h
        have := expectWord_length hr
        simp only [Prod.mk.injEq] at he
        rw [← he.2]
        omega
      · exact Reader.shorter _ h
    · simp at h

end PoolFeed.Json
