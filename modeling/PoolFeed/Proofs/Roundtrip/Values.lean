import PoolFeed.Proofs.Data.SortedMap
import PoolFeed.Proofs.Roundtrip.Numbers

/-!
# Values read back

A value is read back from its compact text in front of anything that may follow a value, if it is
nested no deeper than the reader goes, its objects have their fields in key order, and its numbers
read back.

## Main statements

* `Bracket.fold_fieldChars` — the fields of an object are handed to their readers in order
* `Legible.run` — a legible value is read back
-/

namespace PoolFeed

namespace Json

open Text (Bytes byte encode)

/-! ## Members of arrays and objects -/

theorem Reader.run_map {α β : Type} {f : α → β} {r : Reader α} {s rest : Bytes} {a : α}
    (h : r.run s = .ok (a, rest)) : (r.map f).run s = .ok (f a, rest) := by
  simp only [Reader.map, h]

theorem Bracket.fold_closed {σ : Type} {br : Bracket} {member : σ → Reader σ} {first : Bool}
    {state : σ} {s rest : Bytes} (h : br.next first s = .ok (.closed rest)) :
    br.fold member first state s = .ok (state, rest) := by
  rw [Bracket.fold]
  split
  · next h' => rw [h] at h'; cases h'
  · next h' => rw [h] at h'; cases h'; rfl
  · next h' => rw [h] at h'; cases h'

theorem Bracket.fold_member {σ : Type} {br : Bracket} {member : σ → Reader σ} {first : Bool}
    {state state' : σ} {s t rest : Bytes} (h : br.next first s = .ok (.member t))
    (hm : (member state).run t = .ok (state', rest)) :
    br.fold member first state s = br.fold member false state' rest := by
  rw [Bracket.fold]
  split
  · next h' => rw [h] at h'; cases h'
  · next h' => rw [h] at h'; cases h'
  · next h' =>
    rw [h] at h'
    cases h'
    split
    · next he => rw [hm] at he; cases he
    · next he => rw [hm] at he; cases he; rfl

/-- What is read as a value begins with a byte that is neither blank nor a closing bracket. -/
theorem valueAround_front {inner : Option (Reader Json)} {s : Bytes} {p : Json × Bytes}
    (h : valueAround inner s = .ok p) : ∃ b t, skipBlanks s = b :: t ∧ b ≠ byte ']' := by
  cases hs : skipBlanks s with
  | nil =>
    rw [valueAround, hs] at h
    cases h
  | cons b t =>
    refine ⟨b, t, rfl, ?_⟩
    rintro rfl
    rw [valueAround, hs] at h
    cases h

/-! ## Values that read back -/

/--
A value that reads back where `n` more arrays and objects may be opened: it is nested no deeper,
the fields of its objects stand in key order, and its numbers read back.
-/
inductive Legible : Nat → Json → Prop
  | null {n : Nat} : Legible n .null
  | bool {n : Nat} (b : Bool) : Legible n (.bool b)
  | number {n : Nat} {x : Number} (h : x.ReadsBack) : Legible n (.number x)
  | string {n : Nat} (s : String) : Legible n (.string s)
  | array {n : Nat} {items : List Json} (h : ∀ v ∈ items, Legible n v) :
    Legible (n + 1) (.array items)
  | object {n : Nat} {fields : List (String × Json)} (hs : Entries.Sorted fields)
    (h : ∀ e ∈ fields, Legible n e.2) : Legible (n + 1) (.object fields)

/-- Whether a reader takes a value off the front of whatever may follow the value's text. -/
def Takes {α : Type} (reader : Reader α) (v : Json) (a : α) : Prop :=
  ∀ rest, EndsNumber rest → reader.run (encode v.chars ++ rest) = .ok (a, rest)

/-- The end of an array behind some of its items. -/
def itemsBehind : List Json → List Char
  | [] => [']']
  | v :: vs => ',' :: itemChars (v :: vs)

theorem encode_itemChars_cons (v : Json) (vs : List Json) (rest : Bytes) :
    encode (itemChars (v :: vs)) ++ rest
      = encode v.chars ++ (encode (itemsBehind vs) ++ rest) := by
  have hchars : itemChars (v :: vs) = v.chars ++ itemsBehind vs := by
    cases vs <;> simp [itemChars, itemsBehind]
  rw [hchars, Text.encode_append, List.append_assoc]

theorem endsNumber_of_head {s : Bytes} {b : UInt8} (hs : s.head? = some b)
    (hb : isDigit b = false ∧ b ≠ byte '.' ∧ b ≠ byte 'e' ∧ b ≠ byte 'E') : EndsNumber s := by
  intro c hc
  rw [hs] at hc
  cases hc
  exact hb

theorem endsNumber_itemsBehind (vs : List Json) (rest : Bytes) :
    EndsNumber (encode (itemsBehind vs) ++ rest) := by
  cases vs with
  | nil => exact endsNumber_of_head (b := byte ']') rfl (by decide)
  | cons v vs => exact endsNumber_of_head (b := byte ',') rfl (by decide)

/-! ## Arrays -/

theorem exists_run_valueWithin (n : Nat) : ∃ inner, (valueWithin n).run = valueAround inner := by
  cases n with
  | zero => exact ⟨none, rfl⟩
  | succ n => exact ⟨some (valueWithin n), rfl⟩

/--
Behind an opening bracket, or behind a comma, the next item of an array is found. What is found
there reads like the text in front of which it stands, however deep the reader goes.
-/
theorem next_item {n : Nat} {s : Bytes} {p : Json × Bytes}
    (h : (valueWithin n).run s = .ok p) : ∃ t, (∀ m, (valueWithin m).run t = (valueWithin m).run s)
      ∧ Bracket.array.next true s = .ok (.member t)
      ∧ Bracket.array.next false (byte ',' :: s) = .ok (.member t) := by
  obtain ⟨inner, hi⟩ := exists_run_valueWithin n
  rw [hi] at h
  obtain ⟨b, t, hs, hne⟩ := valueAround_front h
  have hb : b ≠ Bracket.array.close := hne
  refine ⟨b :: t, ?_, ?_, ?_⟩
  · intro m
    obtain ⟨inner', hi'⟩ := exists_run_valueWithin m
    have hagain : skipBlanks (b :: t) = skipBlanks s := by rw [← hs, skipBlanks_skipBlanks]
    rw [hi', valueAround, hagain, valueAround]
  · rw [Bracket.next, hs]
    simp only
    rw [if_neg hb, if_pos trivial]
    rfl
  · have hcomma : skipBlanks (byte ',' :: s) = byte ',' :: s := rfl
    rw [Bracket.next, hcomma]
    simp only
    rw [if_neg (by decide), if_neg (by decide), if_pos trivial, hs]
    simp only
    rw [if_neg hb]
    rfl

/-- An item of an array is found, behind the bracket or behind a comma, whatever follows it. -/
theorem next_itemChars {n : Nat} {v : Json} (h : Takes (valueWithin n) v v) (vs : List Json)
    (rest : Bytes) : ∃ t,
      (∀ m, (valueWithin m).run t
        = (valueWithin m).run (encode v.chars ++ (encode (itemsBehind vs) ++ rest)))
      ∧ Bracket.array.next true (encode (itemChars (v :: vs)) ++ rest) = .ok (.member t)
      ∧ Bracket.array.next false (encode (itemsBehind (v :: vs)) ++ rest) = .ok (.member t) := by
  have hlater : encode (itemsBehind (v :: vs)) ++ rest
      = byte ',' :: (encode (itemChars (v :: vs)) ++ rest) := by
    rw [itemsBehind, encode_cons, List.append_assoc]
    rfl
  rw [hlater, encode_itemChars_cons]
  exact next_item (h _ (endsNumber_itemsBehind vs rest))

theorem fold_itemsBehind {n : Nat} {vs : List Json}
    (h : ∀ v ∈ vs, Takes (valueWithin n) v v) (done : List Json) (rest : Bytes) :
    Bracket.array.fold (fun done => (valueWithin n).map (· :: done)) false done
      (encode (itemsBehind vs) ++ rest) = .ok (vs.reverse ++ done, rest) := by
  induction vs generalizing done with
  | nil => exact Bracket.fold_closed rfl
  | cons v vs ih =>
    have hv := h v List.mem_cons_self _ (endsNumber_itemsBehind vs rest)
    obtain ⟨t, ht, -, hnext⟩ := next_itemChars (h v List.mem_cons_self) vs rest
    refine Eq.trans (Bracket.fold_member hnext (Reader.run_map ((ht n).trans hv))) ?_
    rw [ih (fun w hw => h w (List.mem_cons_of_mem _ hw))]
    simp

/-- The items of an array are read back from behind its bracket. -/
theorem itemsRest_itemChars {n : Nat} {vs : List Json}
    (h : ∀ v ∈ vs, Takes (valueWithin n) v v) (rest : Bytes) :
    itemsRest (valueWithin n) (encode (itemChars vs) ++ rest) = .ok (vs, rest) := by
  cases vs with
  | nil =>
    have hnext : Bracket.array.next true (encode (itemChars []) ++ rest) = .ok (.closed rest) := rfl
    rw [itemsRest, Bracket.fold_closed hnext]
    rfl
  | cons v vs =>
    have hv := h v List.mem_cons_self _ (endsNumber_itemsBehind vs rest)
    obtain ⟨t, ht, hnext, -⟩ := next_itemChars (h v List.mem_cons_self) vs rest
    have hfold : Bracket.array.fold (fun done => (valueWithin n).map (· :: done)) true []
        (encode (itemChars (v :: vs)) ++ rest) = .ok (vs.reverse ++ [v], rest) :=
      Eq.trans (Bracket.fold_member hnext (Reader.run_map ((ht n).trans hv)))
        (fold_itemsBehind (fun w hw => h w (List.mem_cons_of_mem _ hw)) [v] rest)
    rw [itemsRest, hfold]
    simp

/-! ## Objects -/

/-- The end of an object behind some of its fields. -/
def fieldsBehind : List (String × Json) → List Char
  | [] => ['\x7d']
  | e :: es => ',' :: fieldChars (e :: es)

theorem encode_fieldChars_cons (k : String) (v : Json) (es : List (String × Json))
    (rest : Bytes) : encode (fieldChars ((k, v) :: es)) ++ rest
      = encode (quoted k) ++ byte ':' :: (encode v.chars ++ (encode (fieldsBehind es) ++ rest)) := by
  have hchars : fieldChars ((k, v) :: es) = quoted k ++ ':' :: (v.chars ++ fieldsBehind es) := by
    cases es <;> simp [fieldChars, fieldsBehind]
  rw [hchars, Text.encode_append, encode_cons, Text.encode_append]
  simp only [List.append_assoc]
  rfl

theorem endsNumber_fieldsBehind (es : List (String × Json)) (rest : Bytes) :
    EndsNumber (encode (fieldsBehind es) ++ rest) := by
  cases es with
  | nil => exact endsNumber_of_head (b := byte '\x7d') rfl (by decide)
  | cons e es => exact endsNumber_of_head (b := byte ',') rfl (by decide)

theorem encode_quoted (k : String) (rest : Bytes) : encode (quoted k) ++ rest
    = byte '"' :: (encode (k.toList.flatMap escaped ++ ['"']) ++ rest) := by
  rw [quoted, List.cons_append, encode_cons]
  rfl

/-- Behind a quoted key and its colon stands what the key's reader is given. -/
theorem field_run {α : Type} {value : String → Except Error (Reader α)} {reader : Reader α}
    {k : String} (hv : value k = .ok reader) (s : Bytes) :
    (field value).run (encode (quoted k) ++ byte ':' :: s) = reader.run s := by
  have hkey : quotedString.run (encode (quoted k) ++ byte ':' :: s) = .ok (k, byte ':' :: s) := by
    rw [encode_quoted]
    simp only [quotedString]
    rw [if_pos trivial, stringRest_quoted]
  have hcolon : colon (byte ':' :: s) = .ok s := rfl
  simp only [field, hkey, hv, hcolon]

/-- Behind an opening brace the first field is found. -/
theorem next_fieldChars (e : String × Json) (es : List (String × Json)) (rest : Bytes) :
    Bracket.object.next true (encode (fieldChars (e :: es)) ++ rest)
      = .ok (.member (encode (fieldChars (e :: es)) ++ rest)) := by
  rw [encode_fieldChars_cons, encode_quoted]
  rfl

/-- Behind a field the next one is found. -/
theorem next_fieldsBehind (e : String × Json) (es : List (String × Json)) (rest : Bytes) :
    Bracket.object.next false (encode (fieldsBehind (e :: es)) ++ rest)
      = .ok (.member (encode (fieldChars (e :: es)) ++ rest)) := by
  have htext : encode (fieldsBehind (e :: es)) ++ rest
      = byte ',' :: (encode (fieldChars (e :: es)) ++ rest) := by
    rw [fieldsBehind, encode_cons]
    rfl
  rw [htext, encode_fieldChars_cons, encode_quoted]
  rfl

/-- The readers of some fields take their values one after the other, each changing a state. -/
inductive TakesFields {σ : Type} (value : σ → String → Except Error (Reader σ)) :
    σ → List (String × Json) → σ → Prop
  | nil (state : σ) : TakesFields value state [] state
  | cons {state state' final : σ} {k : String} {v : Json} {es : List (String × Json)}
    {reader : Reader σ} (hk : value state k = .ok reader) (hv : Takes reader v state')
    (hrest : TakesFields value state' es final) : TakesFields value state ((k, v) :: es) final

theorem fold_fieldsBehind {σ : Type} {value : σ → String → Except Error (Reader σ)}
    {state final : σ} {es : List (String × Json)} (h : TakesFields value state es final)
    (rest : Bytes) :
    Bracket.object.fold (fun state => field (value state)) false state
      (encode (fieldsBehind es) ++ rest) = .ok (final, rest) := by
  induction h with
  | nil state => exact Bracket.fold_closed rfl
  | @cons state state' final k v es reader hk hv _ ih =>
    have hval := hv _ (endsNumber_fieldsBehind es rest)
    rw [Bracket.fold_member (next_fieldsBehind (k, v) es rest)
      (by rw [encode_fieldChars_cons, field_run hk, hval])]
    exact ih

/-- The fields of an object are handed to their readers in order. -/
theorem Bracket.fold_fieldChars {σ : Type} {value : σ → String → Except Error (Reader σ)}
    {state final : σ} {es : List (String × Json)} (h : TakesFields value state es final)
    (rest : Bytes) :
    Bracket.object.fold (fun state => field (value state)) true state
      (encode (fieldChars es) ++ rest) = .ok (final, rest) := by
  cases h with
  | nil => exact Bracket.fold_closed rfl
  | @cons _ state' _ k v es reader hk hv hrest =>
    have hval := hv _ (endsNumber_fieldsBehind es rest)
    rw [Bracket.fold_member (next_fieldChars (k, v) es rest)
      (by rw [encode_fieldChars_cons, field_run hk, hval])]
    exact fold_fieldsBehind hrest rest

theorem takesFields_insert {n : Nat} {done es : List (String × Json)}
    (hs : Entries.Sorted (done ++ es)) (h : ∀ e ∈ es, Takes (valueWithin n) e.2 e.2) :
    TakesFields (fun fields key => .ok ((valueWithin n).map (Entries.insert key · fields)))
      done es (done ++ es) := by
  induction es generalizing done with
  | nil =>
    rw [List.append_nil]
    exact .nil done
  | cons e es ih =>
    obtain ⟨k, v⟩ := e
    have hs' : Entries.Sorted ((done ++ [(k, v)]) ++ es) := by
      rw [List.append_assoc]
      exact hs
    -- Keys arrive in order, so each field is put behind those that were read before it.
    refine .cons rfl (?_ : Takes _ v (done ++ [(k, v)])) ?_
    · intro rest hrest
      have hv := h _ List.mem_cons_self rest hrest
      have hlt : ∀ e ∈ done, compare e.1 k = .lt := fun e he =>
        (List.pairwise_append.mp hs).2.2 e he (k, v) List.mem_cons_self
      have hins : Entries.insert k v done = done ++ [(k, v)] := Entries.insert_concat hlt
      rw [← hins]
      exact Reader.run_map hv
    · have := ih hs' (fun e he => h e (List.mem_cons_of_mem _ he))
      rw [List.append_assoc] at this
      exact this

/-- The fields of an object in key order are read back from behind its brace. -/
theorem fieldsRest_fieldChars {n : Nat} {es : List (String × Json)} (hs : Entries.Sorted es)
    (h : ∀ e ∈ es, Takes (valueWithin n) e.2 e.2) (rest : Bytes) :
    fieldsRest (valueWithin n) (encode (fieldChars es) ++ rest) = .ok (es, rest) := by
  have htakes : TakesFields (fun fields key =>
      .ok ((valueWithin n).map (Entries.insert key · fields))) [] es es := takesFields_insert hs h
  exact Bracket.fold_fieldChars htakes rest

/-! ## All values -/

/-- **A legible value is read back.** -/
theorem Legible.run {n : Nat} {v : Json} (h : Legible n v) : Takes (valueWithin n) v v := by
  induction h with
  | @null n =>
    intro rest _
    obtain ⟨inner, hi⟩ := exists_run_valueWithin n
    rw [hi]
    rfl
  | @bool n b =>
    intro rest _
    obtain ⟨inner, hi⟩ := exists_run_valueWithin n
    rw [hi]
    cases b <;> rfl
  | @number n x h => exact fun rest hrest => h.run hrest n
  | @string n s =>
    intro rest _
    obtain ⟨inner, hi⟩ := exists_run_valueWithin n
    rw [hi, chars, encode_quoted]
    show (stringRest [] _).map _ = _
    rw [stringRest_quoted]
    rfl
  | @array n items _ ih =>
    intro rest _
    rw [run_valueWithin_succ, chars, encode_cons, List.append_assoc]
    show (itemsRest (valueWithin n) (encode (itemChars items) ++ rest)).map _ = _
    rw [itemsRest_itemChars ih]
    rfl
  | @object n fields hs _ ih =>
    intro rest _
    rw [run_valueWithin_succ, chars, encode_cons, List.append_assoc]
    show (fieldsRest (valueWithin n) (encode (fieldChars fields) ++ rest)).map _ = _
    rw [fieldsRest_fieldChars hs ih]
    rfl

end Json

end PoolFeed
