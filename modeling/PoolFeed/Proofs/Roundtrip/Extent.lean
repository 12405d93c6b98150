import PoolFeed.Proofs.Roundtrip.Depth
import PoolFeed.Proofs.Roundtrip.Numerals

/-!
# Where values end

A value need not read back for its text to be told from what follows it. Whatever is read off the
front of a value's text, the reader stops where the text ends; so the values of an array and of an
object are read one by one, each from a text of its own, and only their numbers may come out
different.

## Main statements

* `itemsRest_extent`, `fold_fieldChars_extent` — members are read one by one
* `stops_valueWithin` — a value that is read takes all of its text
-/

namespace PoolFeed.Json

open Text (Bytes byte encode)

/-! ## Readers that stop -/

section readers

variable {α β : Type} {reader : Reader α} {v : Json} {a b : α}

/-- Whether a reader stops where a value's text ends, if it reads anything. -/
def Stops (reader : Reader α) (v : Json) : Prop :=
  ∀ rest a rest', EndsNumber rest →
    reader.run (encode v.chars ++ rest) = .ok (a, rest') → rest' = rest

/-- Whether something is read from a value's text. -/
def Yields (reader : Reader α) (v : Json) (a : α) : Prop :=
  ∃ rest, EndsNumber rest ∧ reader.run (encode v.chars ++ rest) = .ok (a, rest)

theorem Stops.yields (h : Stops reader v) {rest rest' : Bytes} (hrest : EndsNumber rest)
    (hrun : reader.run (encode v.chars ++ rest) = .ok (a, rest')) :
    rest' = rest ∧ Yields reader v a := by
  obtain rfl := h _ _ _ hrest hrun
  exact ⟨rfl, rest', hrest, hrun⟩

theorem Takes.stops (h : Takes reader v a) : Stops reader v := by
  intro rest b rest' hrest hrun
  rw [h rest hrest] at hrun
  cases hrun
  rfl

theorem Takes.eq_of_yields (h : Takes reader v a) (hb : Yields reader v b) : b = a := by
  obtain ⟨rest, hrest, hrun⟩ := hb
  rw [h rest hrest] at hrun
  cases hrun
  rfl

theorem Stops.map (h : Stops reader v) (f : α → β) : Stops (reader.map f) v := by
  intro rest b rest' hrest hrun
  obtain ⟨a, ha, -⟩ := Reader.run_map_eq_ok hrun
  exact h _ _ _ hrest ha

theorem Yields.of_map {f : α → β} {b : β} (h : Yields (reader.map f) v b) :
    ∃ a, Yields reader v a ∧ f a = b := by
  obtain ⟨rest, hrest, hrun⟩ := h
  obtain ⟨a, ha, hf⟩ := Reader.run_map_eq_ok hrun
  exact ⟨a, ⟨rest, hrest, ha⟩, hf⟩

end readers

/-- What was read of some members was read of the first, and then of the others. -/
theorem Bracket.fold_eq_ok {σ : Type} {br : Bracket} {member : σ → Reader σ} {first : Bool}
    {state : σ} {s t : Bytes} {p : σ × Bytes} (h : br.next first s = .ok (.member t))
    (hfold : br.fold member first state s = .ok p) : ∃ state' rest,
      (member state).run t = .ok (state', rest) ∧ br.fold member false state' rest = .ok p := by
  cases hrun : (member state).run t with
  | error e =>
    rw [Bracket.fold_error h hrun] at hfold
    cases hfold
  | ok q =>
    obtain ⟨state', rest⟩ := q
    rw [Bracket.fold_member h hrun] at hfold
    exact ⟨state', rest, rfl, hfold⟩

/-! ## Arrays -/

/-- The text of a value begins with neither a blank nor a closing bracket. -/
theorem encode_chars_front (v : Json) :
    ∃ b t, encode v.chars = b :: t ∧ isSpace b = false ∧ b ≠ byte ']' := by
  cases v with
  | null => exact ⟨_, _, rfl, rfl, by decide⟩
  | bool b => cases b <;> exact ⟨_, _, rfl, rfl, by decide⟩
  | number x =>
    obtain ⟨cs, hcs, htext | htext⟩ := x.text_cases
    · obtain ⟨b, t, hb, hdigit⟩ := hcs.exists_cons
      refine ⟨b, t, by rw [chars, htext, hb], (isDigit_facts hdigit).1, ?_⟩
      rintro rfl
      cases hdigit
    · exact ⟨_, _, by rw [chars, htext, encode_cons]; rfl, rfl, by decide⟩
  | string s =>
    exact ⟨_, _, by rw [chars, quoted, List.cons_append, encode_cons]; rfl, rfl, by decide⟩
  | array items => exact ⟨_, _, by rw [chars, encode_cons]; rfl, rfl, by decide⟩
  | object fields => exact ⟨_, _, by rw [chars, encode_cons]; rfl, rfl, by decide⟩

/-- Behind an opening bracket, or behind a comma, the next item of an array is found. -/
theorem next_items (v : Json) (vs : List Json) (rest : Bytes) :
    Bracket.array.next true (encode (itemChars (v :: vs)) ++ rest)
        = .ok (.member (encode (itemChars (v :: vs)) ++ rest))
      ∧ Bracket.array.next false (encode (itemsBehind (v :: vs)) ++ rest)
        = .ok (.member (encode (itemChars (v :: vs)) ++ rest)) := by
  obtain ⟨b, t, hb, hspace, hclose⟩ := encode_chars_front v
  have hlater : encode (itemsBehind (v :: vs)) ++ rest
      = byte ',' :: (encode (itemChars (v :: vs)) ++ rest) := by
    rw [itemsBehind, encode_cons, List.append_assoc]
    rfl
  have hskip (u : Bytes) : skipBlanks (b :: u) = b :: u :=
    List.dropWhile_cons_of_neg (by simp [hspace])
  have hcomma (u : Bytes) : skipBlanks (byte ',' :: u) = byte ',' :: u := rfl
  have hne : b ≠ Bracket.array.close := hclose
  rw [hlater, encode_itemChars_cons, hb, List.cons_append]
  constructor
  · simp only [Bracket.next, hskip, hne, if_false, if_true]
    rfl
  · have hcommaClose : byte ',' ≠ Bracket.array.close := by decide
    simp only [Bracket.next, hcomma, hskip, hne, hcommaClose, if_false, if_true, Bool.false_eq_true]
    rfl

section items

variable {value : Reader Json} {vs : List Json} {rest rest' : Bytes}

/-- One item is read, and then those behind it. -/
theorem fold_item_extent {v : Json} {done final : List Json} {s : Bytes} {first : Bool}
    (hv : Stops value v)
    (hs : Bracket.array.next first s = .ok (.member (encode (itemChars (v :: vs)) ++ rest)))
    (hfold : Bracket.array.fold (fun done => value.map (· :: done)) first done s
      = .ok (final, rest')) : ∃ a, Yields value v a
        ∧ Bracket.array.fold (fun done => value.map (· :: done)) false (a :: done)
          (encode (itemsBehind vs) ++ rest) = .ok (final, rest') := by
  obtain ⟨done', rest₁, hrun, hbehind⟩ := Bracket.fold_eq_ok hs hfold
  obtain ⟨a, ha, rfl⟩ := Reader.run_map_eq_ok hrun
  rw [encode_itemChars_cons] at ha
  obtain ⟨rfl, hyields⟩ := hv.yields (endsNumber_itemsBehind vs rest) ha
  exact ⟨a, hyields, hbehind⟩

theorem fold_itemsBehind_extent (h : ∀ v ∈ vs, Stops value v) {done final : List Json}
    (hfold : Bracket.array.fold (fun done => value.map (· :: done)) false done
      (encode (itemsBehind vs) ++ rest) = .ok (final, rest')) :
    rest' = rest ∧ ∃ items, List.Forall₂ (Yields value) vs items
      ∧ final = items.reverse ++ done := by
  induction vs generalizing done with
  | nil =>
    have hclosed : Bracket.array.next false (encode (itemsBehind []) ++ rest)
        = .ok (.closed rest) := rfl
    rw [Bracket.fold_closed hclosed] at hfold
    cases hfold
    exact ⟨rfl, [], .nil, rfl⟩
  | cons v vs ih =>
    obtain ⟨a, ha, hbehind⟩ :=
      fold_item_extent (h v List.mem_cons_self) (next_items v vs rest).2 hfold
    obtain ⟨hrest, items, hitems, rfl⟩ := ih (fun w hw => h w (List.mem_cons_of_mem _ hw)) hbehind
    exact ⟨hrest, a :: items, .cons ha hitems, by simp⟩

/-- **The items of an array are read one by one, up to the closing bracket.** -/
theorem itemsRest_extent (h : ∀ v ∈ vs, Stops value v) {items : List Json}
    (hrun : itemsRest value (encode (itemChars vs) ++ rest) = .ok (items, rest')) :
    rest' = rest ∧ List.Forall₂ (Yields value) vs items := by
  rw [itemsRest] at hrun
  split at hrun
  · cases hrun
  · next final rest₁ hfold =>
    cases hrun
    cases vs with
    | nil =>
      have hclosed : Bracket.array.next true (encode (itemChars []) ++ rest)
          = .ok (.closed rest) := rfl
      rw [Bracket.fold_closed hclosed] at hfold
      cases hfold
      exact ⟨rfl, .nil⟩
    | cons v vs =>
      obtain ⟨a, ha, hbehind⟩ :=
        fold_item_extent (h v List.mem_cons_self) (next_items v vs rest).1 hfold
      obtain ⟨hrest, items, hitems, rfl⟩ :=
        fold_itemsBehind_extent (fun w hw => h w (List.mem_cons_of_mem _ hw)) hbehind
      refine ⟨hrest, ?_⟩
      rw [List.reverse_append, List.reverse_reverse]
      exact .cons ha hitems

end items

/-! ## Objects -/

/-- What is read of some fields, one after the other, each changing a state. -/
inductive YieldsFields {σ : Type} (value : σ → String → Except Error (Reader σ)) :
    σ → List (String × Json) → σ → Prop
  | nil (state : σ) : YieldsFields value state [] state
  | cons {state state' final : σ} {k : String} {v : Json} {es : List (String × Json)}
    {reader : Reader σ} (hk : value state k = .ok reader) (hv : Yields reader v state')
    (hrest : YieldsFields value state' es final) : YieldsFields value state ((k, v) :: es) final

/-- The first of the fields changes the state by what is read of its value. -/
theorem YieldsFields.head {α σ : Type} {value : σ → String → Except Error (Reader σ)}
    {state final : σ} {k : String} {v : Json} {es : List (String × Json)} {reader : Reader α}
    {f : α → σ} (h : YieldsFields value state ((k, v) :: es) final)
    (hk : value state k = .ok (reader.map f)) :
    ∃ a, Yields reader v a ∧ YieldsFields value (f a) es final := by
  cases h with
  | cons hk' hv hrest =>
    rw [hk] at hk'
    cases hk'
    obtain ⟨a, ha, rfl⟩ := hv.of_map
    exact ⟨a, ha, hrest⟩

/-- What a field's reader gives is what the reader of its key gives for its value. -/
theorem exists_reader_of_field {α : Type} {value : String → Except Error (Reader α)} {k : String}
    {s : Bytes} {p : α × Bytes}
    (h : (field value).run (encode (quoted k) ++ byte ':' :: s) = .ok p) :
    ∃ reader, value k = .ok reader ∧ reader.run s = .ok p := by
  cases hvalue : value k with
  | error e =>
    have hkey : quotedString.run (encode (quoted k) ++ byte ':' :: s) = .ok (k, byte ':' :: s) := by
      rw [encode_quoted]
      simp only [quotedString]
      rw [if_pos trivial, stringRest_quoted]
    simp only [field, hkey, hvalue] at h
    cases h
  | ok reader =>
    rw [field_run hvalue] at h
    exact ⟨reader, rfl, h⟩

section fields

variable {σ : Type} {value : σ → String → Except Error (Reader σ)} {es : List (String × Json)}
  {rest rest' : Bytes}

/-- One field is read, and then those behind it. -/
theorem fold_field_extent {k : String} {v : Json} {state final : σ} {s : Bytes} {first : Bool}
    (hv : ∀ state reader, value state k = .ok reader → Stops reader v)
    (hs : Bracket.object.next first s = .ok (.member (encode (fieldChars ((k, v) :: es)) ++ rest)))
    (hfold : Bracket.object.fold (fun state => field (value state)) first state s
      = .ok (final, rest')) : ∃ reader state', value state k = .ok reader ∧ Yields reader v state'
        ∧ Bracket.object.fold (fun state => field (value state)) false state'
          (encode (fieldsBehind es) ++ rest) = .ok (final, rest') := by
  obtain ⟨state', rest₁, hrun, hbehind⟩ := Bracket.fold_eq_ok hs hfold
  rw [encode_fieldChars_cons] at hrun
  obtain ⟨reader, hreader, hread⟩ := exists_reader_of_field hrun
  obtain ⟨rfl, hyields⟩ :=
    (hv state reader hreader).yields (endsNumber_fieldsBehind es rest) hread
  exact ⟨reader, state', hreader, hyields, hbehind⟩

theorem fold_fieldsBehind_extent
    (h : ∀ e ∈ es, ∀ state reader, value state e.1 = .ok reader → Stops reader e.2)
    {state final : σ} (hfold : Bracket.object.fold (fun state => field (value state)) false state
      (encode (fieldsBehind es) ++ rest) = .ok (final, rest')) :
    rest' = rest ∧ YieldsFields value state es final := by
  induction es generalizing state with
  | nil =>
    have hclosed : Bracket.object.next false (encode (fieldsBehind []) ++ rest)
        = .ok (.closed rest) := rfl
    rw [Bracket.fold_closed hclosed] at hfold
    cases hfold
    exact ⟨rfl, .nil _⟩
  | cons e es ih =>
    obtain ⟨reader, state', hreader, hyields, hbehind⟩ :=
      fold_field_extent (h e List.mem_cons_self) (next_fieldsBehind e es rest) hfold
    obtain ⟨hrest, hfields⟩ := ih (fun f hf => h f (List.mem_cons_of_mem _ hf)) hbehind
    exact ⟨hrest, .cons hreader hyields hfields⟩

/-- **The fields of an object are read one by one, up to the closing brace.** -/
theorem fold_fieldChars_extent
    (h : ∀ e ∈ es, ∀ state reader, value state e.1 = .ok reader → Stops reader e.2)
    {state final : σ} (hfold : Bracket.object.fold (fun state => field (value state)) true state
      (encode (fieldChars es) ++ rest) = .ok (final, rest')) :
    rest' = rest ∧ YieldsFields value state es final := by
  cases es with
  | nil =>
    have hclosed : Bracket.object.next true (encode (fieldChars []) ++ rest)
        = .ok (.closed rest) := rfl
    rw [Bracket.fold_closed hclosed] at hfold
    cases hfold
    exact ⟨rfl, .nil _⟩
  | cons e es =>
    obtain ⟨reader, state', hreader, hyields, hbehind⟩ :=
      fold_field_extent (h e List.mem_cons_self) (next_fieldChars e es rest) hfold
    obtain ⟨hrest, hfields⟩ :=
      fold_fieldsBehind_extent (fun f hf => h f (List.mem_cons_of_mem _ hf)) hbehind
    exact ⟨hrest, .cons hreader hyields hfields⟩

end fields

/-! ## All values -/

/-- The fields that are read of an object, put in key order. -/
def insertField (value : Reader Json) (fields : List (String × Json)) (key : String) :
    Except Error (Reader (List (String × Json))) :=
  .ok (value.map (Entries.insert key · fields))

theorem stops_insertField {value : Reader Json} {es : List (String × Json)}
    (h : ∀ e ∈ es, Stops value e.2) :
    ∀ e ∈ es, ∀ done reader, insertField value done e.1 = .ok reader → Stops reader e.2 := by
  intro e he done reader hreader
  cases hreader
  exact (h e he).map _

theorem run_array (n : Nat) (items : List Json) (rest : Bytes) :
    (valueWithin (n + 1)).run (encode (Json.array items).chars ++ rest)
      = (itemsRest (valueWithin n) (encode (itemChars items) ++ rest)).map
        fun p => (.array p.1, p.2) := by
  rw [run_valueWithin_succ, chars, encode_cons, List.append_assoc]
  rfl

theorem run_object (n : Nat) (fields : List (String × Json)) (rest : Bytes) :
    (valueWithin (n + 1)).run (encode (Json.object fields).chars ++ rest)
      = (fieldsRest (valueWithin n) (encode (fieldChars fields) ++ rest)).map
        fun p => (.object p.1, p.2) := by
  rw [run_valueWithin_succ, chars, encode_cons, List.append_assoc]
  rfl

theorem run_array_zero (items : List Json) (rest : Bytes) :
    (valueWithin 0).run (encode (Json.array items).chars ++ rest) = .error .tooDeep := by
  rw [chars, encode_cons, List.append_assoc]
  rfl

theorem run_object_zero (fields : List (String × Json)) (rest : Bytes) :
    (valueWithin 0).run (encode (Json.object fields).chars ++ rest) = .error .tooDeep := by
  rw [chars, encode_cons, List.append_assoc]
  rfl

theorem stops_number (n : Nat) (x : Number) : Stops (valueWithin n) (.number x) := by
  intro rest a rest' hrest hrun
  obtain ⟨inner, hinner⟩ := exists_run_valueWithin n
  rw [hinner] at hrun
  exact Number.valueAround_rest hrest hrun

/-- **A value that is read takes all of its text.** -/
theorem stops_valueWithin (n : Nat) (v : Json) : Stops (valueWithin n) v := by
  induction n generalizing v with
  | zero =>
    cases v with
    | null => exact Legible.null.run.stops
    | bool b => exact (Legible.bool b).run.stops
    | string s => exact (Legible.string s).run.stops
    | number x => exact stops_number _ x
    | array items =>
      intro rest a rest' _ hrun
      rw [run_array_zero] at hrun
      cases hrun
    | object fields =>
      intro rest a rest' _ hrun
      rw [run_object_zero] at hrun
      cases hrun
  | succ n ih =>
    cases v with
    | null => exact Legible.null.run.stops
    | bool b => exact (Legible.bool b).run.stops
    | string s => exact (Legible.string s).run.stops
    | number x => exact stops_number _ x
    | array items =>
      intro rest a rest' _ hrun
      rw [run_array] at hrun
      obtain ⟨p, hitems, hpair⟩ := Except.map_eq_ok hrun
      cases hpair
      exact (itemsRest_extent (fun v _ => ih v) hitems).1
    | object fields =>
      intro rest a rest' _ hrun
      rw [run_object] at hrun
      obtain ⟨p, hfields, hpair⟩ := Except.map_eq_ok hrun
      cases hpair
      exact (fold_fieldChars_extent (stops_insertField fun e _ => ih e.2) hfields).1

/-- What is read of an object is an object of what is read of its fields. -/
theorem yields_object {n : Nat} {fields : List (String × Json)} {v : Json}
    (h : Yields (valueWithin n) (.object fields) v) : ∃ m fields', v = .object fields'
      ∧ YieldsFields (insertField (valueWithin m)) [] fields fields' := by
  obtain ⟨rest, -, hrun⟩ := h
  cases n with
  | zero =>
    rw [run_object_zero] at hrun
    cases hrun
  | succ n =>
    rw [run_object] at hrun
    obtain ⟨⟨fields', rest'⟩, hfields, hpair⟩ := Except.map_eq_ok hrun
    cases hpair
    have hstops := stops_insertField fun e (_ : e ∈ fields) => stops_valueWithin n e.2
    exact ⟨n, fields', rfl, (fold_fieldChars_extent hstops hfields).2⟩

end PoolFeed.Json
