import PoolFeed.Proofs.Roundtrip.Values

/-!
# Depth and readers

A reader that goes `n` arrays and objects deep gives legible values only, if their numbers read
back. Whether a reader that goes less deep reads the text of such a value back is a question of the
value's depth alone: a value that is nested deeper is refused for that, and for nothing else.

## Main statements

* `legible_of_run` — what was read is legible
* `Legible.of_depth_le` — a legible value is read back by every reader that goes deep enough
* `Legible.run_tooDeep` — by every other reader it is refused
-/

namespace PoolFeed

namespace Json

open Text (Bytes byte encode)

/-! ## Depth -/

theorem lt_depths_iff {n : Nat} {vs : List Json} :
    n < depth.depths vs ↔ ∃ v ∈ vs, n < v.depth := by
  induction vs with
  | nil => simp [depth.depths]
  | cons v vs ih => rw [depth.depths, lt_max_iff, ih, List.exists_mem_cons_iff]

theorem lt_fieldDepths_iff {n : Nat} {es : List (String × Json)} :
    n < depth.fieldDepths es ↔ ∃ e ∈ es, n < e.2.depth := by
  induction es with
  | nil => simp [depth.fieldDepths]
  | cons e es ih =>
    obtain ⟨k, v⟩ := e
    rw [depth.fieldDepths, lt_max_iff, ih, List.exists_mem_cons_iff]

theorem depth_le_of_mem {n : Nat} {items : List Json} {v : Json}
    (h : (array items).depth ≤ n + 1) (hv : v ∈ items) : v.depth ≤ n := by
  have hnone : ¬ n < depth.depths items := by
    rw [depth] at h
    omega
  rw [lt_depths_iff] at hnone
  exact Nat.le_of_not_lt fun hdeep => hnone ⟨v, hv, hdeep⟩

theorem depth_le_of_mem_fields {n : Nat} {fields : List (String × Json)} {e : String × Json}
    (h : (object fields).depth ≤ n + 1) (he : e ∈ fields) : e.2.depth ≤ n := by
  have hnone : ¬ n < depth.fieldDepths fields := by
    rw [depth] at h
    omega
  rw [lt_fieldDepths_iff] at hnone
  exact Nat.le_of_not_lt fun hdeep => hnone ⟨e, he, hdeep⟩

/-- **A legible value is read back by every reader that goes deep enough.** -/
theorem Legible.of_depth_le {n m : Nat} {v : Json} (h : Legible n v) (hm : v.depth ≤ m) :
    Legible m v := by
  induction h generalizing m with
  | null => exact .null
  | bool b => exact .bool b
  | number h => exact .number h
  | string s => exact .string s
  | array _ ih =>
    obtain ⟨m, rfl⟩ : ∃ m', m = m' + 1 := ⟨m - 1, by rw [depth] at hm; omega⟩
    exact .array fun v hv => ih v hv (depth_le_of_mem hm hv)
  | object hs _ ih =>
    obtain ⟨m, rfl⟩ : ∃ m', m = m' + 1 := ⟨m - 1, by rw [depth] at hm; omega⟩
    exact .object hs fun e he => ih e he (depth_le_of_mem_fields hm he)

/-! ## Values that were read -/

/-- The numbers in a value. -/
def numbers : Json → List Number
  | .number x => [x]
  | .array items => itemNumbers items
  | .object fields => fieldNumbers fields
  | _ => []
where
  /-- The numbers in some values. -/
  itemNumbers : List Json → List Number
    | [] => []
    | v :: rest => v.numbers ++ itemNumbers rest
  /-- The numbers in the values of some fields. -/
  fieldNumbers : List (String × Json) → List Number
    | [] => []
    | (_, v) :: rest => v.numbers ++ fieldNumbers rest

theorem mem_itemNumbers {x : Number} {vs : List Json} {v : Json} (hv : v ∈ vs)
    (hx : x ∈ v.numbers) : x ∈ numbers.itemNumbers vs := by
  induction vs with
  | nil => cases hv
  | cons w vs ih =>
    rw [numbers.itemNumbers, List.mem_append]
    rcases List.mem_cons.mp hv with rfl | hv
    · exact Or.inl hx
    · exact Or.inr (ih hv)

theorem mem_fieldNumbers {x : Number} {es : List (String × Json)} {e : String × Json}
    (he : e ∈ es) (hx : x ∈ e.2.numbers) : x ∈ numbers.fieldNumbers es := by
  induction es with
  | nil => cases he
  | cons f es ih =>
    obtain ⟨k, v⟩ := f
    rw [numbers.fieldNumbers, List.mem_append]
    rcases List.mem_cons.mp he with rfl | he
    · exact Or.inl hx
    · exact Or.inr (ih he)

/-- What every member of an array or object keeps holds of what they all come to. -/
theorem Bracket.fold_induction {σ : Type} {br : Bracket} {member : σ → Reader σ} {P : σ → Prop}
    (hmember : ∀ {state state' : σ} {t rest : Bytes}, P state →
      (member state).run t = .ok (state', rest) → P state')
    {first : Bool} {state final : σ} {s rest : Bytes} (hstate : P state)
    (h : br.fold member first state s = .ok (final, rest)) : P final := by
  fun_induction Bracket.fold br member first state s with
  | case1 => cases h
  | case2 =>
    cases h
    exact hstate
  | case3 => cases h
  | case4 _ _ _ _ _ _ _ hr ih => exact ih (hmember hstate hr) h

theorem Reader.run_map_eq_ok {α β : Type} {f : α → β} {r : Reader α} {s rest : Bytes} {b : β}
    (h : (r.map f).run s = .ok (b, rest)) : ∃ a, r.run s = .ok (a, rest) ∧ f a = b := by
  simp only [Reader.map] at h
  split at h
  · cases h
  · next a rest' hr =>
    cases h
    exact ⟨a, hr, rfl⟩

/-- What a field's reader gives is what the reader of its value gives. -/
theorem exists_run_of_field {α : Type} {value : String → Except Error (Reader α)} {s rest : Bytes}
    {a : α} (h : (field value).run s = .ok (a, rest)) :
    ∃ key reader t, value key = .ok reader ∧ reader.run t = .ok (a, rest) := by
  simp only [field] at h
  split at h
  · cases h
  · next key s₁ _ =>
    split at h
    · cases h
    · next reader hreader =>
      split at h
      · cases h
      · next t _ => exact ⟨key, reader, t, hreader, h⟩

/-- Every item of an array that was read was read by the reader of items. -/
theorem exists_run_of_mem_items {value : Reader Json} {s rest : Bytes} {items : List Json}
    (h : itemsRest value s = .ok (items, rest)) :
    ∀ v ∈ items, ∃ t rest', value.run t = .ok (v, rest') := by
  rw [itemsRest] at h
  split at h
  · cases h
  · next done rest hfold =>
    cases h
    intro v hv
    have hmember : ∀ {done done' : List Json} {t rest : Bytes},
        (∀ v ∈ done, ∃ t rest, value.run t = .ok (v, rest)) →
        (value.map (· :: done)).run t = .ok (done', rest) →
        ∀ v ∈ done', ∃ t rest, value.run t = .ok (v, rest) := by
      intro done done' t rest hdone hrun w hw
      obtain ⟨u, hu, rfl⟩ := Reader.run_map_eq_ok hrun
      rcases List.mem_cons.mp hw with rfl | hw
      · exact ⟨t, rest, hu⟩
      · exact hdone w hw
    have hnone : ∀ v ∈ ([] : List Json), ∃ t rest, value.run t = .ok (v, rest) := by
      intro v hv
      cases hv
    exact Bracket.fold_induction hmember hnone hfold v (List.mem_reverse.mp hv)

/-- The fields of an object that was read are in key order, and the value of each was read. -/
theorem exists_run_of_mem_fields {value : Reader Json} {s rest : Bytes}
    {fields : List (String × Json)} (h : fieldsRest value s = .ok (fields, rest)) :
    Entries.Sorted fields ∧ ∀ e ∈ fields, ∃ t rest', value.run t = .ok (e.2, rest') := by
  have hmember : ∀ {done done' : List (String × Json)} {t rest : Bytes},
      (Entries.Sorted done ∧ ∀ e ∈ done, ∃ t rest, value.run t = .ok (e.2, rest)) →
      (field fun key => .ok (value.map (Entries.insert key · done))).run t = .ok (done', rest) →
      Entries.Sorted done' ∧ ∀ e ∈ done', ∃ t rest, value.run t = .ok (e.2, rest) := by
    rintro done done' t rest ⟨hsorted, hdone⟩ hrun
    obtain ⟨key, reader, u, hreader, hu⟩ := exists_run_of_field hrun
    cases hreader
    obtain ⟨v, hv, rfl⟩ := Reader.run_map_eq_ok hu
    refine ⟨hsorted.insert, ?_⟩
    intro e he
    rcases Entries.mem_insert he with rfl | he
    · exact ⟨u, rest, hv⟩
    · exact hdone e he
  have hnone : Entries.Sorted ([] : List (String × Json))
      ∧ ∀ e ∈ ([] : List (String × Json)), ∃ t rest, value.run t = .ok (e.2, rest) := by
    refine ⟨List.Pairwise.nil, ?_⟩
    intro e he
    cases he
  exact Bracket.fold_induction hmember hnone h

/-- What was read is no array and no object, or the reader goes deeper than it. -/
theorem cases_of_valueAround {inner : Option (Reader Json)} {s rest : Bytes} {v : Json}
    (h : valueAround inner s = .ok (v, rest)) :
    v.depth = 0 ∨ ∃ value, inner = some value ∧
      ((∃ items t, itemsRest value t = .ok (items, rest) ∧ v = .array items)
        ∨ ∃ fields t, fieldsRest value t = .ok (fields, rest) ∧ v = .object fields) := by
  have flat : ∀ {α : Type} {x : Except Error α} {f : α → Json × Bytes},
      (∀ a, (f a).1.depth = 0) → x.map f = .ok (v, rest) → v.depth = 0 := by
    intro α x f hf hx
    obtain ⟨a, -, ha⟩ := Except.map_eq_ok hx
    have hflat := hf a
    rw [ha] at hflat
    exact hflat
  unfold valueAround at h
  split at h
  · cases h
  · next b t _ =>
    split at h
    · exact Or.inl (flat (fun _ => rfl) h)
    split at h
    · exact Or.inl (flat (fun _ => rfl) h)
    split at h
    · exact Or.inl (flat (fun _ => rfl) h)
    split at h
    · exact Or.inl (flat (fun _ => rfl) h)
    split at h
    · exact Or.inl (flat (fun _ => rfl) h)
    split at h
    · exact Or.inl (flat (fun _ => rfl) h)
    split at h
    · split at h
      · cases h
      · next value =>
        obtain ⟨⟨items, rest'⟩, hitems, he⟩ := Except.map_eq_ok h
        cases he
        exact Or.inr ⟨value, rfl, Or.inl ⟨items, t, hitems, rfl⟩⟩
    split at h
    · split at h
      · cases h
      · next value =>
        obtain ⟨⟨fields, rest'⟩, hfields, he⟩ := Except.map_eq_ok h
        cases he
        exact Or.inr ⟨value, rfl, Or.inr ⟨fields, t, hfields, rfl⟩⟩
    · cases h

theorem legible_of_depth_eq_zero {n : Nat} {v : Json} (h : v.depth = 0)
    (hnumbers : ∀ x ∈ v.numbers, x.ReadsBack) : Legible n v := by
  cases v with
  | null => exact .null
  | bool b => exact .bool b
  | number x => exact .number (hnumbers x List.mem_cons_self)
  | string s => exact .string s
  | array items =>
    rw [depth] at h
    omega
  | object fields =>
    rw [depth] at h
    omega

/-- **What was read is legible, if its numbers read back.** -/
theorem legible_of_run {n : Nat} {s rest : Bytes} {v : Json}
    (h : (valueWithin n).run s = .ok (v, rest)) (hnumbers : ∀ x ∈ v.numbers, x.ReadsBack) :
    Legible n v := by
  induction n generalizing s rest v with
  | zero =>
    rw [run_valueWithin_zero] at h
    obtain hflat | ⟨_, hinner, -⟩ := cases_of_valueAround h
    · exact legible_of_depth_eq_zero hflat hnumbers
    · cases hinner
  | succ n ih =>
    rw [run_valueWithin_succ] at h
    obtain hflat | ⟨_, hinner, ⟨items, _, hitems, rfl⟩ | ⟨fields, _, hfields, rfl⟩⟩ :=
      cases_of_valueAround h
    · exact legible_of_depth_eq_zero hflat hnumbers
    · cases hinner
      refine .array fun w hw => ?_
      obtain ⟨t, rest', hrun⟩ := exists_run_of_mem_items hitems w hw
      exact ih hrun fun x hx => hnumbers x (mem_itemNumbers hw hx)
    · cases hinner
      obtain ⟨hsorted, hread⟩ := exists_run_of_mem_fields hfields
      refine .object hsorted fun e he => ?_
      obtain ⟨t, rest', hrun⟩ := hread e he
      exact ih hrun fun x hx => hnumbers x (mem_fieldNumbers he hx)

/-! ## Values that are refused -/

/-- Whether a reader refuses a value's text, whatever may follow it, for one reason. -/
def Refuses {α : Type} (reader : Reader α) (v : Json) (e : Error) : Prop :=
  ∀ rest, EndsNumber rest → reader.run (encode v.chars ++ rest) = .error e

theorem Reader.run_map_error {α β : Type} {f : α → β} {r : Reader α} {s : Bytes} {e : Error}
    (h : r.run s = .error e) : (r.map f).run s = .error e := by
  simp only [Reader.map, h]

theorem Refuses.map {α β : Type} {reader : Reader α} {v : Json} {e : Error}
    (h : Refuses reader v e) (f : α → β) : Refuses (reader.map f) v e :=
  fun rest hrest => Reader.run_map_error (h rest hrest)

theorem Bracket.fold_error {σ : Type} {br : Bracket} {member : σ → Reader σ} {first : Bool}
    {state : σ} {s t : Bytes} {e : Error} (h : br.next first s = .ok (.member t))
    (hm : (member state).run t = .error e) : br.fold member first state s = .error e := by
  rw [Bracket.fold]
  split
  · next h' => rw [h] at h'; cases h'
  · next h' => rw [h] at h'; cases h'
  · next h' =>
    rw [h] at h'
    cases h'
    split
    · next he => rw [hm] at he; cases he; rfl
    · next he => rw [hm] at he; cases he

/-- The readers of some fields take their values up to one that is refused. -/
inductive RefusesFields {σ : Type} (value : σ → String → Except Error (Reader σ)) (e : Error) :
    σ → List (String × Json) → Prop
  | here {state : σ} {k : String} {v : Json} {es : List (String × Json)} {reader : Reader σ}
    (hk : value state k = .ok reader) (hv : Refuses reader v e) :
    RefusesFields value e state ((k, v) :: es)
  | later {state state' : σ} {k : String} {v : Json} {es : List (String × Json)}
    {reader : Reader σ} (hk : value state k = .ok reader) (hv : Takes reader v state')
    (hrest : RefusesFields value e state' es) : RefusesFields value e state ((k, v) :: es)

/-- A field that is refused refuses the object. -/
theorem RefusesFields.fold {σ : Type} {value : σ → String → Except Error (Reader σ)} {e : Error}
    {state : σ} {es : List (String × Json)} (h : RefusesFields value e state es) {rest s : Bytes}
    {first : Bool}
    (hs : Bracket.object.next first s = .ok (.member (encode (fieldChars es) ++ rest))) :
    Bracket.object.fold (fun state => field (value state)) first state s = .error e := by
  induction h generalizing first s with
  | @here state k v es reader hk hv =>
    refine Bracket.fold_error hs ?_
    rw [encode_fieldChars_cons, field_run hk]
    exact hv _ (endsNumber_fieldsBehind es rest)
  | @later state state' k v es reader hk hv hrest ih =>
    have hfield : (field (value state)).run (encode (fieldChars ((k, v) :: es)) ++ rest)
        = .ok (state', encode (fieldsBehind es) ++ rest) := by
      rw [encode_fieldChars_cons, field_run hk]
      exact hv _ (endsNumber_fieldsBehind es rest)
    rw [Bracket.fold_member hs hfield]
    cases es with
    | nil => cases hrest
    | cons f es => exact ih (next_fieldsBehind f es rest)

/-! ## Values that are nested too deep -/

/-- The items of an array are read up to one that is nested too deep. -/
theorem fold_items_tooDeep {n k : Nat} {vs : List Json} (hlegible : ∀ v ∈ vs, Legible k v)
    (hrefuses : ∀ v ∈ vs, n < v.depth → Refuses (valueWithin n) v .tooDeep)
    (hsome : ∃ v ∈ vs, n < v.depth) {rest t s : Bytes} {first : Bool} {done : List Json}
    (ht : ∀ m, (valueWithin m).run t = (valueWithin m).run (encode (itemChars vs) ++ rest))
    (hs : Bracket.array.next first s = .ok (.member t)) :
    Bracket.array.fold (fun done => (valueWithin n).map (· :: done)) first done s
      = .error .tooDeep := by
  induction vs generalizing t s first done with
  | nil =>
    obtain ⟨v, hv, -⟩ := hsome
    cases hv
  | cons v vs ih =>
    have hends := endsNumber_itemsBehind vs rest
    have hread : (valueWithin n).run t
        = (valueWithin n).run (encode v.chars ++ (encode (itemsBehind vs) ++ rest)) := by
      rw [ht n, encode_itemChars_cons]
    by_cases hdeep : n < v.depth
    · have hv := hrefuses v List.mem_cons_self hdeep _ hends
      exact Bracket.fold_error hs (Reader.run_map_error (hread.trans hv))
    -- The first item is read, so that a later one is the one nested too deep.
    · have hv := ((hlegible v List.mem_cons_self).of_depth_le (Nat.le_of_not_lt hdeep)).run _ hends
      have hitem : ((valueWithin n).map (· :: done)).run t
          = .ok (v :: done, encode (itemsBehind vs) ++ rest) := Reader.run_map (hread.trans hv)
      refine Eq.trans (Bracket.fold_member hs hitem) ?_
      cases vs with
      | nil =>
        obtain ⟨w, hw, hwdeep⟩ := hsome
        rw [List.mem_singleton.mp hw] at hwdeep
        exact absurd hwdeep hdeep
      | cons w vs =>
        have hw := hlegible w (List.mem_cons_of_mem _ List.mem_cons_self)
        obtain ⟨t', ht', -, hnext⟩ := next_itemChars hw.run vs rest
        refine ih (fun u hu => hlegible u (List.mem_cons_of_mem _ hu))
          (fun u hu => hrefuses u (List.mem_cons_of_mem _ hu)) ?_ ?_ hnext
        · obtain ⟨u, hu, hudeep⟩ := hsome
          rcases List.mem_cons.mp hu with rfl | hu
          · exact absurd hudeep hdeep
          · exact ⟨u, hu, hudeep⟩
        · intro m
          rw [ht' m, encode_itemChars_cons]

/-- An item that is nested too deep refuses the array. -/
theorem itemsRest_tooDeep {n k : Nat} {vs : List Json} (hlegible : ∀ v ∈ vs, Legible k v)
    (hrefuses : ∀ v ∈ vs, n < v.depth → Refuses (valueWithin n) v .tooDeep)
    (hsome : ∃ v ∈ vs, n < v.depth) (rest : Bytes) :
    itemsRest (valueWithin n) (encode (itemChars vs) ++ rest) = .error .tooDeep := by
  cases vs with
  | nil =>
    obtain ⟨v, hv, -⟩ := hsome
    cases hv
  | cons v vs =>
    obtain ⟨t, ht, hnext, -⟩ := next_itemChars (hlegible v List.mem_cons_self).run vs rest
    have hread : ∀ m, (valueWithin m).run t
        = (valueWithin m).run (encode (itemChars (v :: vs)) ++ rest) := by
      intro m
      rw [ht m, encode_itemChars_cons]
    rw [itemsRest, fold_items_tooDeep hlegible hrefuses hsome hread hnext]

/-- The fields of an object are read up to one whose value is nested too deep. -/
theorem refusesFields_tooDeep {n k : Nat} {done es : List (String × Json)}
    (hlegible : ∀ e ∈ es, Legible k e.2)
    (hrefuses : ∀ e ∈ es, n < e.2.depth → Refuses (valueWithin n) e.2 .tooDeep)
    (hsome : ∃ e ∈ es, n < e.2.depth) :
    RefusesFields (fun fields key => .ok ((valueWithin n).map (Entries.insert key · fields)))
      .tooDeep done es := by
  induction es generalizing done with
  | nil =>
    obtain ⟨e, he, -⟩ := hsome
    cases he
  | cons e es ih =>
    obtain ⟨key, v⟩ := e
    by_cases hdeep : n < v.depth
    · exact .here rfl ((hrefuses _ List.mem_cons_self hdeep).map _)
    · have hv := (hlegible _ List.mem_cons_self).of_depth_le (Nat.le_of_not_lt hdeep)
      refine .later rfl (fun rest hrest => Reader.run_map (hv.run rest hrest)) ?_
      refine ih (fun f hf => hlegible f (List.mem_cons_of_mem _ hf))
        (fun f hf => hrefuses f (List.mem_cons_of_mem _ hf)) ?_
      obtain ⟨f, hf, hfdeep⟩ := hsome
      rcases List.mem_cons.mp hf with rfl | hf
      · exact absurd hfdeep hdeep
      · exact ⟨f, hf, hfdeep⟩

/-- A field whose value is nested too deep refuses the object. -/
theorem fieldsRest_tooDeep {n k : Nat} {es : List (String × Json)}
    (hlegible : ∀ e ∈ es, Legible k e.2)
    (hrefuses : ∀ e ∈ es, n < e.2.depth → Refuses (valueWithin n) e.2 .tooDeep)
    (hsome : ∃ e ∈ es, n < e.2.depth) (rest : Bytes) :
    fieldsRest (valueWithin n) (encode (fieldChars es) ++ rest) = .error .tooDeep := by
  cases es with
  | nil =>
    obtain ⟨e, he, -⟩ := hsome
    cases he
  | cons e es =>
    exact (refusesFields_tooDeep hlegible hrefuses hsome).fold (next_fieldChars e es rest)

/-- **A legible value is refused by every reader that does not go deep enough.** -/
theorem Legible.run_tooDeep {n k : Nat} {v : Json} (h : Legible k v) (hdeep : n < v.depth) :
    Refuses (valueWithin n) v .tooDeep := by
  induction h generalizing n with
  | null => cases hdeep
  | bool b => cases hdeep
  | number h => cases hdeep
  | string s => cases hdeep
  | @array k items hitems ih =>
    intro rest _
    rw [chars, encode_cons, List.append_assoc]
    cases n with
    | zero => rfl
    | succ n =>
      rw [depth, Nat.add_comm n, Nat.add_lt_add_iff_left, lt_depths_iff] at hdeep
      rw [run_valueWithin_succ]
      show (itemsRest (valueWithin n) (encode (itemChars items) ++ rest)).map _ = _
      rw [itemsRest_tooDeep hitems (fun v hv => ih v hv) hdeep]
      rfl
  | @object k fields _ hfields ih =>
    intro rest _
    rw [chars, encode_cons, List.append_assoc]
    cases n with
    | zero => rfl
    | succ n =>
      rw [depth, Nat.add_comm n, Nat.add_lt_add_iff_left, lt_fieldDepths_iff] at hdeep
      rw [run_valueWithin_succ]
      show (fieldsRest (valueWithin n) (encode (fieldChars fields) ++ rest)).map _ = _
      rw [fieldsRest_tooDeep hfields (fun e he => ih e he) hdeep]
      rfl

end Json

end PoolFeed
