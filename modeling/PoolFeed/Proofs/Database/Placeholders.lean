import PoolFeed.Database.Statement
import PoolFeed.Proofs.Roundtrip.Times

/-!
# Placeholders of statements

The database reads the text of a statement: a dollar sign and the digits behind it stand for the
value with that number, and each pair of parentheses behind `VALUES` makes a row. Read like this, a
bulk insert numbers its placeholders without a gap, and each of its rows takes the values of one
pool.

## Main statements

* `Statement.placeholders_insertPools` — the placeholders of a bulk insert count up from one
* `Statement.valueRows_insertPools` — every row of values is the row of its pool
-/

namespace PoolFeed.Database

open Timestamp (EndsDigits endsDigits_cons takeWhile_digits)

/-! ## Reading texts -/

/-- The numbers of the placeholders in a text. -/
def placeholdersIn : List Char → List Nat
  | [] => []
  | c :: rest =>
    if c = '$' then Nat.ofDigitChars 10 (rest.takeWhile Char.isDigit) 0 :: placeholdersIn rest
    else placeholdersIn rest

/-- What stands in parentheses in a text. -/
def groupsIn : List Char → List (List Char)
  | [] => []
  | c :: rest => if c = '(' then rest.takeWhile (· ≠ ')') :: groupsIn rest else groupsIn rest

namespace Statement

/-- The numbers of the placeholders of a statement, in the order in which they stand there. -/
def placeholders (s : Statement) : List Nat := placeholdersIn s.text.toList

/-- The placeholders of a statement, row by row. -/
def placeholderRows (s : Statement) : List (List Nat) :=
  ((groupsIn s.text.toList).map placeholdersIn).filter (!·.isEmpty)

/-- The value of a statement with a number, counted from one. -/
def value? (s : Statement) (n : Nat) : Option Cell := s.parameters[n - 1]?

/-- The rows of a statement with the values in place of the placeholders. -/
def valueRows (s : Statement) : List (List (Option Cell)) :=
  s.placeholderRows.map (·.map s.value?)

end Statement

/-! ## Texts piece by piece -/

variable {cs rest : List Char} {ns : List Nat}

theorem placeholdersIn_append (h : '$' ∉ cs) :
    placeholdersIn (cs ++ rest) = placeholdersIn rest := by
  induction cs with
  | nil => rfl
  | cons c cs ih =>
    have hc : c ≠ '$' := fun hc => h (hc ▸ List.mem_cons_self)
    rw [List.cons_append, placeholdersIn, if_neg hc]
    exact ih fun hmem => h (List.mem_cons_of_mem c hmem)

theorem groupsIn_append (h : '(' ∉ cs) : groupsIn (cs ++ rest) = groupsIn rest := by
  induction cs with
  | nil => rfl
  | cons c cs ih =>
    have hc : c ≠ '(' := fun hc => h (hc ▸ List.mem_cons_self)
    rw [List.cons_append, groupsIn, if_neg hc]
    exact ih fun hmem => h (List.mem_cons_of_mem c hmem)

/-- What stands in a pair of parentheses that has no others inside. -/
theorem groupsIn_group (hopen : '(' ∉ cs) (hclose : ')' ∉ cs) :
    groupsIn ('(' :: (cs ++ ')' :: rest)) = cs :: groupsIn rest := by
  have htake : (cs ++ ')' :: rest).takeWhile (· ≠ ')') = cs := by
    rw [List.takeWhile_append_of_pos fun c hc => by
      simpa using fun heq : c = ')' => hclose (heq ▸ hc)]
    simp
  have hskip : groupsIn (cs ++ ')' :: rest) = groupsIn rest := by
    rw [groupsIn_append hopen]
    exact if_neg (by decide)
  rw [groupsIn, if_pos rfl, htake, hskip]

theorem intercalate_cons {β : Type} (sep x : List β) (xs : List (List β)) :
    sep.intercalate (x :: xs) = x ++ xs.flatMap (sep ++ ·) := by
  induction xs generalizing x with
  | nil => simp [List.intercalate]
  | cons y ys ih =>
    rw [List.flatMap_cons, List.append_assoc, ← ih y]
    simp [List.intercalate]

/--
Texts with separators between them are read one after the other. A text may have to end where the
next one begins, as a number does that must not run into more digits.
-/
theorem read_intercalate {β γ : Type} {read : List Char → List β} {sep : List Char}
    {text : γ → List Char} {found : γ → List β} (Ends : List Char → Prop)
    (hsep : ∀ rest, Ends (sep ++ rest) ∧ read (sep ++ rest) = read rest)
    (htext : ∀ x rest, Ends rest → read (text x ++ rest) = found x ++ read rest)
    (xs : List γ) (hrest : Ends rest) :
    read (sep.intercalate (xs.map text) ++ rest) = xs.flatMap found ++ read rest := by
  have hmore : ∀ xs : List γ, Ends ((xs.map text).flatMap (sep ++ ·) ++ rest)
      ∧ read ((xs.map text).flatMap (sep ++ ·) ++ rest) = xs.flatMap found ++ read rest := by
    intro xs
    induction xs with
    | nil => exact ⟨hrest, rfl⟩
    | cons x xs ih =>
      rw [List.map_cons, List.flatMap_cons, List.append_assoc, List.append_assoc]
      refine ⟨(hsep _).1, ?_⟩
      rw [(hsep _).2, htext x _ ih.1, ih.2, List.flatMap_cons, List.append_assoc]
  cases xs with
  | nil => rfl
  | cons x xs =>
    rw [List.map_cons, intercalate_cons, List.append_assoc, htext x _ (hmore xs).1, (hmore xs).2,
      List.flatMap_cons, List.append_assoc]

namespace Statement

theorem toList_placeholder (n : Nat) : (placeholder n).toList = '$' :: Nat.toDigits 10 n := by
  have hdigits : (toString n).toList = Nat.toDigits 10 n := String.toList_ofList
  rw [placeholder, String.toList_append, hdigits]
  rfl

theorem mem_placeholder {c : Char} {n : Nat} (h : c ∈ (placeholder n).toList) :
    c = '$' ∨ c.isDigit = true := by
  rw [toList_placeholder] at h
  exact (List.mem_cons.mp h).imp_right (Nat.isDigit_of_mem_toDigits (by decide) (by decide))

/-- A placeholder is read as its number, unless more digits follow. -/
theorem placeholdersIn_placeholder (n : Nat) (hend : EndsDigits rest) :
    placeholdersIn ((placeholder n).toList ++ rest) = [n] ++ placeholdersIn rest := by
  have hdigits : ∀ c ∈ Nat.toDigits 10 n, c.isDigit = true := fun c hc =>
    Nat.isDigit_of_mem_toDigits (by decide) (by decide) hc
  have hdollar : '$' ∉ Nat.toDigits 10 n := fun hmem => by simpa using hdigits _ hmem
  rw [toList_placeholder, List.cons_append, placeholdersIn, if_pos rfl,
    takeWhile_digits hdigits hend, Nat.ofDigitChars_ten_toDigits, placeholdersIn_append hdollar]
  rfl

/-- Placeholders with commas between them. -/
def listing (ns : List Nat) : List Char :=
  [',', ' '].intercalate (ns.map fun n => (placeholder n).toList)

theorem placeholdersIn_listing (ns : List Nat) (hend : EndsDigits rest) :
    placeholdersIn (listing ns ++ rest) = ns ++ placeholdersIn rest := by
  have hsep : ∀ rest, EndsDigits ([',', ' '] ++ rest)
      ∧ placeholdersIn ([',', ' '] ++ rest) = placeholdersIn rest :=
    fun rest => ⟨endsDigits_cons rfl, placeholdersIn_append (by decide)⟩
  rw [listing, read_intercalate EndsDigits hsep (fun n _ => placeholdersIn_placeholder n) ns hend,
    List.flatMap_singleton']

theorem mem_listing {c : Char} (h : c ∈ listing ns) : c ∈ [',', ' ', '$'] ∨ c.isDigit = true := by
  cases ns with
  | nil => cases h
  | cons n ns =>
    rw [listing, List.map_cons, intercalate_cons] at h
    have hplaceholder : ∀ n, c ∈ (placeholder n).toList → c ∈ [',', ' ', '$'] ∨ c.isDigit = true :=
      fun n hc => (mem_placeholder hc).imp_left fun heq => by rw [heq]; decide
    rcases List.mem_append.mp h with h | h
    · exact hplaceholder n h
    · obtain ⟨_, hm, hc⟩ := List.mem_flatMap.mp h
      obtain ⟨m, -, rfl⟩ := List.mem_map.mp hm
      rcases List.mem_append.mp hc with hc | hc
      · exact .inl (List.mem_append_left ['$'] hc)
      · exact hplaceholder m hc

/-! ## Bulk inserts -/

/-- The numbers of the placeholders of a row. -/
def rowNumbers (row : Nat) : List Nat := List.range' (row * valuesPerRow + 1) valuesPerRow

theorem toList_row (row : Nat) : ("(" ++ ", ".intercalate (rowPlaceholders row) ++ ")").toList
    = '(' :: (listing (rowNumbers row) ++ [')']) := by
  rw [String.toList_append, String.toList_append, String.toList_intercalate, rowPlaceholders,
    List.map_map]
  rfl

/-- Rows with commas between them. -/
def rowListing (rows : List Nat) : List Char :=
  [',', ' '].intercalate (rows.map fun row => '(' :: (listing (rowNumbers row) ++ [')']))

theorem toList_rowsText (rows : Nat) : (rowsText rows).toList = rowListing (List.range rows) := by
  rw [rowsText, String.toList_intercalate, List.map_map]
  exact congrArg _ (List.map_congr_left fun row _ => toList_row row)

theorem placeholdersIn_row (row : Nat) : placeholdersIn
    (('(' :: (listing (rowNumbers row) ++ [')'])) ++ rest)
      = rowNumbers row ++ placeholdersIn rest := by
  have hopen : '$' ∉ ['('] := by decide
  have hclose : '$' ∉ [')'] := by decide
  have hend : EndsDigits ([')'] ++ rest) := endsDigits_cons rfl
  rw [← List.singleton_append, List.append_assoc, List.append_assoc, placeholdersIn_append hopen,
    placeholdersIn_listing _ hend, placeholdersIn_append hclose]

theorem groupsIn_row (row : Nat) : groupsIn (('(' :: (listing (rowNumbers row) ++ [')'])) ++ rest)
    = [listing (rowNumbers row)] ++ groupsIn rest := by
  have hnot : ∀ c, c ∉ [',', ' ', '$'] → c.isDigit = false → c ∉ listing (rowNumbers row) :=
    fun c hc hdigit hmem => (mem_listing hmem).elim hc fun h => by simp [hdigit] at h
  rw [List.cons_append, List.append_assoc]
  exact groupsIn_group (hnot '(' (by decide) rfl) (hnot ')' (by decide) rfl)

theorem placeholdersIn_rowListing (rows : List Nat) :
    placeholdersIn (rowListing rows ++ rest) = rows.flatMap rowNumbers ++ placeholdersIn rest :=
  read_intercalate (fun _ => True) (fun _ => ⟨trivial, placeholdersIn_append (by decide)⟩)
    (fun row _ _ => placeholdersIn_row row) rows trivial

theorem groupsIn_rowListing (rows : List Nat) : groupsIn (rowListing rows ++ rest)
    = rows.flatMap (fun row => [listing (rowNumbers row)]) ++ groupsIn rest :=
  read_intercalate (fun _ => True) (fun _ => ⟨trivial, groupsIn_append (by decide)⟩)
    (fun row _ _ => groupsIn_row row) rows trivial

/-- The text of a bulk insert in front of its rows. -/
def insertFront : String :=
  "INSERT INTO whitelist_snapshots (chain, pool_address, pool_data, snapshot_id, published_at) "
    ++ "VALUES "

/-- The text of a bulk insert behind its rows. -/
def insertBack : String := " ON CONFLICT (chain, pool_address, snapshot_id) DO NOTHING"

theorem toList_insertPoolsText (rows : Nat) : (insertPoolsText rows).toList
    = insertFront.toList ++ (rowListing (List.range rows) ++ insertBack.toList) := by
  show (insertFront ++ rowsText rows ++ insertBack).toList = _
  rw [String.toList_append, String.toList_append, toList_rowsText, List.append_assoc]

theorem notMem_insertFront : '$' ∉ insertFront.toList := by decide

theorem placeholdersIn_insertBack : placeholdersIn insertBack.toList = [] := by decide

/-- The columns of the pools stand in parentheses too. -/
theorem groupsIn_insertFront (rest : List Char) : groupsIn (insertFront.toList ++ rest)
    = "chain, pool_address, pool_data, snapshot_id, published_at".toList :: groupsIn rest := by
  have hfront : insertFront.toList = "INSERT INTO whitelist_snapshots ".toList
      ++ '(' :: ("chain, pool_address, pool_data, snapshot_id, published_at".toList
        ++ ')' :: " VALUES ".toList) := by decide
  rw [hfront, List.append_assoc, List.cons_append, List.append_assoc, List.cons_append,
    groupsIn_append (by decide), groupsIn_group (by decide) (by decide),
    groupsIn_append (by decide)]

theorem groupsIn_insertBack :
    groupsIn insertBack.toList = ["chain, pool_address, snapshot_id".toList] := by
  decide

theorem flatMap_rowNumbers (rows : Nat) :
    (List.range rows).flatMap rowNumbers = List.range' 1 (valuesPerRow * rows) := by
  induction rows with
  | zero => rfl
  | succ rows ih =>
    have hsplit := List.range'_append_1 (s := 1) (m := valuesPerRow * rows) (n := valuesPerRow)
    rw [List.range_succ, List.flatMap_append, ih, List.flatMap_singleton, Nat.mul_succ, ← hsplit,
      rowNumbers, Nat.mul_comm, Nat.add_comm 1]

/-- **The placeholders of a bulk insert count up from one.** -/
theorem placeholders_insertPools (rows : List PoolRow) :
    placeholders (.insertPools rows) = List.range' 1 (valuesPerRow * rows.length) := by
  show placeholdersIn (insertPoolsText rows.length).toList = _
  rw [toList_insertPoolsText, placeholdersIn_append notMem_insertFront, placeholdersIn_rowListing,
    flatMap_rowNumbers, placeholdersIn_insertBack, List.append_nil]

/-- There are as many of them in each row as a row has values. -/
theorem placeholderRows_insertPools (rows : List PoolRow) :
    placeholderRows (.insertPools rows) = (List.range rows.length).map rowNumbers := by
  have hgroups : groupsIn (insertPoolsText rows.length).toList
      = "chain, pool_address, pool_data, snapshot_id, published_at".toList
        :: ((List.range rows.length).map (fun row => listing (rowNumbers row))
          ++ ["chain, pool_address, snapshot_id".toList]) := by
    rw [toList_insertPoolsText, groupsIn_insertFront, groupsIn_rowListing, groupsIn_insertBack,
      ← List.map_eq_flatMap]
  have hrow : ∀ row, placeholdersIn (listing (rowNumbers row)) = rowNumbers row := fun row => by
    have hend : EndsDigits [] := nofun
    have hread := placeholdersIn_listing (rowNumbers row) hend
    rwa [List.append_nil, placeholdersIn, List.append_nil] at hread
  have hfront : placeholdersIn "chain, pool_address, pool_data, snapshot_id, published_at".toList
      = [] := by decide
  have hback : placeholdersIn "chain, pool_address, snapshot_id".toList = [] := by decide
  show ((groupsIn (insertPoolsText rows.length).toList).map placeholdersIn).filter _ = _
  rw [hgroups, List.map_cons, List.map_append, List.map_map, hfront]
  simp only [List.map_singleton, hback, Function.comp_def, hrow]
  rw [List.filter_cons_of_neg (by decide), List.filter_append, List.filter_eq_self.mpr ?_]
  · exact List.append_nil _
  · intro ns hns
    obtain ⟨row, -, rfl⟩ := List.mem_map.mp hns
    rfl

/-! ## Values in the place of placeholders -/

/-- The values for the placeholders of a row are those behind the values of the rows before it. -/
theorem map_rowNumbers {row : Nat} {front values : List Cell} (back : List Cell)
    (hfront : front.length = valuesPerRow * row) (hvalues : values.length = valuesPerRow) :
    (rowNumbers row).map (fun n => (front ++ (values ++ back))[n - 1]?) = values.map some := by
  have hlength : ∀ f : Nat → Option Cell, ((rowNumbers row).map f).length = values.length := by
    intro f
    rw [List.length_map, rowNumbers, List.length_range', hvalues]
  refine List.ext_getElem (by rw [hlength, List.length_map]) fun i hi _ => ?_
  rw [hlength] at hi
  have hnumber : row * valuesPerRow + 1 + 1 * i - 1 = front.length + i := by
    rw [hfront, Nat.mul_comm row]
    omega
  simp only [List.getElem_map, rowNumbers, List.getElem_range', hnumber]
  rw [List.getElem?_append_right (Nat.le_add_right _ _), Nat.add_sub_cancel_left,
    List.getElem?_append_left hi, List.getElem?_eq_getElem hi]

/-- **Every row of values is the row of its pool.** -/
theorem valueRows_insertPools (rows : List PoolRow) :
    valueRows (.insertPools rows) = rows.map (·.cells.map some) := by
  rw [valueRows, placeholderRows_insertPools, List.map_map]
  refine List.ext_getElem (by simp) fun i hi _ => ?_
  have hrow : i < rows.length := by simpa using hi
  have hparameters : parameters (.insertPools rows) = (rows.take i).flatMap PoolRow.cells
      ++ (rows[i].cells ++ (rows.drop (i + 1)).flatMap PoolRow.cells) := by
    rw [← List.flatMap_cons, List.cons_getElem_drop_succ, ← List.flatMap_append,
      List.take_append_drop]
    rfl
  have hfront : ((rows.take i).flatMap PoolRow.cells).length = valuesPerRow * i := by
    have hlength := parameters_insertPools (rows.take i)
    rwa [List.length_take_of_le hrow.le] at hlength
  rw [List.getElem_map, List.getElem_map, List.getElem_range]
  show (rowNumbers i).map (fun n => (parameters (.insertPools rows))[n - 1]?) = _
  rw [hparameters]
  exact map_rowNumbers _ hfront rfl

end Statement

end PoolFeed.Database
