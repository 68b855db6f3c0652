/-
Which entries of a list `repeats` reports: each one whose key stands before it, against the first
entry of that key. So a key is reported once less than it stands in the list.
-/
import PagedSchema.Proofs.Tables

namespace PagedSchema

variable {κ ι α : Type} [DecidableEq κ] [DecidableEq ι]

def againstFirst : List α → List (α × α)
  | [] => []
  | first :: later => later.map (first, ·)

theorem length_againstFirst (values : List α) :
    (againstFirst values).length = values.length - 1 := by
  cases values with
  | nil => rfl
  | cons first later => exact List.length_map _

def laterEntries (entries : List (κ × α)) : List (κ × α × α) :=
  entries.zipIdx.filterMap fun ((k, v), i) => ((entries.take i).lookup k).map (k, ·, v)

/-- The later entries of every key are reported, each once and against the first, in the order in
which they stand. -/
structure ReportsRepeats (entries : List (κ × α)) (reports : List (κ × α × α)) : Prop where
  inOrder : reports = laterEntries entries
  each : ∀ k, valuesOf k reports = againstFirst (valuesOf k entries)
  count : ∀ k, (valuesOf k reports).length = (valuesOf k entries).length - 1

theorem valuesOf_cons (k j : κ) (v : α) (rest : List (κ × α)) :
    valuesOf k ((j, v) :: rest) = if j = k then v :: valuesOf k rest else valuesOf k rest := by
  simp only [valuesOf, List.filterMap_cons]
  by_cases same : j = k <;> simp [same]

/-- A key that was seen is reported at each of its entries, another one at all but its first. -/
theorem valuesOf_repeatsFrom (seen : Table κ α) (entries : List (κ × α)) (k : κ) :
    valuesOf k (repeatsFrom seen entries) =
      match seen.get? k with
      | some first => (valuesOf k entries).map (first, ·)
      | none => againstFirst (valuesOf k entries) := by
  induction entries generalizing seen with
  | nil => cases seen.get? k <;> rfl
  | cons entry rest ih =>
      obtain ⟨j, v⟩ := entry
      simp only [repeatsFrom, valuesOf_cons]
      by_cases same : j = k
      · subst same
        cases known : seen.get? j with
        | some first => simp [valuesOf_cons, ih, known]
        | none => simp [ih, Table.get?_insert, againstFirst]
      · have other : k ≠ j := fun e => same e.symm
        cases seen.get? j with
        | some first => simp [valuesOf_cons, same, ih]
        | none => simp [ih, Table.get?_insert, same, other]

/-- With the entries before the list in `seen`, a walk finds them in front of each entry. -/
theorem repeatsFrom_eq_filterMap_zipIdx {seen : Table κ α} (before : List (κ × α))
    (same : ∀ k, seen.get? k = before.lookup k) (entries : List (κ × α)) :
    repeatsFrom seen entries = entries.zipIdx.filterMap fun ((k, v), i) =>
      ((before ++ entries.take i).lookup k).map (k, ·, v) := by
  induction entries generalizing seen before with
  | nil => rfl
  | cons entry rest ih =>
      obtain ⟨k, v⟩ := entry
      have shift : ∀ i, before ++ ((k, v) :: rest).take (i + 1) =
          (before ++ [(k, v)]) ++ rest.take i := by simp
      simp only [List.zipIdx_cons, Nat.zero_add, List.zipIdx_succ (l := rest) (i := 0),
        List.filterMap_cons, List.filterMap_map, List.take_zero, List.append_nil,
        Function.comp_def, shift, repeatsFrom]
      cases known : seen.get? k with
      | some first =>
          have after : ∀ j, seen.get? j = (before ++ [(k, v)]).lookup j := by
            intro j
            rw [List.lookup_append, ← same, Table.lookup_cons_eq_ite]
            by_cases here : j = k
            · simp [here, known]
            · simp [here]
          rw [← same, known, ih _ after]
          rfl
      | none =>
          have after : ∀ j, (seen.insert k v).get? j = (before ++ [(k, v)]).lookup j := by
            intro j
            rw [List.lookup_append, ← same, Table.lookup_cons_eq_ite, Table.get?_insert]
            by_cases here : j = k
            · simp [here, known]
            · simp [here]
          rw [← same, known, ih _ after]
          rfl

theorem reportsRepeats_repeats (entries : List (κ × α)) :
    ReportsRepeats entries (repeats entries) := by
  have each : ∀ k, valuesOf k (repeats entries) = againstFirst (valuesOf k entries) :=
    valuesOf_repeatsFrom .empty entries
  constructor
  case inOrder => exact repeatsFrom_eq_filterMap_zipIdx [] (fun _ => rfl) entries
  case each => exact each
  case count =>
    intro k
    rw [each, length_againstFirst]

section Restrict

variable (rename : κ → Option ι)

def restrictKeys (entries : List (κ × α)) : List (ι × α) :=
  entries.filterMap fun (k, v) => (rename k).map (·, v)

variable {rename}

/-- Where different keys have different names, the entries that have a name repeat each other as
they do among all entries. -/
theorem restrictKeys_repeatsFrom
    (injective : ∀ j k i, rename j = some i → rename k = some i → j = k)
    {seen : Table κ α} {seen' : Table ι α}
    (same : ∀ k i, rename k = some i → seen'.get? i = seen.get? k) (entries : List (κ × α)) :
    restrictKeys rename (repeatsFrom seen entries) =
      repeatsFrom seen' (restrictKeys rename entries) := by
  simp only [restrictKeys]
  induction entries generalizing seen seen' with
  | nil => rfl
  | cons entry rest ih =>
      obtain ⟨k, v⟩ := entry
      cases named : rename k with
      | none =>
          rw [List.filterMap_cons_none (a := (k, v)) (by simp [named])]
          cases known : seen.get? k with
          | some first =>
              simp only [repeatsFrom, known]
              rw [List.filterMap_cons_none (by simp [named]), ih same]
          | none =>
              simp only [repeatsFrom, known]
              apply ih
              intro j i other
              rw [Table.get?_insert, if_neg, same j i other]
              rintro rfl
              rw [named] at other
              cases other
      | some i =>
          rw [List.filterMap_cons_some (a := (k, v)) (b := (i, v)) (by simp [named])]
          simp only [repeatsFrom, same k i named]
          cases seen.get? k with
          | some first =>
              simp only
              rw [List.filterMap_cons_some (b := (i, first, v)) (by simp [named]), ih same]
          | none =>
              apply ih
              intro j i' other
              rw [Table.get?_insert, Table.get?_insert, same j i' other]
              by_cases here : j = k
              · rw [here, named] at other
                rw [if_pos (Option.some.inj other).symm, if_pos here]
              · rw [if_neg here, if_neg]
                rintro rfl
                exact here (injective j k _ other named)

theorem restrictKeys_repeats
    (injective : ∀ j k i, rename j = some i → rename k = some i → j = k)
    (entries : List (κ × α)) :
    restrictKeys rename (repeats entries) = repeats (restrictKeys rename entries) :=
  restrictKeys_repeatsFrom injective (fun _ _ _ => rfl) entries

end Restrict

end PagedSchema
