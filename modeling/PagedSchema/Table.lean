/-
Tables that keep their keys in the order of first insertion. A key stands in a table at most once.
-/

namespace PagedSchema

/-- Puts `f` of the value that `k` has, if any, at the place of `k`, or at the end. -/
def upsertEntry {κ α : Type} [DecidableEq κ] (k : κ) (f : Option α → α) :
    List (κ × α) → List (κ × α)
  | [] => [(k, f none)]
  | (k', v) :: rest =>
    if k' = k then (k', f (some v)) :: rest else (k', v) :: upsertEntry k f rest

theorem map_fst_upsertEntry {κ α : Type} [DecidableEq κ] (k : κ) (f : Option α → α)
    (entries : List (κ × α)) :
    (upsertEntry k f entries).map Prod.fst =
      if k ∈ entries.map Prod.fst then entries.map Prod.fst
      else entries.map Prod.fst ++ [k] := by
  induction entries with
  | nil => simp [upsertEntry]
  | cons entry rest ih =>
    obtain ⟨k', v⟩ := entry
    by_cases h : k' = k
    · simp [upsertEntry, h]
    · have h' : k ≠ k' := fun e => h e.symm
      simp only [upsertEntry, h, if_false, List.map_cons, ih, List.mem_cons, h', false_or]
      split <;> simp

structure Table (κ α : Type) where
  entries : List (κ × α)
  nodup : (entries.map Prod.fst).Nodup

namespace Table

variable {κ α : Type}

def empty : Table κ α := ⟨[], List.nodup_nil⟩

def keys (t : Table κ α) : List κ := t.entries.map Prod.fst

theorem ext_entries {s t : Table κ α} (same : s.entries = t.entries) : s = t := by
  cases s
  cases t
  cases same
  rfl

theorem nodup_keys (t : Table κ α) : t.keys.Nodup := t.nodup

variable [DecidableEq κ]

def get? (t : Table κ α) (k : κ) : Option α := t.entries.lookup k

def contains (t : Table κ α) (k : κ) : Bool := (t.get? k).isSome

/-- Gives `k` the value `f` of the one it has, if any. A present key keeps its place, a new one
goes to the end. -/
def upsert (t : Table κ α) (k : κ) (f : Option α → α) : Table κ α where
  entries := upsertEntry k f t.entries
  nodup := by
    have h := t.nodup
    rw [map_fst_upsertEntry]
    split
    · exact h
    · rename_i hk
      rw [List.nodup_append]
      refine ⟨h, by simp, ?_⟩
      intro a ha b hb e
      rw [List.mem_singleton] at hb
      exact hk (hb ▸ e ▸ ha)

/-- A present key keeps its value. -/
def insertNew (t : Table κ α) (k : κ) (v : α) : Table κ α := t.upsert k (·.getD v)

/-- A present key takes the new value. -/
def insert (t : Table κ α) (k : κ) (v : α) : Table κ α := t.upsert k fun _ => v

/-- The first value of each key. -/
def ofFirst (entries : List (κ × α)) : Table κ α :=
  entries.foldl (fun t (k, v) => t.insertNew k v) empty

/-- The last value of each key, at the place of its first one. -/
def ofLast (entries : List (κ × α)) : Table κ α :=
  entries.foldl (fun t (k, v) => t.insert k v) empty

/-- The greatest value of each key, at the place of its first one. -/
def ofGreatest [Max α] (entries : List (κ × α)) : Table κ α :=
  entries.foldl (fun t (k, v) => t.upsert k fun old => old.elim v (max · v)) empty

theorem keys_upsert (t : Table κ α) (k : κ) (f : Option α → α) :
    (t.upsert k f).keys = if k ∈ t.keys then t.keys else t.keys ++ [k] :=
  map_fst_upsertEntry k f t.entries

theorem lookup_cons_eq_ite (j k : κ) (v : α) (rest : List (κ × α)) :
    ((k, v) :: rest).lookup j = if j = k then some v else rest.lookup j := by
  by_cases h : j = k
  · subst h
    rw [List.lookup_cons_self, if_pos rfl]
  · rw [List.lookup_cons, beq_false_of_ne h, if_neg h]

theorem lookup_upsertEntry (k j : κ) (f : Option α → α) (entries : List (κ × α)) :
    (upsertEntry k f entries).lookup j =
      if j = k then some (f (entries.lookup k)) else entries.lookup j := by
  induction entries with
  | nil => by_cases h : j = k <;> simp [upsertEntry, lookup_cons_eq_ite, h]
  | cons entry rest ih =>
    obtain ⟨k', v⟩ := entry
    by_cases hk : k' = k
    · subst hk
      by_cases hj : j = k' <;> simp [upsertEntry, lookup_cons_eq_ite, hj]
    · have hk' : ¬ k = k' := fun e => hk e.symm
      by_cases hj : j = k
      · subst hj
        simp [upsertEntry, hk, lookup_cons_eq_ite, hk', ih]
      · by_cases hj' : j = k' <;> simp [upsertEntry, hk, lookup_cons_eq_ite, hj, hj', ih]

theorem get?_upsert (t : Table κ α) (k j : κ) (f : Option α → α) :
    (t.upsert k f).get? j = if j = k then some (f (t.get? k)) else t.get? j :=
  lookup_upsertEntry k j f t.entries

end Table

/-- Each element once, at the place where it is first met. -/
def firstMet {κ : Type} [DecidableEq κ] (ks : List κ) : List κ :=
  (Table.ofFirst (ks.map (·, ()))).keys

theorem nodup_firstMet {κ : Type} [DecidableEq κ] (ks : List κ) : (firstMet ks).Nodup :=
  Table.nodup_keys _

/-- Each entry whose key is in `seen` or was met before, with the first value of that key. -/
def repeatsFrom {κ α : Type} [DecidableEq κ] (seen : Table κ α) :
    List (κ × α) → List (κ × α × α)
  | [] => []
  | (k, v) :: rest =>
    match seen.get? k with
    | some first => (k, first, v) :: repeatsFrom seen rest
    | none => repeatsFrom (seen.insert k v) rest

/-- Each entry whose key was met before, with the first value of that key and its own. -/
def repeats {κ α : Type} [DecidableEq κ] (entries : List (κ × α)) : List (κ × α × α) :=
  repeatsFrom .empty entries

end PagedSchema
