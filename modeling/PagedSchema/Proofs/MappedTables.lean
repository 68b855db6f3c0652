/-
Tables whose values are mapped. Each table made from mapped entries is the mapped table of the
entries, and mapped entries repeat the keys that the entries repeat.
-/
import PagedSchema.Table

namespace PagedSchema

variable {κ α β : Type}

/-- Each key with `f` of its value. -/
def Table.map (f : α → β) (t : Table κ α) : Table κ β where
  entries := t.entries.map (Prod.map id f)
  nodup := by
    rw [List.map_map]
    exact t.nodup

variable [DecidableEq κ] (f : α → β)

theorem lookup_map_snd (entries : List (κ × α)) (k : κ) :
    (entries.map (Prod.map id f)).lookup k = (entries.lookup k).map f := by
  induction entries with
  | nil => rfl
  | cons entry rest ih =>
      obtain ⟨j, v⟩ := entry
      rw [List.map_cons, Prod.map_apply, id_eq, Table.lookup_cons_eq_ite, Table.lookup_cons_eq_ite,
        ih]
      split <;> rfl

theorem upsertEntry_map {g : Option α → α} {h : Option β → β}
    (commutes : ∀ old, h (old.map f) = f (g old)) (k : κ) (entries : List (κ × α)) :
    upsertEntry k h (entries.map (Prod.map id f)) =
      (upsertEntry k g entries).map (Prod.map id f) := by
  induction entries with
  | nil => exact congrArg (fun v => [(k, v)]) (commutes none)
  | cons entry rest ih =>
      obtain ⟨j, v⟩ := entry
      simp only [List.map_cons, Prod.map_apply, id_eq, upsertEntry]
      split
      · exact congrArg (fun w => (j, w) :: rest.map (Prod.map id f)) (commutes (some v))
      · rw [ih]
        rfl

namespace Table

theorem get?_map (t : Table κ α) (k : κ) : (t.map f).get? k = (t.get? k).map f :=
  lookup_map_snd f t.entries k

theorem upsert_map {g : Option α → α} {h : Option β → β}
    (commutes : ∀ old, h (old.map f) = f (g old)) (t : Table κ α) (k : κ) :
    (t.map f).upsert k h = (t.upsert k g).map f :=
  ext_entries (upsertEntry_map f commutes k t.entries)

theorem insert_map (t : Table κ α) (k : κ) (v : α) :
    (t.map f).insert k (f v) = (t.insert k v).map f := upsert_map f (fun _ => rfl) t k

theorem foldl_insertNew_map (entries : List (κ × α)) (t : Table κ α) :
    (entries.map (Prod.map id f)).foldl (fun t (k, v) => t.insertNew k v) (t.map f) =
      (entries.foldl (fun t (k, v) => t.insertNew k v) t).map f := by
  induction entries generalizing t with
  | nil => rfl
  | cons entry rest ih =>
      obtain ⟨k, v⟩ := entry
      have step : (t.map f).insertNew k (f v) = (t.insertNew k v).map f := by
        apply upsert_map f _ t k
        intro old
        cases old <;> rfl
      simp only [List.map_cons, List.foldl_cons, Prod.map_apply, id_eq, step, ih]

theorem ofFirst_map (entries : List (κ × α)) :
    ofFirst (entries.map (Prod.map id f)) = (ofFirst entries).map f :=
  foldl_insertNew_map f entries empty

end Table

theorem repeatsFrom_map (seen : Table κ α) (entries : List (κ × α)) :
    repeatsFrom (seen.map f) (entries.map (Prod.map id f)) =
      (repeatsFrom seen entries).map (Prod.map id (Prod.map f f)) := by
  induction entries generalizing seen with
  | nil => rfl
  | cons entry rest ih =>
      obtain ⟨k, v⟩ := entry
      simp only [List.map_cons, Prod.map_apply, id_eq, repeatsFrom, Table.get?_map]
      cases seen.get? k with
      | some first => simp only [Option.map_some, ih, List.map_cons, Prod.map_apply, id_eq]
      | none => simp only [Option.map_none, Table.insert_map, ih]

theorem repeats_map (entries : List (κ × α)) :
    repeats (entries.map (Prod.map id f)) =
      (repeats entries).map (Prod.map id (Prod.map f f)) := repeatsFrom_map f .empty entries

end PagedSchema
