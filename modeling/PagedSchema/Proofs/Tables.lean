/-
What tables of first, last and greatest values hold, in which order they have their keys, and which
entries of a list repeat a key.
-/
import PagedSchema.Table
import Mathlib.Data.List.Nodup
import Mathlib.Data.List.Duplicate

namespace PagedSchema

variable {κ α : Type} [DecidableEq κ]

namespace Table

@[simp] theorem get?_empty (k : κ) : (empty : Table κ α).get? k = none := rfl

theorem get?_insert (t : Table κ α) (k j : κ) (v : α) :
    (t.insert k v).get? j = if j = k then some v else t.get? j := get?_upsert t k j _

theorem get?_insertNew (t : Table κ α) (k j : κ) (v : α) :
    (t.insertNew k v).get? j = if j = k then some ((t.get? k).getD v) else t.get? j :=
  get?_upsert t k j _

theorem mem_keys_iff (t : Table κ α) (k : κ) : k ∈ t.keys ↔ t.get? k ≠ none := by
  unfold keys get?
  simp only [ne_eq, List.lookup_eq_none_iff, bne_iff_ne, not_forall, not_not, List.mem_map]
  constructor
  · rintro ⟨entry, member, rfl⟩
    exact ⟨entry, member, rfl⟩
  · rintro ⟨entry, member, same⟩
    exact ⟨entry, member, same.symm⟩

theorem get?_foldl_insertNew (entries : List (κ × α)) (t : Table κ α) (k : κ) :
    (entries.foldl (fun t (k, v) => t.insertNew k v) t).get? k =
      (t.get? k).or (entries.lookup k) := by
  induction entries generalizing t with
  | nil => simp
  | cons entry rest ih =>
      obtain ⟨j, v⟩ := entry
      simp only [List.foldl_cons, ih, get?_insertNew, lookup_cons_eq_ite]
      by_cases h : k = j
      · subst h
        cases t.get? k <;> simp
      · simp only [h, if_false]

/-- A table of first values answers as the list of its entries does. -/
theorem get?_ofFirst (entries : List (κ × α)) (k : κ) :
    (ofFirst entries).get? k = entries.lookup k := by
  simp only [ofFirst, get?_foldl_insertNew, get?_empty, Option.none_or]

theorem get?_foldl_insert (entries : List (κ × α)) (t : Table κ α) (k : κ) :
    (entries.foldl (fun t (k, v) => t.insert k v) t).get? k =
      (entries.reverse.lookup k).or (t.get? k) := by
  induction entries generalizing t with
  | nil => simp
  | cons entry rest ih =>
      obtain ⟨j, v⟩ := entry
      simp only [List.foldl_cons, ih, get?_insert, List.reverse_cons, List.lookup_append,
        lookup_cons_eq_ite, List.lookup_nil, Option.or_assoc]
      by_cases h : k = j <;> simp [h]

/-- A table of last values answers as the reversed list of its entries does. -/
theorem get?_ofLast (entries : List (κ × α)) (k : κ) :
    (ofLast entries).get? k = entries.reverse.lookup k := by
  simp only [ofLast, get?_foldl_insert, get?_empty, Option.or_none]

theorem upsertEntry_getD_twice (k : κ) (v w : α) (entries : List (κ × α)) :
    upsertEntry k (·.getD w) (upsertEntry k (·.getD v) entries) =
      upsertEntry k (·.getD v) entries := by
  induction entries with
  | nil => simp [upsertEntry]
  | cons entry rest ih =>
      obtain ⟨j, u⟩ := entry
      by_cases same : j = k
      · simp [upsertEntry, same]
      · simp [upsertEntry, same, ih]

/-- Of two entries in a row with one key the second adds nothing to a table of first values. -/
theorem ofFirst_append_twice (xs ys : List (κ × α)) (k : κ) (v w : α) :
    ofFirst (xs ++ (k, v) :: (k, w) :: ys) = ofFirst (xs ++ (k, v) :: ys) := by
  have twice (t : Table κ α) : (t.insertNew k v).insertNew k w = t.insertNew k v :=
    ext_entries (upsertEntry_getD_twice k v w t.entries)
  unfold ofFirst
  simp only [List.foldl_append, List.foldl_cons, twice]

end Table

theorem mem_map_fst_of_lookup {entries : List (κ × α)} {k : κ} {v : α}
    (h : entries.lookup k = some v) : (k, v) ∈ entries := by
  induction entries with
  | nil => cases h
  | cons entry rest ih =>
      obtain ⟨j, w⟩ := entry
      rw [Table.lookup_cons_eq_ite] at h
      by_cases same : k = j
      · simp only [same, if_true, Option.some.injEq] at h
        subst same h
        exact List.mem_cons_self
      · simp only [same, if_false] at h
        exact List.mem_cons_of_mem _ (ih h)

theorem lookup_eq_none_iff_not_mem (entries : List (κ × α)) (k : κ) :
    entries.lookup k = none ↔ k ∉ entries.map Prod.fst := by
  induction entries with
  | nil => simp
  | cons entry rest ih =>
      rw [Table.lookup_cons_eq_ite]
      by_cases same : k = entry.1 <;> simp [same, ih]

namespace Table

theorem get?_ofFirst_eq_none_iff (entries : List (κ × α)) (k : κ) :
    (ofFirst entries).get? k = none ↔ k ∉ entries.map Prod.fst := by
  rw [get?_ofFirst, lookup_eq_none_iff_not_mem]

theorem get?_ofLast_eq_none_iff (entries : List (κ × α)) (k : κ) :
    (ofLast entries).get? k = none ↔ k ∉ entries.map Prod.fst := by
  rw [get?_ofLast, lookup_eq_none_iff_not_mem, List.map_reverse, List.mem_reverse]

section Map

variable {β : Type} (key : β → κ) (value : β → α) (l : List β) (k : κ) (v : α)

theorem lookup_map_eq_some_iff :
    (l.map fun b => (key b, value b)).lookup k = some v ↔
      ∃ before b after, l = before ++ b :: after ∧ key b = k ∧ value b = v ∧
        ∀ c ∈ before, key c ≠ k := by
  rw [List.lookup_eq_some_iff]
  constructor
  · rintro ⟨xs, ys, split, others⟩
    obtain ⟨before, rest, rfl, rfl, tail⟩ := List.map_eq_append_iff.mp split
    obtain ⟨b, after, rfl, same, -⟩ := List.map_eq_cons_iff.mp tail
    cases same
    refine ⟨before, b, after, rfl, rfl, rfl, fun c member => ?_⟩
    exact (bne_iff_ne.mp (others _ (List.mem_map_of_mem member))).symm
  · rintro ⟨before, b, after, rfl, rfl, rfl, others⟩
    refine ⟨_, _, List.map_append, List.forall_mem_map.mpr fun c member => ?_⟩
    exact bne_iff_ne.mpr (others c member).symm

/-- A table of first values has that of the first element with a key. -/
theorem get?_ofFirst_map_eq_some_iff :
    (ofFirst (l.map fun b => (key b, value b))).get? k = some v ↔
      ∃ before b after, l = before ++ b :: after ∧ key b = k ∧ value b = v ∧
        ∀ c ∈ before, key c ≠ k := by
  rw [get?_ofFirst, lookup_map_eq_some_iff]

/-- A table of last values has that of the last element with a key. -/
theorem get?_ofLast_map_eq_some_iff :
    (ofLast (l.map fun b => (key b, value b))).get? k = some v ↔
      ∃ before b after, l = before ++ b :: after ∧ key b = k ∧ value b = v ∧
        ∀ c ∈ after, key c ≠ k := by
  rw [get?_ofLast, ← List.map_reverse, lookup_map_eq_some_iff]
  constructor
  · rintro ⟨after, b, before, reversed, named, same, others⟩
    refine ⟨before.reverse, b, after.reverse, ?_, named, same, ?_⟩
    · rw [List.reverse_eq_iff.mp reversed]
      simp
    · exact fun c member => others c (List.mem_reverse.mp member)
  · rintro ⟨before, b, after, rfl, named, same, others⟩
    refine ⟨after.reverse, b, before.reverse, by simp, named, same, ?_⟩
    exact fun c member => others c (List.mem_reverse.mp member)

end Map

theorem mem_of_get?_ofLast {entries : List (κ × α)} {k : κ} {v : α}
    (h : (ofLast entries).get? k = some v) : (k, v) ∈ entries := by
  rw [get?_ofLast] at h
  exact List.mem_reverse.mp (mem_map_fst_of_lookup h)

/-- Without repeated keys the last value of a key is the one that it was given. -/
theorem get?_ofLast_of_nodup {entries : List (κ × α)} {k : κ} {v : α}
    (once : (entries.map Prod.fst).Nodup) (member : (k, v) ∈ entries) :
    (ofLast entries).get? k = some v := by
  cases h : (ofLast entries).get? k with
  | none =>
      rw [get?_ofLast_eq_none_iff] at h
      exact absurd (List.mem_map_of_mem member) h
  | some w =>
      have same := List.inj_on_of_nodup_map once (mem_of_get?_ofLast h) member rfl
      rw [(Prod.mk.inj same).2]

end Table

/-- The values that entries give to a key. -/
def valuesOf (k : κ) (entries : List (κ × α)) : List α :=
  entries.filterMap fun (j, v) => if j = k then some v else none

theorem mem_valuesOf {k : κ} {v : α} {entries : List (κ × α)} :
    v ∈ valuesOf k entries ↔ (k, v) ∈ entries := by
  unfold valuesOf
  rw [List.mem_filterMap]
  constructor
  · rintro ⟨⟨j, w⟩, member, found⟩
    by_cases same : j = k
    · simp only [same, if_true, Option.some.injEq] at found
      rw [← same, ← found]
      subst same
      exact member
    · simp only [same, if_false] at found
      cases found
  · intro member
    exact ⟨(k, v), member, if_pos rfl⟩

namespace Table

theorem get?_foldl_greatest [Max α] (entries : List (κ × α)) (t : Table κ α) (k : κ) :
    (entries.foldl (fun t (k, v) => t.upsert k fun old => old.elim v (max · v)) t).get? k =
      ((t.get? k).toList ++ valuesOf k entries).max? := by
  induction entries generalizing t with
  | nil => cases h : t.get? k <;> simp [valuesOf, h]
  | cons entry rest ih =>
      obtain ⟨j, v⟩ := entry
      simp only [List.foldl_cons, ih, get?_upsert]
      by_cases same : k = j
      · subst same
        cases t.get? k <;> simp [valuesOf, List.max?_cons']
      · have other : j ≠ k := fun e => same e.symm
        simp [valuesOf, same, other]

/-- A table of greatest values has the greatest one among those of a key. -/
theorem get?_ofGreatest [Max α] (entries : List (κ × α)) (k : κ) :
    (ofGreatest entries).get? k = (valuesOf k entries).max? := by
  simp only [ofGreatest, get?_foldl_greatest, get?_empty, Option.toList_none, List.nil_append]

end Table

theorem max?_eq_of_mem_iff {xs ys : List Int} (same : ∀ n, n ∈ xs ↔ n ∈ ys) :
    xs.max? = ys.max? := by
  apply Option.ext
  intro n
  simp only [List.max?_eq_some_iff, same]

theorem mem_firstMet (ks : List κ) (k : κ) : k ∈ firstMet ks ↔ k ∈ ks := by
  unfold firstMet
  rw [Table.mem_keys_iff, ne_eq, Table.get?_ofFirst_eq_none_iff, not_not]
  simp

theorem eraseDups_concat (ks : List κ) (k : κ) :
    (ks ++ [k]).eraseDups = if k ∈ ks.eraseDups then ks.eraseDups else ks.eraseDups ++ [k] := by
  rw [List.eraseDups_append]
  by_cases met : k ∈ ks
  · simp [List.removeAll, met]
  · have alone : [k].eraseDups = [k] := rfl
    simp [List.removeAll, met, alone]

namespace Table

theorem keys_upsert_eq_eraseDups {t : Table κ α} {ks : List κ} (met : t.keys = ks.eraseDups)
    (k : κ) (f : Option α → α) : (t.upsert k f).keys = (ks ++ [k]).eraseDups := by
  rw [keys_upsert, eraseDups_concat, met]

/-- Whatever becomes of the values, keys come in the order in which they are first met. -/
theorem keys_foldl_upsert (f : α → Option α → α) (entries : List (κ × α)) {t : Table κ α}
    {ks : List κ} (met : t.keys = ks.eraseDups) :
    (entries.foldl (fun t (k, v) => t.upsert k (f v)) t).keys =
      (ks ++ entries.map Prod.fst).eraseDups := by
  induction entries generalizing t ks with
  | nil => rw [List.foldl_nil, List.map_nil, List.append_nil, met]
  | cons entry rest ih =>
      obtain ⟨k, v⟩ := entry
      rw [List.foldl_cons, ih (keys_upsert_eq_eraseDups met k (f v)), List.append_assoc]
      rfl

theorem keys_empty_eq_eraseDups : (empty : Table κ α).keys = ([] : List κ).eraseDups := rfl

theorem keys_ofFirst (entries : List (κ × α)) :
    (ofFirst entries).keys = (entries.map Prod.fst).eraseDups :=
  keys_foldl_upsert (fun v old => old.getD v) entries keys_empty_eq_eraseDups

theorem keys_ofLast (entries : List (κ × α)) :
    (ofLast entries).keys = (entries.map Prod.fst).eraseDups :=
  keys_foldl_upsert (fun v _ => v) entries keys_empty_eq_eraseDups

/-- The keys of the entries, in the order of their first ones, each with its first value. -/
structure KeepsFirst (t : Table κ α) (entries : List (κ × α)) : Prop where
  keys_eq : t.keys = (entries.map Prod.fst).eraseDups
  get?_eq_some_iff : ∀ k v, t.get? k = some v ↔
    ∃ before after, entries = before ++ (k, v) :: after ∧ ∀ entry ∈ before, entry.1 ≠ k

/-- The keys of the entries, in the order of their first ones, each with its last value. -/
structure KeepsLast (t : Table κ α) (entries : List (κ × α)) : Prop where
  keys_eq : t.keys = (entries.map Prod.fst).eraseDups
  get?_eq_some_iff : ∀ k v, t.get? k = some v ↔
    ∃ before after, entries = before ++ (k, v) :: after ∧ ∀ entry ∈ after, entry.1 ≠ k

theorem exists_entry_iff {ι β : Type} {entries : List (ι × β)} {i : ι} {b : β}
    {apart : List (ι × β) → List (ι × β) → Prop} :
    (∃ before entry after, entries = before ++ entry :: after ∧ entry.1 = i ∧ entry.2 = b ∧
        apart before after) ↔
      ∃ before after, entries = before ++ (i, b) :: after ∧ apart before after := by
  constructor
  · rintro ⟨before, entry, after, whole, rfl, rfl, others⟩
    exact ⟨before, after, whole, others⟩
  · rintro ⟨before, after, whole, others⟩
    exact ⟨before, (i, b), after, whole, rfl, rfl, others⟩

theorem keepsFirst_ofFirst (entries : List (κ × α)) : (ofFirst entries).KeepsFirst entries where
  keys_eq := keys_ofFirst entries
  get?_eq_some_iff k v := by
    rw [← exists_entry_iff, ← get?_ofFirst_map_eq_some_iff Prod.fst Prod.snd]
    change _ ↔ (ofFirst (entries.map id)).get? k = some v
    rw [List.map_id]

theorem keepsLast_ofLast (entries : List (κ × α)) : (ofLast entries).KeepsLast entries where
  keys_eq := keys_ofLast entries
  get?_eq_some_iff k v := by
    rw [← exists_entry_iff, ← get?_ofLast_map_eq_some_iff Prod.fst Prod.snd]
    change _ ↔ (ofLast (entries.map id)).get? k = some v
    rw [List.map_id]

end Table

theorem firstMet_eq_eraseDups (ks : List κ) : firstMet ks = ks.eraseDups := by
  rw [firstMet, Table.keys_ofFirst, List.map_map]
  exact congrArg List.eraseDups (List.map_id ks)

/-- Only the values that a table has for the keys of a list matter for its repeats. -/
theorem repeatsFrom_congr {s t : Table κ α} {entries : List (κ × α)}
    (h : ∀ k ∈ entries.map Prod.fst, s.get? k = t.get? k) :
    repeatsFrom s entries = repeatsFrom t entries := by
  induction entries generalizing s t with
  | nil => rfl
  | cons entry rest ih =>
      obtain ⟨k, v⟩ := entry
      simp only [List.map_cons, List.mem_cons, forall_eq_or_imp] at h
      simp only [repeatsFrom, h.1]
      cases t.get? k with
      | some first => rw [ih h.2]
      | none =>
          apply ih
          intro j member
          simp only [Table.get?_insert, h.2 j member]

theorem repeatsFrom_eq_nil_iff (seen : Table κ α) (entries : List (κ × α)) :
    repeatsFrom seen entries = [] ↔
      (entries.map Prod.fst).Nodup ∧ ∀ k ∈ entries.map Prod.fst, seen.get? k = none := by
  induction entries generalizing seen with
  | nil => simp [repeatsFrom]
  | cons entry rest ih =>
      obtain ⟨k, v⟩ := entry
      simp only [List.map_cons, List.nodup_cons, List.mem_cons, forall_eq_or_imp]
      cases h : seen.get? k with
      | some first => simp [repeatsFrom, h]
      | none =>
          simp only [repeatsFrom, h, ih, Table.get?_insert, true_and]
          constructor
          · rintro ⟨once, unseen⟩
            refine ⟨⟨?_, once⟩, ?_⟩
            · intro member
              simpa using unseen k member
            · intro j member
              have := unseen j member
              split at this
              · cases this
              · exact this
          · rintro ⟨⟨absent, once⟩, unseen⟩
            refine ⟨once, ?_⟩
            intro j member
            rw [if_neg (ne_of_mem_of_not_mem member absent)]
            exact unseen j member

theorem mem_map_fst_of_mem_repeatsFrom {seen : Table κ α} {entries : List (κ × α)} {k : κ}
    {first v : α} (member : (k, first, v) ∈ repeatsFrom seen entries) :
    k ∈ entries.map Prod.fst := by
  induction entries generalizing seen with
  | nil => cases member
  | cons entry rest ih =>
      obtain ⟨j, w⟩ := entry
      simp only [repeatsFrom] at member
      split at member
      · rcases List.mem_cons.mp member with same | later
        · cases same
          exact List.mem_cons_self
        · exact List.mem_cons_of_mem j (ih later)
      · exact List.mem_cons_of_mem j (ih member)

/-- A key that was not seen before is repeated only if it stands in the list twice. -/
theorem duplicate_of_mem_repeatsFrom {seen : Table κ α} {entries : List (κ × α)} {k : κ}
    {first v : α} (unseen : seen.get? k = none)
    (member : (k, first, v) ∈ repeatsFrom seen entries) :
    List.Duplicate k (entries.map Prod.fst) := by
  induction entries generalizing seen with
  | nil => cases member
  | cons entry rest ih =>
      obtain ⟨j, w⟩ := entry
      simp only [repeatsFrom] at member
      cases known : seen.get? j with
      | some earlier =>
          simp only [known] at member
          rcases List.mem_cons.mp member with same | later
          · cases same
            rw [unseen] at known
            cases known
          · exact (ih unseen later).duplicate_cons j
      | none =>
          simp only [known] at member
          by_cases same : k = j
          · subst same
            exact (mem_map_fst_of_mem_repeatsFrom member).duplicate_cons_self
          · refine (ih ?_ member).duplicate_cons j
            rw [Table.get?_insert, if_neg same]
            exact unseen

/-- Entries in front that repeat nothing and share no key with the rest leave its repeats. -/
theorem repeatsFrom_append_left {seen : Table κ α} {xs ys : List (κ × α)}
    (once : (xs.map Prod.fst).Nodup) (unseen : ∀ k ∈ xs.map Prod.fst, seen.get? k = none)
    (apart : ∀ k ∈ xs.map Prod.fst, k ∉ ys.map Prod.fst) :
    repeatsFrom seen (xs ++ ys) = repeatsFrom seen ys := by
  induction xs generalizing seen with
  | nil => rfl
  | cons entry rest ih =>
      obtain ⟨k, v⟩ := entry
      simp only [List.map_cons, List.nodup_cons, List.mem_cons, forall_eq_or_imp]
        at once unseen apart
      simp only [List.cons_append, repeatsFrom, unseen.1]
      rw [ih once.2 _ apart.2]
      · apply repeatsFrom_congr
        intro j member
        rw [Table.get?_insert, if_neg (ne_of_mem_of_not_mem member apart.1)]
      · intro j member
        rw [Table.get?_insert, if_neg (ne_of_mem_of_not_mem member once.1)]
        exact unseen.2 j member

/-- So do entries at the end. -/
theorem repeatsFrom_append_right {seen : Table κ α} {xs ys : List (κ × α)}
    (once : (ys.map Prod.fst).Nodup) (unseen : ∀ k ∈ ys.map Prod.fst, seen.get? k = none)
    (apart : ∀ k ∈ xs.map Prod.fst, k ∉ ys.map Prod.fst) :
    repeatsFrom seen (xs ++ ys) = repeatsFrom seen xs := by
  induction xs generalizing seen with
  | nil => exact (repeatsFrom_eq_nil_iff seen ys).mpr ⟨once, unseen⟩
  | cons entry rest ih =>
      obtain ⟨k, v⟩ := entry
      simp only [List.map_cons, List.mem_cons, forall_eq_or_imp] at apart
      simp only [List.cons_append, repeatsFrom]
      cases seen.get? k with
      | some first => simp only [ih unseen apart.2]
      | none =>
          apply ih _ apart.2
          intro j member
          rw [Table.get?_insert, if_neg (ne_of_mem_of_not_mem member apart.1)]
          exact unseen j member

end PagedSchema
