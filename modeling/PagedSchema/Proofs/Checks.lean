/-
The walk over the checks of a document, one check at a time: what a check reports, what it adds to
the fields declared so far, and when a whole walk reports nothing.
-/
import PagedSchema.Proofs.Tables
import PagedSchema.Validity

namespace PagedSchema

namespace Check

/-- The error of a check that fails after the fields in `seen` were declared. -/
def failure? (defined : List String) (seen : Table Coordinate Location) :
    Check → Option SchemaError
  | declares field location => (seen.get? field).map (.duplicateField field · location)
  | refers name referencedBy location =>
    if isBuiltinScalar name || defined.contains name then none
    else some (.undefinedType name referencedBy location)
  | repeatsArgument field argument location => some (.duplicateArgument field argument location)
  | «extends» type location =>
    if defined.contains type then none else some (.undefinedExtended type location)

def record (seen : Table Coordinate Location) : Check → Table Coordinate Location
  | declares field location =>
    match seen.get? field with
    | some _ => seen
    | none => seen.insert field location
  | _ => seen

def recordAll (seen : Table Coordinate Location) (checks : List Check) :
    Table Coordinate Location := checks.foldl record seen

def declared? : Check → Option Coordinate
  | declares field _ => some field
  | _ => none

theorem get?_record {c : Check} {field : Coordinate} (seen : Table Coordinate Location)
    (other : c.declared? ≠ some field) : (c.record seen).get? field = seen.get? field := by
  cases c with
  | declares declared location =>
      simp only [record]
      cases seen.get? declared with
      | some first => rfl
      | none =>
          rw [Table.get?_insert, if_neg]
          intro same
          exact other (congrArg some same.symm)
  | refers => rfl
  | repeatsArgument => rfl
  | «extends» => rfl

theorem get?_recordAll {checks : List Check} {field : Coordinate}
    (seen : Table Coordinate Location) (others : field ∉ checks.filterMap declared?) :
    (recordAll seen checks).get? field = seen.get? field := by
  induction checks generalizing seen with
  | nil => rfl
  | cons c rest ih =>
      rw [List.mem_filterMap, not_exists] at others
      have first : c.declared? ≠ some field := fun same => others c ⟨List.mem_cons_self, same⟩
      have later : field ∉ rest.filterMap declared? := by
        rintro member
        obtain ⟨d, present, same⟩ := List.mem_filterMap.mp member
        exact others d ⟨List.mem_cons_of_mem c present, same⟩
      change (recordAll (c.record seen) rest).get? field = _
      rw [ih _ later, get?_record seen first]

/-- Only a check that declares a field looks at the fields before it. -/
theorem failure?_congr {c : Check} (defined : List String) {s t : Table Coordinate Location}
    (h : ∀ field, c.declared? = some field → s.get? field = t.get? field) :
    c.failure? defined s = c.failure? defined t := by
  cases c with
  | declares field location => simp only [failure?, h field rfl]
  | refers => rfl
  | repeatsArgument => rfl
  | «extends» => rfl

theorem get?_record_congr {c : Check} {s t : Table Coordinate Location} {field : Coordinate}
    (first : ∀ k, c.declared? = some k → s.get? k = t.get? k)
    (h : s.get? field = t.get? field) :
    (c.record s).get? field = (c.record t).get? field := by
  cases c with
  | declares k location =>
      simp only [record, first k rfl]
      cases t.get? k with
      | some v => exact h
      | none => simp only [Table.get?_insert, h]
  | refers => exact h
  | repeatsArgument => exact h
  | «extends» => exact h

end Check

namespace Document

open Check

/-- A walk reports what its first check does, and goes on with the fields that this one leaves. -/
theorem failedChecks_cons (defined : List String) (seen : Table Coordinate Location) (c : Check)
    (rest : List Check) :
    failedChecks defined seen (c :: rest) =
      (c.failure? defined seen).toList ++ failedChecks defined (c.record seen) rest := by
  cases c with
  | declares field location =>
      simp only [failedChecks, failure?, record]
      cases seen.get? field <;> rfl
  | refers name referencedBy location =>
      simp only [failedChecks, failure?, record]
      split <;> rfl
  | repeatsArgument field argument location => rfl
  | «extends» type location =>
      simp only [failedChecks, failure?, record]
      split <;> rfl

theorem failedChecks_singleton (defined : List String) (seen : Table Coordinate Location)
    (c : Check) : failedChecks defined seen [c] = (c.failure? defined seen).toList := by
  rw [failedChecks_cons]
  exact List.append_nil _

theorem failedChecks_congr (defined : List String) {s t : Table Coordinate Location}
    {checks : List Check}
    (h : ∀ field ∈ checks.filterMap declared?, s.get? field = t.get? field) :
    failedChecks defined s checks = failedChecks defined t checks := by
  induction checks generalizing s t with
  | nil => rfl
  | cons c rest ih =>
      have first : ∀ field, c.declared? = some field → s.get? field = t.get? field :=
        fun field same => h field (List.mem_filterMap.mpr ⟨c, List.mem_cons_self, same⟩)
      rw [failedChecks_cons, failedChecks_cons, failure?_congr defined first, ih]
      intro field member
      apply get?_record_congr first
      obtain ⟨d, present, same⟩ := List.mem_filterMap.mp member
      exact h field (List.mem_filterMap.mpr ⟨d, List.mem_cons_of_mem c present, same⟩)

theorem exists_of_mem_failedChecks {defined : List String} {seen : Table Coordinate Location}
    {checks : List Check} {e : SchemaError} (member : e ∈ failedChecks defined seen checks) :
    ∃ c ∈ checks, ∃ before, c.failure? defined before = some e := by
  induction checks generalizing seen with
  | nil => cases member
  | cons c rest ih =>
      rw [failedChecks_cons, List.mem_append, Option.mem_toList] at member
      rcases member with first | later
      · exact ⟨c, List.mem_cons_self, seen, first⟩
      · obtain ⟨d, present, failed⟩ := ih later
        exact ⟨d, List.mem_cons_of_mem c present, failed⟩

/-- Where what is read off the error of a check is the same for all fields before it, a walk gives
what is read off its checks. -/
theorem filterMap_failedChecks {β : Type} {read : SchemaError → Option β}
    {own : Check → Option β} {defined : List String}
    (each : ∀ c before, (c.failure? defined before).bind read = own c)
    (seen : Table Coordinate Location) (checks : List Check) :
    (failedChecks defined seen checks).filterMap read = checks.filterMap own := by
  induction checks generalizing seen with
  | nil => rfl
  | cons c rest ih =>
      rw [failedChecks_cons, List.filterMap_append, ih, List.filterMap_cons, ← each c seen]
      cases c.failure? defined seen with
      | none => rfl
      | some e => cases h : read e <;> simp [h]

theorem failedChecks_append (defined : List String) (seen : Table Coordinate Location)
    (xs ys : List Check) :
    failedChecks defined seen (xs ++ ys) =
      failedChecks defined seen xs ++ failedChecks defined (recordAll seen xs) ys := by
  induction xs generalizing seen with
  | nil => rfl
  | cons c rest ih =>
      simp only [List.cons_append, failedChecks_cons, ih, List.append_assoc]
      rfl

/-- A walk over fields that are all new reports what each check does on its own. -/
theorem failedChecks_of_fresh (defined : List String) {seen : Table Coordinate Location}
    {checks : List Check} (once : (checks.filterMap declared?).Nodup)
    (unseen : ∀ field ∈ checks.filterMap declared?, seen.get? field = none) :
    failedChecks defined seen checks = checks.filterMap (failure? defined .empty) := by
  induction checks generalizing seen with
  | nil => rfl
  | cons c rest ih =>
      have alone : c.failure? defined seen = c.failure? defined .empty := by
        apply failure?_congr
        intro field same
        exact unseen field (List.mem_filterMap.mpr ⟨c, List.mem_cons_self, same⟩)
      -- A field that this check records is not declared again, so the later ones stay unseen.
      have later : failedChecks defined (c.record seen) rest =
          rest.filterMap (failure? defined .empty) := by
        apply ih
        · exact once.sublist ((List.sublist_cons_self c rest).filterMap declared?)
        · intro field member
          rw [get?_record seen]
          · obtain ⟨d, present, same⟩ := List.mem_filterMap.mp member
            exact unseen field (List.mem_filterMap.mpr ⟨d, List.mem_cons_of_mem c present, same⟩)
          · intro same
            rw [List.filterMap_cons_some same] at once
            exact (List.nodup_cons.mp once).1 member
      rw [failedChecks_cons, alone, later]
      cases h : c.failure? defined .empty with
      | none => rw [List.filterMap_cons_none h]; rfl
      | some e => rw [List.filterMap_cons_some h]; rfl

/-- A check passes if it reports nothing on its own. -/
theorem failedChecks_eq_nil_iff (defined : List String) (seen : Table Coordinate Location)
    (checks : List Check) :
    failedChecks defined seen checks = [] ↔
      (checks.filterMap declared?).Nodup ∧
      (∀ field ∈ checks.filterMap declared?, seen.get? field = none) ∧
      ∀ c ∈ checks, c.failure? defined .empty = none := by
  constructor
  · intro h
    suffices fresh : (checks.filterMap declared?).Nodup ∧
        ∀ field ∈ checks.filterMap declared?, seen.get? field = none by
      refine ⟨fresh.1, fresh.2, ?_⟩
      rw [failedChecks_of_fresh defined fresh.1 fresh.2] at h
      exact List.filterMap_eq_nil_iff.mp h
    induction checks generalizing seen with
    | nil => simp
    | cons c rest ih =>
        rw [failedChecks_cons, List.append_eq_nil_iff, Option.toList_eq_nil_iff] at h
        have later := ih _ h.2
        cases c with
        | declares field location =>
            have unseen : seen.get? field = none := Option.map_eq_none_iff.mp h.1
            simp only [record, unseen, Table.get?_insert] at later
            simp only [List.filterMap_cons, declared?, List.nodup_cons, List.mem_cons,
              forall_eq_or_imp]
            refine ⟨⟨?_, later.1⟩, unseen, ?_⟩
            · intro member
              simpa using later.2 field member
            · intro other member
              have := later.2 other member
              split at this
              · cases this
              · exact this
        | refers => exact later
        | repeatsArgument => exact later
        | «extends» => exact later
  · rintro ⟨once, unseen, pass⟩
    rw [failedChecks_of_fresh defined once unseen]
    exact List.filterMap_eq_nil_iff.mpr pass

end Document

end PagedSchema
