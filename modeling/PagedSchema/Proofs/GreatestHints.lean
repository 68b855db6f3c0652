/-
Which cache hint a survey has for a type: the greatest of those on definitions and extensions of the
type and on the fields that return it, whether these are marked or not.
-/
import PagedSchema.Proofs.Survey
import Mathlib.Order.Bounds.Basic

namespace PagedSchema

/-- Directives carry a hint if the first of them that has the hints' name does. -/
def CacheHints.Reads (hints : CacheHints) (directives : List Directive) (n : Int) : Prop :=
  ∃ before d after, directives = before ++ d :: after ∧
    (∀ e ∈ before, e.name ≠ hints.directive) ∧ d.name = hints.directive ∧
    d.int32? hints.argument = some n

theorem readInt32?_eq_some_iff (hints : CacheHints) (directives : List Directive) (n : Int) :
    readInt32? directives hints.directive hints.argument = some n ↔ hints.Reads directives n := by
  unfold readInt32? findDirective? CacheHints.Reads
  simp only [Option.bind_eq_some_iff, List.find?_eq_some_iff_append, beq_iff_eq, Bool.not_eq_true',
    beq_eq_false_iff_ne]
  constructor
  · rintro ⟨d, ⟨named, before, after, whole, others⟩, value⟩
    exact ⟨before, d, after, whole, others, named, value⟩
  · rintro ⟨before, d, after, whole, others, named, value⟩
    exact ⟨d, ⟨named, before, after, whole, others⟩, value⟩

namespace Document

/-- The hints that a document gives to types: a definition or extension of any kind to the type it
names, and a field of an object or interface type to the base type that it returns. -/
inductive HasHint (doc : Document) (hints : CacheHints) : String → Int → Prop
  | ofType {d : TypeDecl} {n : Int} (present : .type d ∈ doc.definitions)
    (reads : hints.Reads d.directives n) : HasHint doc hints d.name n
  | ofField {d : TypeDecl} {kind : OutputKind} {interfaces : List String} {fields : List Field}
    {f : Field} {n : Int} (present : .type d ∈ doc.definitions)
    (body : d.body = .output kind interfaces fields) (member : f ∈ fields)
    (reads : hints.Reads f.directives n) : HasHint doc hints f.type.base n

theorem mem_typeHints_iff (hints : CacheHints) (d : TypeDecl) (type : String) (n : Int) :
    (type, n) ∈ typeHints hints d ↔
      (type = d.name ∧ hints.Reads d.directives n) ∨
        ∃ f ∈ d.outputFields, type = f.type.base ∧ hints.Reads f.directives n := by
  have read : ∀ name ds, (readInt32? ds hints.directive hints.argument).map (name, ·) =
      some (type, n) ↔ type = name ∧ hints.Reads ds n := by
    intro name ds
    rw [← readInt32?_eq_some_iff, Option.map_eq_some_iff]
    constructor
    · rintro ⟨m, value, same⟩
      cases same
      exact ⟨rfl, value⟩
    · rintro ⟨rfl, value⟩
      exact ⟨n, value, rfl⟩
  unfold typeHints
  simp only [List.mem_append, Option.mem_toList, List.mem_filterMap, read]

theorem mem_filterMap_type?_iff (ds : List Definition) (d : TypeDecl) :
    d ∈ ds.filterMap (·.type?) ↔ .type d ∈ ds := by
  apply mem_filterMap_iff_mem
  intro e
  cases e <;> simp [Definition.type?]

variable (doc : Document)

/-- The readings of a survey are the hints of its document. -/
theorem mem_hintReadings_iff (hints : CacheHints) (type : String) (n : Int) :
    (type, n) ∈ doc.hintReadings (some hints) ↔ doc.HasHint hints type n := by
  simp only [hintReadings_some, List.mem_flatMap, mem_filterMap_type?_iff, mem_typeHints_iff]
  constructor
  · rintro ⟨d, present, ⟨rfl, reads⟩ | ⟨f, member, rfl, reads⟩⟩
    · exact .ofType present reads
    · obtain ⟨role, position, name, directives, body⟩ := d
      cases body with
      | output kind interfaces fields => exact .ofField present rfl member reads
      | scalar | enum | union | input => cases member
  · rintro (⟨present, reads⟩ | ⟨present, body, member, reads⟩)
    · exact ⟨_, present, .inl ⟨rfl, reads⟩⟩
    · refine ⟨_, present, .inr ⟨_, ?_, rfl, reads⟩⟩
      unfold TypeDecl.outputFields
      rw [body]
      exact member

theorem get?_hints_eq_max? (marker : String) (hints : CacheHints) (type : String) :
    (doc.survey ⟨marker, some hints⟩).hints.get? type =
      (valuesOf type (doc.hintReadings (some hints))).max? :=
  Table.get?_ofGreatest _ type

/-- With hints in use a survey has the greatest hint of each type, and none for a type without
hints; without them it has none for any type. -/
theorem get?_hints_eq_some_iff (marker type : String) :
    (∀ hints : CacheHints,
      (∀ n, (doc.survey ⟨marker, some hints⟩).hints.get? type = some n ↔
        IsGreatest {m | doc.HasHint hints type m} n) ∧
      ((doc.survey ⟨marker, some hints⟩).hints.get? type = none ↔
        ∀ n, ¬ doc.HasHint hints type n)) ∧
    (doc.survey ⟨marker, none⟩).hints.get? type = none := by
  refine ⟨fun hints => ⟨fun n => ?_, ?_⟩, rfl⟩
  · rw [get?_hints_eq_max?, List.max?_eq_some_iff]
    simp only [mem_valuesOf, mem_hintReadings_iff]
    rfl
  · rw [get?_hints_eq_max?, List.max?_eq_none_iff, List.eq_nil_iff_forall_not_mem]
    simp only [mem_valuesOf, mem_hintReadings_iff]

end Document

end PagedSchema
