/-
The errors of a document with a label each, which tells whether the error is about the type that a
marked field returns.
-/
import PagedSchema.Proofs.WellFormed

namespace PagedSchema

namespace Check

/-- The checks of a field. Only that of its own type can have the label. -/
def labelField (marker : String) (origin : Origin) (type : String) (f : Field) :
    List (Check × Bool) :=
  let field : Coordinate := ⟨type, f.name⟩
  let location := origin.locate f.position
  [(.declares field location, false),
    (.refers f.type.base field.text location, hasDirective f.directives marker)] ++
    (repeatedArguments origin field f.arguments ++ ofInputs origin field.text f.arguments).map
      (·, false)

def labelType (marker : String) (t : SourcedType) : List (Check × Bool) :=
  match t.decl.body with
  | .output _ interfaces fields =>
    let ofHead : List Check :=
      (if t.decl.isExtension then [.extends t.decl.name t.location] else []) ++
        interfaces.map (.refers · t.decl.name t.location)
    ofHead.map (·, false) ++ fields.flatMap (labelField marker t.origin t.decl.name)
  | _ => (ofType t).map (·, false)

def labelDefinition (marker : String) (s : Sourced) : List (Check × Bool) :=
  match s.definition with
  | .type d => labelType marker ⟨s.origin, d⟩
  | _ => (ofDefinition s).map (·, false)

variable (marker : String)

theorem map_fst_unlabelled (checks : List Check) :
    (checks.map (·, false)).map Prod.fst = checks := by
  rw [List.map_map]
  exact List.map_id checks

theorem map_fst_labelField (origin : Origin) (type : String) (f : Field) :
    (labelField marker origin type f).map Prod.fst = ofField origin type f := by
  simp only [labelField, List.map_append, map_fst_unlabelled, ofField, List.append_assoc]
  rfl

theorem map_fst_labelType (t : SourcedType) : (labelType marker t).map Prod.fst = ofType t := by
  obtain ⟨origin, role, position, name, directives, body⟩ := t
  cases body with
  | output kind interfaces fields =>
      simp only [labelType, List.map_append (f := Prod.fst), map_fst_unlabelled, List.map_flatMap,
        map_fst_labelField, ofType, ofTypeBody, List.append_assoc]
  | scalar | enum | union | input => exact map_fst_unlabelled _

theorem map_fst_labelDefinition (s : Sourced) :
    (labelDefinition marker s).map Prod.fst = ofDefinition s := by
  obtain ⟨origin, definition⟩ := s
  cases definition with
  | schema d => exact map_fst_unlabelled _
  | directive d => exact map_fst_unlabelled _
  | type d => exact map_fst_labelType marker ⟨origin, d⟩

end Check

namespace Document

def labelledChecks (doc : Document) (marker : String) : List (Check × Bool) :=
  doc.flatMap (Check.labelDefinition marker)

/-- Failed checks with the labels of the checks. -/
def labelledFailures (defined : List String) (seen : Table Coordinate Location) :
    List (Check × Bool) → List (SchemaError × Bool)
  | [] => []
  | (c, label) :: rest =>
    ((c.failure? defined seen).map (·, label)).toList ++
      labelledFailures defined (c.record seen) rest

/-- The errors of a document with their labels. -/
def reports (doc : Document) (marker : String) : List (SchemaError × Bool) :=
  doc.duplicateDefinitions.map (·, false) ++
    labelledFailures doc.definedTypes .empty (doc.labelledChecks marker)

theorem map_fst_labelledChecks (doc : Document) (marker : String) :
    (doc.labelledChecks marker).map Prod.fst = doc.checks := by
  simp only [labelledChecks, List.map_flatMap, Check.map_fst_labelDefinition, checks]

theorem map_fst_labelledFailures (defined : List String) (seen : Table Coordinate Location)
    (labelled : List (Check × Bool)) :
    (labelledFailures defined seen labelled).map Prod.fst =
      failedChecks defined seen (labelled.map Prod.fst) := by
  induction labelled generalizing seen with
  | nil => rfl
  | cons entry rest ih =>
      obtain ⟨c, label⟩ := entry
      rw [labelledFailures, List.map_append, ih, List.map_cons, failedChecks_cons]
      cases c.failure? defined seen <;> rfl

theorem map_fst_reports (doc : Document) (marker : String) :
    (doc.reports marker).map Prod.fst = doc.errors := by
  rw [reports, List.map_append, map_fst_labelledFailures, map_fst_labelledChecks, List.map_map,
    errors, typeDefinitions_map_name]
  congr 1
  exact List.map_id _

theorem labelledFailures_singleton (defined : List String) (seen : Table Coordinate Location)
    (c : Check) (label : Bool) :
    labelledFailures defined seen [(c, label)] =
      ((c.failure? defined seen).map (·, label)).toList := List.append_nil _

theorem labelledFailures_append (defined : List String) (seen : Table Coordinate Location)
    (xs ys : List (Check × Bool)) :
    labelledFailures defined seen (xs ++ ys) =
      labelledFailures defined seen xs ++
        labelledFailures defined (Check.recordAll seen (xs.map Prod.fst)) ys := by
  induction xs generalizing seen with
  | nil => rfl
  | cons entry rest ih =>
      obtain ⟨c, label⟩ := entry
      simp only [List.cons_append, labelledFailures, ih, List.append_assoc]
      rfl

end Document

end PagedSchema
