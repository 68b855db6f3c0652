/-
Cache hints show in the directives of generated edges and of the edges and page information of
generated connections, and in nothing else that paging does or reports.
-/
import PagedSchema.Proofs.Paginating

namespace PagedSchema

/-- The field without directives, if it is one that connections write hints on. -/
def Field.withoutHint (f : Field) : Field :=
  if f.name = "edges" ∨ f.name = "pageInfo" then { f with directives := [] } else f

/-- An edge of one of the base types without its directives, a connection of one of them without
those of its edges and page information, and any other type as it is. -/
def TypeDecl.withoutHints (bases : List String) (d : TypeDecl) : TypeDecl :=
  if d.name ∈ bases.map edgeName then { d with directives := [] }
  else if d.name ∈ bases.map connectionName then d.mapFields Field.withoutHint
  else d

/-- Definitions that come from a source stay as they are. -/
def Sourced.withoutHints (bases : List String) : Sourced → Sourced
  | ⟨.generated, .type d⟩ => ⟨.generated, .type (d.withoutHints bases)⟩
  | s => s

def Document.withoutHints (bases : List String) (doc : Document) : Document :=
  doc.map (·.withoutHints bases)

def Paged.withoutHints (bases : List String) (p : Paged) : Paged :=
  { p with document := p.document.withoutHints bases }

section Errors

variable (bases : List String)

theorem Check.ofField_withoutHint (origin : Origin) (type : String) (f : Field) :
    ofField origin type f.withoutHint = ofField origin type f := by
  unfold Field.withoutHint
  split <;> rfl

theorem Check.ofType_withoutHints (origin : Origin) (d : TypeDecl) :
    ofType ⟨origin, d.withoutHints bases⟩ = ofType ⟨origin, d⟩ := by
  unfold TypeDecl.withoutHints
  split
  · rfl
  split
  · obtain ⟨role, position, name, directives, body⟩ := d
    cases body with
    | output kind interfaces fields =>
        change _ ++ (_ ++ (fields.map Field.withoutHint).flatMap _) = _
        rw [List.flatMap_map]
        simp only [ofField_withoutHint]
        rfl
    | scalar | enum | union | input => rfl
  · rfl

theorem Check.ofDefinition_withoutHints (s : Sourced) :
    ofDefinition (s.withoutHints bases) = ofDefinition s := by
  obtain ⟨origin, definition⟩ := s
  cases origin with
  | source path => rfl
  | generated =>
      cases definition with
      | schema d => rfl
      | directive d => rfl
      | type d => exact ofType_withoutHints bases .generated d

theorem Sourced.entry?_withoutHints (s : Sourced) :
    ((s.withoutHints bases).defines?.map fun name => (name, (s.withoutHints bases).location)) =
      s.defines?.map fun name => (name, s.location) := by
  obtain ⟨origin, definition⟩ := s
  cases origin with
  | source path => rfl
  | generated =>
      cases definition with
      | schema d => rfl
      | directive d => rfl
      | type d =>
          simp only [withoutHints, defines?, TypeDecl.withoutHints]
          split
          · rfl
          split <;> rfl

end Errors

namespace Document

theorem errors_withoutHints (bases : List String) (doc : Document) :
    (doc.withoutHints bases).errors = doc.errors := by
  apply errors_congr
  · unfold definitionEntries withoutHints
    rw [List.filterMap_map]
    simp only [Function.comp_def, Sourced.entry?_withoutHints]
  · unfold checks withoutHints
    rw [List.flatMap_map]
    simp only [Check.ofDefinition_withoutHints]

variable {doc : Document}

theorem withoutHints_append (bases : List String) (xs ys : Document) :
    withoutHints bases (xs ++ ys) = withoutHints bases xs ++ withoutHints bases ys :=
  List.map_append

theorem withoutHints_markerDeclarations (bases : List String) (doc : Document) (marker : String) :
    (doc.markerDeclarations marker).withoutHints bases = doc.markerDeclarations marker := by
  unfold markerDeclarations
  split <;> rfl

theorem withoutHints_pair {bases : List String} {base : String} (known : base ∈ bases)
    (hint : List Directive) :
    (ofGenerated [Generated.edge base hint, Generated.connection base hint]).withoutHints bases =
      ofGenerated [Generated.edge base [], Generated.connection base []] := by
  have edge : edgeName base ∈ bases.map edgeName := List.mem_map_of_mem known
  have connection : connectionName base ∈ bases.map connectionName := List.mem_map_of_mem known
  have apart : connectionName base ∉ bases.map edgeName := by
    intro member
    obtain ⟨other, -, same⟩ := List.mem_map.mp member
    exact edgeName_ne_connectionName other base same
  have first : (Generated.edge base hint).withoutHints bases = Generated.edge base [] := if_pos edge
  have second : (Generated.connection base hint).withoutHints bases =
      Generated.connection base [] := (if_neg apart).trans (if_pos connection)
  change [_, _] = [_, _]
  simp only [Sourced.withoutHints, first, second]

theorem withoutHints_pageInfo (bases : List String) :
    (ofGenerated [Generated.pageInfo]).withoutHints bases = ofGenerated [Generated.pageInfo] := by
  have edge : pageInfoName ∉ bases.map edgeName := by
    intro member
    obtain ⟨base, -, same⟩ := List.mem_map.mp member
    exact edgeName_ne_pageInfoName base same
  have connection : pageInfoName ∉ bases.map connectionName := by
    intro member
    obtain ⟨base, -, same⟩ := List.mem_map.mp member
    exact connectionName_ne_pageInfoName base same
  have same : Generated.pageInfo.withoutHints bases = Generated.pageInfo :=
    (if_neg edge).trans (if_neg connection)
  change [_] = [_]
  simp only [Sourced.withoutHints, same]

/-- Without its hints, what paging puts in front is what it puts there if hints are not in use. -/
theorem withoutHints_front (doc : Document) (settings : Settings) :
    (doc.front settings).withoutHints (doc.markedBases settings.marker) =
      doc.front settings.withoutCacheHints := by
  have pageInfo : (ofGenerated (if (doc.survey settings).hasType pageInfoName then []
        else [Generated.pageInfo])).withoutHints (doc.markedBases settings.marker) =
      ofGenerated (if (doc.survey settings.withoutCacheHints).hasType pageInfoName then []
        else [Generated.pageInfo]) := by
    change _ = ofGenerated (if (doc.survey settings).hasType pageInfoName then [] else _)
    split
    · rfl
    · exact withoutHints_pageInfo _
  have pairs : (ofGenerated ((doc.survey settings).specs.flatMap
        (Generated.pair settings))).withoutHints (doc.markedBases settings.marker) =
      ofGenerated ((doc.survey settings.withoutCacheHints).specs.flatMap
        (Generated.pair settings.withoutCacheHints)) := by
    unfold Survey.specs
    change _ = ofGenerated (((doc.survey settings).baseTypes.map _).flatMap _)
    simp only [ofGenerated, withoutHints, List.flatMap_map, List.map_flatMap]
    apply List.flatMap_congr
    intro base known
    exact withoutHints_pair ((doc.mem_baseTypes_iff settings base).mp known) _
  unfold front Survey.generatedTypes
  rw [ofGenerated, List.map_append, withoutHints_append, withoutHints_append,
    withoutHints_markerDeclarations]
  change withoutHints _ (ofGenerated _) ++ withoutHints _ (ofGenerated _) ++ _ = _
  rw [pageInfo, pairs]
  simp only [ofGenerated, List.map_append]
  rfl

/-- Paging with any cache hints and without them ends alike: with the same error, or with schemas
that are the same without their hints. -/
theorem paginate_withoutCacheHints (doc : Document) (settings : Settings) :
    (doc.paginate settings).map (·.withoutHints (doc.markedBases settings.marker)) =
      (doc.paginate settings.withoutCacheHints).map
        (·.withoutHints (doc.markedBases settings.marker)) := by
  by_cases once : doc.definedTypes.Nodup
  case neg => rw [paginate_of_redefined once, paginate_of_redefined once]
  by_cases collides : doc.Collides settings.marker
  case pos =>
    obtain ⟨collision, failed⟩ := Survey.generate_of_not_free _ settings
      (mt (doc.free_survey_iff settings).mp (not_not.mpr collides))
    have failed' : (doc.survey settings.withoutCacheHints).generate settings.withoutCacheHints =
        .error collision :=
      (Survey.generate_eq_error_iff _ _ _).mpr
        ((Survey.generate_eq_error_iff (doc.survey settings) settings _).mp failed)
    rw [paginate_of_once once, paginate_of_once once, failed, failed']
  have front := withoutHints_front doc settings
  have front' := withoutHints_front doc settings.withoutCacheHints
  have fronts (rest : Document) :
      withoutHints (doc.markedBases settings.marker) (doc.front settings ++ rest) =
        withoutHints (doc.markedBases settings.marker)
          (doc.front settings.withoutCacheHints ++ rest) := by
    rw [withoutHints_append, withoutHints_append, front]
    exact congrArg (· ++ _) front'.symm
  have errors (rest : Document) : errors (doc.front settings ++ rest) =
      errors (doc.front settings.withoutCacheHints ++ rest) := by
    rw [← errors_withoutHints (doc.markedBases settings.marker), fronts, errors_withoutHints]
  have walk : (doc.survey settings.withoutCacheHints).connect settings.withoutCacheHints doc =
      (doc.survey settings).connect settings doc := rfl
  have unhinted : doc.paginate settings.withoutCacheHints = _ := paginate_of_free once collides
  rw [unhinted, paginate_of_free once collides, walk]
  rcases (doc.survey settings).connect settings doc with ⟨document, conflict | connected⟩
  · rfl
  · simp only [errors]
    split
    · exact congrArg (fun d => Except.ok (Paged.mk d connected _)) (fronts document)
    · rfl

/-- Settings with one marker page a document alike, whatever cache hints they use: with the same
error, or with the same connection fields, generated names and, hints apart, document. This holds
also where the marker itself carries the hints, which then make generated fields look marked. -/
theorem map_withoutHints_paginate (doc : Document) (marker : String)
    (hints hints' : Option CacheHints) :
    (doc.paginate ⟨marker, hints⟩).map (·.withoutHints (doc.markedBases marker)) =
      (doc.paginate ⟨marker, hints'⟩).map (·.withoutHints (doc.markedBases marker)) :=
  (paginate_withoutCacheHints doc ⟨marker, hints⟩).trans
    (paginate_withoutCacheHints doc ⟨marker, hints'⟩).symm

end Document

end PagedSchema
