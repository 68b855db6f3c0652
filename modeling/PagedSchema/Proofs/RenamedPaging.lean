/-
Paging commutes with every injective renaming of directives, that of the marker and of the hint
directive included. So no directive name has a meaning of its own.
-/
import Mathlib.Logic.Equiv.Basic
import PagedSchema.Proofs.RenamedDirectives
import PagedSchema.Proofs.Paginating

namespace PagedSchema

def CacheHints.renameDirectives (ρ : String → String) (hints : CacheHints) : CacheHints :=
  { hints with directive := ρ hints.directive }

def Settings.renameDirectives (ρ : String → String) (settings : Settings) : Settings :=
  ⟨ρ settings.marker, settings.cacheHints.map (·.renameDirectives ρ)⟩

def Paged.renameDirectives (ρ : String → String) (p : Paged) : Paged :=
  { p with document := p.document.renameDirectives ρ }

section Injective

variable {ρ : String → String} (injective : Function.Injective ρ)

section Lookup

variable (ds : List Directive) (name : String)

include injective

theorem name_renameDirectives_beq (d : Directive) :
    ((d.renameDirectives ρ).name == ρ name) = (d.name == name) := by
  rw [Bool.eq_iff_iff, beq_iff_eq, beq_iff_eq]
  exact injective.eq_iff

theorem findDirective?_renameDirectives :
    findDirective? (ds.map (·.renameDirectives ρ)) (ρ name) =
      (findDirective? ds name).map (·.renameDirectives ρ) := by
  unfold findDirective?
  rw [List.find?_map]
  simp only [Function.comp_def, name_renameDirectives_beq injective]

theorem hasDirective_renameDirectives :
    hasDirective (ds.map (·.renameDirectives ρ)) (ρ name) = hasDirective ds name := by
  unfold hasDirective
  rw [List.any_map]
  simp only [Function.comp_def, name_renameDirectives_beq injective]

theorem readInt32?_renameDirectives (argument : String) :
    readInt32? (ds.map (·.renameDirectives ρ)) (ρ name) argument =
      readInt32? ds name argument := by
  unfold readInt32?
  rw [findDirective?_renameDirectives injective, Option.bind_map]
  rfl

end Lookup

namespace Document

variable (doc : Document) (settings : Settings)

include injective

theorem markedDeclarations_renameDirectives (marker : String) :
    (doc.renameDirectives ρ).markedDeclarations (ρ marker) =
      (doc.markedDeclarations marker).map fun entry =>
        (entry.1, entry.2.renameDirectives ρ) := by
  unfold markedDeclarations
  rw [outputFields_renameDirectives, List.filter_map]
  simp only [Function.comp_def, Field.renameDirectives, hasDirective_renameDirectives injective]

theorem markedFields_renameDirectives (marker : String) :
    (doc.renameDirectives ρ).markedFields (ρ marker) = doc.markedFields marker := by
  change ((doc.renameDirectives ρ).markedDeclarations (ρ marker)).map _ =
    (doc.markedDeclarations marker).map _
  rw [markedDeclarations_renameDirectives injective, List.map_map]
  rfl

theorem hintReadings_renameDirectives (hints : Option CacheHints) :
    (doc.renameDirectives ρ).hintReadings (hints.map (·.renameDirectives ρ)) =
      doc.hintReadings hints := by
  cases hints with
  | none => rfl
  | some hints =>
      have each : ∀ d : TypeDecl, typeHints (hints.renameDirectives ρ) (d.renameDirectives ρ) =
          typeHints hints d := by
        intro d
        simp only [typeHints, TypeDecl.outputFields_renameDirectives, List.filterMap_map,
          Function.comp_def, Field.renameDirectives, CacheHints.renameDirectives,
          readInt32?_renameDirectives injective]
        simp only [TypeDecl.renameDirectives, readInt32?_renameDirectives injective]
      change (doc.renameDirectives ρ).types.flatMap _ = doc.types.flatMap _
      rw [types_renameDirectives, List.flatMap_map]
      simp only [each]

/-- A survey has no names of directives in it. -/
theorem survey_renameDirectives :
    (doc.renameDirectives ρ).survey (settings.renameDirectives ρ) = doc.survey settings := by
  have declared : (doc.renameDirectives ρ).types.map (fun t => (t.decl.name, t.location)) =
      doc.types.map fun t => (t.decl.name, t.location) := by
    rw [types_renameDirectives, List.map_map]
    rfl
  have defined : (doc.renameDirectives ρ).typeDefinitions.map
        (fun t => (t.decl.name, t.location)) =
      doc.typeDefinitions.map fun t => (t.decl.name, t.location) := by
    rw [typeDefinitions_renameDirectives, List.map_map]
    rfl
  unfold survey Settings.renameDirectives
  simp only [declared, defined, markedFields_renameDirectives injective,
    hintReadings_renameDirectives injective]

theorem markedBases_renameDirectives (marker : String) :
    (doc.renameDirectives ρ).markedBases (ρ marker) = doc.markedBases marker := by
  unfold markedBases
  rw [markedDeclarations_renameDirectives injective, List.map_map]
  rfl

theorem collides_renameDirectives_iff (marker : String) :
    (doc.renameDirectives ρ).Collides (ρ marker) ↔ doc.Collides marker := by
  unfold Collides
  rw [markedBases_renameDirectives injective, typeNames_renameDirectives]

theorem conflicts_renameDirectives_iff (marker : String) :
    (doc.renameDirectives ρ).Conflicts (ρ marker) ↔ doc.Conflicts marker := by
  unfold Conflicts
  rw [markedDeclarations_renameDirectives injective]
  simp only [List.mem_map, exists_exists_and_eq_and, Field.renameDirectives,
    InputValue.renameDirectives]

theorem generatedNames_renameDirectives (marker : String) :
    (doc.renameDirectives ρ).generatedNames (ρ marker) = doc.generatedNames marker := by
  unfold generatedNames
  rw [typeNames_renameDirectives, markedBases_renameDirectives injective]

end Document

/-- Generated types have no directives but their hints. -/
theorem Survey.generatedTypes_renameDirectives (survey : Survey) (settings : Settings) :
    survey.generatedTypes (settings.renameDirectives ρ) =
      (survey.generatedTypes settings).map (·.renameDirectives ρ) := by
  have hinted : ∀ hint, Generated.hintDirective (settings.renameDirectives ρ) hint =
      (Generated.hintDirective settings hint).map (·.renameDirectives ρ) := by
    intro hint
    obtain ⟨marker, hints⟩ := settings
    cases hints <;> cases hint <;> rfl
  have pairs : Generated.pair (settings.renameDirectives ρ) = fun spec =>
      (Generated.pair settings spec).map (·.renameDirectives ρ) := by
    funext spec
    unfold Generated.pair
    rw [hinted]
    rfl
  unfold generatedTypes
  rw [List.map_append, List.map_flatMap, pairs]
  congr 1
  split <;> rfl

section Paging

include injective

theorem Field.renameDirectives_toConnection (f : Field) (base marker : String) :
    (f.toConnection base marker).renameDirectives ρ =
      (f.renameDirectives ρ).toConnection base (ρ marker) := by
  have kept : ((f.directives.map (·.renameDirectives ρ)).filter (·.name != ρ marker)) =
      (f.directives.filter (·.name != marker)).map (·.renameDirectives ρ) := by
    rw [List.filter_map]
    simp only [Function.comp_def, bne, name_renameDirectives_beq injective]
  simp only [toConnection, renameDirectives, List.map_append, kept]
  rfl

theorem Survey.pageField_renameDirectives (survey : Survey) (marker type : String) (f : Field) :
    survey.pageField (ρ marker) type (f.renameDirectives ρ) =
      (survey.pageField marker type f).renameDirectives ρ := by
  have selected : survey.selected? (ρ marker) type (f.renameDirectives ρ) =
      survey.selected? marker type f := by
    unfold selected?
    rw [Field.renameDirectives, hasDirective_renameDirectives injective]
  unfold pageField
  rw [selected]
  cases survey.selected? marker type f with
  | none => rfl
  | some base => exact (f.renameDirectives_toConnection injective base marker).symm

namespace Document

theorem markerDeclarations_renameDirectives (doc : Document) (marker : String) :
    (doc.renameDirectives ρ).markerDeclarations (ρ marker) =
      (doc.markerDeclarations marker).renameDirectives ρ := by
  have declared : (doc.renameDirectives ρ).definesDirective (ρ marker) =
      doc.definesDirective marker := by
    rw [Bool.eq_iff_iff, definesDirective_iff, definesDirective_iff,
      directiveNames_renameDirectives]
    exact List.mem_map_of_injective injective
  unfold markerDeclarations
  rw [declared]
  split <;> rfl

theorem front_renameDirectives (doc : Document) (settings : Settings) :
    (doc.renameDirectives ρ).front (settings.renameDirectives ρ) =
      (doc.front settings).renameDirectives ρ := by
  unfold front
  rw [survey_renameDirectives injective, Survey.generatedTypes_renameDirectives,
    Settings.renameDirectives, markerDeclarations_renameDirectives injective]
  simp only [ofGenerated, renameDirectives, List.map_append, List.map_map]
  rfl

theorem connected_renameDirectives (doc : Document) (settings : Settings) :
    (doc.renameDirectives ρ).connected (settings.renameDirectives ρ) =
      (doc.connected settings).renameDirectives ρ := by
  unfold connected
  rw [survey_renameDirectives injective]
  exact doc.mapFields_renameDirectives ρ fun type f =>
    (doc.survey settings).pageField_renameDirectives injective settings.marker type f

/-- Paging a document under other directive names ends as paging the document does. -/
theorem verdict_of_paginate_renameDirectives (doc : Document) (settings : Settings) :
    Verdict.of ((doc.renameDirectives ρ).paginate (settings.renameDirectives ρ)) =
      Verdict.of (doc.paginate settings) := by
  apply verdict_of_paginate_congr
  · rw [definedTypes_renameDirectives]
  · exact doc.collides_renameDirectives_iff injective settings.marker
  · exact doc.conflicts_renameDirectives_iff injective settings.marker
  · change (doc.renameDirectives ρ).WellFormedWith
      ((doc.renameDirectives ρ).generatedNames (ρ settings.marker)) ↔ _
    rw [generatedNames_renameDirectives injective,
      wellFormedWith_renameDirectives_iff _ _ injective]

/-- Where it succeeds it makes the same schema under these names. -/
theorem paginate_renameDirectives {doc : Document} {settings : Settings} {p : Paged}
    (paged : doc.paginate settings = .ok p) :
    (doc.renameDirectives ρ).paginate (settings.renameDirectives ρ) =
      .ok (p.renameDirectives ρ) := by
  obtain ⟨free, clear, wellFormed⟩ := of_paginate_eq_ok paged
  have free' := mt (doc.collides_renameDirectives_iff injective settings.marker).mp free
  have clear' := mt (doc.conflicts_renameDirectives_iff injective settings.marker).mp clear
  have wellFormed' := (doc.wellFormedWith_renameDirectives_iff ρ injective _).mpr wellFormed
  rw [← doc.generatedNames_renameDirectives injective settings.marker] at wellFormed'
  rw [paginate_of_wellFormed wellFormed'.typesOnce free' clear' wellFormed',
    eq_of_paginate_eq_ok paged, front_renameDirectives injective,
    connected_renameDirectives injective, survey_renameDirectives injective,
    Settings.renameDirectives, markedFields_renameDirectives injective]
  simp only [Paged.renameDirectives, renameDirectives, List.map_append]

end Document

end Paging

end Injective

namespace Document

theorem appliedDirectives_connected (doc : Document) (settings : Settings) :
    (doc.connected settings).appliedDirectives ⊆ doc.appliedDirectives := by
  apply appliedDirectives_mapFields
  intro type f name applied
  unfold Survey.pageField at applied
  split at applied
  · have plain : paginationInputs.flatMap (·.appliedDirectives) = [] := rfl
    simp only [Field.toConnection, Field.appliedDirectives, List.flatMap_append, plain,
      List.append_nil, List.mem_append] at applied ⊢
    exact applied.imp_right fun kept => (List.filter_sublist.map _).subset kept
  · exact applied

/-- Generated types use no directive but the one that carries hints. -/
theorem of_mem_appliedDirectives_generated {survey : Survey} {settings : Settings} {d : TypeDecl}
    (generated : d ∈ survey.generatedTypes settings) {name : String}
    (applied : name ∈ (Definition.type d).appliedDirectives) :
    ∃ hints, settings.cacheHints = some hints ∧ hints.directive = name := by
  rcases (survey.mem_generatedTypes settings).mp generated with
    ⟨rfl, -⟩ | ⟨base, -, hint, rfl, pair⟩
  · cases applied
  have hinted : name ∈ (Generated.hintDirective settings (survey.hints.get? base)).map
      (·.name) := by
    rcases pair with rfl | rfl
    · simpa [Definition.appliedDirectives, TypeBody.appliedDirectives, Field.appliedDirectives,
        Generated.edge, Generated.objectType, Generated.plainField] using applied
    · simpa [Definition.appliedDirectives, TypeBody.appliedDirectives, Field.appliedDirectives,
        Generated.connection, Generated.objectType, Generated.plainField] using applied
  obtain ⟨h, member, rfl⟩ := List.mem_map.mp hinted
  obtain ⟨hints, -, used, -, same⟩ :=
    (Generated.hasDirective_hintDirective_iff settings _ h.name).mp
      (List.any_eq_true.mpr ⟨h, member, beq_self_eq_true h.name⟩)
  exact ⟨hints, used, same⟩

theorem of_mem_appliedDirectives_front {doc : Document} {settings : Settings} {name : String}
    (applied : name ∈ (doc.front settings).appliedDirectives) :
    ∃ hints, settings.cacheHints = some hints ∧ hints.directive = name := by
  have marker : (doc.markerDeclarations settings.marker).appliedDirectives = [] := by
    unfold markerDeclarations
    split <;> rfl
  rw [front, appliedDirectives_append, marker, List.append_nil, appliedDirectives,
    definitions_ofGenerated, List.flatMap_map] at applied
  obtain ⟨d, generated, uses⟩ := List.mem_flatMap.mp applied
  exact of_mem_appliedDirectives_generated generated uses

section Names

variable {doc : Document} {settings : Settings} {p : Paged} {name : String}
  (paged : doc.paginate settings = .ok p)

include paged

theorem of_mem_directiveNames_paginate (declared : name ∈ p.document.directiveNames) :
    name = settings.marker ∨ name ∈ doc.directiveNames := by
  rw [eq_of_paginate_eq_ok paged, directiveNames_append, directiveNames_front, connected,
    directiveNames_mapFields] at declared
  rcases List.mem_append.mp declared with first | later
  · split at first
    · cases first
    · exact .inl (List.mem_singleton.mp first)
  · exact .inr later

theorem of_mem_appliedDirectives_paginate (applied : name ∈ p.document.appliedDirectives) :
    (∃ hints, settings.cacheHints = some hints ∧ hints.directive = name) ∨
      name ∈ doc.appliedDirectives := by
  rw [eq_of_paginate_eq_ok paged, appliedDirectives_append] at applied
  exact (List.mem_append.mp applied).imp of_mem_appliedDirectives_front
    fun later => doc.appliedDirectives_connected settings later

end Names

end Document

/-- The renaming of one name to another, which takes the place of the first one. -/
def replaceName (old new name : String) : String := if name = old then new else name

/-- Where the new name does not occur, to replace the old one by it is to swap the two. -/
theorem replaceName_eq_swap {old new name : String} (fresh : name = old ∨ name ≠ new) :
    replaceName old new name = Equiv.swap old new name := by
  unfold replaceName
  rw [Equiv.swap_apply_def]
  rcases fresh with rfl | other
  · rw [if_pos rfl, if_pos rfl]
  · rw [if_neg other]

namespace Document

/-- The name of the marker does not matter, as long as it differs from that of the hint directive.
Under a name that its document does not use, paging ends as it does under the old one, and makes the
same schema with the new name in place of the old one. -/
theorem paginate_replaceName (doc : Document) (marker marker' : String) (hints : Option CacheHints)
    (undeclared : marker' ∉ doc.directiveNames) (unapplied : marker' ∉ doc.appliedDirectives)
    (apart : ∀ h ∈ hints, h.directive ≠ marker ∧ h.directive ≠ marker') :
    Verdict.of ((doc.renameDirectives (replaceName marker marker')).paginate ⟨marker', hints⟩) =
        Verdict.of (doc.paginate ⟨marker, hints⟩) ∧
      ∀ p, doc.paginate ⟨marker, hints⟩ = .ok p →
        (doc.renameDirectives (replaceName marker marker')).paginate ⟨marker', hints⟩ =
          .ok (p.renameDirectives (replaceName marker marker')) := by
  have injective := (Equiv.swap marker marker').injective
  have swapped : doc.renameDirectives (replaceName marker marker') =
      doc.renameDirectives (Equiv.swap marker marker') := by
    apply renameDirectives_congr
    · intro name declared
      exact replaceName_eq_swap (.inr (ne_of_mem_of_not_mem declared undeclared))
    · intro name applied
      exact replaceName_eq_swap (.inr (ne_of_mem_of_not_mem applied unapplied))
  have settings : (⟨marker', hints⟩ : Settings) =
      Settings.renameDirectives (Equiv.swap marker marker') ⟨marker, hints⟩ := by
    unfold Settings.renameDirectives
    rw [Equiv.swap_apply_left]
    congr 1
    cases hints with
    | none => rfl
    | some h =>
        obtain ⟨old, new⟩ := apart h rfl
        simp only [Option.map_some, CacheHints.renameDirectives,
          Equiv.swap_apply_of_ne_of_ne old new]
  rw [swapped, settings]
  refine ⟨verdict_of_paginate_renameDirectives injective doc _, ?_⟩
  intro p paged
  have result : p.renameDirectives (replaceName marker marker') =
      p.renameDirectives (Equiv.swap marker marker') := by
    unfold Paged.renameDirectives
    congr 1
    apply renameDirectives_congr
    · intro name declared
      apply replaceName_eq_swap
      exact (of_mem_directiveNames_paginate paged declared).imp_right
        (ne_of_mem_of_not_mem · undeclared)
    · intro name applied
      apply replaceName_eq_swap
      rcases of_mem_appliedDirectives_paginate paged applied with ⟨h, used, rfl⟩ | before
      · exact .inr (apart h used).2
      · exact .inr (ne_of_mem_of_not_mem before unapplied)
  rw [result]
  exact paginate_renameDirectives injective paged

/-- A marker that is declared, and applied to a field that gets a hint and to an argument of it. -/
def memberSchema : Document :=
  ofSource "schema.graphql"
    [.directive { markerDecl "connection" with places := [.fieldDefinition, .argumentDefinition] },
     .type ⟨.definition none, ⟨2, 1⟩, "Group", [],
      .output .object [] [⟨⟨3, 3⟩, none, "members",
        [⟨⟨3, 11⟩, none, "role", .named "String", none, [⟨⟨3, 24⟩, "connection", []⟩]⟩],
        .list (.named "Member"),
        [⟨⟨3, 48⟩, "connection", []⟩, ⟨⟨3, 60⟩, "cacheControl", [("maxAge", .int 60)]⟩]⟩]⟩,
     .type ⟨.definition none, ⟨5, 1⟩, "Member", [],
      .output .object [] [⟨⟨5, 15⟩, none, "id", [], .nonNull (.named "ID"), []⟩]⟩]

theorem paginate_replaceName_memberSchema :
    "paged" ∉ memberSchema.directiveNames ∧ "paged" ∉ memberSchema.appliedDirectives ∧
      ∃ p, memberSchema.paginate ⟨"connection", some .default⟩ = .ok p ∧
        (memberSchema.renameDirectives (replaceName "connection" "paged")).paginate
          ⟨"paged", some .default⟩ =
            .ok (p.renameDirectives (replaceName "connection" "paged")) := by
  have undeclared : "paged" ∉ memberSchema.directiveNames := by decide
  have unapplied : "paged" ∉ memberSchema.appliedDirectives := by decide
  have apart : ∀ h ∈ some CacheHints.default,
      h.directive ≠ "connection" ∧ h.directive ≠ "paged" := by
    rintro h ⟨⟩
    decide
  obtain ⟨p, paged⟩ : ∃ p, memberSchema.paginate ⟨"connection", some .default⟩ = .ok p := ⟨_, rfl⟩
  exact ⟨undeclared, unapplied, p, paged, (paginate_replaceName memberSchema "connection" "paged"
    (some .default) undeclared unapplied apart).2 p paged⟩

end Document

end PagedSchema
