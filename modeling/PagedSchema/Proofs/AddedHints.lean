/-
One more hint on a type or a field. Only the first hint on it is read, so one that is added behind
changes nothing, and one that is added in front takes the place of the one that was read.
-/
import PagedSchema.Proofs.GreatestHints

namespace PagedSchema

def CacheHints.entry (hints : CacheHints) (type : String) (ds : List Directive) :
    List (String × Int) :=
  ((readInt32? ds hints.directive hints.argument).map (type, ·)).toList

def CacheHints.fieldEntries (hints : CacheHints) (fields : List Field) : List (String × Int) :=
  fields.flatMap fun f => hints.entry f.type.base f.directives

theorem Document.typeHints_eq (hints : CacheHints) (d : TypeDecl) :
    typeHints hints d =
      hints.entry d.name d.directives ++ hints.fieldEntries d.outputFields := by
  change _ ++ List.filterMap _ d.outputFields = _
  rw [List.filterMap_eq_flatMap_toList]
  rfl

/-- What may carry a hint, without its directives: a type definition or extension, or a field of an
object or interface type with the fields before and after it. -/
inductive HintNode
  | ofType (decl : TypeDecl)
  | ofField (decl : TypeDecl) (kind : OutputKind) (interfaces : List String)
    (earlier : List Field) (f : Field) (later : List Field)

namespace HintNode

def annotated (ds : List Directive) : HintNode → TypeDecl
  | ofType decl => { decl with directives := ds }
  | ofField decl kind interfaces earlier f later =>
    { decl with
      body := .output kind interfaces (earlier ++ { f with directives := ds } :: later) }

/-- The type whose hint the node may raise. -/
def subject : HintNode → String
  | ofType decl => decl.name
  | ofField _ _ _ _ f _ => f.type.base

/-- The node is read once, and what else is read does not depend on its directives. -/
theorem exists_typeHints_annotated (hints : CacheHints) (node : HintNode) :
    ∃ xs ys, ∀ ds, Document.typeHints hints (node.annotated ds) =
      xs ++ (hints.entry node.subject ds ++ ys) := by
  cases node with
  | ofType decl =>
      refine ⟨[], hints.fieldEntries decl.outputFields, ?_⟩
      intro ds
      exact Document.typeHints_eq hints { decl with directives := ds }
  | ofField decl kind interfaces earlier f later =>
      refine ⟨hints.entry decl.name decl.directives ++ hints.fieldEntries earlier,
        hints.fieldEntries later, ?_⟩
      intro ds
      have fields : hints.fieldEntries (earlier ++ { f with directives := ds } :: later) =
          hints.fieldEntries earlier ++
            (hints.entry f.type.base ds ++ hints.fieldEntries later) := by
        simp only [CacheHints.fieldEntries, List.flatMap_append, List.flatMap_cons]
      rw [Document.typeHints_eq, List.append_assoc]
      exact congrArg (_ ++ ·) fields

end HintNode

structure HintPlace where
  before : Document
  origin : Origin
  node : HintNode
  after : Document

def HintPlace.annotated (place : HintPlace) (ds : List Directive) : Document :=
  place.before ++ ⟨place.origin, .type (place.node.annotated ds)⟩ :: place.after

def Document.hint? (doc : Document) (marker : String) (hints : CacheHints) (type : String) :
    Option Int := (doc.survey ⟨marker, some hints⟩).hints.get? type

/-- No hint is lower than any other. -/
def HintLe (a b : Option Int) : Prop := ∀ n ∈ a, ∃ m ∈ b, n ≤ m

theorem HintLe.refl (a : Option Int) : HintLe a a := fun n member => ⟨n, member, le_refl n⟩

theorem HintLe.antisymm {a b : Option Int} (first : HintLe a b) (second : HintLe b a) : a = b := by
  cases a with
  | none =>
      cases b with
      | none => rfl
      | some m =>
          obtain ⟨n, absent, -⟩ := second m rfl
          cases absent
  | some n =>
      obtain ⟨m, rfl, below⟩ := first n rfl
      obtain ⟨k, same, above⟩ := second m rfl
      cases same
      exact congrArg some (le_antisymm below above)

/-- Greatest elements compare as the lists do, each element of one with some of the other. -/
theorem hintLe_max?_iff (xs ys : List Int) :
    HintLe xs.max? ys.max? ↔ ∀ n ∈ xs, ∃ m ∈ ys, n ≤ m := by
  constructor
  · intro below n member
    cases top : xs.max? with
    | none =>
        rw [List.max?_eq_none_iff.mp top] at member
        cases member
    | some k =>
        obtain ⟨m, greatest, above⟩ := below k top
        have least := (List.max?_eq_some_iff.mp top).2 n member
        exact ⟨m, (List.max?_eq_some_iff.mp greatest).1, le_trans least above⟩
  · intro covered n top
    obtain ⟨m, member, above⟩ := covered n (List.max?_eq_some_iff.mp top).1
    cases greatest : ys.max? with
    | none =>
        rw [List.max?_eq_none_iff.mp greatest] at member
        cases member
    | some k => exact ⟨k, rfl, le_trans above ((List.max?_eq_some_iff.mp greatest).2 m member)⟩

section Reading

variable (hints : CacheHints)

theorem readInt32?_append (xs ys : List Directive) :
    readInt32? (xs ++ ys) hints.directive hints.argument =
      if hasDirective xs hints.directive then readInt32? xs hints.directive hints.argument
      else readInt32? ys hints.directive hints.argument := by
  unfold readInt32? findDirective? hasDirective
  rw [List.find?_append]
  cases found : xs.find? (·.name == hints.directive) with
  | none =>
      rw [if_neg]
      · rfl
      · rw [List.any_eq_true]
        rintro ⟨d, member, named⟩
        exact List.find?_eq_none.mp found d member named
  | some d =>
      rw [if_pos]
      · rfl
      · exact List.any_eq_true.mpr ⟨d, List.mem_of_find?_eq_some found,
          List.find?_some (p := fun d : Directive => d.name == hints.directive) found⟩

theorem readInt32?_cons_of_name {a : Directive} (named : a.name = hints.directive)
    (ys : List Directive) :
    readInt32? (a :: ys) hints.directive hints.argument = a.int32? hints.argument := by
  have found : findDirective? (a :: ys) hints.directive = some a :=
    List.find?_cons_of_pos (p := fun d : Directive => d.name == hints.directive)
      (beq_iff_eq.mpr named)
  unfold readInt32?
  rw [found]
  rfl

end Reading

namespace HintPlace

variable (place : HintPlace) (marker : String) (hints : CacheHints)

/-- What the node says counts for its type, beside what the rest of the document says. -/
theorem exists_hint?_annotated : ∃ others : String → List Int, ∀ ds type,
    (place.annotated ds).hint? marker hints type =
      (others type ++ if place.node.subject = type
        then (readInt32? ds hints.directive hints.argument).toList else []).max? := by
  obtain ⟨xs, ys, split⟩ := place.node.exists_typeHints_annotated hints
  refine ⟨fun type => valuesOf type (place.before.hintReadings (some hints) ++ xs) ++
    valuesOf type (ys ++ place.after.hintReadings (some hints)), ?_⟩
  intro ds type
  have readings : (place.annotated ds).hintReadings (some hints) =
      place.before.hintReadings (some hints) ++
        (Document.typeHints hints (place.node.annotated ds) ++
          place.after.hintReadings (some hints)) := by
    change (List.filterMap _ _).flatMap _ = _
    rw [annotated, List.filterMap_append, List.flatMap_append]
    rfl
  unfold Document.hint?
  rw [Document.get?_hints_eq_max?, readings, split]
  apply max?_eq_of_mem_iff
  intro n
  unfold CacheHints.entry
  cases readInt32? ds hints.directive hints.argument with
  | none => simp [valuesOf]
  | some m =>
      by_cases same : place.node.subject = type
      · simp [valuesOf, same]
        tauto
      · simp [valuesOf, same]

/-- Other directives on the node lower no hint if the one read before does not exceed the hint of
its type now. -/
theorem forall_hintLe_annotated_iff (ds ds' : List Directive) :
    (∀ type, HintLe ((place.annotated ds).hint? marker hints type)
        ((place.annotated ds').hint? marker hints type)) ↔
      HintLe (readInt32? ds hints.directive hints.argument)
        ((place.annotated ds').hint? marker hints place.node.subject) := by
  obtain ⟨others, split⟩ := place.exists_hint?_annotated marker hints
  have own (a : Option Int) (xs : List Int) :
      HintLe a xs.max? ↔ ∀ n ∈ a, ∃ m ∈ xs, n ≤ m := by
    have single := hintLe_max?_iff a.toList xs
    cases a <;> simpa using single
  rw [split ds', own, if_pos rfl]
  simp only [split, hintLe_max?_iff]
  constructor
  · intro below n read
    have covered := below place.node.subject n
    rw [if_pos rfl, if_pos rfl] at covered
    exact covered (List.mem_append_right _ (Option.mem_toList.mpr read))
  · intro below type n member
    rcases List.mem_append.mp member with other | read
    · exact ⟨n, List.mem_append_left _ other, le_refl n⟩
    · split at read
      · rename_i same
        subst same
        rw [if_pos rfl]
        exact below n (Option.mem_toList.mp read)
      · cases read

theorem hintLe_annotated (ds : List Directive) :
    HintLe (readInt32? ds hints.directive hints.argument)
      ((place.annotated ds).hint? marker hints place.node.subject) :=
  (place.forall_hintLe_annotated_iff marker hints ds ds).mp fun _ => HintLe.refl _

/-- The node has a hint before `a`, or the first one behind `a` does not exceed the hint that the
type of the node has with `a`. -/
def Covers (xs : List Directive) (a : Directive) (ys : List Directive) : Prop :=
  hasDirective xs hints.directive ∨
    HintLe (readInt32? ys hints.directive hints.argument)
      ((place.annotated (xs ++ a :: ys)).hint? marker hints place.node.subject)

theorem forall_hintLe_insert_iff (xs ys : List Directive) (a : Directive) :
    (∀ type, HintLe ((place.annotated (xs ++ ys)).hint? marker hints type)
        ((place.annotated (xs ++ a :: ys)).hint? marker hints type)) ↔
      place.Covers marker hints xs a ys := by
  rw [forall_hintLe_annotated_iff, readInt32?_append]
  unfold Covers
  by_cases before : hasDirective xs hints.directive
  · have own := place.hintLe_annotated marker hints (xs ++ a :: ys)
    rw [readInt32?_append, if_pos before] at own
    rw [if_pos before]
    exact ⟨fun _ => .inl before, fun _ => own⟩
  · rw [if_neg before]
    exact ⟨.inr, fun either => either.resolve_left before⟩

theorem hintLe_insert_of_blank (xs ys : List Directive) {a : Directive}
    (named : a.name = hints.directive) (blank : a.int32? hints.argument = none) (type : String) :
    HintLe ((place.annotated (xs ++ a :: ys)).hint? marker hints type)
      ((place.annotated (xs ++ ys)).hint? marker hints type) := by
  revert type
  rw [forall_hintLe_annotated_iff, readInt32?_append]
  split
  · rename_i before
    have own := place.hintLe_annotated marker hints (xs ++ ys)
    rw [readInt32?_append, if_pos before] at own
    exact own
  · rw [readInt32?_cons_of_name hints named, blank]
    intro n absent
    cases absent

/-- One more hint on a node lowers no hint of the document exactly if it is covered, and only then
does one without a value change nothing. -/
theorem hints_insert_iff_covers (xs ys : List Directive) {a : Directive}
    (named : a.name = hints.directive) :
    ((∀ type, HintLe ((place.annotated (xs ++ ys)).hint? marker hints type)
        ((place.annotated (xs ++ a :: ys)).hint? marker hints type)) ↔
      place.Covers marker hints xs a ys) ∧
    (a.int32? hints.argument = none →
      ((∀ type, (place.annotated (xs ++ a :: ys)).hint? marker hints type =
          (place.annotated (xs ++ ys)).hint? marker hints type) ↔
        place.Covers marker hints xs a ys)) := by
  refine ⟨place.forall_hintLe_insert_iff marker hints xs ys a, ?_⟩
  intro blank
  rw [← forall_hintLe_insert_iff]
  constructor
  · intro same type
    rw [same]
    exact HintLe.refl _
  · intro below type
    have above := place.hintLe_insert_of_blank marker hints xs ys named blank type
    exact above.antisymm (below type)

def postPlace : HintPlace where
  before := .ofSource "schema.graphql"
    [.directive ⟨⟨1, 1⟩, none, "cacheControl",
      [⟨⟨1, 25⟩, none, "maxAge", .named "Int", none, []⟩], true, [.object, .fieldDefinition]⟩,
     .type ⟨.definition none, ⟨2, 1⟩, "Query", [], .output .object []
      [⟨⟨2, 14⟩, none, "posts", [], .list (.named "Post"), [⟨⟨2, 28⟩, "connection", []⟩]⟩]⟩]
  origin := .source "schema.graphql"
  node := .ofType ⟨.definition none, ⟨3, 1⟩, "Post", [], .output .object []
    [⟨⟨3, 53⟩, none, "id", [], .named "ID", []⟩]⟩
  after := []

def minuteHint : Directive := ⟨⟨3, 25⟩, "cacheControl", [("maxAge", .int 60)]⟩

def blankHint : Directive := ⟨⟨3, 11⟩, "cacheControl", []⟩

theorem hints_insert_blankHint_behind :
    blankHint.name = CacheHints.default.directive ∧
    blankHint.int32? CacheHints.default.argument = none ∧
    ∀ type, (postPlace.annotated ([minuteHint] ++ [blankHint])).hint? "connection" .default type =
      (postPlace.annotated ([minuteHint] ++ [])).hint? "connection" .default type :=
  ⟨rfl, rfl, ((hints_insert_iff_covers postPlace "connection" .default [minuteHint] []
    (a := blankHint) rfl).2 rfl).mpr (.inl rfl)⟩

theorem hints_insert_blankHint_in_front :
    blankHint.name = CacheHints.default.directive ∧
    blankHint.int32? CacheHints.default.argument = none ∧
    (postPlace.annotated ([] ++ [minuteHint])).hint? "connection" .default "Post" = some 60 ∧
    (postPlace.annotated ([] ++ blankHint :: [minuteHint])).hint? "connection" .default "Post" =
      none := ⟨rfl, rfl, rfl, rfl⟩

end HintPlace

end PagedSchema
