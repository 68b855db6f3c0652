/-
How printed schemas end: in a character that is not blank, and then in one line feed.
-/
import PagedSchema.Proofs.ParsedNames
import PagedSchema.Sdl.Printer

namespace PagedSchema

namespace Text

/-- The text ends in a character that is not blank. -/
def Solid (s : String) : Prop := ∃ cs c, s.toList = cs ++ [c] ∧ isBlank c = false

/-- Nothing, or a text that ends in a character that is not blank. -/
def Tail (s : String) : Prop := s = "" ∨ Solid s

/-- One line feed stands after a text that ends in no blank character. -/
def EndsLine (s : String) : Prop := ∃ t, Solid t ∧ s = t ++ "\n"

namespace Solid

variable {s t : String}

theorem append_left (s : String) (solid : Solid t) : Solid (s ++ t) := by
  obtain ⟨cs, c, chars, filled⟩ := solid
  refine ⟨s.toList ++ cs, c, ?_, filled⟩
  rw [String.toList_append, chars, List.append_assoc]

theorem append_tail (solid : Solid s) (tail : Tail t) : Solid (s ++ t) := by
  rcases tail with rfl | further
  · rw [String.append_empty]
    exact solid
  · exact further.append_left s

theorem trimEnd_append_newline (solid : Solid s) : trimEnd (s ++ "\n") = s := by
  obtain ⟨cs, c, chars, filled⟩ := solid
  have whole : (s ++ "\n").toList = cs ++ [c, '\n'] := by
    rw [String.toList_append, chars, List.append_assoc]
    rfl
  unfold trimEnd
  rw [whole, dropTrailingBlanks_append_newline cs filled, ← chars, String.ofList_toList]

end Solid

theorem Tail.append {s t : String} (first : Tail s) (second : Tail t) : Tail (s ++ t) := by
  rcases first with rfl | solid
  · rw [String.empty_append]
    exact second
  · exact .inr (solid.append_tail second)

theorem Tail.ite {c : Prop} [Decidable c] {s t : String} (yes : c → Tail s) (no : ¬ c → Tail t) :
    Tail (if c then s else t) := by
  split
  · exact yes ‹_›
  · exact no ‹_›

/-- Trimming takes exactly the line feed off. -/
theorem EndsLine.eq_trimEnd_append {s : String} (ends : EndsLine s) : s = trimEnd s ++ "\n" := by
  obtain ⟨t, solid, rfl⟩ := ends
  rw [solid.trimEnd_append_newline]

theorem EndsLine.append_left {s : String} (t : String) (ends : EndsLine s) : EndsLine (t ++ s) := by
  obtain ⟨u, solid, rfl⟩ := ends
  exact ⟨t ++ u, solid.append_left t, (String.append_assoc ..).symm⟩

theorem isBlank_of_isNameChar {c : Char} (named : Sdl.isNameChar c) : isBlank c = false := by
  have others : ∀ n ∈ blankPoints, Sdl.isNameChar (Char.ofNat n) = false := by decide
  rw [Bool.eq_false_iff]
  intro blank
  have plain := others c.toNat (List.contains_iff_mem.mp blank)
  rw [Char.ofNat_toNat, named] at plain
  cases plain

theorem solid_of_isName {s : String} (named : Sdl.isName s) : Solid s := by
  unfold Sdl.isName at named
  cases chars : s.toList with
  | nil =>
      rw [chars] at named
      cases named
  | cons c rest =>
      rw [chars] at named
      obtain ⟨start, inside⟩ := (Bool.and_eq_true _ _).mp named
      have each : ∀ d ∈ c :: rest, Sdl.isNameChar d := by
        have first : Sdl.isNameChar c := by
          simp only [Sdl.isNameStart, Bool.or_eq_true] at start
          simp only [Sdl.isNameChar, Char.isAlphanum, Bool.or_eq_true]
          exact start.imp_right .inl
        exact List.forall_mem_cons.mpr ⟨first, List.all_eq_true.mp inside⟩
      have split := List.dropLast_concat_getLast (List.cons_ne_nil c rest)
      refine ⟨_, _, chars.trans split.symm, isBlank_of_isNameChar (each _ ?_)⟩
      exact List.getLast_mem _

end Text

namespace Sdl

open Text

theorem solid_parenthesis (s : String) : Solid (s ++ ")") :=
  ⟨s.toList, ')', String.toList_append, rfl⟩

theorem tail_parenthesized (items : List String) : Tail (parenthesized items) := by
  refine .ite (fun _ => .inl rfl) fun _ => .inr ?_
  exact solid_parenthesis _

theorem tail_printDirectives {ds : List Directive} (named : ∀ d ∈ ds, isName d.name)
    (indent : Nat) : Tail (printDirectives indent ds) := by
  induction ds with
  | nil => exact .inl rfl
  | cons d rest ih =>
      rw [List.forall_mem_cons] at named
      have whole : printDirectives indent (d :: rest) =
          " " ++ printDirective indent d ++ printDirectives indent rest := String.join_cons ..
      rw [whole]
      refine .append (.inr (Solid.append_left _ ?_)) (ih named.2)
      exact ((solid_of_isName named.1).append_left "@").append_tail (tail_parenthesized _)

/-- Texts with separators between them end as the last one does. -/
theorem exists_intercalate_eq (separator : String) {texts : List String} (nonempty : texts ≠ []) :
    ∃ s, separator.intercalate texts = s ++ texts.getLast nonempty := by
  induction texts with
  | nil => exact absurd rfl nonempty
  | cons text rest ih =>
      by_cases alone : rest = []
      · subst alone
        refine ⟨"", ?_⟩
        rw [String.intercalate_singleton, String.empty_append]
        rfl
      · obtain ⟨s, same⟩ := ih alone
        refine ⟨text ++ separator ++ s, ?_⟩
        rw [String.intercalate_cons_of_ne_nil alone, same, List.getLast_cons alone]
        simp only [String.append_assoc]

theorem tail_listed {names : List String} (solid : ∀ name ∈ names, Solid name)
    (before separator : String) : Tail (listed before separator names) := by
  refine .ite (fun _ => .inl rfl) fun filled => .inr (Solid.append_left _ ?_)
  have nonempty : names ≠ [] := by simpa using filled
  obtain ⟨s, same⟩ := exists_intercalate_eq separator nonempty
  rw [same]
  exact (solid _ (List.getLast_mem _)).append_left s

/-- Members in braces end in a closing brace. -/
theorem endsLine_braced (members : List String) : EndsLine (braced members) := by
  refine ⟨" \x7b\n" ++ String.join members ++ "\x7d", ?_, ?_⟩
  · exact ⟨_, '\x7d', String.toList_append, rfl⟩
  · simp only [braced, String.append_assoc]
    rfl

theorem endsLine_append_bracedIfAny {s : String} (solid : Solid s) (members : List String) :
    EndsLine (s ++ bracedIfAny members) := by
  unfold bracedIfAny
  split
  · exact ⟨s, solid, rfl⟩
  · exact (endsLine_braced members).append_left s

/-- A body ends the line that the name of its type starts. -/
theorem endsLine_append_printTypeBody {s directives : String} {body : TypeBody} (solid : Solid s)
    (tail : Tail directives) (named : ∀ name ∈ body.names, isName name) :
    EndsLine (s ++ printTypeBody directives body) := by
  cases body with
  | scalar =>
      refine ⟨s ++ directives, solid.append_tail tail, ?_⟩
      exact (String.append_assoc ..).symm
  | output kind interfaces fields =>
      have listing := tail_listed (fun name member => solid_of_isName (named name member))
        " implements " " & "
      have head := (solid.append_tail listing).append_tail tail
      simp only [printTypeBody, ← String.append_assoc]
      exact endsLine_append_bracedIfAny head _
  | union members =>
      have listing := tail_listed (fun name member => solid_of_isName (named name member))
        " = " " | "
      refine ⟨_, (solid.append_tail tail).append_tail listing, ?_⟩
      simp only [printTypeBody, ← String.append_assoc]
      rfl
  | enum values =>
      simp only [printTypeBody, ← String.append_assoc]
      exact endsLine_append_bracedIfAny (solid.append_tail tail) _
  | input fields =>
      simp only [printTypeBody, ← String.append_assoc]
      exact endsLine_append_bracedIfAny (solid.append_tail tail) _

theorem endsLine_printTypeDecl {d : TypeDecl} (spelled : (Definition.type d).Spelled) :
    EndsLine (printTypeDecl d) := by
  obtain ⟨named, directives, names⟩ := spelled
  exact endsLine_append_printTypeBody ((solid_of_isName named).append_left _)
    (tail_printDirectives directives 0) names

theorem solid_place (place : DirectivePlace) : Solid place.name := by
  apply solid_of_isName
  cases place <;> rfl

theorem endsLine_printDirectiveDecl {d : DirectiveDecl} (named : isName d.name) :
    EndsLine (printDirectiveDecl d) := by
  have places : Tail (listed " on " " | " (d.places.map (·.name))) := by
    refine tail_listed (fun name member => ?_) _ _
    obtain ⟨place, -, rfl⟩ := List.mem_map.mp member
    exact solid_place place
  have repeated : Tail (if d.repeatable then " repeatable" else "") :=
    .ite (fun _ => .inr ⟨" repeatabl".toList, 'e', rfl, rfl⟩) fun _ => .inl rfl
  have head := ((solid_of_isName named).append_left
    (descriptionLines 0 d.description ++ "directive @")).append_tail
      (tail_parenthesized (d.arguments.map (printInputValue 0)))
  exact ⟨_, (head.append_tail repeated).append_tail places, rfl⟩

theorem endsLine_printDefinition {d : Definition} (spelled : d.Spelled) :
    EndsLine (printDefinition d) := by
  cases d with
  | schema d => exact (endsLine_braced _).append_left _
  | directive d => exact endsLine_printDirectiveDecl spelled
  | type d => exact endsLine_printTypeDecl spelled

/-- A printed schema ends as its last definition does. -/
theorem endsLine_print {ds : List Definition} (nonempty : ds ≠ [])
    (spelled : (ds.getLast nonempty).Spelled) : EndsLine (print ds) := by
  have texts : ds.map printDefinition ≠ [] := by simpa using nonempty
  obtain ⟨s, same⟩ := exists_intercalate_eq "\n" texts
  unfold print
  rw [same, List.getLast_map]
  exact (endsLine_printDefinition spelled).append_left s

end Sdl

end PagedSchema
