/-
The text that declares a marker. It reads back as the declaration, whatever name the marker has.
-/
import PagedSchema.Connection.Paged
import PagedSchema.Sdl.Grammar

namespace PagedSchema

namespace Sdl

/-- A letter or underscore, and then letters, digits and underscores. -/
def isName (text : String) : Bool :=
  match text.toList with
  | [] => false
  | c :: rest => isNameStart c && rest.all isNameChar

section Lexing

variable {p : Position} {room : Nat}

/-- The characters owed are passed over, and the position stays that after their piece. -/
theorem tokensFrom_append (owed rest : List Char) :
    tokensFrom owed.length p room (owed ++ rest) = tokensFrom 0 p room rest := by
  induction owed with
  | nil => rfl
  | cons c owed ih => exact ih

theorem tokensFrom_space (rest : List Char) :
    tokensFrom 0 p room (' ' :: rest) = tokensFrom 0 (p.right 1) room rest := rfl

theorem tokensFrom_at (rest : List Char) :
    tokensFrom 0 p room ('@' :: rest) =
      .cons p (.punctuator .at) (tokensFrom 0 (p.right 1) room rest) := rfl

theorem piece_of_isNameStart {c : Char} (start : isNameStart c) (rest : List Char) :
    piece p c rest =
      .token (.name (String.ofList (c :: rest.takeWhile isNameChar)))
        ((rest.takeWhile isNameChar).length + 1)
        (p.right ((rest.takeWhile isNameChar).length + 1)) := by
  unfold piece
  split
  case h_10 => exact if_pos start
  all_goals cases start

/-- A name takes all name characters, so what follows it must not start with one. -/
theorem tokensFrom_name {name : String} (named : isName name) {rest : List Char}
    (ends : ∀ c ∈ rest.head?, isNameChar c = false) :
    tokensFrom 0 p room (name.toList ++ rest) =
      .cons p (.name name) (tokensFrom 0 (p.right name.length) room rest) := by
  unfold isName at named
  cases chars : name.toList with
  | nil =>
      rw [chars] at named
      cases named
  | cons c word =>
      rw [chars] at named
      obtain ⟨start, inside⟩ := (Bool.and_eq_true _ _).mp named
      have stop : rest.takeWhile isNameChar = [] := by
        cases rest with
        | nil => rfl
        | cons d rest => exact List.takeWhile_cons_of_neg (by simp [ends d rfl])
      have taken : (word ++ rest).takeWhile isNameChar = word := by
        rw [List.takeWhile_append_of_pos (List.all_eq_true.mp inside), stop, List.append_nil]
      have whole : String.ofList (c :: word) = name := by rw [← chars, String.ofList_toList]
      have length : name.length = word.length + 1 := by
        rw [← String.length_toList, chars, List.length_cons]
      have read := piece_of_isNameStart (p := p) start (word ++ rest)
      rw [taken, whole] at read
      rw [List.cons_append, tokensFrom, read, length]
      exact congrArg (Tokens.cons p (.name name)) (tokensFrom_append word rest)

end Lexing

end Sdl

theorem Text.dropTrailingBlanks_append_newline (cs : List Char) {c : Char}
    (solid : isBlank c = false) :
    dropTrailingBlanks (cs ++ [c, '\n']) = cs ++ [c] := by
  have newline : isBlank '\n' = true := rfl
  unfold dropTrailingBlanks
  rw [List.reverse_append]
  change List.reverse (List.dropWhile isBlank ('\n' :: c :: cs.reverse)) = _
  rw [List.dropWhile_cons_of_pos newline, List.dropWhile_cons_of_neg (by simp [solid]),
    List.reverse_cons, List.reverse_reverse]

namespace Sdl

theorem toList_markerDeclaration (name : String) :
    (markerDeclaration name).toList =
      "directive".toList ++ ' ' :: '@' :: (name.toList ++
        ' ' :: ("on".toList ++ ' ' :: "FIELD_DEFINITION".toList)) := by
  have printed : print [.directive (markerDecl name)] =
      "directive @" ++ name ++ " on FIELD_DEFINITION" ++ "\n" := by
    simp [print, printDefinition, printDirectiveDecl, markerDecl, descriptionLines,
      printArguments, parenthesized, listed, DirectivePlace.name]
  have chars : (print [.directive (markerDecl name)]).toList =
      ("directive @" ++ name ++ " on FIELD_DEFINITIO").toList ++ ['N', '\n'] := by
    rw [printed]
    simp
  have solid : Text.isBlank 'N' = false := rfl
  unfold markerDeclaration Text.trimEnd
  rw [String.toList_ofList, chars, Text.dropTrailingBlanks_append_newline _ solid]
  simp

theorem tokens_markerDeclaration {name : String} (named : isName name) :
    ∃ p q r s e, tokens (markerDeclaration name) =
      .cons ⟨1, 1⟩ (.name "directive") (.cons p (.punctuator .at) (.cons q (.name name)
        (.cons r (.name "on") (.cons s (.name "FIELD_DEFINITION") (.done e))))) := by
  have blank : ∀ rest, ∀ c ∈ (' ' :: rest : List Char).head?, isNameChar c = false := by
    rintro rest c ⟨⟩
    rfl
  have last : ∀ p room, tokensFrom 0 p room "FIELD_DEFINITION".toList =
      .cons p (.name "FIELD_DEFINITION") (.done (p.right 16)) := fun _ _ => rfl
  unfold tokens
  rw [toList_markerDeclaration, tokensFrom_name rfl (blank _), tokensFrom_space, tokensFrom_at,
    tokensFrom_name named (blank _), tokensFrom_space, tokensFrom_name rfl (blank _),
    tokensFrom_space, last]
  exact ⟨_, _, _, _, _, rfl⟩

theorem parse_markerDeclaration {name : String} (named : isName name) :
    parse (markerDeclaration name) =
      .ok [.directive { markerDecl name with position := ⟨1, 1⟩ }] := by
  obtain ⟨p, q, r, s, e, read⟩ := tokens_markerDeclaration named
  unfold parse
  rw [read]
  rfl

end Sdl

end PagedSchema
