/-
The names in parsed definitions. Tokens of a text are names of letters, digits and underscores, and
parsers make names from no other tokens.
-/
import PagedSchema.Proofs.MarkerText
import PagedSchema.Proofs.Runs

namespace PagedSchema.Sdl

def Token.Spelled : Token → Prop
  | .name text => isName text
  | _ => True

/-- Every name among the tokens is spelled as one. -/
def Tokens.Spelled : Tokens → Prop
  | .cons _ token rest => token.Spelled ∧ rest.Spelled
  | _ => True

section Lexing

theorem isName_takeWhile {c : Char} (start : isNameStart c) (rest : List Char) :
    isName (String.ofList (c :: rest.takeWhile isNameChar)) := by
  simp [isName, start]

theorem spelled_of_numeral? {cs : List Char} {token : Token} (read : numeral? cs = some token) :
    token.Spelled := by
  unfold numeral? at read
  split at read
  · unfold float? at read
    obtain ⟨-, -, read⟩ := Option.bind_eq_some_iff.mp read
    obtain ⟨fraction, -, read⟩ := Option.bind_eq_some_iff.mp read
    obtain ⟨exponent, -, read⟩ := Option.bind_eq_some_iff.mp read
    cases read
    trivial
  · unfold int? at read
    dsimp only at read
    split at read
    · cases read
      trivial
    · cases read

theorem spelled_of_stringLiteral {p next : Position} {rest : List Char} {token : Token}
    {length : Nat} (read : stringLiteral p rest = .token token length next) : token.Spelled := by
  unfold stringLiteral at read
  split at read
  · split at read
    · cases read
      trivial
    · cases read
  · split at read
    · cases read
      trivial
    · cases read

theorem spelled_of_piece {p next : Position} {c : Char} {rest : List Char} {token : Token}
    {length : Nat} (read : piece p c rest = .token token length next) : token.Spelled := by
  unfold piece at read
  split at read
  case h_8 => exact spelled_of_stringLiteral read
  case h_7 =>
    unfold comment at read
    dsimp only at read
    split at read <;> cases read
  case h_9 =>
    split at read
    · cases read
      trivial
    · cases read
  case h_10 =>
    split at read
    · rename_i start
      cases read
      exact isName_takeWhile start rest
    · split at read
      · dsimp only at read
        split at read
        · rename_i found
          cases read
          exact spelled_of_numeral? found
        · cases read
      · split at read
        · cases read
          trivial
        · cases read
  all_goals cases read

theorem spelled_tokensFrom (owed : Nat) (p : Position) (room : Nat) (cs : List Char) :
    (tokensFrom owed p room cs).Spelled := by
  induction cs generalizing owed p room with
  | nil => trivial
  | cons c rest ih =>
      unfold tokensFrom
      cases owed with
      | succ owed => exact ih owed p room
      | zero =>
          dsimp only
          split
          · exact ih ..
          · rename_i token length next read
            split
            · exact ⟨spelled_of_piece read, ih ..⟩
            · trivial
          · trivial

theorem spelled_tokens (text : String) : (tokens text).Spelled := spelled_tokensFrom ..

end Lexing

namespace Parser

variable {α β : Type} {P : α → Prop} {Q : β → Prop}

/-- From spelled tokens the parser makes only results with the property, and it leaves spelled
tokens. -/
def Ensures (p : Parser α) (P : α → Prop) : Prop :=
  ∀ ts : Tokens, ts.Spelled → ∀ a rest, p ts = .ok (a, rest) → P a ∧ rest.Spelled

/-- The parser leaves spelled tokens. -/
abbrev Keeps (p : Parser α) : Prop := p.Ensures fun _ => True

namespace Ensures

theorem pure {a : α} (holds : P a) : Ensures (Pure.pure a) P := by
  intro ts spelled b rest run
  cases run
  exact ⟨holds, spelled⟩

theorem bind {p : Parser α} {f : α → Parser β} (first : p.Ensures P)
    (next : ∀ a, P a → (f a).Ensures Q) : (p >>= f).Ensures Q := by
  intro ts spelled b rest run
  obtain ⟨⟨a, between⟩, read, run⟩ := exists_of_bind_eq_ok run
  obtain ⟨holds, spelled⟩ := first ts spelled a between read
  exact next a holds between spelled b rest run

theorem mono {p : Parser α} {P' : α → Prop} (strong : p.Ensures P) (imp : ∀ a, P a → P' a) :
    p.Ensures P' := by
  intro ts spelled a rest run
  obtain ⟨holds, spelled⟩ := strong ts spelled a rest run
  exact ⟨imp a holds, spelled⟩

theorem map {p : Parser α} {f : α → β} (first : p.Ensures P) (imp : ∀ a, P a → Q (f a)) :
    (f <$> p).Ensures Q := first.bind fun a holds => pure (imp a holds)

theorem throw (e : Position) : Ensures (MonadExcept.throw e : Parser α) P := by
  intro ts spelled a rest run
  cases run

theorem ite {c : Prop} [Decidable c] {p q : Parser α} (yes : c → p.Ensures P)
    (no : ¬ c → q.Ensures P) : (if c then p else q).Ensures P := by
  split
  · exact yes ‹_›
  · exact no ‹_›

end Ensures

theorem fail_ensures : (fail : Parser α).Ensures P := by
  intro ts spelled a rest run
  cases run

theorem peek?_keeps : peek?.Keeps := by
  intro ts spelled a rest run
  cases run
  exact ⟨trivial, spelled⟩

theorem position_keeps : position.Keeps := by
  intro ts spelled a rest run
  cases run
  exact ⟨trivial, spelled⟩

theorem get_keeps : (get : Parser Tokens).Keeps := by
  intro ts spelled a rest run
  cases run
  exact ⟨trivial, spelled⟩

theorem take_ensures {f : Token → Option α}
    (each : ∀ token a, token.Spelled → f token = some a → P a) : (take f).Ensures P := by
  intro ts spelled a rest run
  cases ts with
  | done p => cases run
  | unreadable p => cases run
  | cons p token tail =>
      simp only [take] at run
      split at run
      · rename_i read
        cases run
        exact ⟨each token a spelled.1 read, spelled.2⟩
      · cases run

theorem take_keeps (f : Token → Option α) : (take f).Keeps :=
  take_ensures fun _ _ _ _ => trivial

theorem expect_keeps (token : Token) : (expect token).Keeps := take_keeps _

theorem accept_keeps (token : Token) : (accept token).Keeps := by
  intro ts spelled a rest run
  cases ts with
  | done p =>
      cases run
      exact ⟨trivial, spelled⟩
  | unreadable p =>
      cases run
      exact ⟨trivial, spelled⟩
  | cons p t tail =>
      simp only [accept] at run
      split at run
      · cases run
        exact ⟨trivial, spelled.2⟩
      · cases run
        exact ⟨trivial, spelled⟩

theorem name_ensures : name.Ensures (isName · = true) := by
  refine take_ensures fun token a spelled read => ?_
  cases token <;> cases read
  exact spelled

theorem manyUpTo_ensures {starts : Token → Bool} {item : Parser α} (each : item.Ensures P)
    (bound : Nat) : (manyUpTo starts item bound).Ensures fun as => ∀ a ∈ as, P a := by
  induction bound with
  | zero => exact .pure fun _ member => absurd member List.not_mem_nil
  | succ bound ih =>
      refine peek?_keeps.bind fun next _ => .ite (fun _ => ?_) fun _ => ?_
      · refine each.bind fun a holds => ih.bind fun as all => .pure ?_
        exact List.forall_mem_cons.mpr ⟨holds, all⟩
      · exact .pure fun _ member => absurd member List.not_mem_nil

theorem many_ensures {starts : Token → Bool} {item : Parser α} (each : item.Ensures P) :
    (many starts item).Ensures fun as => ∀ a ∈ as, P a :=
  get_keeps.bind fun _ _ => manyUpTo_ensures each _

theorem many1_ensures {starts : Token → Bool} {item : Parser α} (each : item.Ensures P) :
    (many1 starts item).Ensures fun as => as ≠ [] ∧ ∀ a ∈ as, P a := by
  refine each.bind fun a holds => (many_ensures each).bind fun as all => .pure ?_
  exact ⟨List.cons_ne_nil a as, List.forall_mem_cons.mpr ⟨holds, all⟩⟩

theorem manyUntil_ensures {close : Punctuator} {item : Parser α} (each : item.Ensures P) :
    (manyUntil close item).Ensures fun as => ∀ a ∈ as, P a :=
  (many_ensures each).bind fun _ all => (expect_keeps _).bind fun _ _ => .pure all

theorem group_ensures {opening close : Punctuator} {item : Parser α} (each : item.Ensures P) :
    (group opening close item).Ensures fun as => ∀ a ∈ as, P a := by
  refine (accept_keeps _).bind fun opened _ => .ite (fun _ => ?_) fun _ => ?_
  · exact (many1_ensures each).bind fun _ all => (expect_keeps _).bind fun _ _ => .pure all.2
  · exact .pure fun _ member => absurd member List.not_mem_nil

theorem separated_ensures {separator : Punctuator} {item : Parser α} (each : item.Ensures P) :
    (separated separator item).Ensures fun as => ∀ a ∈ as, P a := by
  refine (accept_keeps _).bind fun _ _ => each.bind fun a holds => ?_
  have further := (expect_keeps (.punctuator separator)).bind fun _ _ => each
  exact (many_ensures further).bind fun as all => .pure (List.forall_mem_cons.mpr ⟨holds, all⟩)

end Parser

end PagedSchema.Sdl

namespace PagedSchema

/-- The names that stand in the head of a type or make up its body. -/
def TypeBody.names : TypeBody → List String
  | .output _ interfaces _ => interfaces
  | .union members => members
  | .scalar | .enum _ | .input _ => []

/-- The names of a definition, of the directives on it and of the types it lists are names. -/
def Definition.Spelled : Definition → Prop
  | .schema _ => True
  | .directive d => Sdl.isName d.name
  | .type d => Sdl.isName d.name ∧ (∀ x ∈ d.directives, Sdl.isName x.name) ∧
      ∀ name ∈ d.body.names, Sdl.isName name

end PagedSchema

namespace PagedSchema.Sdl.Grammar

open PagedSchema.Sdl.Parser

theorem description_keeps : description.Keeps := by
  refine peek?_keeps.bind fun next _ => ?_
  split
  · exact take_keeps _
  · exact .pure trivial

theorem typeRef_keeps (nesting : Nat) : (typeRef nesting).Keeps := by
  induction nesting with
  | zero => exact fail_ensures
  | succ nesting ih =>
      have after : ∀ inner : TypeRef, (do
          return if ← accept (.punctuator .bang) then .nonNull inner else inner :
            Parser TypeRef).Keeps :=
        fun _ => (accept_keeps _).bind fun _ _ => .pure trivial
      refine (accept_keeps _).bind fun listed _ => .ite (fun _ => ?_) fun _ => ?_
      · exact ih.bind fun _ _ => (expect_keeps _).bind fun _ _ => after _
      · exact (name_ensures.map fun _ _ => trivial).bind fun _ (_ : True) => after _

theorem named_keeps {α : Type} {item : Parser α} (keeps : item.Keeps) : (named item).Keeps :=
  name_ensures.bind fun _ _ => (expect_keeps _).bind fun _ _ => keeps.bind fun _ _ => .pure trivial

theorem value_keeps (constant : Bool) (nesting : Nat) : (value constant nesting).Keeps := by
  induction nesting with
  | zero => exact fail_ensures
  | succ nesting ih =>
      refine (accept_keeps _).bind fun listed _ => .ite (fun _ => ?_) fun _ => ?_
      · exact (manyUntil_ensures ih).map fun _ _ => trivial
      refine (accept_keeps _).bind fun object _ => .ite (fun _ => ?_) fun _ => ?_
      · exact (manyUntil_ensures (named_keeps ih)).map fun _ _ => trivial
      refine peek?_keeps.bind fun next _ => .ite (fun _ => ?_) fun _ => take_keeps _
      exact (expect_keeps _).bind fun _ _ => name_ensures.map fun _ _ => trivial

theorem directive_ensures : directive.Ensures fun d => isName d.name := by
  refine position_keeps.bind fun p _ => (expect_keeps _).bind fun _ _ => ?_
  refine name_ensures.bind fun n named => ?_
  exact (group_ensures (named_keeps (value_keeps false nestingBound))).bind fun _ _ => .pure named

theorem directives_ensures : directives.Ensures fun ds => ∀ d ∈ ds, isName d.name :=
  many_ensures directive_ensures

theorem inputValue_keeps : inputValue.Keeps := by
  refine position_keeps.bind fun p _ => description_keeps.bind fun text _ => ?_
  refine (named_keeps (typeRef_keeps nestingBound)).bind fun nt _ => ?_
  have after : ∀ default : Option Value, (do
      return ⟨p, text, nt.1, nt.2, default, ← directives⟩ : Parser InputValue).Keeps :=
    fun _ => directives_ensures.bind fun _ _ => .pure trivial
  refine (accept_keeps _).bind fun given _ => .ite (fun _ => ?_) fun _ => ?_
  · exact ((value_keeps true nestingBound).map fun _ _ => trivial).bind fun _ (_ : True) => after _
  · exact after _

theorem arguments_keeps : arguments.Keeps :=
  (group_ensures inputValue_keeps).mono fun _ _ => trivial

theorem field_keeps : field.Keeps := by
  refine position_keeps.bind fun p _ => description_keeps.bind fun text _ => ?_
  refine name_ensures.bind fun n _ => arguments_keeps.bind fun args _ => ?_
  refine (expect_keeps _).bind fun _ _ => (typeRef_keeps nestingBound).bind fun type _ => ?_
  exact directives_ensures.bind fun _ _ => .pure trivial

theorem enumValue_keeps : enumValue.Keeps := by
  refine position_keeps.bind fun p _ => description_keeps.bind fun text _ => ?_
  exact name_ensures.bind fun n _ => directives_ensures.bind fun _ _ => .pure trivial

theorem interfaces_ensures : interfaces.Ensures fun names => ∀ name ∈ names, isName name := by
  refine (accept_keeps _).bind fun _ _ => .ite (fun _ => separated_ensures name_ensures) ?_
  exact fun _ => .pure fun _ member => absurd member List.not_mem_nil

/-- What is parsed after the name of a type: directives and a body, with names in them. -/
def ContentSpelled (content : List Directive × TypeBody) : Prop :=
  (∀ d ∈ content.1, isName d.name) ∧ ∀ name ∈ content.2.names, isName name

theorem typeContent_ensures {text : String} {content : Parser (List Directive × TypeBody)}
    (known : typeContent text = some content) : content.Ensures ContentSpelled := by
  have output : ∀ kind, (typeContent.output kind).Ensures ContentSpelled := fun kind =>
    interfaces_ensures.bind fun names all => directives_ensures.bind fun ds each =>
      (group_ensures field_keeps).bind fun _ _ => .pure ⟨each, all⟩
  have no_names : ∀ name ∈ ([] : List String), isName name :=
    fun _ member => absurd member List.not_mem_nil
  unfold typeContent at known
  split at known
  case h_1 =>
    cases known
    exact directives_ensures.bind fun ds each => .pure ⟨each, no_names⟩
  case h_2 =>
    cases known
    exact output .object
  case h_3 =>
    cases known
    exact output .interface
  case h_4 =>
    cases known
    refine directives_ensures.bind fun ds each => (accept_keeps _).bind fun given _ => ?_
    refine .ite (fun _ => ?_) fun _ => ?_
    · exact (separated_ensures name_ensures).bind fun names all => .pure ⟨each, all⟩
    · exact .pure ⟨each, no_names⟩
  case h_5 =>
    cases known
    exact directives_ensures.bind fun ds each =>
      (group_ensures enumValue_keeps).bind fun _ _ => .pure ⟨each, no_names⟩
  case h_6 =>
    cases known
    exact directives_ensures.bind fun ds each =>
      (group_ensures inputValue_keeps).bind fun _ _ => .pure ⟨each, no_names⟩
  case h_7 => cases known

theorem typeDecl_ensures (role : Role) :
    (typeDecl role).Ensures fun d => (Definition.type d).Spelled := by
  refine position_keeps.bind fun p _ =>
    Ensures.bind (P := (·.Ensures ContentSpelled)) (take_ensures ?_) fun content spelled => ?_
  · intro token content _ known
    cases token with
    | name text => exact typeContent_ensures known
    | punctuator | int | float | string => cases known
  · exact name_ensures.bind fun n named => spelled.bind fun r each => .pure ⟨named, each⟩

theorem typeExtension_ensures :
    typeExtension.Ensures fun d => (Definition.type d).Spelled := by
  refine (expect_keeps _).bind fun _ _ => (typeDecl_ensures _).bind fun d spelled => ?_
  exact .ite (fun _ => (Ensures.throw _).bind fun _ (_ : True) => .pure spelled) fun _ =>
    .pure spelled

theorem directiveDecl_ensures (text : Option String) :
    (directiveDecl text).Ensures fun d => isName d.name := by
  refine position_keeps.bind fun p _ => (expect_keeps _).bind fun _ _ => ?_
  refine (expect_keeps _).bind fun _ _ => name_ensures.bind fun n named => ?_
  refine arguments_keeps.bind fun args _ => (accept_keeps _).bind fun repeatable _ => ?_
  refine (expect_keeps _).bind fun _ _ => peek?_keeps.bind fun next _ => .ite (fun _ => ?_) ?_
  · exact (separated_ensures (take_keeps _)).bind fun _ _ => .pure named
  · exact fun _ => .pure named

theorem schemaDecl_keeps : schemaDecl.Keeps := by
  refine position_keeps.bind fun p _ => (expect_keeps _).bind fun _ _ => ?_
  refine directives_ensures.bind fun ds _ => (expect_keeps _).bind fun _ _ => ?_
  have operation := named_keeps (name_ensures.mono fun _ _ => trivial)
  refine (manyUntil_ensures operation).bind fun _ _ => ?_
  split
  · exact .pure trivial
  · exact .throw p

theorem definition_ensures : definition.Ensures (·.Spelled) := by
  refine peek?_keeps.bind fun next _ => ?_
  split
  · exact schemaDecl_keeps.map fun _ _ => trivial
  · exact typeExtension_ensures.map fun _ spelled => spelled
  · refine description_keeps.bind fun text _ => peek?_keeps.bind fun next _ => ?_
    refine .ite (fun _ => ?_) fun _ => ?_
    · exact (directiveDecl_ensures text).map fun _ named => named
    · exact (typeDecl_ensures _).map fun _ spelled => spelled

theorem endOfText_keeps : endOfText.Keeps := by
  intro ts spelled a rest run
  cases ts with
  | done p =>
      cases run
      exact ⟨trivial, trivial⟩
  | unreadable p => cases run
  | cons p token tail => cases run

theorem document_ensures : document.Ensures fun ds => ds ≠ [] ∧ ∀ d ∈ ds, d.Spelled :=
  (many1_ensures definition_ensures).bind fun _ all => endOfText_keeps.bind fun _ _ => .pure all

end PagedSchema.Sdl.Grammar

/-- A text that is a schema defines something, and the names that end its definitions are names. -/
theorem PagedSchema.Sdl.spelled_of_parse {text : String} {ds : List Definition}
    (parsed : parse text = .ok ds) : ds ≠ [] ∧ ∀ d ∈ ds, d.Spelled := by
  unfold parse at parsed
  cases run : Grammar.document.run (tokens text) with
  | error e =>
      rw [run] at parsed
      cases parsed
  | ok result =>
      rw [run] at parsed
      cases parsed
      exact (Grammar.document_ensures _ (spelled_tokens text) _ _ run).1
