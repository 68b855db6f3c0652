/-
Reading the arguments of a command: how one argument is taken apart, and what may be pending after
it.
-/
import PagedSchema.CommandLine.Arguments
import PagedSchema.Proofs.Runs

namespace PagedSchema.CommandLine

/-- An argument that is no switch: it does not start with a dash, or is one alone. -/
def IsPlain (argument : String) : Prop := ∀ c cs, argument.toList ≠ '-' :: c :: cs

theorem IsPlain.ne_dashes {argument : String} (plain : IsPlain argument) : argument ≠ "--" := by
  rintro rfl
  exact plain '-' [] rfl

theorem exists_of_not_isPlain {argument : String} (switch : ¬ IsPlain argument) :
    ∃ c cs, argument.toList = '-' :: c :: cs := by
  simpa [IsPlain] using switch

namespace Reading

variable {r e : Reading}

theorem settle_of_pending_eq (settled : r.pending = .nothing) : r.settle = .ok r := by
  unfold settle
  rw [settled]

theorem pending_of_setValue_eq_ok {s : Switch} {text : String} (set : r.setValue s text = .ok e) :
    e.pending = r.pending := by
  obtain ⟨-, set⟩ := guarded_eq_ok_iff.mp set
  obtain ⟨-, ⟨⟩⟩ := guarded_eq_ok_iff.mp set
  rfl

theorem pending_of_settle_eq_ok (settled : r.settle = .ok e) : e.pending = .nothing := by
  unfold settle at settled
  split at settled
  case h_1 pending =>
    cases settled
    exact pending
  case h_2 => cases settled
  case h_3 => exact pending_of_setValue_eq_ok settled
  case h_4 =>
    obtain ⟨-, ⟨⟩⟩ := guarded_eq_ok_iff.mp settled
    rfl

theorem settle_value {e : Reading} (nothing : e.pending = .nothing) (s : Switch) (text : String) :
    ({ e with pending := .value s (some text) } : Reading).settle = e.setValue s text := by
  obtain ⟨flags, values, paths, pending⟩ := e
  cases nothing
  rfl

theorem takeSwitch?_eq_none_iff {scope : Scope} {argument : String} :
    r.takeSwitch? scope argument = none ↔ IsPlain argument := by
  unfold takeSwitch? IsPlain
  split
  case h_1 cs chars => simp [chars]
  case h_2 c cs _ chars => simp [chars]
  case h_3 _ other => simpa using fun c cs chars => other c cs chars

/-- A value that stands with the name of its switch, behind an equals sign. -/
def withEquals : Option String → List Char
  | none => []
  | some text => '=' :: text.toList

def takeNamed (r : Reading) (scope : Scope) (name : String) (text : Option String) :
    Except Stop Reading :=
  match scope.findLong? name with
  | none => .error .unknownArgument
  | some s =>
    if s.takesValue then r.takeValue s text
    else if text.isSome then .error .tooManyValues
    else do (← r.settle).setFlag s

theorem takeLong_append {scope : Scope} {name : String} (unequal : '=' ∉ name.toList)
    (text : Option String) :
    r.takeLong scope (name.toList ++ withEquals text) = r.takeNamed scope name text := by
  have inside : ∀ c ∈ name.toList, decide (c ≠ '=') = true :=
    fun c member => decide_eq_true fun same => unequal (same ▸ member)
  unfold takeLong
  rw [List.takeWhile_append_of_pos inside, List.dropWhile_append_of_pos inside]
  cases text with
  | none =>
      rw [withEquals, List.takeWhile_nil, List.append_nil, String.ofList_toList]
      rfl
  | some text =>
      rw [withEquals, List.takeWhile_cons_of_neg (by decide),
        List.dropWhile_cons_of_neg (by decide), List.append_nil, String.ofList_toList]
      simp only [String.ofList_toList]
      rfl

/-- Whatever stands behind two dashes is a name, maybe with a value. -/
theorem exists_eq_append_withEquals (cs : List Char) :
    ∃ (name : String) (text : Option String),
      '=' ∉ name.toList ∧ cs = name.toList ++ withEquals text := by
  induction cs with
  | nil => exact ⟨"", none, by simp, rfl⟩
  | cons c cs ih =>
      by_cases equals : c = '='
      · refine ⟨"", some (String.ofList cs), by simp, ?_⟩
        simp [withEquals, equals]
      · obtain ⟨name, text, unequal, rfl⟩ := ih
        refine ⟨String.ofList (c :: name.toList), text, ?_, ?_⟩
        · rw [String.toList_ofList, List.mem_cons, not_or]
          exact ⟨Ne.symm equals, unequal⟩
        · rw [String.toList_ofList, List.cons_append]

section Arguments

variable {scope : Scope} {argument : String} {c : Char} {cs : List Char}

theorem takeArgument_of_takeSwitch? {result : Except Stop Reading}
    (switch : r.takeSwitch? scope argument = some result) :
    r.takeArgument scope argument = result := by
  unfold takeArgument
  rw [switch]

theorem takeSwitch?_of_dashes (chars : argument.toList = '-' :: '-' :: cs) :
    r.takeSwitch? scope argument = some (r.takeLong scope cs) := by
  unfold takeSwitch?
  rw [chars]
  rfl

theorem takeSwitch?_of_dash (chars : argument.toList = '-' :: c :: cs) (single : c ≠ '-') :
    r.takeSwitch? scope argument = some (r.takeShort scope (c :: cs)) := by
  unfold takeSwitch?
  rw [chars]
  split
  case h_1 same =>
    cases same
    exact absurd rfl single
  case h_2 same =>
    cases same
    rfl
  case h_3 other => exact absurd rfl (other c cs)

theorem takeArgument_of_plain (plain : IsPlain argument) :
    r.takeArgument scope argument =
      (match r.pending with
      | .value s none => .ok { r with pending := .value s (some argument) }
      | _ => r.takePath scope argument) := by
  unfold takeArgument
  rw [takeSwitch?_eq_none_iff.mpr plain]
  cases r.pending with
  | nothing => rfl
  | value s text => cases text <;> rfl
  | paths texts => rfl

end Arguments

theorem findLong?_of_takesValue {s : Switch} (valued : s.takesValue) :
    Scope.transform.findLong? s.long = some s := by
  cases s <;> first | rfl | cases valued

theorem unequal_long (s : Switch) : '=' ∉ s.long.toList := by
  cases s <;> decide

theorem takeArgument_long {s : Switch} (valued : s.takesValue) (text : Option String)
    {argument : String}
    (chars : argument.toList = '-' :: '-' :: (s.long.toList ++ withEquals text)) :
    r.takeArgument .transform argument = r.takeValue s text := by
  rw [takeArgument_of_takeSwitch? (takeSwitch?_of_dashes chars),
    takeLong_append (unequal_long s) text, takeNamed, findLong?_of_takesValue valued]
  exact if_pos valued

theorem takeArgument_cacheHints :
    r.takeArgument .transform "--cache-hints" = (do (← r.settle).setFlag .cacheHints) := rfl

/-- A value that stands with a letter, maybe behind an equals sign. -/
def attached : List Char → Option String
  | [] => none
  | '=' :: text => some (String.ofList text)
  | text => some (String.ofList text)

theorem takeArgument_output {argument : String} {cs : List Char}
    (chars : argument.toList = '-' :: 'o' :: cs) :
    r.takeArgument .transform argument = r.takeValue .output (attached cs) :=
  (takeArgument_of_takeSwitch? (takeSwitch?_of_dash chars (by decide))).trans rfl

theorem attached_of_ne {c : Char} (other : c ≠ '=') (cs : List Char) :
    attached (c :: cs) = some (String.ofList (c :: cs)) := by
  unfold attached
  split
  case h_1 same => cases same
  case h_2 same =>
    cases same
    exact absurd rfl other
  case h_3 => rfl

theorem takePath_of_paths {texts : List String} (pending : r.pending = .paths texts)
    (text : String) :
    r.takePath .transform text = .ok { r with pending := .paths (texts ++ [text]) } := by
  unfold takePath
  rw [pending]

theorem takePath_of_not_paths (other : ∀ texts, r.pending ≠ .paths texts) (text : String) :
    r.takePath .transform text =
      r.settle >>= fun e => .ok { e with pending := .paths [text] } := by
  unfold takePath
  cases pending : r.pending with
  | nothing => rfl
  | value s value => rfl
  | paths texts => exact absurd pending (other texts)

theorem takeAll_cons {argument : String} {arguments : List String} (other : argument ≠ "--") :
    r.takeAll .transform (argument :: arguments) =
      r.takeArgument .transform argument >>= (·.takeAll .transform arguments) :=
  if_neg other

end Reading

end PagedSchema.CommandLine
