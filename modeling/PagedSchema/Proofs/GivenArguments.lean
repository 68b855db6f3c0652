/-
The arguments of a transformation: the ways to write what they give, and that reading them is giving
it, part by part.
-/
import PagedSchema.Proofs.Readings

namespace PagedSchema.CommandLine

inductive Given
  | cacheHints
  | value (s : Switch) (valued : s.takesValue) (text : String)
  | path (text : String)
deriving DecidableEq

namespace Given

/-- The ways to write what is given. A value stands after its switch or with it in one argument. -/
inductive Spelled : Given → List String → Prop
  | cacheHints : Spelled .cacheHints ["--cache-hints"]
  | joined (s : Switch) (valued : s.takesValue) (text : String) :
    Spelled (.value s valued text) ["--" ++ s.long ++ "=" ++ text]
  | apart (s : Switch) (valued : s.takesValue) {text : String} (plain : IsPlain text) :
    Spelled (.value s valued text) ["--" ++ s.long, text]
  | shortEqual (text : String) : Spelled (.value .output rfl text) ["-o=" ++ text]
  | shortJoined {c : Char} {cs : List Char} (other : c ≠ '=') :
    Spelled (.value .output rfl (String.ofList (c :: cs))) ["-o" ++ String.ofList (c :: cs)]
  | shortApart {text : String} (plain : IsPlain text) :
    Spelled (.value .output rfl text) ["-o", text]
  | path {text : String} (plain : IsPlain text) : Spelled (.path text) [text]

end Given

/-- What the arguments of a transformation give, in order. After two lone dashes all are paths. -/
inductive Spells : List String → List Given → Prop
  | nil : Spells [] []
  | dashes (paths : List String) : Spells ("--" :: paths) (paths.map .path)
  | cons {g : Given} {part arguments : List String} {given : List Given} (spelled : g.Spelled part)
    (later : Spells arguments given) : Spells (part ++ arguments) (g :: given)

namespace Reading

/-- A reading with nothing pending after one more part is given to it. -/
def give (r : Reading) : Given → Except Stop Reading
  | .cacheHints => r.setFlag .cacheHints
  | .value s _ text => r.setValue s text
  | .path text =>
    if text = "" then .error .invalidValue else .ok { r with paths := r.paths ++ [text] }

variable {r e : Reading}

theorem pending_of_give_eq_ok {g : Given} (gave : r.give g = .ok e) : e.pending = r.pending := by
  cases g with
  | cacheHints =>
      obtain ⟨-, ⟨⟩⟩ := guarded_eq_ok_iff.mp gave
      rfl
  | value s valued text => exact pending_of_setValue_eq_ok gave
  | path text =>
      obtain ⟨-, ⟨⟩⟩ := guarded_eq_ok_iff.mp gave
      rfl

theorem settle_paths_concat (r : Reading) (texts : List String) (text : String) :
    ({ r with pending := .paths (texts ++ [text]) } : Reading).settle =
      ({ r with pending := .paths texts } : Reading).settle >>= (·.give (.path text)) := by
  simp only [settle, List.contains_eq_mem, List.mem_append, List.mem_singleton]
  by_cases empty : "" ∈ texts
  · simp [empty, bind, Except.bind]
  · by_cases filled : text = ""
    · simp [empty, filled, bind, Except.bind, give]
    · simp [empty, filled, Ne.symm filled, bind, Except.bind, give]

/-- A path is taken where what is pending can be settled, and gives itself then. -/
theorem settle_takePath_iff {text : String} {e' : Reading} :
    (∃ r', r.takePath .transform text = .ok r' ∧ r'.settle = .ok e') ↔
      ∃ e, r.settle = .ok e ∧ e.give (.path text) = .ok e' := by
  by_cases more : ∃ texts, r.pending = .paths texts
  · obtain ⟨texts, pending⟩ := more
    have same : r = { r with pending := .paths texts } := by rw [← pending]
    rw [takePath_of_paths pending]
    constructor
    · rintro ⟨r', ⟨⟩, settled⟩
      rw [settle_paths_concat, ← same] at settled
      exact exists_of_bind_eq_ok settled
    · rintro ⟨e, settled, gave⟩
      refine ⟨_, rfl, ?_⟩
      rw [settle_paths_concat, ← same, settled]
      exact gave
  · have alone : ∀ e, r.settle = .ok e →
        ({ e with pending := .paths [text] } : Reading).settle = e.give (.path text) := by
      intro e settled
      have empty : ({ e with pending := .paths [] } : Reading).settle = .ok e := by
        have nothing := pending_of_settle_eq_ok settled
        obtain ⟨flags, values, paths, pending⟩ := e
        cases nothing
        simp [settle]
      have concat := settle_paths_concat e [] text
      rw [empty] at concat
      exact concat
    rw [takePath_of_not_paths (not_exists.mp more)]
    constructor
    · rintro ⟨r', taken, settled⟩
      obtain ⟨e, first, ⟨⟩⟩ := exists_of_bind_eq_ok taken
      exact ⟨e, first, (alone e first).symm.trans settled⟩
    · rintro ⟨e, settled, gave⟩
      refine ⟨{ e with pending := .paths [text] }, ?_, (alone e settled).trans gave⟩
      rw [settled]
      rfl

theorem settle_foldlM_takePath_iff {paths : List String} {f : Reading} :
    (∃ r', paths.foldlM (takePath .transform) r = .ok r' ∧ r'.settle = .ok f) ↔
      ∃ e, r.settle = .ok e ∧ (paths.map Given.path).foldlM give e = .ok f := by
  induction paths generalizing r with
  | nil =>
      constructor
      · rintro ⟨r', ⟨⟩, settled⟩
        exact ⟨f, settled, rfl⟩
      · rintro ⟨e, settled, ⟨⟩⟩
        exact ⟨r, rfl, settled⟩
  | cons text rest ih =>
      rw [List.map_cons]
      constructor
      · rintro ⟨r', taken, settled⟩
        rw [List.foldlM_cons] at taken
        obtain ⟨r₁, first, taken⟩ := exists_of_bind_eq_ok taken
        obtain ⟨e₁, settled₁, given⟩ := ih.mp ⟨r', taken, settled⟩
        obtain ⟨e, settled, gave⟩ := settle_takePath_iff.mp ⟨r₁, first, settled₁⟩
        refine ⟨e, settled, ?_⟩
        rw [List.foldlM_cons, gave]
        exact given
      · rintro ⟨e, settled, given⟩
        rw [List.foldlM_cons] at given
        obtain ⟨e₁, gave, given⟩ := exists_of_bind_eq_ok given
        obtain ⟨r₁, first, settled₁⟩ := settle_takePath_iff.mpr ⟨e, settled, gave⟩
        obtain ⟨r', taken, settled⟩ := ih.mpr ⟨e₁, settled₁, given⟩
        refine ⟨r', ?_, settled⟩
        rw [List.foldlM_cons, first]
        exact taken

/-- One argument that gives something is taken, and gives it. -/
theorem exists_takeArgument_of_spelled {g : Given} {argument : String} {e e' : Reading}
    (spelled : g.Spelled [argument]) (settled : r.settle = .ok e) (gave : e.give g = .ok e') :
    ∃ r', r.takeArgument .transform argument = .ok r' ∧ r'.settle = .ok e' := by
  have nothing : e'.pending = .nothing :=
    (pending_of_give_eq_ok gave).trans (pending_of_settle_eq_ok settled)
  have direct : ∀ {s : Switch} {valued : s.takesValue} {text : String},
      g = .value s valued text → r.takeValue s (some text) = .ok e' := by
    rintro s valued text rfl
    unfold takeValue
    rw [settled]
    exact gave
  cases spelled with
  | cacheHints =>
      refine ⟨e', ?_, settle_of_pending_eq nothing⟩
      rw [takeArgument_cacheHints, settled]
      exact gave
  | joined s valued text =>
      refine ⟨e', ?_, settle_of_pending_eq nothing⟩
      rw [takeArgument_long valued (some text) (by simp [withEquals])]
      exact direct rfl
  | shortEqual text =>
      refine ⟨e', ?_, settle_of_pending_eq nothing⟩
      have chars : ("-o=" ++ text).toList = '-' :: 'o' :: '=' :: text.toList := by simp
      rw [takeArgument_output chars, attached, String.ofList_toList]
      exact direct rfl
  | @shortJoined c cs other =>
      refine ⟨e', ?_, settle_of_pending_eq nothing⟩
      have chars : ("-o" ++ String.ofList (c :: cs)).toList = '-' :: 'o' :: c :: cs := by simp
      rw [takeArgument_output chars, attached_of_ne other]
      exact direct rfl
  | path plain =>
      rw [takeArgument_of_plain plain]
      split
      case h_1 pending =>
        unfold settle at settled
        rw [pending] at settled
        cases settled
      case h_2 => exact settle_takePath_iff.mpr ⟨e, settled, gave⟩

theorem ne_dashes_of_spelled {g : Given} {argument : String} {part : List String}
    (spelled : g.Spelled (argument :: part)) : argument ≠ "--" := by
  intro same
  have chars := congrArg String.toList same
  cases spelled with
  | cacheHints => simp at chars
  | joined s valued text => simp at chars
  | apart s valued plain => cases s <;> simp [Switch.long] at chars
  | shortEqual text => simp at chars
  | shortJoined other => simp at chars
  | shortApart plain => simp at chars
  | path plain => exact plain.ne_dashes same

/-- A switch whose value is the next argument waits for it. -/
theorem takeArgument_of_spelled_apart {g : Given} {argument text : String}
    (spelled : g.Spelled [argument, text]) :
    ∃ s valued, g = .value s valued text ∧ IsPlain text ∧
      r.takeArgument .transform argument = r.takeValue s none := by
  cases spelled with
  | apart s valued plain =>
      exact ⟨s, valued, rfl, plain, takeArgument_long valued none (by simp [withEquals])⟩
  | shortApart plain => exact ⟨.output, rfl, rfl, plain, rfl⟩

theorem takeAll_of_spells {arguments : List String} {given : List Given}
    (spelled : Spells arguments given) {e f : Reading} (settled : r.settle = .ok e)
    (gives : given.foldlM give e = .ok f) : r.takeAll .transform arguments = .ok f := by
  induction spelled generalizing r e with
  | nil =>
      cases gives
      exact settled
  | dashes paths =>
      obtain ⟨r', taken, settled⟩ := settle_foldlM_takePath_iff.mpr ⟨e, settled, gives⟩
      change (paths.foldlM (takePath .transform) r >>= fun r => r.settle) = _
      rw [taken]
      exact settled
  | @cons g part arguments given spelled later ih =>
      rw [List.foldlM_cons] at gives
      obtain ⟨e₁, gave, rest⟩ := exists_of_bind_eq_ok gives
      match part, spelled with
      | [argument], spelled =>
          obtain ⟨r₁, taken, settled₁⟩ := exists_takeArgument_of_spelled spelled settled gave
          change r.takeAll .transform (argument :: arguments) = _
          rw [takeAll_cons (ne_dashes_of_spelled spelled), taken]
          exact ih settled₁ rest
      | [argument, text], spelled =>
          obtain ⟨s, valued, rfl, plain, taken⟩ :=
            takeArgument_of_spelled_apart (r := r) spelled
          change r.takeAll .transform (argument :: text :: arguments) = _
          rw [takeAll_cons (ne_dashes_of_spelled spelled), taken, takeValue, settled]
          change takeAll .transform { e with pending := .value s none } _ = _
          rw [takeAll_cons plain.ne_dashes, takeArgument_of_plain plain]
          exact ih ((settle_value (pending_of_settle_eq_ok settled) s text).trans gave) rest

/-- What taking an argument can do. It gives something, waits for a value, or is the value that was
waited for. -/
inductive Takes (r : Reading) (argument : String) (r' : Reading) : Prop
  | gives {g : Given} (spelled : g.Spelled [argument])
    (settles : ∀ e', r'.settle = .ok e' → ∃ e, r.settle = .ok e ∧ e.give g = .ok e')
    (ready : ∀ s, r'.pending ≠ .value s none)
  | waits {s : Switch} {valued : s.takesValue} {e : Reading}
    (spelled : ∀ text, IsPlain text → (Given.value s valued text).Spelled [argument, text])
    (settled : r.settle = .ok e) (waiting : r' = { e with pending := .value s none })
  | fills {s : Switch} (waiting : r.pending = .value s none) (plain : IsPlain argument)
    (filled : r' = { r with pending := .value s (some argument) })

theorem Takes.of_give {g : Given} {argument : String} {r' : Reading}
    (spelled : g.Spelled [argument]) (settled : r.settle = .ok e) (gave : e.give g = .ok r') :
    Takes r argument r' := by
  have nothing : r'.pending = .nothing :=
    (pending_of_give_eq_ok gave).trans (pending_of_settle_eq_ok settled)
  refine .gives spelled (fun e' same => ⟨e, settled, ?_⟩) (by simp [nothing])
  rw [settle_of_pending_eq nothing] at same
  exact gave.trans same

theorem takes_of_takeValue_some {s : Switch} {valued : s.takesValue} {value argument : String}
    {r' : Reading} (spelled : (Given.value s valued value).Spelled [argument])
    (taken : r.takeValue s (some value) = .ok r') : Takes r argument r' := by
  obtain ⟨e, settled, gave⟩ := exists_of_bind_eq_ok taken
  exact .of_give spelled settled gave

theorem takes_of_takeValue_none {s : Switch} {valued : s.takesValue} {argument : String}
    {r' : Reading}
    (spelled : ∀ value, IsPlain value → (Given.value s valued value).Spelled [argument, value])
    (taken : r.takeValue s none = .ok r') : Takes r argument r' := by
  obtain ⟨e, settled, ⟨⟩⟩ := exists_of_bind_eq_ok taken
  exact .waits spelled settled rfl

theorem takes_of_takePath_eq_ok {argument : String} {r' : Reading} (plain : IsPlain argument)
    (taken : r.takePath .transform argument = .ok r') : Takes r argument r' := by
  refine .gives (.path plain) (fun e' settled => settle_takePath_iff.mp ⟨r', taken, settled⟩) ?_
  intro s waiting
  by_cases more : ∃ texts, r.pending = .paths texts
  · obtain ⟨texts, pending⟩ := more
    rw [takePath_of_paths pending] at taken
    cases taken
    cases waiting
  · rw [takePath_of_not_paths (not_exists.mp more)] at taken
    obtain ⟨e, -, ⟨⟩⟩ := exists_of_bind_eq_ok taken
    cases waiting

/-- A flag is given as it stands, without a value. -/
theorem takes_of_setFlag_eq_ok {s : Switch} {argument : String} {r' : Reading}
    (member : s ∈ Scope.transform.switches) (unvalued : ¬ s.takesValue)
    (named : argument = "--" ++ s.long)
    (taken : r.settle >>= (·.setFlag s) = .ok r') : Takes r argument r' := by
  obtain ⟨e, settled, taken⟩ := exists_of_bind_eq_ok taken
  cases s with
  | cacheHints =>
      subst named
      exact .of_give .cacheHints settled taken
  | help => cases taken
  | version => simp [Scope.switches] at member
  | verbose => simp [Scope.switches] at member
  | _ => exact absurd rfl unvalued

theorem takes_of_takeLong_eq_ok {argument : String} {cs : List Char} {r' : Reading}
    (chars : argument.toList = '-' :: '-' :: cs) (taken : r.takeLong .transform cs = .ok r') :
    Takes r argument r' := by
  obtain ⟨name, text, unequal, rfl⟩ := exists_eq_append_withEquals cs
  rw [takeLong_append unequal, takeNamed] at taken
  cases found : Scope.transform.findLong? name with
  | none =>
      rw [found] at taken
      cases taken
  | some s =>
      rw [found] at taken
      obtain rfl : s.long = name := by simpa using List.find?_some found
      dsimp only at taken
      split at taken
      case isTrue valued =>
        cases text with
        | none =>
            obtain rfl : argument = "--" ++ s.long :=
              String.toList_inj.mp (chars.trans (by simp [withEquals]))
            exact takes_of_takeValue_none (fun _ plain => .apart s valued plain) taken
        | some value =>
            obtain rfl : argument = "--" ++ s.long ++ "=" ++ value :=
              String.toList_inj.mp (chars.trans (by simp [withEquals]))
            exact takes_of_takeValue_some (.joined s valued value) taken
      case isFalse unvalued =>
        cases text with
        | some value => cases taken
        | none =>
            have named : argument = "--" ++ s.long :=
              String.toList_inj.mp (chars.trans (by simp [withEquals]))
            exact takes_of_setFlag_eq_ok (List.mem_of_find?_eq_some found) unvalued named taken

theorem takes_of_takeValue_attached_eq_ok {argument : String} {cs : List Char} {r' : Reading}
    (chars : argument.toList = '-' :: 'o' :: cs)
    (taken : r.takeValue .output (attached cs) = .ok r') : Takes r argument r' := by
  cases cs with
  | nil =>
      obtain rfl : argument = "-o" := String.toList_inj.mp chars
      exact takes_of_takeValue_none (fun _ plain => .shortApart plain) taken
  | cons c cs =>
      by_cases equals : c = '='
      · subst equals
        obtain rfl : argument = "-o=" ++ String.ofList cs :=
          String.toList_inj.mp (chars.trans (by simp))
        exact takes_of_takeValue_some (.shortEqual _) taken
      · obtain rfl : argument = "-o" ++ String.ofList (c :: cs) :=
          String.toList_inj.mp (chars.trans (by simp))
        rw [attached_of_ne equals] at taken
        exact takes_of_takeValue_some (.shortJoined equals) taken

theorem takes_of_takeShort_eq_ok {argument : String} {c : Char} {cs : List Char} {r' : Reading}
    (chars : argument.toList = '-' :: c :: cs) (taken : r.takeShort .transform (c :: cs) = .ok r') :
    Takes r argument r' := by
  unfold takeShort at taken
  cases found : Scope.transform.findShort? c with
  | none =>
      rw [found] at taken
      cases taken
  | some s =>
      rw [found] at taken
      have letter : s.short? = some c := by simpa using List.find?_some found
      have member := List.mem_of_find?_eq_some found
      cases s with
      | output =>
          cases letter
          exact takes_of_takeValue_attached_eq_ok chars taken
      | help =>
          obtain ⟨e, -, taken⟩ := exists_of_bind_eq_ok taken
          cases taken
      | version => simp [Scope.switches] at member
      | verbose => simp [Scope.switches] at member
      | _ => cases letter

theorem takes_of_takeArgument_eq_ok {argument : String} {r' : Reading}
    (taken : r.takeArgument .transform argument = .ok r') : Takes r argument r' := by
  by_cases plain : IsPlain argument
  · rw [takeArgument_of_plain plain] at taken
    split at taken
    case h_1 s waiting =>
      cases taken
      exact .fills waiting plain rfl
    case h_2 => exact takes_of_takePath_eq_ok plain taken
  · obtain ⟨c, cs, chars⟩ := exists_of_not_isPlain plain
    by_cases double : c = '-'
    · subst double
      rw [takeArgument_of_takeSwitch? (takeSwitch?_of_dashes chars)] at taken
      exact takes_of_takeLong_eq_ok chars taken
    · rw [takeArgument_of_takeSwitch? (takeSwitch?_of_dash chars double)] at taken
      exact takes_of_takeShort_eq_ok chars taken

/-- What is read gives something to a reading that was settled before, and the value that the
reading may have waited for comes first. -/
theorem spells_of_takeAll_eq_ok {arguments : List String} {f : Reading}
    (run : r.takeAll .transform arguments = .ok f) :
    (∃ e given, r.settle = .ok e ∧ Spells arguments given ∧ given.foldlM give e = .ok f) ∨
    ∃ s text rest e given, r.pending = .value s none ∧ arguments = text :: rest ∧ IsPlain text ∧
      ({ r with pending := .nothing } : Reading).setValue s text = .ok e ∧
      Spells rest given ∧ given.foldlM give e = .ok f := by
  induction arguments generalizing r with
  | nil => exact .inl ⟨f, [], run, .nil, rfl⟩
  | cons argument rest ih =>
      by_cases dashes : argument = "--"
      · subst dashes
        obtain ⟨r', taken, settled⟩ := exists_of_bind_eq_ok run
        obtain ⟨e, settled, gives⟩ := settle_foldlM_takePath_iff.mp ⟨r', taken, settled⟩
        exact .inl ⟨e, _, settled, .dashes rest, gives⟩
      · rw [takeAll_cons dashes] at run
        obtain ⟨r', taken, run⟩ := exists_of_bind_eq_ok run
        cases takes_of_takeArgument_eq_ok taken with
        | gives spelled settles ready =>
            rcases ih run with ⟨e', given, settled, later, gives⟩ | ⟨s, -, -, -, -, waiting, -⟩
            · obtain ⟨e, settled, gave⟩ := settles e' settled
              refine .inl ⟨e, _ :: given, settled, .cons spelled later, ?_⟩
              rw [List.foldlM_cons, gave]
              exact gives
            · exact absurd waiting (ready s)
        | @waits s valued e spelled settled waiting =>
            subst waiting
            rcases ih run with ⟨-, -, ⟨⟩, -⟩ |
              ⟨s, text, rest, e', given, ⟨⟩, rfl, plain, set, later, gives⟩
            refine .inl ⟨e, _ :: given, settled, .cons (spelled text plain) later, ?_⟩
            have same : ({ e with pending := .nothing } : Reading) = e := by
              rw [← pending_of_settle_eq_ok settled]
            have gave : e.give (.value s valued text) = .ok e' := same ▸ set
            rw [List.foldlM_cons, gave]
            exact gives
        | @fills s waiting plain filled =>
            subst filled
            rcases ih run with ⟨e', given, settled, later, gives⟩ | ⟨-, -, -, -, -, ⟨⟩, -⟩
            exact .inr ⟨s, argument, rest, e', given, waiting, rfl, plain, settled, later, gives⟩

theorem takeAll_eq_ok_iff {arguments : List String} {f : Reading} :
    empty.takeAll .transform arguments = .ok f ↔
      ∃ given, Spells arguments given ∧ given.foldlM give empty = .ok f := by
  constructor
  · intro run
    rcases spells_of_takeAll_eq_ok run with
      ⟨_, given, ⟨⟩, spelled, gives⟩ | ⟨-, -, -, -, -, ⟨⟩, -⟩
    exact ⟨given, spelled, gives⟩
  · rintro ⟨given, spelled, gives⟩
    exact takeAll_of_spells spelled rfl gives

end Reading

end PagedSchema.CommandLine
