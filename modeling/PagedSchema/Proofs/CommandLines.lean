/-
Command lines that ask for a transformation: which of them are accepted, the options that they
give, and what running them leaves.
-/
import PagedSchema.Proofs.GivenArguments
import PagedSchema.Proofs.Transforming
import Mathlib.Data.List.Induction

namespace PagedSchema.CommandLine

namespace Given

/-- The switch of what may be given only once. -/
def single? : Given → Option Switch
  | .cacheHints => some .cacheHints
  | .value s _ _ => if s.isRepeatable then none else some s
  | .path _ => none

/-- Paths to read and to write are not empty. -/
def Filled : Given → Prop
  | .cacheHints => True
  | .value s _ text => s.isPath → text ≠ ""
  | .path text => text ≠ ""

def assigned? : Given → Option (Switch × String)
  | .value s _ text => some (s, text)
  | _ => none

def path? : Given → Option String
  | .path text => some text
  | _ => none

end Given

/-- The texts that are given for a switch, in order. -/
def textsFor (s : Switch) (given : List Given) : List String :=
  ((given.filterMap (·.assigned?)).filter (·.1 = s)).map (·.2)

def givenOptions (given : List Given) : TransformOptions where
  settings :=
    { marker := (textsFor .directiveName given).head?.getD "connection"
      cacheHints :=
        if .cacheHints ∈ given then
          some
            { directive := (textsFor .cacheHintDirective given).head?.getD "cacheControl"
              argument := (textsFor .cacheHintArgument given).head?.getD "maxAge" }
        else none }
  extensions :=
    match textsFor .extensions given with
    | [] => ["graphql", "graphqls"]
    | lists => lists.flatMap (Path.split ',')
  output := (textsFor .output given).head?
  paths := given.filterMap (·.path?)

/-- What may be given together: everything but extensions and paths once, and some path. -/
structure Acceptable (given : List Given) : Prop where
  once : (given.filterMap (·.single?)).Nodup
  filled : ∀ g ∈ given, g.Filled
  named : (givenOptions given).paths ≠ []

namespace Reading

def ofGiven (given : List Given) : Reading where
  flags := if .cacheHints ∈ given then [.cacheHints] else []
  values := given.filterMap (·.assigned?)
  paths := given.filterMap (·.path?)
  pending := .nothing

variable (given : List Given)

theorem cacheHints_mem_filterMap_iff :
    .cacheHints ∈ given.filterMap (·.single?) ↔ .cacheHints ∈ given := by
  apply mem_filterMap_iff_mem
  intro g
  cases g with
  | cacheHints => simp [Given.single?]
  | value s valued text =>
      cases s with
      | cacheHints => cases valued
      | _ => simp [Given.single?, Switch.isRepeatable]
  | path text => simp [Given.single?]

theorem single?_eq_some_iff {s : Switch} (valued : s.takesValue) (once : ¬ s.isRepeatable)
    (g : Given) : g.single? = some s ↔ ∃ text, g = .value s valued text := by
  cases g with
  | cacheHints =>
      cases s with
      | cacheHints => cases valued
      | _ => simp [Given.single?]
  | value s' valued' text =>
      by_cases same : s' = s
      · subst same
        simp [Given.single?, once]
      · simp [Given.single?, same]
  | path text => simp [Given.single?]

theorem isSome_value?_ofGiven_iff {s : Switch} (valued : s.takesValue) (once : ¬ s.isRepeatable) :
    ((ofGiven given).value? s).isSome ↔ s ∈ given.filterMap (·.single?) := by
  rw [value?, Option.isSome_iff_ne_none, ne_eq, lookup_eq_none_iff_not_mem, not_not]
  simp only [ofGiven, List.mem_map, List.mem_filterMap, single?_eq_some_iff valued once]
  constructor
  · rintro ⟨entry, ⟨g, member, read⟩, rfl⟩
    cases g with
    | value s valued text =>
        cases read
        exact ⟨_, member, text, rfl⟩
    | _ => cases read
  · rintro ⟨g, member, text, rfl⟩
    exact ⟨(s, text), ⟨_, member, rfl⟩, rfl⟩

/-- The reading with one more part, whether this may be given or not. -/
def add (r : Reading) : Given → Reading
  | .cacheHints => { r with flags := [.cacheHints] }
  | .value s _ text => { r with values := r.values ++ [(s, text)] }
  | .path text => { r with paths := r.paths ++ [text] }

theorem ofGiven_concat (g : Given) : ofGiven (given ++ [g]) = (ofGiven given).add g := by
  cases g <;> simp [ofGiven, add, Given.assigned?, Given.path?]

/-- One more part is taken if it repeats nothing and is no empty path. -/
theorem give_ofGiven_iff {g : Given} {f : Reading} :
    (ofGiven given).give g = .ok f ↔
      (∀ s, g.single? = some s → s ∉ given.filterMap (·.single?)) ∧ g.Filled ∧
        ofGiven (given ++ [g]) = f := by
  rw [ofGiven_concat]
  cases g with
  | cacheHints =>
      have once : (∀ s, Given.cacheHints.single? = some s → s ∉ given.filterMap (·.single?)) ↔
          .cacheHints ∉ given := by
        rw [← cacheHints_mem_filterMap_iff]
        simp [Given.single?]
      rw [once]
      simp only [give, setFlag, guarded_eq_ok_iff]
      by_cases member : .cacheHints ∈ given <;> simp [has, ofGiven, add, member, Given.Filled]
  | value s valued text =>
      have once : (∀ s', (Given.value s valued text).single? = some s' →
          s' ∉ given.filterMap (·.single?)) ↔
          ¬ (((ofGiven given).value? s).isSome && !s.isRepeatable) := by
        by_cases repeatable : s.isRepeatable
        · simp [Given.single?, repeatable]
        · have single : (Given.value s valued text).single? = some s := if_neg repeatable
          have present := isSome_value?_ofGiven_iff given valued repeatable
          rw [single, Bool.and_eq_true, present]
          simp [-List.mem_filterMap, repeatable]
      rw [once]
      simp only [give, setValue, guarded_eq_ok_iff, Except.ok.injEq]
      simp [add, Given.Filled, imp.swap]
  | path text =>
      simp only [give, guarded_eq_ok_iff, Except.ok.injEq]
      simp [add, Given.single?, Given.Filled]

theorem nodup_filterMap_concat_iff (g : Given) :
    ((given ++ [g]).filterMap (·.single?)).Nodup ↔
      (given.filterMap (·.single?)).Nodup ∧
        ∀ s, g.single? = some s → s ∉ given.filterMap (·.single?) := by
  rw [List.filterMap_append]
  cases single : g.single? with
  | none => simp [List.filterMap_cons_none single]
  | some s =>
      rw [List.filterMap_cons_some single, List.filterMap_nil, List.nodup_append_comm,
        List.singleton_append, List.nodup_cons, and_comm]
      simp only [Option.some.injEq, forall_eq']

theorem foldlM_give_eq_ok_iff {f : Reading} :
    given.foldlM give empty = .ok f ↔
      (given.filterMap (·.single?)).Nodup ∧ (∀ g ∈ given, g.Filled) ∧ ofGiven given = f := by
  induction given using List.reverseRecOn generalizing f with
  | nil => simp [empty, ofGiven, pure, Except.pure]
  | append_singleton given g ih =>
      have step : (given ++ [g]).foldlM give empty = given.foldlM give empty >>= (·.give g) := by
        rw [List.foldlM_append]
        congr 1
        funext r
        exact bind_pure _
      rw [step, nodup_filterMap_concat_iff, List.forall_mem_append, List.forall_mem_singleton]
      constructor
      · intro run
        obtain ⟨e, first, gave⟩ := exists_of_bind_eq_ok run
        obtain ⟨once, filled, rfl⟩ := ih.mp first
        obtain ⟨new, full, same⟩ := (give_ofGiven_iff given).mp gave
        exact ⟨⟨once, new⟩, ⟨filled, full⟩, same⟩
      · rintro ⟨⟨once, new⟩, ⟨filled, full⟩, same⟩
        rw [ih.mpr ⟨once, filled, rfl⟩]
        exact (give_ofGiven_iff given).mpr ⟨new, full, same⟩

theorem value?_eq_head? (r : Reading) (s : Switch) : r.value? s = (r.allValues s).head? := by
  unfold value? allValues
  induction r.values with
  | nil => rfl
  | cons entry rest ih =>
      rw [Table.lookup_cons_eq_ite]
      by_cases same : entry.1 = s
      · rw [if_pos same.symm, List.filter_cons_of_pos (by simpa using same)]
        rfl
      · rw [if_neg (Ne.symm same), List.filter_cons_of_neg (by simpa using same)]
        exact ih

theorem transformOptions_ofGiven_iff {o : TransformOptions} :
    (ofGiven given).transformOptions = .ok o ↔
      (givenOptions given).paths ≠ [] ∧ givenOptions given = o := by
  have flagged : (ofGiven given).has .cacheHints = decide (.cacheHints ∈ given) := by
    by_cases member : .cacheHints ∈ given <;> simp [has, ofGiven, member]
  have options : (⟨⟨(ofGiven given).directiveName, (ofGiven given).cacheHints⟩,
      (ofGiven given).extensions, (ofGiven given).value? .output, (ofGiven given).paths⟩ :
      TransformOptions) = givenOptions given := by
    simp only [directiveName, cacheHints, value?_eq_head?, flagged, decide_eq_true_eq]
    rfl
  rw [transformOptions, guarded_eq_ok_iff, options, List.isEmpty_iff, Except.ok.injEq]
  rfl

end Reading

variable {arguments : List String}

/-- The arguments of a transformation are accepted if they can be given together. -/
theorem command?_transform_iff {o : TransformOptions} :
    command? "transform" arguments = some (.ok (.transform o)) ↔
      ∃ given, Spells arguments given ∧ Acceptable given ∧ givenOptions given = o := by
  have read : command? "transform" arguments = some (do
      let r ← Reading.empty.takeAll .transform arguments
      return .transform (← r.transformOptions)) := rfl
  rw [read, Option.some.injEq]
  constructor
  · intro run
    obtain ⟨r, taken, run⟩ := exists_of_bind_eq_ok run
    obtain ⟨o, options, ⟨⟩⟩ := exists_of_bind_eq_ok run
    obtain ⟨given, spelled, gives⟩ := Reading.takeAll_eq_ok_iff.mp taken
    obtain ⟨once, filled, rfl⟩ := (Reading.foldlM_give_eq_ok_iff given).mp gives
    obtain ⟨named, same⟩ := (Reading.transformOptions_ofGiven_iff given).mp options
    exact ⟨given, spelled, ⟨once, filled, named⟩, same⟩
  · rintro ⟨given, spelled, acceptable, rfl⟩
    have gives :=
      (Reading.foldlM_give_eq_ok_iff given).mpr ⟨acceptable.once, acceptable.filled, rfl⟩
    have options := (Reading.transformOptions_ofGiven_iff given).mpr ⟨acceptable.named, rfl⟩
    rw [Reading.takeAll_eq_ok_iff.mpr ⟨given, spelled, gives⟩]
    change (Reading.ofGiven given).transformOptions >>= _ = _
    rw [options]
    rfl

namespace Reading

variable {r r' : Reading}

/-- Before a command stands nothing but a flag for its report, once. -/
theorem setFlag_top_eq_ok {s : Switch} (member : s ∈ Scope.top.switches)
    (nothing : r.pending = .nothing) (taken : r.settle >>= (·.setFlag s) = .ok r') :
    s = .verbose ∧ r.has .verbose = false ∧ r'.has .verbose = true ∧ r'.pending = .nothing := by
  rw [settle_of_pending_eq nothing] at taken
  change r.setFlag s = _ at taken
  cases s with
  | verbose =>
      obtain ⟨unset, ⟨⟩⟩ := guarded_eq_ok_iff.mp taken
      exact ⟨rfl, by simpa using unset, by simp [has], nothing⟩
  | help => cases taken
  | version => cases taken
  | _ => simp [Scope.switches] at member

theorem takesValue_of_mem_top {s : Switch} (member : s ∈ Scope.top.switches) :
    s.takesValue = false := by
  cases s <;> first | rfl | simp [Scope.switches] at member

theorem takeShort_top_eq_ok {c : Char} {cs : List Char} (nothing : r.pending = .nothing)
    (taken : r.takeShort .top (c :: cs) = .ok r') :
    c = 'v' ∧ r.has .verbose = false ∧
      ∃ r₁ : Reading, r₁.has .verbose = true ∧ r₁.pending = .nothing ∧
        r₁.takeShort .top cs = .ok r' := by
  unfold takeShort at taken
  cases found : Scope.top.findShort? c with
  | none =>
      rw [found] at taken
      cases taken
  | some s =>
      have letter : s.short? = some c := by simpa using List.find?_some found
      have member := List.mem_of_find?_eq_some found
      rw [found] at taken
      simp only [takesValue_of_mem_top member, Bool.false_eq_true, if_false] at taken
      obtain ⟨settled, first, later⟩ := exists_of_bind_eq_ok taken
      obtain ⟨r₁, flagged, rest⟩ := exists_of_bind_eq_ok later
      have run : r.settle >>= (·.setFlag s) = .ok r₁ := by
        rw [first]
        exact flagged
      obtain ⟨rfl, unset, set, still⟩ := setFlag_top_eq_ok member nothing run
      exact ⟨(Option.some.inj letter).symm, unset, r₁, set, still, rest⟩

theorem takeLong_top_eq_ok {cs : List Char} (nothing : r.pending = .nothing)
    (taken : r.takeLong .top cs = .ok r') :
    cs = Switch.verbose.long.toList ∧
      r.has .verbose = false ∧ r'.has .verbose = true ∧ r'.pending = .nothing := by
  obtain ⟨name, text, unequal, rfl⟩ := exists_eq_append_withEquals cs
  rw [takeLong_append unequal, takeNamed] at taken
  cases found : Scope.top.findLong? name with
  | none =>
      rw [found] at taken
      cases taken
  | some s =>
      obtain rfl : s.long = name := by simpa using List.find?_some found
      have member := List.mem_of_find?_eq_some found
      rw [found] at taken
      simp only [takesValue_of_mem_top member, Bool.false_eq_true, if_false] at taken
      cases text with
      | some text => cases taken
      | none =>
          obtain ⟨rfl, states⟩ := setFlag_top_eq_ok member nothing taken
          exact ⟨List.append_nil _, states⟩

theorem takeSwitch?_top_eq_ok {argument : String} (nothing : r.pending = .nothing)
    (taken : r.takeSwitch? .top argument = some (.ok r')) :
    (argument = "-v" ∨ argument = "--verbose") ∧
      r.has .verbose = false ∧ r'.has .verbose = true ∧ r'.pending = .nothing := by
  by_cases plain : IsPlain argument
  · rw [takeSwitch?_eq_none_iff.mpr plain] at taken
    cases taken
  obtain ⟨c, cs, chars⟩ := exists_of_not_isPlain plain
  by_cases double : c = '-'
  · subst double
    rw [takeSwitch?_of_dashes chars, Option.some.injEq] at taken
    obtain ⟨rfl, states⟩ := takeLong_top_eq_ok nothing taken
    exact ⟨.inr (String.toList_inj.mp chars), states⟩
  · rw [takeSwitch?_of_dash chars double, Option.some.injEq] at taken
    obtain ⟨rfl, unset, r₁, set, still, taken⟩ := takeShort_top_eq_ok nothing taken
    cases cs with
    | nil =>
        cases taken
        exact ⟨.inl (String.toList_inj.mp chars), unset, set, still⟩
    | cons c cs =>
        obtain ⟨-, unset, -⟩ := takeShort_top_eq_ok still taken
        rw [set] at unset
        cases unset

end Reading

theorem command?_eq_ok {name : String} {o : TransformOptions}
    (run : command? name arguments = some (.ok (.transform o))) : name = "transform" := by
  unfold command? at run
  split at run
  case h_1 =>
    obtain ⟨r, -, ⟨⟩⟩ := exists_of_bind_eq_ok (Option.some.inj run)
  case h_2 => rfl
  case h_3 => cases run
  case h_4 => cases run

theorem readFrom_eq_ok {r : Reading} {argument : String} {verbose : Bool} {o : TransformOptions}
    (read : readFrom r (argument :: arguments) = .ok ⟨verbose, some (.transform o)⟩) :
    argument = "transform" ∧ r.has .verbose = verbose ∧
        command? "transform" arguments = some (.ok (.transform o)) ∨
      ∃ r', r.takeSwitch? .top argument = some (.ok r') ∧
        readFrom r' arguments = .ok ⟨verbose, some (.transform o)⟩ := by
  unfold readFrom at read
  cases found : command? argument arguments with
  | some result =>
      rw [found] at read
      obtain ⟨command, rfl, same⟩ := exists_of_bind_eq_ok read
      cases same
      obtain rfl := command?_eq_ok found
      exact .inl ⟨rfl, rfl, found⟩
  | none =>
      rw [found] at read
      dsimp only at read
      split at read
      case isTrue =>
        cases arguments with
        | nil => cases read
        | cons => cases read
      case isFalse =>
        cases switch : r.takeSwitch? .top argument with
        | none =>
            rw [switch] at read
            cases read
        | some result =>
            rw [switch] at read
            obtain ⟨r', rfl, read⟩ := exists_of_bind_eq_ok read
            exact .inr ⟨r', rfl, read⟩

/-- A line that asks for a transformation names it first, or after a flag for the whole program. -/
theorem exists_command?_of_read {verbose : Bool} {o : TransformOptions}
    (run : read arguments = .ok ⟨verbose, some (.transform o)⟩) :
    ∃ rest, command? "transform" rest = some (.ok (.transform o)) ∧
      (verbose = false ∧ arguments = "transform" :: rest ∨
        verbose = true ∧ ∃ flag ∈ ["-v", "--verbose"],
          arguments = flag :: "transform" :: rest) := by
  cases arguments with
  | nil => cases run
  | cons first rest =>
      rcases readFrom_eq_ok run with ⟨rfl, flagged, command⟩ | ⟨r, switch, run⟩
      · exact ⟨rest, command, .inl ⟨flagged.symm, rfl⟩⟩
      · obtain ⟨flag, -, set, nothing⟩ := Reading.takeSwitch?_top_eq_ok rfl switch
        cases rest with
        | nil => cases run
        | cons second rest =>
            rcases readFrom_eq_ok run with ⟨rfl, flagged, command⟩ | ⟨r', switch, -⟩
            · exact ⟨rest, command, .inr ⟨flagged.symm.trans set, first, by simpa using flag, rfl⟩⟩
            · obtain ⟨-, unset, -⟩ := Reading.takeSwitch?_top_eq_ok nothing switch
              rw [set] at unset
              cases unset

/-- The command lines that ask for a transformation, and the options that each of them gives. -/
theorem read_eq_ok_transform_iff {verbose : Bool} {o : TransformOptions} :
    read arguments = .ok ⟨verbose, some (.transform o)⟩ ↔
      ∃ rest,
        (∃ given, Spells rest given ∧ Acceptable given ∧ givenOptions given = o) ∧
        (verbose = false ∧ arguments = "transform" :: rest ∨
          verbose = true ∧ ∃ flag ∈ ["-v", "--verbose"],
            arguments = flag :: "transform" :: rest) := by
  simp only [← command?_transform_iff]
  constructor
  · exact exists_command?_of_read
  · rintro ⟨rest, command, ⟨rfl, rfl⟩ | ⟨rfl, flag, member, rfl⟩⟩
    · unfold read readFrom
      rw [command]
      rfl
    · have flagged : readFrom .empty (flag :: "transform" :: rest) =
          readFrom ⟨[.verbose], [], [], .nothing⟩ ("transform" :: rest) := by
        rcases List.mem_pair.mp member with rfl | rfl <;> rfl
      unfold read
      rw [flagged]
      unfold readFrom
      rw [command]
      rfl

example :
    read ["-v", "transform", "--cache-hints", "--cache-hint-argument=ttl", "api", "-oout.graphql"] =
      .ok ⟨true, some (.transform
        { settings := ⟨"connection", some ⟨"cacheControl", "ttl"⟩⟩
          extensions := ["graphql", "graphqls"]
          output := some "out.graphql"
          paths := ["api"] })⟩ := by
  rfl

/-- Running an accepted line does what its options say: the settings are the names given for the
marker and for the hints, or the default ones, and hints are copied only with the flag for them. -/
theorem run_of_read {verbose : Bool} {o : TransformOptions}
    (accepted : read arguments = .ok ⟨verbose, some (.transform o)⟩) (fs : FileSystem) :
    ∃ before rest given, arguments = before ++ "transform" :: rest ∧ Spells rest given ∧
      ((givenOptions given).Stopped fs → ∃ message, message ≠ "" ∧
        (Command.transform o).run fs = (⟨1, none, some message⟩, fs)) ∧
      (¬ (givenOptions given).Stopped fs → ∃ p, (givenOptions given).Makes fs p ∧
        (textsFor .output given = [] →
          (Command.transform o).run fs = (⟨0, some (Text.trimEnd p.sdl), none⟩, fs)) ∧
        ∀ out, textsFor .output given = [out] → ∃ after,
          (Command.transform o).run fs = (⟨0, none, none⟩, after) ∧
          fs.Written after out p.sdl.toUTF8.toList) := by
  obtain ⟨rest, ⟨given, spelled, -, rfl⟩, line⟩ := read_eq_ok_transform_iff.mp accepted
  obtain ⟨before, same⟩ : ∃ before, arguments = before ++ "transform" :: rest := by
    rcases line with ⟨-, same⟩ | ⟨-, flag, -, same⟩
    · exact ⟨[], same⟩
    · exact ⟨[flag], same⟩
  refine ⟨before, rest, given, same, spelled, run_of_stopped, fun free => ?_⟩
  obtain ⟨p, made, printed, written⟩ := run_of_not_stopped free
  refine ⟨p, made, fun unnamed => printed ?_, fun out named => ?_⟩
  · exact congrArg List.head? unnamed
  · obtain ⟨after, -, run, only, -⟩ := written out (congrArg List.head? named)
    exact ⟨after, run, only⟩

end PagedSchema.CommandLine
