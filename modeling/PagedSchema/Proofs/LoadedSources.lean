/-
The document that loads leave: the definitions of each source in order, under the path of the source
or under its number among the sources without one. Files are refused in order.
-/
import Mathlib.Data.List.Induction
import PagedSchema.Proofs.Decoding
import PagedSchema.Proofs.Loading
import PagedSchema.Proofs.MarkerText
import PagedSchema.Proofs.Runs

namespace PagedSchema

/-- A source that was read. -/
structure ReadSource where
  path : Option String
  definitions : List Definition

/-- The sources of a load, if all of them can be read. -/
def Load.sources? (fs : FileSystem) : Load → Option (List ReadSource)
  | text path content => (Sdl.parse content).toOption.map fun ds => [⟨path, ds⟩]
  | definitions path ds => some [⟨path, ds⟩]
  | files paths => paths.mapM fun path => (fs.definitions? path).map (⟨some path, ·⟩)

namespace ReadSource

def Unnamed (r : ReadSource) : Prop := r.path = none

instance : DecidablePred Unnamed := fun r => inferInstanceAs (Decidable (r.path = none))

/-- The path of a source, or its number among those without one. -/
def name (earlier : List ReadSource) (r : ReadSource) : String :=
  r.path.getD s!"str://{earlier.countP Unnamed}"

/-- The definitions of each source, in the order of the sources. -/
def document (sources : List ReadSource) : Document :=
  sources.zipIdx.flatMap fun entry =>
    Document.ofSource (entry.1.name (sources.take entry.2)) entry.1.definitions

theorem document_concat (sources : List ReadSource) (r : ReadSource) :
    document (sources ++ [r]) =
      document sources ++ Document.ofSource (r.name sources) r.definitions := by
  unfold document
  rw [List.zipIdx_append, List.flatMap_append]
  congr 1
  · refine List.flatMap_congr fun entry member => ?_
    have inside := List.snd_lt_of_mem_zipIdx member
    rw [List.take_append_of_le_length (by omega)]
  · simp

theorem toString_injective {m n : Nat} (same : toString m = toString n) : m = n := by
  have digits : Nat.toDigits 10 m = Nat.toDigits 10 n := by
    rw [← Nat.toList_repr, ← Nat.toList_repr]
    exact congrArg String.toList same
  have read := congrArg (Nat.ofDigitChars 10 · 0) digits
  simpa [Nat.ofDigitChars_toDigits] using read

/-- Sources without a path differ in their numbers. -/
theorem name_take_ne {sources : List ReadSource} {r r' : ReadSource} {i j : Nat} (lower : i < j)
    (first : sources[i]? = some r) (unnamed : r.Unnamed) (unnamed' : r'.Unnamed) :
    r.name (sources.take i) ≠ r'.name (sources.take j) := by
  have between : r ∈ (sources.take j).drop i := by
    rw [List.mem_iff_getElem?]
    refine ⟨0, ?_⟩
    rw [List.getElem?_drop, Nat.add_zero, List.getElem?_take_of_lt lower, first]
  have more : (sources.take i).countP Unnamed < (sources.take j).countP Unnamed := by
    have parts := List.take_append_drop i (sources.take j)
    rw [List.take_take, Nat.min_eq_left lower.le] at parts
    rw [← parts, List.countP_append, Nat.lt_add_right_iff_pos, List.countP_pos_iff]
    exact ⟨r, between, decide_eq_true unnamed⟩
  unfold name
  rw [unnamed, unnamed', Option.getD_none, Option.getD_none]
  intro same
  exact more.ne (toString_injective ((String.append_right_inj _).mp same))

end ReadSource

namespace FileSystem

/-- A file cannot be loaded: there is none at the path, or its bytes are no text, or the text is no
document. The error names the path. -/
inductive Refuses (fs : FileSystem) (path : String) : LoadError → Prop
  | notAFile (absent : ∀ bytes, fs.find path ≠ .ok (.file bytes)) :
    Refuses fs path (.read (.notAFile path))
  | invalidText {bytes : List UInt8} {n : Nat} (there : fs.find path = .ok (.file bytes))
    (invalid : ∀ text, Text.bytes text ≠ bytes)
    (longest : IsGreatest (Text.validPrefixes bytes) n) :
    Refuses fs path (.read (.invalidText path n))
  | malformed {text : String} {position : Position}
    (there : fs.find path = .ok (.file (Text.bytes text)))
    (unparsed : Sdl.parse text = .error position) : Refuses fs path (.parse path position)

theorem definitions?_of_find {fs : FileSystem} {path text : String}
    (there : fs.find path = .ok (.file (Text.bytes text))) :
    fs.definitions? path = (Sdl.parse text).toOption := by
  unfold definitions? readText
  rw [there]
  dsimp only
  rw [Text.decode_eq_ok_iff.mpr rfl]
  rfl

end FileSystem

namespace Sources

def addAll (s : Sources) (sources : List ReadSource) : Sources :=
  sources.foldl (fun s r => s.add r.path r.definitions) s

/-- What is loaded is the document of the sources, and the count is of those without a path. -/
theorem addAll_empty (sources : List ReadSource) :
    empty.addAll sources = ⟨ReadSource.document sources, sources.countP ReadSource.Unnamed⟩ := by
  induction sources using List.reverseRecOn with
  | nil => rfl
  | append_singleton earlier r ih =>
      unfold addAll at ih ⊢
      rw [List.foldl_append, ih, ReadSource.document_concat, List.countP_append]
      obtain ⟨path, ds⟩ := r
      cases path <;> rfl

section Loading

variable {fs : FileSystem}

theorem toOption_addText (s : Sources) (path : Option String) (text : String) :
    (s.addText path text).toOption = (Sdl.parse text).toOption.map (s.add path) := by
  unfold addText
  cases Sdl.parse text <;> rfl

theorem toOption_addFile (s : Sources) (path : String) :
    (s.addFile fs path).toOption = (fs.definitions? path).map (s.add (some path)) := by
  unfold addFile FileSystem.definitions?
  cases fs.readText path with
  | error e => rfl
  | ok text => exact s.toOption_addText (some path) text

theorem toOption_load (s : Sources) (load : Load) :
    (s.load fs load).toOption = (load.sources? fs).map s.addAll := by
  cases load with
  | text path content =>
      rw [Load.sources?, Option.map_map]
      exact s.toOption_addText path content
  | definitions path ds => rfl
  | files paths =>
      refine toOption_foldlM (fun s path => ?_) paths s
      rw [toOption_addFile, Option.map_map]
      rfl

theorem toOption_loadAll (s : Sources) (loads : List Load) :
    (s.loadAll fs loads).toOption =
      (loads.mapM (Load.sources? fs)).map fun read => s.addAll read.flatten := by
  unfold loadAll
  rw [toOption_foldlM toOption_load]
  refine congrArg (Option.map · _) (funext fun read => ?_)
  exact List.foldl_flatten.symm

theorem refuses_of_addFile {s : Sources} {path : String} {e : LoadError}
    (failed : s.addFile fs path = .error e) : fs.Refuses path e := by
  unfold addFile FileSystem.readText at failed
  split at failed
  · rename_i bytes there
    cases read : Text.decode bytes with
    | error n =>
        rw [read] at failed
        cases failed
        obtain ⟨invalid, longest⟩ := Text.decode_eq_error_iff.mp read
        exact .invalidText there invalid longest
    | ok text =>
        rw [read] at failed
        cases Text.decode_eq_ok_iff.mp read
        change s.addText (some path) text = .error e at failed
        unfold addText at failed
        cases parsed : Sdl.parse text with
        | error position =>
            rw [parsed] at failed
            cases failed
            exact .malformed there parsed
        | ok ds =>
            rw [parsed] at failed
            cases failed
  · rename_i other
    cases failed
    exact .notAFile other

theorem addFile_of_refuses {s : Sources} {path : String} {e : LoadError}
    (refused : fs.Refuses path e) : s.addFile fs path = .error e := by
  unfold addFile FileSystem.readText
  cases refused with
  | notAFile absent =>
      split
      · rename_i bytes there
        exact absurd there (absent bytes)
      · rfl
  | invalidText there invalid longest =>
      rw [there]
      dsimp only
      rw [Text.decode_eq_error_iff.mpr ⟨invalid, longest⟩]
      rfl
  | malformed there unparsed =>
      rw [there]
      dsimp only
      rw [Text.decode_eq_ok_iff.mpr rfl]
      change s.addText _ _ = _
      unfold addText
      rw [unparsed]
      rfl

theorem addFile_eq_error_iff {s : Sources} {path : String} {e : LoadError} :
    s.addFile fs path = .error e ↔ fs.Refuses path e := ⟨refuses_of_addFile, addFile_of_refuses⟩

end Loading

/-- The document loaded is that of the sources in the order of the loads, which no two sources
without a path give the same path. Files are loaded one after the other, and the first one that is
refused decides how a load of them fails. -/
theorem loadAll_sources (fs : FileSystem) :
    (∀ loads, (empty.loadAll fs loads).toOption.map (·.document) =
      (loads.mapM (Load.sources? fs)).map fun read => ReadSource.document read.flatten) ∧
    (∀ (sources : List ReadSource) (i j : Nat) (r r' : ReadSource), i < j →
      sources[i]? = some r → sources[j]? = some r' → r.Unnamed → r'.Unnamed →
      r.name (sources.take i) ≠ r'.name (sources.take j)) ∧
    (∀ (s : Sources) paths more,
      s.addFiles fs (paths ++ more) = s.addFiles fs paths >>= (·.addFiles fs more)) ∧
    (∀ (s : Sources) path, s.addFiles fs [path] = s.addFile fs path) ∧
    (∀ (s : Sources) paths e, s.addFiles fs paths = .error e ↔
      ∃ before path after, paths = before ++ path :: after ∧
        (∀ earlier ∈ before, ∀ e', ¬ fs.Refuses earlier e') ∧ fs.Refuses path e) := by
  refine ⟨?_, ?_, ?_, ?_, ?_⟩
  · intro loads
    rw [toOption_loadAll, Option.map_map]
    simp only [addAll_empty, Function.comp_def]
  · intro sources i j r r' lower first _ unnamed unnamed'
    exact ReadSource.name_take_ne lower first unnamed unnamed'
  · intro s paths more
    exact List.foldlM_append
  · intro s path
    unfold addFiles
    rw [List.foldlM_cons]
    cases s.addFile fs path <;> rfl
  · intro s paths e
    unfold addFiles
    apply foldlM_eq_error_iff
    exact fun s path e => addFile_eq_error_iff

def scalarAt (name : String) (position : Position) : Definition :=
  .type ⟨.definition none, position, name, [], .scalar⟩

theorem parse_scalar (name : String) (named : Sdl.isName name) :
    Sdl.parse ("scalar " ++ name) = .ok [scalarAt name ⟨1, 1⟩] := by
  have chars : ("scalar " ++ name).toList =
      "scalar".toList ++ ' ' :: (name.toList ++ []) := by simp
  have blank : ∀ c ∈ (' ' :: (name.toList ++ [])).head?, Sdl.isNameChar c = false := by
    rintro c ⟨⟩
    rfl
  unfold Sdl.parse Sdl.tokens
  rw [chars, Sdl.tokensFrom_name rfl blank, Sdl.tokensFrom_space,
    Sdl.tokensFrom_name named (by simp)]
  rfl

/-- A schema file, and a file whose second byte starts no character. -/
def timeFiles : FileSystem where
  root := .directory [("time.graphql", .file (Text.bytes ("scalar " ++ "Time"))),
    ("broken.graphql", .file [0x23, 0xFF])]
  current := []

def timeLoads : List Load :=
  [.text none ("scalar " ++ "Day"), .files ["time.graphql"],
    .definitions none [scalarAt "Zone" ⟨1, 1⟩]]

theorem definitions?_timeFiles :
    timeFiles.definitions? "time.graphql" = some [scalarAt "Time" ⟨1, 1⟩] := by
  rw [FileSystem.definitions?_of_find rfl, parse_scalar "Time" rfl]
  rfl

theorem loadAll_sources_timeLoads :
    (empty.loadAll timeFiles timeLoads).toOption.map (·.document) =
      some [⟨.source "str://0", scalarAt "Day" ⟨1, 1⟩⟩,
        ⟨.source "time.graphql", scalarAt "Time" ⟨1, 1⟩⟩,
        ⟨.source "str://1", scalarAt "Zone" ⟨1, 1⟩⟩] ∧
    empty.addFiles timeFiles ["time.graphql", "broken.graphql", "missing.graphql"] =
      .error (.read (.invalidText "broken.graphql" 1)) := by
  obtain ⟨loaded, -, -, -, refused⟩ := loadAll_sources timeFiles
  constructor
  · rw [loaded]
    simp only [timeLoads, List.mapM_cons, List.mapM_nil, Load.sources?, parse_scalar "Day" rfl,
      definitions?_timeFiles]
    rfl
  · rw [refused]
    refine ⟨["time.graphql"], "broken.graphql", ["missing.graphql"], rfl, ?_, ?_⟩
    · intro path member e refuses
      cases List.mem_singleton.mp member
      have read := @toOption_addFile timeFiles empty "time.graphql"
      rw [addFile_eq_error_iff.mpr refuses, definitions?_timeFiles] at read
      cases read
    · have read : Text.decode [0x23, 0xFF] = .error 1 := by decide
      obtain ⟨invalid, longest⟩ := Text.decode_eq_error_iff.mp read
      exact .invalidText rfl invalid longest

end Sources

end PagedSchema
