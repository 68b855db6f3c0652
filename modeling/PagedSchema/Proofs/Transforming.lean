/-
The transform command as a whole: what stops it, and what it leaves where nothing does.
-/
import PagedSchema.CommandLine.Run
import PagedSchema.Proofs.Loading
import PagedSchema.Proofs.Paginating
import PagedSchema.Proofs.PrintedEnd
import PagedSchema.Proofs.WrittenFiles

namespace PagedSchema

theorem Definition.spelled_mapFields {d : Definition} (spelled : d.Spelled)
    (g : String → Field → Field) : (d.mapFields g).Spelled := by
  cases d with
  | schema d => trivial
  | directive d => exact spelled
  | type d =>
      obtain ⟨role, position, name, directives, body⟩ := d
      cases body <;> exact spelled

/-- The text of a paged schema ends as its last definition does, which is one of the document. -/
theorem Document.endsLine_sdl {doc : Document} {settings : Settings} {p : Paged}
    (paged : doc.paginate settings = .ok p) (nonempty : doc.definitions ≠ [])
    (spelled : ∀ d ∈ doc.definitions, d.Spelled) : Text.EndsLine p.sdl := by
  rw [eq_of_paginate_eq_ok paged]
  unfold Paged.sdl
  have parts : (doc.front settings ++ doc.connected settings).definitions =
      (doc.front settings).definitions ++ doc.definitions.map
        (·.mapFields ((doc.survey settings).pageField settings.marker)) := by
    rw [← definitions_mapFields]
    exact List.map_append
  rw [parts]
  have filled : doc.definitions.map
      (·.mapFields ((doc.survey settings).pageField settings.marker)) ≠ [] := by
    simpa using nonempty
  refine Sdl.endsLine_print (List.append_ne_nil_of_right_ne_nil _ filled) ?_
  rw [List.getLast_append_of_right_ne_nil _ _ filled, List.getLast_map]
  exact Definition.spelled_mapFields (spelled _ (List.getLast_mem _)) _

namespace Sources

/-- Files can be loaded if each of them can be read. -/
theorem addFiles_eq_error_iff {fs : FileSystem} {s : Sources} {files : List String} :
    (∃ e, s.addFiles fs files = .error e) ↔ ∃ path ∈ files, fs.definitions? path = none := by
  have run := loaded_foldlM (loaded_addFile fs) s files
  rw [← mapM_eq_none_iff, ← loaded_eq_none_iff]
  unfold addFiles
  rw [run, Option.map_eq_none_iff]

/-- Files that can be loaded have definitions, and these have names in them. -/
theorem spelled_of_addFiles {fs : FileSystem} {files : List String} {s : Sources}
    (found : files ≠ []) (run : empty.addFiles fs files = .ok s) :
    s.document.definitions ≠ [] ∧ ∀ d ∈ s.document.definitions, d.Spelled := by
  have all := loaded_foldlM (loaded_addFile fs) empty files
  change loaded (empty.addFiles fs files) = _ at all
  rw [run, eq_comm] at all
  obtain ⟨dss, read, same⟩ := Option.map_eq_some_iff.mp all
  change dss.flatten = s.document.definitions at same
  obtain ⟨length, each⟩ := of_mapM_eq_some read
  have parsed : ∀ ds ∈ dss, ds ≠ [] ∧ ∀ d ∈ ds, d.Spelled := by
    intro ds member
    obtain ⟨path, -, known⟩ := each ds member
    obtain ⟨text, -, parsed⟩ := Option.bind_eq_some_iff.mp known
    exact Sdl.spelled_of_parse (eq_ok_of_toOption_eq_some parsed)
  rw [← same]
  constructor
  · have filled : dss ≠ [] := by
      rintro rfl
      exact found (List.eq_nil_of_length_eq_zero length.symm)
    obtain ⟨ds, present⟩ := List.exists_mem_of_ne_nil dss filled
    obtain ⟨d, inside⟩ := List.exists_mem_of_ne_nil ds (parsed ds present).1
    exact List.ne_nil_of_mem (List.mem_flatten.mpr ⟨ds, present, inside⟩)
  · intro d member
    obtain ⟨ds, present, inside⟩ := List.mem_flatten.mp member
    exact (parsed ds present).2 d inside

end Sources

namespace CommandLine

namespace TransformOptions

variable {o : TransformOptions} {fs : FileSystem} {p : Paged}

/-- The schema that the library makes of the files found, loaded in the order of discovery. -/
def Makes (o : TransformOptions) (fs : FileSystem) (p : Paged) : Prop :=
  ∃ files sources, fs.schemaFiles o.extensions o.paths = .ok files ∧ files ≠ [] ∧
    Sources.empty.addFiles fs files = .ok sources ∧ sources.document.paginate o.settings = .ok p

/-- What ends a transformation: files cannot be searched, there are none, one of them cannot be
loaded, together they cannot be paged, or the output cannot be written. -/
inductive Stopped (o : TransformOptions) (fs : FileSystem) : Prop
  | search {e : SearchError} (failed : fs.schemaFiles o.extensions o.paths = .error e)
  | nothingFound (found : fs.schemaFiles o.extensions o.paths = .ok [])
  | load {files : List String} {path : String}
    (found : fs.schemaFiles o.extensions o.paths = .ok files) (member : path ∈ files)
    (failed : fs.definitions? path = none)
  | paging {files : List String} {sources : Sources} {e : PagingError}
    (found : fs.schemaFiles o.extensions o.paths = .ok files) (nonempty : files ≠ [])
    (loaded : Sources.empty.addFiles fs files = .ok sources)
    (failed : sources.document.paginate o.settings = .error e)
  | write {p : Paged} {out : String} {e : PathError} (made : o.Makes fs p)
    (named : o.output = some out) (failed : fs.write out p.sdl.toUTF8.toList = .error e)

theorem endsLine_of_makes (made : o.Makes fs p) : Text.EndsLine p.sdl := by
  obtain ⟨files, sources, found, nonempty, loaded, paged⟩ := made
  obtain ⟨filled, spelled⟩ := Sources.spelled_of_addFiles nonempty loaded
  exact Document.endsLine_sdl paged filled spelled

theorem outcome_of_sdl_eq_error {e : CommandError} (failed : o.sdl fs = .error e) :
    o.outcome fs = .error e := by
  unfold outcome
  rw [failed]
  rfl

theorem sdl_of_found {files : List String}
    (found : fs.schemaFiles o.extensions o.paths = .ok files) (nonempty : files ≠ []) :
    o.sdl fs =
      (match Sources.empty.addFiles fs files with
      | .error e => .error (.load e)
      | .ok sources =>
        match sources.document.paginate o.settings with
        | .error e => .error (.transform e)
        | .ok p => .ok p.sdl) := by
  have filled : files.isEmpty = false := List.isEmpty_eq_false_iff.mpr nonempty
  unfold sdl
  rw [found]
  simp only [Except.mapError, bind, Except.bind, filled]
  cases Sources.empty.addFiles fs files with
  | error e => rfl
  | ok sources =>
      dsimp only
      cases sources.document.paginate o.settings <;> rfl

theorem sdl_of_makes (made : o.Makes fs p) : o.sdl fs = .ok p.sdl := by
  obtain ⟨files, sources, found, nonempty, loaded, paged⟩ := made
  rw [sdl_of_found found nonempty, loaded]
  dsimp only
  rw [paged]

theorem outcome_of_stopped (stopped : o.Stopped fs) : ∃ e, o.outcome fs = .error e := by
  cases stopped with
  | @search e failed =>
      refine ⟨.search e, outcome_of_sdl_eq_error ?_⟩
      unfold sdl
      rw [failed]
      rfl
  | nothingFound found =>
      refine ⟨.nothingFound o.paths, outcome_of_sdl_eq_error ?_⟩
      unfold sdl
      rw [found]
      rfl
  | load found member failed =>
      obtain ⟨e, stopped⟩ := Sources.addFiles_eq_error_iff.mpr ⟨_, member, failed⟩
      refine ⟨.load e, outcome_of_sdl_eq_error ?_⟩
      rw [sdl_of_found found (List.ne_nil_of_mem member), stopped]
  | @paging files sources e found nonempty loaded failed =>
      refine ⟨.transform e, outcome_of_sdl_eq_error ?_⟩
      rw [sdl_of_found found nonempty, loaded]
      dsimp only
      rw [failed]
  | @write p out e made named failed =>
      refine ⟨.write out e, ?_⟩
      unfold outcome
      rw [sdl_of_makes made, named]
      simp only [bind, Except.bind, failed]
      rfl

theorem makes_of_not_stopped (free : ¬ o.Stopped fs) : ∃ p, o.Makes fs p := by
  obtain ⟨files, found⟩ : ∃ files, fs.schemaFiles o.extensions o.paths = .ok files := by
    cases found : fs.schemaFiles o.extensions o.paths with
    | error e => exact absurd (.search found) free
    | ok files => exact ⟨files, rfl⟩
  have nonempty : files ≠ [] := by
    rintro rfl
    exact free (.nothingFound found)
  obtain ⟨sources, loaded⟩ : ∃ sources, Sources.empty.addFiles fs files = .ok sources := by
    cases loaded : Sources.empty.addFiles fs files with
    | error e =>
        obtain ⟨path, member, failed⟩ := Sources.addFiles_eq_error_iff.mp ⟨e, loaded⟩
        exact absurd (.load found member failed) free
    | ok sources => exact ⟨sources, rfl⟩
  obtain ⟨p, paged⟩ : ∃ p, sources.document.paginate o.settings = .ok p := by
    cases paged : sources.document.paginate o.settings with
    | error e => exact absurd (.paging found nonempty loaded paged) free
    | ok p => exact ⟨p, rfl⟩
  exact ⟨p, files, sources, found, nonempty, loaded, paged⟩

end TransformOptions

theorem CommandError.message_ne_empty (e : CommandError) : e.message ≠ "" := by
  have filled : ∀ s t : String, s ≠ "" → s ++ t ≠ "" :=
    fun _ _ first empty => first (String.append_eq_empty_iff.mp empty).1
  cases e with
  | search e => exact filled "❌ Failed to search for schema files: " _ (by decide)
  | nothingFound paths =>
      exact filled _ _ (filled "❌ No GraphQL files found under " _ (by decide))
  | load e => exact filled "❌ Failed to transform the schema: " _ (by decide)
  | transform e => exact filled "❌ Failed to transform the schema: " _ (by decide)
  | write path e => exact filled _ _ (filled _ _ (filled "❌ Failed to write " _ (by decide)))

/-- Without an output a schema is printed, without the white space that it ends in. -/
theorem run_of_makes {o : TransformOptions} {fs : FileSystem} {p : Paged} (made : o.Makes fs p)
    (unnamed : o.output = none) :
    (Command.transform o).run fs = (⟨0, some (Text.trimEnd p.sdl), none⟩, fs) := by
  have outcome : o.outcome fs = .ok (.success (Text.trimEnd p.sdl), fs) := by
    unfold TransformOptions.outcome
    rw [TransformOptions.sdl_of_makes made, unnamed]
    rfl
  unfold Command.run
  simp only [outcome]
  rfl

theorem run_of_makes_of_write {o : TransformOptions} {fs after : FileSystem} {p : Paged}
    {out : String} (made : o.Makes fs p) (named : o.output = some out)
    (written : fs.write out p.sdl.toUTF8.toList = .ok after) :
    (Command.transform o).run fs = (⟨0, none, none⟩, after) := by
  have outcome : o.outcome fs = .ok (.silentSuccess, after) := by
    unfold TransformOptions.outcome
    rw [TransformOptions.sdl_of_makes made, named]
    simp only [bind, Except.bind, written]
    rfl
  unfold Command.run
  simp only [outcome]
  rfl

theorem run_of_stopped {o : TransformOptions} {fs : FileSystem} (stopped : o.Stopped fs) :
    ∃ message, message ≠ "" ∧ (Command.transform o).run fs = (⟨1, none, some message⟩, fs) := by
  obtain ⟨e, failed⟩ := TransformOptions.outcome_of_stopped stopped
  refine ⟨e.message, e.message_ne_empty, ?_⟩
  unfold Command.run
  simp only [failed]
  rfl

/-- The text written ends in the line feed that is missing where it is printed. -/
theorem run_of_not_stopped {o : TransformOptions} {fs : FileSystem} (free : ¬ o.Stopped fs) :
    ∃ p, o.Makes fs p ∧
      (o.output = none →
        (Command.transform o).run fs = (⟨0, some (Text.trimEnd p.sdl), none⟩, fs)) ∧
      ∀ out, o.output = some out → ∃ after text,
        (Command.transform o).run fs = (⟨0, none, none⟩, after) ∧
        fs.Written after out p.sdl.toUTF8.toList ∧
        (Command.transform { o with output := none }).run fs = (⟨0, some text, none⟩, fs) ∧
        p.sdl = text ++ "\n" := by
  obtain ⟨p, made⟩ := TransformOptions.makes_of_not_stopped free
  refine ⟨p, made, run_of_makes made, fun out named => ?_⟩
  cases written : fs.write out p.sdl.toUTF8.toList with
  | error e => exact absurd (.write made named written) free
  | ok after =>
      exact ⟨after, Text.trimEnd p.sdl, run_of_makes_of_write made named written,
        FileSystem.written_of_write_eq_ok written, run_of_makes made rfl,
        (TransformOptions.endsLine_of_makes made).eq_trimEnd_append⟩

/-- A transformation that something stops fails with a message and leaves the file system as it is.
Any other one succeeds: it prints the schema of the files without the white space at its end, or
writes what it would print and a line feed to its output, and nothing else in the file system
changes. -/
theorem run_transform (o : TransformOptions) (fs : FileSystem) :
    (o.Stopped fs → ∃ message, message ≠ "" ∧
      (Command.transform o).run fs = (⟨1, none, some message⟩, fs)) ∧
    (¬ o.Stopped fs → ∃ p, o.Makes fs p ∧
      (o.output = none →
        (Command.transform o).run fs = (⟨0, some (Text.trimEnd p.sdl), none⟩, fs)) ∧
      ∀ out, o.output = some out → ∃ after text,
        (Command.transform o).run fs = (⟨0, none, none⟩, after) ∧
        fs.Written after out p.sdl.toUTF8.toList ∧
        (Command.transform { o with output := none }).run fs = (⟨0, some text, none⟩, fs) ∧
        p.sdl = text ++ "\n") :=
  ⟨run_of_stopped, run_of_not_stopped⟩

/-- A directory with a schema in it, whose file is also the output. -/
def postsFiles : FileSystem where
  root := .directory [("api", .directory [("notes.txt", .file []), ("posts.graphql", .file
    "type Query { posts: [Post] @connection } type Post { id: ID }".toUTF8.toList)])]
  current := ["api"]

def postsOptions : TransformOptions where
  settings := .default
  extensions := defaultExtensions
  output := some "posts.graphql"
  paths := ["../api/posts.graphql"]

theorem run_transform_postsOptions :
    ∃ p, postsOptions.Makes postsFiles p ∧ ∃ after text,
      (Command.transform postsOptions).run postsFiles = (⟨0, none, none⟩, after) ∧
      postsFiles.Written after "posts.graphql" p.sdl.toUTF8.toList ∧
      (Command.transform { postsOptions with output := none }).run postsFiles =
        (⟨0, some text, none⟩, postsFiles) ∧
      p.sdl = text ++ "\n" := by
  have free : ¬ postsOptions.Stopped postsFiles := by
    intro stopped
    obtain ⟨message, -, failed⟩ := (run_transform postsOptions postsFiles).1 stopped
    have code : ((Command.transform postsOptions).run postsFiles).1.exitCode = 0 := by
      decide +kernel
    rw [failed] at code
    cases code
  obtain ⟨p, made, -, written⟩ := (run_transform postsOptions postsFiles).2 free
  exact ⟨p, made, written "posts.graphql" rfl⟩

end CommandLine

end PagedSchema
