/-
Loading sources one after the other. It succeeds if each of them can be read, and the definitions
are then those of the sources in order.
-/
import PagedSchema.Sources

namespace PagedSchema

/-- What is loaded at one time: a text, definitions that are read already, or files. -/
inductive Load
  | text (path : Option String) (content : String)
  | definitions (path : Option String) (definitions : List Definition)
  | files (paths : List String)

def Sources.load (fs : FileSystem) (s : Sources) : Load → Except LoadError Sources
  | .text path content => s.addText path content
  | .definitions path ds => .ok (s.add path ds)
  | .files paths => s.addFiles fs paths

/-- Loads in order, up to the first one that fails. -/
def Sources.loadAll (fs : FileSystem) (s : Sources) (loads : List Load) :
    Except LoadError Sources :=
  loads.foldlM (fun s load => s.load fs load) s

/-- The definitions in a file, if it can be read. -/
def FileSystem.definitions? (fs : FileSystem) (path : String) : Option (List Definition) :=
  (fs.readText path).toOption.bind fun text => (Sdl.parse text).toOption

/-- The definitions of a source, if it can be read. -/
def Load.definitions? (fs : FileSystem) : Load → Option (List Definition)
  | text _ content => (Sdl.parse content).toOption
  | definitions _ ds => some ds
  | files paths => (paths.mapM fs.definitions?).map List.flatten

namespace Sources

/-- The definitions after a load that succeeds. -/
def loaded (result : Except LoadError Sources) : Option (List Definition) :=
  result.toOption.map (·.document.definitions)

theorem loaded_eq_none_iff {result : Except LoadError Sources} :
    loaded result = none ↔ ∃ e, result = .error e := by
  cases result with
  | error e => simp [loaded, Except.toOption]
  | ok t => simp [loaded, Except.toOption]

theorem loaded_eq_some_iff {result : Except LoadError Sources} {ds : List Definition} :
    loaded result = some ds ↔ ∃ t, result = .ok t ∧ t.document.definitions = ds := by
  cases result with
  | error e => simp [loaded, Except.toOption]
  | ok t => simp [loaded, Except.toOption]

theorem definitions_add (s : Sources) (path : Option String) (ds : List Definition) :
    (s.add path ds).document.definitions = s.document.definitions ++ ds := by
  unfold add Document.definitions Document.ofSource
  rw [List.map_append, List.map_map]
  exact congrArg (_ ++ ·) (List.map_id ds)

theorem loaded_addText (s : Sources) (path : Option String) (text : String) :
    loaded (s.addText path text) =
      (Sdl.parse text).toOption.map (s.document.definitions ++ ·) := by
  unfold addText
  cases Sdl.parse text with
  | error position => rfl
  | ok ds => exact congrArg some (s.definitions_add path ds)

theorem loaded_addFile (fs : FileSystem) (s : Sources) (path : String) :
    loaded (s.addFile fs path) = (fs.definitions? path).map (s.document.definitions ++ ·) := by
  unfold addFile FileSystem.definitions?
  cases fs.readText path with
  | error e => rfl
  | ok text => exact s.loaded_addText path text

/-- A walk whose steps each add the definitions that they read adds all of them. -/
theorem loaded_foldlM {α : Type} {step : Sources → α → Except LoadError Sources}
    {reads : α → Option (List Definition)}
    (each : ∀ s a, loaded (step s a) = (reads a).map (s.document.definitions ++ ·))
    (s : Sources) (l : List α) :
    loaded (l.foldlM step s) =
      (l.mapM reads).map fun dss => s.document.definitions ++ dss.flatten := by
  induction l generalizing s with
  | nil => exact congrArg some (List.append_nil _).symm
  | cons a rest ih =>
      have first := each s a
      rw [List.foldlM_cons, List.mapM_cons]
      cases read : reads a with
      | none =>
          rw [read] at first
          obtain ⟨e, failed⟩ := loaded_eq_none_iff.mp first
          rw [failed]
          rfl
      | some ds =>
          rw [read] at first
          obtain ⟨t, run, added⟩ := loaded_eq_some_iff.mp first
          rw [run]
          change loaded (rest.foldlM step t) = _
          rw [ih, added]
          cases rest.mapM reads with
          | none => rfl
          | some dss => exact congrArg some (List.append_assoc ..)

theorem loaded_load (fs : FileSystem) (s : Sources) (load : Load) :
    loaded (s.load fs load) = (load.definitions? fs).map (s.document.definitions ++ ·) := by
  cases load with
  | text path content => exact s.loaded_addText path content
  | definitions path ds => exact congrArg some (s.definitions_add path ds)
  | files paths =>
      rw [Load.definitions?, Option.map_map]
      exact loaded_foldlM (loaded_addFile fs) s paths

theorem loaded_loadAll (fs : FileSystem) (s : Sources) (loads : List Load) :
    loaded (s.loadAll fs loads) =
      (loads.mapM (Load.definitions? fs)).map fun dss => s.document.definitions ++ dss.flatten :=
  loaded_foldlM (loaded_load fs) s loads

/-- Loads fail or succeed whatever was loaded before, and add the same definitions to it. -/
theorem loadAll_together (fs : FileSystem) (s t : Sources) (loads : List Load) :
    (∃ e e', s.loadAll fs loads = .error e ∧ t.loadAll fs loads = .error e') ∨
      ∃ s' t' ds, s.loadAll fs loads = .ok s' ∧ t.loadAll fs loads = .ok t' ∧
        s'.document.definitions = s.document.definitions ++ ds ∧
        t'.document.definitions = t.document.definitions ++ ds := by
  have first := s.loaded_loadAll fs loads
  have second := t.loaded_loadAll fs loads
  cases read : loads.mapM (Load.definitions? fs) with
  | none =>
      rw [read] at first second
      obtain ⟨e, failed⟩ := loaded_eq_none_iff.mp first
      obtain ⟨e', failed'⟩ := loaded_eq_none_iff.mp second
      exact .inl ⟨e, e', failed, failed'⟩
  | some dss =>
      rw [read] at first second
      obtain ⟨s', run, added⟩ := loaded_eq_some_iff.mp first
      obtain ⟨t', run', added'⟩ := loaded_eq_some_iff.mp second
      exact .inr ⟨s', t', dss.flatten, run, run', added, added'⟩

end Sources

end PagedSchema
