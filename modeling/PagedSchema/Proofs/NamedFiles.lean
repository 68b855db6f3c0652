/-
File systems in which every entry of a directory has a name that a file can have, and no two of a
directory have the same one. Writing a file, and so running a command, leaves one of them.
-/
import PagedSchema.CommandLine.Run
import PagedSchema.Proofs.FileTrees

namespace PagedSchema

structure NamedFiles extends FileSystem where
  named : root.WellNamed

namespace NamedFiles

open CommandLine

variable (fs : NamedFiles)

theorem wellNamed_of_find {path : String} {node : Node} (found : fs.find path = .ok node) :
    node.WellNamed := by
  obtain ⟨names, -, ends⟩ := exists_of_bind_eq_ok found
  split at ends
  · rename_i inner there
    cases ends
    exact (fs.named.at? there).2
  · cases ends

def relist {root : Node} (same : fs.root.Reordered root) : NamedFiles where
  root := root
  current := fs.current
  named := same.wellNamed fs.named

/-- A path leads to the same file or directory whichever way directories are listed, or fails to
lead anywhere for the same reason. -/
theorem find_relist {root : Node} (same : fs.root.Reordered root) (path : String) :
    (∃ e, fs.find path = .error e ∧ (fs.relist same).find path = .error e) ∨
      ∃ node node', fs.find path = .ok node ∧ (fs.relist same).find path = .ok node' ∧
        node.Reordered node' := by
  have resolved : (fs.relist same).resolve path = fs.resolve path := by
    unfold FileSystem.resolve
    simp only [FileSystem.follow_congr (same.map_bytes?_at? fs.named)]
    rfl
  unfold FileSystem.find
  rw [resolved]
  cases fs.resolve path with
  | error e => exact .inl ⟨e, rfl, rfl⟩
  | ok names =>
      simp only [bind, Except.bind]
      have related := same.at? fs.named names
      change Option.Rel _ _ ((fs.relist same).root.at? names) at related
      revert related
      generalize fs.root.at? names = x
      generalize (fs.relist same).root.at? names = y
      intro related
      cases related with
      | none => exact .inl ⟨.notFound, rfl, rfl⟩
      | some inside => exact .inr ⟨_, _, rfl, rfl, inside⟩

/-- A file is written by names of files, those that lead to its directory and its own. -/
theorem isFileName_of_target {path : String} {names : List String}
    (found : fs.target path = .ok names) : ∀ name ∈ names, Path.IsFileName name := by
  obtain ⟨parents, last, trail, entries, split, plain, rfl, -, there, -⟩ :=
    FileSystem.of_target_eq_ok found
  rw [List.forall_mem_append]
  constructor
  · exact (fs.named.at? there).1
  · rw [List.forall_mem_singleton]
    exact Path.isFileName_of_mem_segments split List.mem_concat_self plain

theorem wellNamed_of_write {path : String} {bytes : List UInt8} {after : FileSystem}
    (written : fs.write path bytes = .ok after) : after.root.WellNamed := by
  obtain ⟨names, found, put⟩ := exists_of_bind_eq_ok written
  cases put
  exact fs.named.put (.file bytes) (fs.isFileName_of_target found)

theorem wellNamed_of_outcome {o : TransformOptions} {result : CommandResult × FileSystem}
    (ended : o.outcome fs.toFileSystem = .ok result) : result.2.root.WellNamed := by
  obtain ⟨sdl, -, rest⟩ := exists_of_bind_eq_ok ended
  cases named : o.output with
  | none =>
      rw [named] at rest
      cases rest
      exact fs.named
  | some path =>
      rw [named] at rest
      obtain ⟨after, wrote, kept⟩ := exists_of_bind_eq_ok rest
      cases kept
      cases written : fs.write path sdl.toUTF8.toList with
      | error reason =>
          rw [written] at wrote
          cases wrote
      | ok after' =>
          rw [written] at wrote
          cases wrote
          exact fs.wellNamed_of_write written

/-- The file system that a command leaves. -/
def after (command : Command) : NamedFiles where
  toFileSystem := (command.run fs.toFileSystem).2
  named := by
    unfold Command.run
    split
    · exact fs.named
    · split
      · rename_i ended
        exact fs.wellNamed_of_outcome ended
      · exact fs.named

end NamedFiles

end PagedSchema
