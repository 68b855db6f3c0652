/-
Writing a file. The file is where the path leads afterwards, and everything else in the tree is as
it was.
-/
import PagedSchema.Files.FileSystem
import PagedSchema.Proofs.Runs

namespace PagedSchema

namespace Node

def bytes? : Node → Option (List UInt8)
  | file bytes => some bytes
  | directory _ => none

theorem bytes?_eq_none_iff {node : Node} : node.bytes? = none ↔ ∃ es, node = directory es := by
  cases node <;> simp [bytes?]

theorem at?_append (node : Node) (xs ys : List String) :
    node.at? (xs ++ ys) = (node.at? xs).bind (·.at? ys) := by
  induction xs generalizing node with
  | nil => rfl
  | cons name rest ih =>
      simp only [List.cons_append, at?, ih]
      cases node.child? name <;> rfl

theorem at?_concat {root : Node} {names : List String} {entries : List (String × Node)}
    (there : root.at? names = some (directory entries)) (name : String) :
    root.at? (names ++ [name]) = entries.lookup name := by
  rw [at?_append, there]
  change (entries.lookup name).bind some = _
  exact Option.bind_fun_some _

theorem at?_directory_cons (entries : List (String × Node)) (name : String) (rest : List String) :
    (directory entries).at? (name :: rest) = (entries.lookup name).bind (·.at? rest) := rfl

section Put

variable {root leaf : Node} {parents : List String} {name : String}
  {entries : List (String × Node)}

theorem at?_put (there : root.at? parents = some (directory entries)) :
    (put leaf (parents ++ [name]) root).at? (parents ++ [name]) = some leaf := by
  induction parents generalizing root with
  | nil =>
      cases there
      simp only [List.nil_append, put, at?_directory_cons, Table.lookup_upsertEntry, if_true]
      rfl
  | cons first rest ih =>
      cases root with
      | file bytes => cases there
      | directory children =>
          obtain ⟨child, present, below⟩ := Option.bind_eq_some_iff.mp there
          change children.lookup first = some child at present
          simp only [List.cons_append, put, at?_directory_cons, Table.lookup_upsertEntry, if_true,
            present, Option.getD_some, Option.bind_some]
          exact ih below

/-- Putting a file where no directory is leaves all other names what they led to: nothing, a
directory, or a file with the same bytes. -/
theorem bytes?_at?_put {bytes : List UInt8} (there : root.at? parents = some (directory entries))
    (plain : ∀ es, entries.lookup name ≠ some (directory es)) {names : List String}
    (other : names ≠ parents ++ [name]) :
    ((put (file bytes) (parents ++ [name]) root).at? names).map bytes? =
      (root.at? names).map bytes? := by
  induction parents generalizing root names with
  | nil =>
      cases there
      cases names with
      | nil => rfl
      | cons first rest =>
          simp only [List.nil_append, put, at?_directory_cons, Table.lookup_upsertEntry]
          by_cases same : first = name
          · -- Nothing was below the old file, and nothing is below the new one.
            subst same
            cases rest with
            | nil => exact absurd rfl other
            | cons second rest =>
                rw [if_pos rfl]
                cases old : entries.lookup first with
                | none => rfl
                | some node =>
                    cases node with
                    | file before => rfl
                    | directory es => exact absurd old (plain es)
          · rw [if_neg same]
  | cons parent parents ih =>
      cases root with
      | file bytes => cases there
      | directory children =>
          obtain ⟨child, present, below⟩ := Option.bind_eq_some_iff.mp there
          change children.lookup parent = some child at present
          cases names with
          | nil => rfl
          | cons first rest =>
              simp only [List.cons_append, put, at?_directory_cons, Table.lookup_upsertEntry]
              by_cases same : first = parent
              · subst same
                rw [if_pos rfl, present]
                exact ih below fun e => other (congrArg (first :: ·) e)
              · rw [if_neg same]

variable {bytes : List UInt8} {names : List String}

theorem exists_directory_at?_put (there : root.at? parents = some (directory entries))
    (plain : ∀ es, entries.lookup name ≠ some (directory es)) {es : List (String × Node)}
    (old : root.at? names = some (directory es)) :
    ∃ es', (put (file bytes) (parents ++ [name]) root).at? names = some (directory es') := by
  have other : names ≠ parents ++ [name] := by
    rintro rfl
    rw [at?_concat there] at old
    exact plain es old
  have same : ((put (file bytes) (parents ++ [name]) root).at? names).map bytes? = _ :=
    bytes?_at?_put there plain other
  rw [old] at same
  obtain ⟨node, found, empty⟩ := Option.map_eq_some_iff.mp same
  obtain ⟨es', rfl⟩ := bytes?_eq_none_iff.mp empty
  exact ⟨es', found⟩

theorem isSome_at?_put (there : root.at? parents = some (directory entries))
    (plain : ∀ es, entries.lookup name ≠ some (directory es))
    (old : (root.at? names).isSome) :
    ((put (file bytes) (parents ++ [name]) root).at? names).isSome := by
  by_cases target : names = parents ++ [name]
  · rw [target, at?_put there]
    rfl
  · rw [← Option.isSome_map (f := bytes?), bytes?_at?_put there plain target, Option.isSome_map]
    exact old

end Put

end Node

namespace FileSystem

section Following

variable {root : Node} {trail : List String}

theorem follow_append (root : Node) (trail xs ys : List String) :
    follow root trail (xs ++ ys) = (follow root trail xs).bind (follow root · ys) := by
  induction xs generalizing trail with
  | nil => rfl
  | cons segment rest ih =>
      simp only [List.cons_append, follow]
      split
      · split
        · exact ih _
        · split
          · exact ih _
          · split
            · exact ih _
            · rfl
      · rfl
      · rfl

/-- A point at the end of a path stays in the directory that the path before it leads to. -/
theorem of_follow_concat_point {segments after : List String}
    (reached : follow root trail (segments ++ ["."]) = .ok after) :
    follow root trail segments = .ok after ∧
      ∃ entries, root.at? after.reverse = some (.directory entries) := by
  rw [follow_append] at reached
  obtain ⟨before, inside, stayed⟩ := exists_of_bind_eq_ok reached
  unfold follow at stayed
  cases here : root.at? before.reverse with
  | none =>
      rw [here] at stayed
      cases stayed
  | some node =>
      rw [here] at stayed
      cases node with
      | file bytes => cases stayed
      | directory entries =>
          cases stayed
          exact ⟨inside, entries, here⟩

theorem follow_name {entries : List (String × Node)} {name : String}
    (here : root.at? trail.reverse = some (.directory entries))
    (plain : name ≠ "" ∧ name ≠ "." ∧ name ≠ "..") (present : (entries.lookup name).isSome) :
    follow root trail [name] = .ok (name :: trail) := by
  unfold follow
  simp only [here, plain, decide_false, Bool.or_false, Bool.false_eq_true, if_false, present,
    if_true]
  rfl

/-- A path leads to the same names in a tree that has a directory at least where the other one has,
and something at least where the other one has. -/
theorem follow_of_follow {root' : Node}
    (directories : ∀ names es, root.at? names = some (.directory es) →
      ∃ es', root'.at? names = some (.directory es'))
    (present : ∀ names, (root.at? names).isSome → (root'.at? names).isSome)
    {segments after : List String} (reached : follow root trail segments = .ok after) :
    follow root' trail segments = .ok after := by
  induction segments generalizing trail with
  | nil => exact reached
  | cons segment rest ih =>
      unfold follow at reached ⊢
      cases here : root.at? trail.reverse with
      | none =>
          rw [here] at reached
          cases reached
      | some node =>
          cases node with
          | file bytes =>
              rw [here] at reached
              cases reached
          | directory entries =>
              obtain ⟨entries', here'⟩ := directories _ _ here
              simp only [here] at reached
              simp only [here']
              by_cases stays : segment = "" || segment = "."
              · rw [if_pos stays] at reached ⊢
                exact ih reached
              rw [if_neg stays] at reached ⊢
              by_cases up : segment = ".."
              · rw [if_pos up] at reached ⊢
                exact ih reached
              rw [if_neg up] at reached ⊢
              by_cases known : (entries.lookup segment).isSome
              · have known' : (entries'.lookup segment).isSome := by
                  rw [← Node.at?_concat here']
                  exact present _ (by rwa [Node.at?_concat here])
                rw [if_pos known] at reached
                rw [if_pos known']
                exact ih reached
              · rw [if_neg known] at reached
                cases reached

end Following

/-- Segments of which none is dropped for being empty at the end have a last name. -/
theorem segments_eq_concat {segments parents : List String} {name : String}
    (kept : segments.reverse.dropWhile (· = "") = name :: parents)
    (whole : ¬ (name :: parents).length < segments.length) :
    name ≠ "" ∧ segments = parents.reverse ++ [name] := by
  constructor
  · have first := List.head?_dropWhile_not (fun s => decide (s = "")) segments.reverse
    rw [kept] at first
    simpa using first
  · have reversed : name :: parents = segments.reverse := by
      rw [← kept]
      apply (List.dropWhile_suffix _).eq_of_length
      have shorter := (List.dropWhile_suffix (· = "") (l := segments.reverse)).length_le
      rw [kept, List.length_reverse] at shorter ⊢
      omega
    rw [← List.reverse_reverse segments, ← reversed, List.reverse_cons]

/-- A path is written to by its last name, in the directory that the rest of it leads to. No
directory has that name. -/
theorem of_target_eq_ok {fs : FileSystem} {path : String} {names : List String}
    (found : fs.target path = .ok names) :
    ∃ parents name trail entries, Path.segments path = .ok (parents ++ [name]) ∧
      (name ≠ "" ∧ name ≠ "." ∧ name ≠ "..") ∧ names = trail.reverse ++ [name] ∧
      follow fs.root (fs.start (parents ++ [name])) parents = .ok trail ∧
      fs.root.at? trail.reverse = some (.directory entries) ∧
      ∀ es, entries.lookup name ≠ some (.directory es) := by
  obtain ⟨segments, split, parted⟩ := exists_of_bind_eq_ok found
  cases kept : segments.reverse.dropWhile (· = "") with
  | nil =>
      simp only [kept] at parted
      cases parted
  | cons name parents =>
      simp only [kept] at parted
      obtain ⟨trail, reached, ended⟩ := exists_of_bind_eq_ok parted
      obtain ⟨before, entries, there⟩ := of_follow_concat_point reached
      by_cases ends : decide ((name :: parents).length < segments.length) ||
          decide (name = ".") || decide (name = "..")
      · rw [if_pos ends] at ended
        cases ended
      rw [if_neg ends] at ended
      simp only [Bool.or_eq_true, decide_eq_true_eq, not_or] at ends
      obtain ⟨⟨whole, point⟩, points⟩ := ends
      obtain ⟨filled, rfl⟩ := segments_eq_concat kept whole
      have last := Node.at?_concat there name
      rw [← List.reverse_cons] at last
      refine ⟨parents.reverse, name, trail, entries, split, ⟨filled, point, points⟩, ?_, before,
        there, ?_⟩
      · rw [← List.reverse_cons]
        split at ended
        · cases ended
        · exact (Except.ok.inj ended).symm
        · split at ended
          · cases ended
          · exact (Except.ok.inj ended).symm
      · intro es directory
        rw [last, directory] at ended
        cases ended

section Writing

variable {fs : FileSystem} {path : String} {names : List String}

/-- The path leads to a file with the bytes afterwards, and all other names in the tree lead to what
they led to before: nothing, a directory, or a file with the same bytes. -/
structure Written (before after : FileSystem) (path : String) (bytes : List UInt8) : Prop where
  there : after.find path = .ok (.file bytes)
  current : after.current = before.current
  others : ∀ names, after.resolve path ≠ .ok names →
    (after.root.at? names).map Node.bytes? = (before.root.at? names).map Node.bytes?

theorem resolve_put_of_target (found : fs.target path = .ok names) (bytes : List UInt8) :
    resolve { fs with root := Node.put (.file bytes) names fs.root } path = .ok names := by
  obtain ⟨parents, name, trail, entries, split, spelled, rfl, reached, there, plain⟩ :=
    of_target_eq_ok found
  obtain ⟨entries', there'⟩ : ∃ es, (Node.put (.file bytes) (trail.reverse ++ [name]) fs.root).at?
      trail.reverse = some (.directory es) := Node.exists_directory_at?_put there plain there
  have known : (entries'.lookup name).isSome := by
    rw [← Node.at?_concat there', Node.at?_put there]
    rfl
  have whole : follow (Node.put (.file bytes) (trail.reverse ++ [name]) fs.root)
      (fs.start (parents ++ [name])) (parents ++ [name]) = .ok (name :: trail) := by
    rw [follow_append, follow_of_follow (fun _ _ => Node.exists_directory_at?_put there plain)
      (fun _ => Node.isSome_at?_put there plain) reached]
    exact follow_name there' spelled known
  unfold resolve
  rw [split]
  change (follow _ (fs.start (parents ++ [name])) (parents ++ [name])).map List.reverse = _
  rw [whole, ← List.reverse_cons]
  rfl

theorem written_of_write_eq_ok {fs' : FileSystem} {bytes : List UInt8}
    (written : fs.write path bytes = .ok fs') : fs.Written fs' path bytes := by
  unfold write at written
  cases found : fs.target path with
  | error e =>
      rw [found] at written
      cases written
  | ok names =>
      rw [found] at written
      cases written
      have resolved := resolve_put_of_target found bytes
      obtain ⟨parents, name, trail, entries, -, -, rfl, -, there, plain⟩ := of_target_eq_ok found
      constructor
      case there =>
        unfold find
        simp only [resolved, bind, Except.bind, Node.at?_put there]
        rfl
      case current => rfl
      case others =>
        intro other elsewhere
        refine Node.bytes?_at?_put there plain fun same => elsewhere ?_
        rw [resolved, same]

end Writing

end FileSystem

end PagedSchema
