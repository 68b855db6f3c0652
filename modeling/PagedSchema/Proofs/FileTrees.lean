/-
Trees of directories and files as they are listed. The order in which a directory lists its entries
makes no difference to where paths lead.
-/
import PagedSchema.Proofs.PathNames
import PagedSchema.Proofs.Tables
import PagedSchema.Proofs.WrittenFiles

namespace PagedSchema

theorem lookup_eq_some_iff_mem {κ α : Type} [DecidableEq κ] {entries : List (κ × α)}
    (distinct : (entries.map Prod.fst).Nodup) {k : κ} {v : α} :
    entries.lookup k = some v ↔ (k, v) ∈ entries := by
  refine ⟨mem_map_fst_of_lookup, fun member => ?_⟩
  cases found : entries.lookup k with
  | none =>
      rw [lookup_eq_none_iff_not_mem] at found
      exact absurd (List.mem_map_of_mem member) found
  | some w =>
      have same := List.inj_on_of_nodup_map distinct (mem_map_fst_of_lookup found) member rfl
      rw [(Prod.mk.inj same).2]

theorem lookup_eq_of_perm {κ α : Type} [DecidableEq κ] {entries entries' : List (κ × α)}
    (distinct : (entries.map Prod.fst).Nodup) (same : entries.Perm entries') (k : κ) :
    entries.lookup k = entries'.lookup k := by
  have distinct' : (entries'.map Prod.fst).Nodup := (same.map Prod.fst).nodup_iff.mp distinct
  apply Option.ext
  intro v
  rw [lookup_eq_some_iff_mem distinct, lookup_eq_some_iff_mem distinct', same.mem_iff]

theorem eq_or_mem_of_mem_upsertEntry {κ α : Type} [DecidableEq κ] {entries : List (κ × α)}
    (distinct : (entries.map Prod.fst).Nodup) {k : κ} {f : Option α → α} {entry : κ × α}
    (member : entry ∈ upsertEntry k f entries) :
    entry = (k, f (entries.lookup k)) ∨ entry ∈ entries := by
  have distinct' : ((upsertEntry k f entries).map Prod.fst).Nodup :=
    (Table.upsert ⟨entries, distinct⟩ k f).nodup
  obtain ⟨j, v⟩ := entry
  rw [← lookup_eq_some_iff_mem distinct', Table.lookup_upsertEntry] at member
  split at member
  · rename_i same
    rw [same, Option.some.inj member]
    exact .inl rfl
  · exact .inr (mem_map_fst_of_lookup member)

namespace Node

/-- What holds of files, and of directories if it holds of all that they list, holds of trees. -/
theorem induction {P : Node → Prop} (file : ∀ bytes, P (.file bytes))
    (directory : ∀ entries, (∀ entry ∈ entries, P entry.2) → P (.directory entries)) :
    ∀ node, P node
  | .file bytes => file bytes
  | .directory entries =>
    directory entries fun entry _ => induction file directory entry.2
termination_by node => sizeOf node
decreasing_by
  rename_i member
  have smaller := List.sizeOf_lt_of_mem member
  obtain ⟨name, node⟩ := entry
  simp only [Prod.mk.sizeOf_spec, Node.directory.sizeOf_spec] at smaller ⊢
  omega

/-- Directories list names of files, no name twice. -/
inductive WellNamed : Node → Prop
  | file (bytes : List UInt8) : WellNamed (.file bytes)
  | directory {entries : List (String × Node)} (distinct : (entries.map Prod.fst).Nodup)
    (named : ∀ entry ∈ entries, Path.IsFileName entry.1)
    (below : ∀ entry ∈ entries, WellNamed entry.2) : WellNamed (.directory entries)

/-- The same tree, with directories that perhaps list their entries in another order. -/
inductive Reordered : Node → Node → Prop
  | refl (node : Node) : Reordered node node
  | entries {es es' : List (String × Node)} (same : es.Perm es') :
    Reordered (.directory es) (.directory es')
  | child {before after : List (String × Node)} {name : String} {child child' : Node}
    (inside : Reordered child child') :
    Reordered (.directory (before ++ (name, child) :: after))
      (.directory (before ++ (name, child') :: after))
  | trans {a b c : Node} (first : Reordered a b) (second : Reordered b c) : Reordered a c

section Naming

variable {node : Node} {entries : List (String × Node)}

theorem WellNamed.distinct (named : (Node.directory entries).WellNamed) :
    (entries.map Prod.fst).Nodup := by
  cases named
  assumption

theorem WellNamed.entry (named : (Node.directory entries).WellNamed) {entry : String × Node}
    (member : entry ∈ entries) : Path.IsFileName entry.1 ∧ entry.2.WellNamed := by
  cases named with
  | directory distinct named below => exact ⟨named entry member, below entry member⟩

theorem wellNamed_directory_iff : (Node.directory entries).WellNamed ↔
    (entries.map Prod.fst).Nodup ∧ (∀ entry ∈ entries, Path.IsFileName entry.1) ∧
      ∀ entry ∈ entries, entry.2.WellNamed := by
  constructor
  · intro named
    exact ⟨named.distinct, fun _ member => (named.entry member).1,
      fun _ member => (named.entry member).2⟩
  · rintro ⟨distinct, spelled, below⟩
    exact .directory distinct spelled below

/-- Names lead down a well-named tree to well-named trees. -/
theorem WellNamed.at? (named : node.WellNamed) {names : List String} {inner : Node}
    (there : node.at? names = some inner) :
    (∀ name ∈ names, Path.IsFileName name) ∧ inner.WellNamed := by
  induction names generalizing node with
  | nil =>
      cases there
      exact ⟨fun _ member => absurd member List.not_mem_nil, named⟩
  | cons name rest ih =>
      cases node with
      | file bytes => cases there
      | directory entries =>
          rw [at?_directory_cons, Option.bind_eq_some_iff] at there
          obtain ⟨child, listed, there⟩ := there
          obtain ⟨spelled, inside⟩ := named.entry (mem_map_fst_of_lookup listed)
          obtain ⟨others, last⟩ := ih inside there
          exact ⟨List.forall_mem_cons.mpr ⟨spelled, others⟩, last⟩

/-- Names of files lead to a well-named tree that is put among well-named ones. -/
theorem WellNamed.put (named : node.WellNamed) {leaf : Node} (inside : leaf.WellNamed)
    {names : List String} (spelled : ∀ name ∈ names, Path.IsFileName name) :
    (Node.put leaf names node).WellNamed := by
  induction names generalizing node with
  | nil => exact inside
  | cons name rest ih =>
      rw [List.forall_mem_cons] at spelled
      cases node with
      | file bytes => exact named
      | directory entries =>
          have below : ∀ old, entries.lookup name = old →
              (Node.put leaf rest (old.getD (.directory []))).WellNamed := by
            rintro (_ | old) found
            · exact ih (.directory List.nodup_nil (by simp) (by simp)) spelled.2
            · exact ih (named.entry (mem_map_fst_of_lookup found)).2 spelled.2
          have each : ∀ entry ∈ upsertEntry name
              (fun old => Node.put leaf rest (old.getD (.directory []))) entries,
              Path.IsFileName entry.1 ∧ entry.2.WellNamed := by
            intro entry member
            rcases eq_or_mem_of_mem_upsertEntry named.distinct member with rfl | old
            · exact ⟨spelled.1, below _ rfl⟩
            · exact named.entry old
          exact .directory (Table.upsert ⟨entries, named.distinct⟩ name _).nodup
            (fun entry member => (each entry member).1) (fun entry member => (each entry member).2)

end Naming

mutual

def decidableWellNamed : (node : Node) → Decidable node.WellNamed
  | .file bytes => isTrue (.file bytes)
  | .directory entries =>
    have := decidableWellNamedEntries entries
    decidable_of_iff _ wellNamed_directory_iff.symm

def decidableWellNamedEntries :
    (entries : List (String × Node)) → Decidable (∀ entry ∈ entries, entry.2.WellNamed)
  | [] => isTrue fun _ member => absurd member List.not_mem_nil
  | (_, node) :: rest =>
    have := decidableWellNamed node
    have := decidableWellNamedEntries rest
    decidable_of_iff _ List.forall_mem_cons.symm

end

instance (node : Node) : Decidable node.WellNamed := decidableWellNamed node

section Reordering

variable {a b : Node}

theorem Reordered.bytes? (same : a.Reordered b) : a.bytes? = b.bytes? := by
  induction same with
  | refl | entries | child => rfl
  | trans first second ih ih' => exact ih.trans ih'

theorem Reordered.isFile (same : a.Reordered b) : a.isFile = b.isFile := by
  induction same with
  | refl | entries | child => rfl
  | trans first second ih ih' => exact ih.trans ih'

theorem Reordered.wellNamed (same : a.Reordered b) (named : a.WellNamed) : b.WellNamed := by
  induction same with
  | refl => exact named
  | entries same =>
      cases named with
      | directory distinct named below =>
          refine .directory ((same.map Prod.fst).nodup_iff.mp distinct) ?_ ?_
          · exact fun entry member => named entry (same.mem_iff.mpr member)
          · exact fun entry member => below entry (same.mem_iff.mpr member)
  | @child before after name inner inner' inside ih =>
      cases named with
      | directory distinct named below =>
          simp only [List.map_append, List.map_cons, List.forall_mem_append,
            List.forall_mem_cons] at distinct named below
          refine .directory ?_ ?_ ?_
          · simpa only [List.map_append, List.map_cons] using distinct
          · exact List.forall_mem_append.mpr ⟨named.1, List.forall_mem_cons.mpr named.2⟩
          · exact List.forall_mem_append.mpr ⟨below.1, List.forall_mem_cons.mpr
              ⟨ih below.2.1, below.2.2⟩⟩
  | trans first second ih ih' => exact ih' (ih named)

theorem Reordered.rel_refl (x : Option Node) : Option.Rel Reordered x x := by
  cases x with
  | none => exact .none
  | some node => exact .some (.refl node)

theorem Reordered.rel_trans {x y z : Option Node} (first : Option.Rel Reordered x y)
    (second : Option.Rel Reordered y z) : Option.Rel Reordered x z := by
  cases first with
  | none => exact second
  | some passed =>
      cases second with
      | some arrived => exact .some (passed.trans arrived)

/-- The same names lead to the same trees, up to the order of entries in them. -/
theorem Reordered.at? (same : a.Reordered b) (named : a.WellNamed) (names : List String) :
    Option.Rel Reordered (a.at? names) (b.at? names) := by
  induction same generalizing names with
  | refl node => exact rel_refl _
  | entries same =>
      cases names with
      | nil => exact .some (.entries same)
      | cons name rest =>
          rw [at?_directory_cons, at?_directory_cons, lookup_eq_of_perm named.distinct same]
          exact rel_refl _
  | @child before after name inner inner' inside ih =>
      cases names with
      | nil => exact .some (.child inside)
      | cons first rest =>
          have below := (named.entry (List.mem_append_right before List.mem_cons_self)).2
          rw [at?_directory_cons, at?_directory_cons, List.lookup_append, List.lookup_append,
            Table.lookup_cons_eq_ite, Table.lookup_cons_eq_ite]
          cases before.lookup first with
          | some other => exact rel_refl _
          | none =>
              rw [Option.none_or, Option.none_or]
              by_cases here : first = name
              · rw [if_pos here, if_pos here]
                exact ih below rest
              · rw [if_neg here, if_neg here]
                exact rel_refl _
  | trans first second ih ih' =>
      exact rel_trans (ih named names) (ih' (first.wellNamed named) names)

theorem Reordered.map_bytes?_at? (same : a.Reordered b) (named : a.WellNamed)
    (names : List String) : (a.at? names).map Node.bytes? = (b.at? names).map Node.bytes? := by
  have related := same.at? named names
  revert related
  generalize a.at? names = x
  generalize b.at? names = y
  intro related
  cases related with
  | none => rfl
  | some inside => exact congrArg some inside.bytes?

end Reordering

end Node

namespace FileSystem

/-- Where the same names lead to directories and the same ones to files, paths are followed to the
same names, or fail to be for the same reason. -/
theorem follow_congr {root root' : Node}
    (same : ∀ names, (root.at? names).map Node.bytes? = (root'.at? names).map Node.bytes?)
    (trail segments : List String) : follow root trail segments = follow root' trail segments := by
  induction segments generalizing trail with
  | nil => rfl
  | cons segment rest ih =>
      have here := same trail.reverse
      unfold follow
      cases there : root.at? trail.reverse with
      | none =>
          rw [there] at here
          rw [Option.map_eq_none_iff.mp here.symm]
      | some node =>
          rw [there] at here
          obtain ⟨node', there', kind⟩ := Option.map_eq_some_iff.mp here.symm
          rw [there']
          cases node with
          | file bytes =>
              cases node' with
              | file bytes' => rfl
              | directory es' => cases kind
          | directory es =>
              cases node' with
              | file bytes' => cases kind
              | directory es' =>
                  have listed : (es.lookup segment).isSome = (es'.lookup segment).isSome := by
                    have child := congrArg Option.isSome (same (trail.reverse ++ [segment]))
                    rwa [Option.isSome_map, Option.isSome_map, Node.at?_concat there,
                      Node.at?_concat there'] at child
                  simp only [listed, ih]

section Finding

variable {fs : FileSystem} {path : String}

theorem start_of_head?_ne {segments : List String} (starts : segments.head? ≠ some "") :
    fs.start segments = fs.current.reverse := by
  unfold start
  split
  · exact absurd rfl starts
  · rfl

/-- A point in front of a relative path makes no difference as long as the path is not too long. -/
theorem find_point {entries : List (String × Node)}
    (here : fs.root.at? fs.current = some (.directory entries)) (relative : Path.IsRelative path)
    (fits : 2 + path.utf8ByteSize ≤ longestPath) : fs.find ("./" ++ path) = fs.find path := by
  have short := relative.segments_eq (Nat.le_trans (Nat.le_add_left _ 2) fits)
  have long := relative.point.segments_eq (by rwa [Path.utf8ByteSize_point])
  have stays : follow fs.root fs.current.reverse ("." :: Path.split '/' path) =
      follow fs.root fs.current.reverse (Path.split '/' path) := by
    rw [follow, List.reverse_reverse, here]
    rfl
  unfold find resolve
  rw [short, long, Path.split_point]
  simp only [bind, Except.bind, start_of_head?_ne relative.starts]
  rw [start_of_head?_ne (by simp), stays]

theorem find_pointed {entries : List (String × Node)}
    (here : fs.root.at? fs.current = some (.directory entries)) (n : Nat)
    (relative : Path.IsRelative path) (fits : 2 * n + path.utf8ByteSize ≤ longestPath) :
    fs.find (Path.pointed n path) = fs.find path := by
  induction n generalizing path with
  | zero => rfl
  | succ n ih =>
      have more : 2 * n + ("./" ++ path).utf8ByteSize ≤ longestPath := by
        rw [Path.utf8ByteSize_point]
        omega
      rw [Path.pointed, ih relative.point more, find_point here relative (by omega)]

end Finding

end FileSystem

end PagedSchema
