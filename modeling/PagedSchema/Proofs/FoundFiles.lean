/-
Schema files found in directories: which they are, in which order they come, and what a search
cannot be led astray by.
-/
import PagedSchema.Proofs.NamedFiles
import Mathlib.Data.String.Basic

namespace PagedSchema

namespace Discovery

/-- Entries in the order of their names. -/
def byName (entries : List (String × Node)) : List (String × Node) :=
  entries.mergeSort fun a b => a.1 ≤ b.1

variable (keep : String → Bool)

/-- The files at an entry of the directory with this path. -/
def filesOf (path : String) (entry : String × Node) : Except SearchError (List String) :=
  if entry.2.isFile then .ok (if keep entry.1 then [Path.join path entry.1] else [])
  else filesBelow keep (Path.join path entry.1) entry.2

mutual

/-- The names that lead from a directory to the files whose names `keep` accepts. -/
def namesBelow : Node → List (List String)
  | .file _ => []
  | .directory entries => ((namesAt entries).mergeSort fun a b => a.1 ≤ b.1).flatMap (·.2)

def namesAt : List (String × Node) → List (String × List (List String))
  | [] => []
  | (name, node) :: rest =>
    (name,
      if node.isFile then (if keep name then [[name]] else [])
      else (namesBelow node).map (name :: ·)) :: namesAt rest

end

/-- The names that lead to the files at an entry of a directory. -/
def namesOf (entry : String × Node) : List (List String) :=
  if entry.2.isFile then (if keep entry.1 then [[entry.1]] else [])
  else (namesBelow keep entry.2).map (entry.1 :: ·)

theorem mergeSort_map_byName {β : Type} (f : String × Node → β) (entries : List (String × Node)) :
    ((entries.map fun entry => (entry.1, f entry)).mergeSort fun a b => a.1 ≤ b.1) =
      (byName entries).map fun entry => (entry.1, f entry) := by
  symm
  exact List.map_mergeSort fun _ _ _ _ => rfl

theorem filesAt_eq_map (path : String) (entries : List (String × Node)) :
    filesAt keep path entries = entries.map fun entry => (entry.1, filesOf keep path entry) := by
  induction entries with
  | nil => rw [filesAt, List.map_nil]
  | cons entry rest ih =>
      rw [filesAt, ih, List.map_cons]
      rfl

theorem filesBelow_directory (path : String) (entries : List (String × Node)) :
    filesBelow keep path (.directory entries) =
      if path.utf8ByteSize > longestPath then .error ⟨path, .nameTooLong⟩
      else List.flatten <$> (byName entries).mapM (filesOf keep path) := by
  rw [filesBelow, inOrder, filesAt_eq_map, mergeSort_map_byName, List.mapM_map]
  rfl

theorem namesAt_eq_map (entries : List (String × Node)) :
    namesAt keep entries = entries.map fun entry => (entry.1, namesOf keep entry) := by
  induction entries with
  | nil => rw [namesAt, List.map_nil]
  | cons entry rest ih =>
      rw [namesAt, ih, List.map_cons]
      rfl

theorem namesBelow_directory (entries : List (String × Node)) :
    namesBelow keep (.directory entries) = (byName entries).flatMap (namesOf keep) := by
  rw [namesBelow, namesAt_eq_map, mergeSort_map_byName, List.flatMap_map]

theorem mem_byName {entries : List (String × Node)} {entry : String × Node} :
    entry ∈ byName entries ↔ entry ∈ entries := List.mem_mergeSort

theorem byName_eq_self {entries : List (String × Node)}
    (sorted : entries.Pairwise fun a b => decide (a.1 ≤ b.1) = true) : byName entries = entries :=
  List.mergeSort_of_pairwise sorted

/-- Names in a directory differ, so each comes strictly after those before it. -/
theorem pairwise_byName {entries : List (String × Node)}
    (distinct : (entries.map Prod.fst).Nodup) :
    (byName entries).Pairwise fun a b => a.1 < b.1 := by
  have sorted : (byName entries).Pairwise fun a b => decide (a.1 ≤ b.1) = true :=
    List.pairwise_mergeSort (fun a b c first second => by
        rw [decide_eq_true_iff] at first second ⊢
        exact le_trans first second)
      (fun a b => by
        rw [Bool.or_eq_true, decide_eq_true_iff, decide_eq_true_iff]
        exact le_total a.1 b.1) entries
  have different : (byName entries).Pairwise fun a b => a.1 ≠ b.1 := by
    rw [← List.pairwise_map]
    exact ((List.mergeSort_perm entries _).map Prod.fst).nodup_iff.mpr distinct
  refine (sorted.and different).imp fun {a b} both => ?_
  exact lt_of_le_of_ne (decide_eq_true_iff.mp both.1) both.2

/-- Names lead from a tree to a file, and the last of them is wanted. -/
def LeadsTo (wanted : String → Prop) (node : Node) (names : List String) : Prop :=
  (∃ bytes, node.at? names = some (.file bytes)) ∧ ∃ last ∈ names.getLast?, wanted last

section Leading

variable {wanted : String → Prop}

theorem not_leadsTo_nil (node : Node) : ¬ LeadsTo wanted node [] := by
  rintro ⟨-, last, none, -⟩
  cases none

/-- The first name leads to a file and is wanted itself, or to a tree where the rest leads on. -/
theorem leadsTo_cons_iff {entries : List (String × Node)} {name : String} {rest : List String} :
    LeadsTo wanted (.directory entries) (name :: rest) ↔
      ∃ node, entries.lookup name = some node ∧
        if node.isFile then rest = [] ∧ wanted name else LeadsTo wanted node rest := by
  unfold LeadsTo
  rw [Node.at?_directory_cons]
  cases entries.lookup name with
  | none => simp
  | some node =>
      simp only [Option.bind_some, Option.some.injEq, exists_eq_left']
      cases node with
      | file bytes =>
          cases rest with
          | nil => simp [Node.at?, Node.isFile]
          | cons second rest => simp [Node.at?, Node.child?, Node.isFile]
      | directory es =>
          cases rest with
          | nil => simp [Node.at?, Node.isFile]
          | cons second rest => simp [Node.isFile]

end Leading

theorem mem_namesOf_iff {entry : String × Node} {names : List String} :
    names ∈ namesOf keep entry ↔
      ∃ rest, names = entry.1 :: rest ∧
        if entry.2.isFile then rest = [] ∧ keep entry.1 = true
        else rest ∈ namesBelow keep entry.2 := by
  unfold namesOf
  by_cases file : entry.2.isFile
  · simp only [file, if_true]
    by_cases wanted : keep entry.1 <;> simp [wanted]
  · simp only [file, Bool.false_eq_true, if_false, List.mem_map]
    constructor
    · rintro ⟨rest, member, rfl⟩
      exact ⟨rest, rfl, member⟩
    · rintro ⟨rest, rfl, member⟩
      exact ⟨rest, member, rfl⟩

/-- The names found in a tree are those that lead to wanted files. -/
theorem mem_namesBelow_iff {node : Node} (named : node.WellNamed) (names : List String) :
    names ∈ namesBelow keep node ↔ LeadsTo (keep · = true) node names := by
  induction node using Node.induction generalizing names with
  | file bytes =>
      rw [namesBelow]
      constructor
      · intro member
        cases member
      · rintro ⟨⟨found, there⟩, last, ends, -⟩
        cases names with
        | nil => cases ends
        | cons name rest => cases there
  | directory entries ih =>
      have below : ∀ entry ∈ entries, ∀ rest,
          rest ∈ namesBelow keep entry.2 ↔ LeadsTo (keep · = true) entry.2 rest :=
        fun entry member => ih entry member (named.entry member).2
      simp only [namesBelow_directory, List.mem_flatMap, mem_byName, mem_namesOf_iff]
      constructor
      · rintro ⟨entry, member, rest, rfl, inside⟩
        rw [leadsTo_cons_iff]
        refine ⟨entry.2, (lookup_eq_some_iff_mem named.distinct).mpr member, ?_⟩
        rwa [below entry member] at inside
      · intro leads
        cases names with
        | nil => exact absurd leads (not_leadsTo_nil _)
        | cons name rest =>
            obtain ⟨node, listed, leads⟩ := leadsTo_cons_iff.mp leads
            have member := (lookup_eq_some_iff_mem named.distinct).mp listed
            refine ⟨(name, node), member, rest, rfl, ?_⟩
            rwa [below (name, node) member]

/-- Names are found in their order. -/
theorem pairwise_namesBelow {node : Node} (named : node.WellNamed) :
    (namesBelow keep node).Pairwise (· < ·) := by
  induction node using Node.induction with
  | file bytes =>
      rw [namesBelow]
      exact List.Pairwise.nil
  | directory entries ih =>
      rw [namesBelow_directory, List.pairwise_flatMap]
      constructor
      · intro entry member
        rw [mem_byName] at member
        unfold namesOf
        split
        · split
          · exact List.pairwise_singleton _ _
          · exact List.Pairwise.nil
        · rw [List.pairwise_map]
          exact (ih entry member (named.entry member).2).imp fun lower =>
            List.cons_lt_cons_iff.mpr (.inr ⟨rfl, lower⟩)
      · -- The first names decide between entries.
        refine (pairwise_byName named.distinct).imp fun lower xs first ys second => ?_
        obtain ⟨rest, rfl, -⟩ := (mem_namesOf_iff keep).mp first
        obtain ⟨rest', rfl, -⟩ := (mem_namesOf_iff keep).mp second
        exact List.cons_lt_cons_iff.mpr (.inl lower)

theorem map_flatten_eq_ok_iff {ε α : Type} {x : Except ε (List (List α))} {results : List α} :
    List.flatten <$> x = .ok results ↔ ∃ parts, x = .ok parts ∧ parts.flatten = results := by
  cases x with
  | error e => simp [Functor.map, Except.map]
  | ok parts => simp [Functor.map, Except.map]

theorem map_flatten_eq_error_iff {ε α : Type} {x : Except ε (List (List α))} {e : ε} :
    List.flatten <$> x = .error e ↔ x = .error e := by
  cases x with
  | error e => simp [Functor.map, Except.map]
  | ok parts => simp [Functor.map, Except.map]

/-- A search that succeeds gives the paths of the names in the tree. -/
theorem eq_map_of_filesBelow_eq_ok {node : Node} {path : String} {files : List String}
    (found : filesBelow keep path node = .ok files) :
    files = (namesBelow keep node).map (Path.extend path) := by
  induction node using Node.induction generalizing path files with
  | file bytes =>
      rw [filesBelow] at found
      cases found
      rw [namesBelow, List.map_nil]
  | directory entries ih =>
      have one : ∀ entry ∈ entries, ∀ part, filesOf keep path entry = .ok part →
          part = (namesOf keep entry).map (Path.extend path) := by
        intro entry member part given
        unfold filesOf at given
        unfold namesOf
        split at given
        · rename_i file
          cases given
          rw [if_pos file]
          split <;> rfl
        · rename_i directory
          rw [if_neg directory, ih entry member given, List.map_map]
          rfl
      have all : ∀ l ⊆ entries, ∀ parts, l.mapM (filesOf keep path) = .ok parts →
          parts.flatten = (l.flatMap (namesOf keep)).map (Path.extend path) := by
        intro l listed
        induction l with
        | nil =>
            intro parts run
            cases run
            rfl
        | cons entry rest later =>
            intro parts run
            obtain ⟨part, others, first, following, rfl⟩ := mapM_cons_eq_ok_iff.mp run
            rw [List.cons_subset] at listed
            rw [List.flatten_cons, List.flatMap_cons, List.map_append,
              later listed.2 others following, one entry listed.1 part first]
      rw [filesBelow_directory] at found
      split at found
      · cases found
      · obtain ⟨parts, run, rfl⟩ := map_flatten_eq_ok_iff.mp found
        rw [namesBelow_directory]
        exact all _ (fun _ member => mem_byName.mp member) parts run

/-- A directory at or below the path of a tree has itself a path that is too long to be opened. -/
def TooDeep (path : String) (node : Node) : Prop :=
  ∃ names entries, node.at? names = some (.directory entries) ∧
    longestPath < (Path.extend path names).utf8ByteSize

theorem not_tooDeep_file (path : String) (bytes : List UInt8) : ¬ TooDeep path (.file bytes) := by
  rintro ⟨names, entries, there, -⟩
  cases names <;> cases there

theorem tooDeep_directory_iff {path : String} {entries : List (String × Node)}
    (distinct : (entries.map Prod.fst).Nodup) :
    TooDeep path (.directory entries) ↔
      longestPath < path.utf8ByteSize ∨
        ∃ entry ∈ entries, TooDeep (Path.join path entry.1) entry.2 := by
  constructor
  · rintro ⟨names, es, there, long⟩
    cases names with
    | nil => exact .inl long
    | cons name rest =>
        rw [Node.at?_directory_cons, Option.bind_eq_some_iff] at there
        obtain ⟨node, listed, there⟩ := there
        exact .inr ⟨_, (lookup_eq_some_iff_mem distinct).mp listed, rest, es, there, long⟩
  · rintro (long | ⟨⟨name, node⟩, member, rest, es, there, long⟩)
    · exact ⟨[], entries, rfl, long⟩
    · refine ⟨name :: rest, es, ?_, long⟩
      rw [Node.at?_directory_cons, (lookup_eq_some_iff_mem distinct).mpr member]
      exact there

theorem tooDeep_of_lookup {path name : String} {entries inner : List (String × Node)}
    (listed : entries.lookup name = some (.directory inner))
    (long : longestPath < (Path.join path name).utf8ByteSize) :
    TooDeep path (.directory entries) := by
  refine ⟨[name], inner, ?_, long⟩
  rw [Node.at?_directory_cons, listed]
  rfl

/-- A search fails where a directory is too deep, and nowhere else. -/
theorem exists_filesBelow_eq_error_iff {node : Node} (named : node.WellNamed) (path : String) :
    (∃ e, filesBelow keep path node = .error e) ↔ TooDeep path node := by
  induction node using Node.induction generalizing path with
  | file bytes =>
      rw [filesBelow]
      simp [not_tooDeep_file]
  | directory entries ih =>
      have one : ∀ entry ∈ entries, (∃ e, filesOf keep path entry = .error e) ↔
          TooDeep (Path.join path entry.1) entry.2 := by
        rintro ⟨name, node⟩ member
        unfold filesOf
        cases node with
        | file bytes => simp [Node.isFile, not_tooDeep_file]
        | directory es => exact ih _ member (named.entry member).2 _
      rw [filesBelow_directory, tooDeep_directory_iff named.distinct]
      by_cases long : longestPath < path.utf8ByteSize
      · simp [long]
      · rw [if_neg long]
        simp only [map_flatten_eq_error_iff, exists_mapM_eq_error_iff, mem_byName, long, false_or]
        exact exists_congr fun entry => and_congr_right (one entry)

theorem byName_eq_of_perm {entries entries' : List (String × Node)}
    (distinct : (entries.map Prod.fst).Nodup) (same : entries.Perm entries') :
    byName entries = byName entries' := by
  have distinct' : (entries'.map Prod.fst).Nodup := (same.map Prod.fst).nodup_iff.mp distinct
  refine List.Perm.eq_of_pairwise ?_ (pairwise_byName distinct) (pairwise_byName distinct') ?_
  · exact fun a b _ _ first second => absurd second (lt_asymm first)
  · exact ((List.mergeSort_perm entries _).trans same).trans (List.mergeSort_perm entries' _).symm

/-- A search finds the same whichever way directories are listed, or fails with the same error. -/
theorem filesBelow_reordered {a b : Node} (same : a.Reordered b) (named : a.WellNamed)
    (path : String) : filesBelow keep path a = filesBelow keep path b := by
  induction same generalizing path with
  | refl => rfl
  | entries same =>
      rw [filesBelow_directory, filesBelow_directory, byName_eq_of_perm named.distinct same]
  | @child before after name inner inner' inside ih =>
      have below := (named.entry (List.mem_append_right before List.mem_cons_self)).2
      have one : filesOf keep path (name, inner) = filesOf keep path (name, inner') := by
        unfold filesOf
        rw [inside.isFile, ih below]
      unfold filesBelow
      simp only [filesAt_eq_map, List.map_append, List.map_cons, one]
  | trans first second ih ih' => exact (ih named path).trans (ih' (first.wellNamed named) path)

end Discovery

namespace FileSystem

open Discovery

/-- Nothing is at the path, or a directory at or below it cannot be opened. -/
def Unsearchable (fs : FileSystem) (path : String) : Prop :=
  (∃ reason, fs.find path = .error reason) ∨ ∃ node, fs.find path = .ok node ∧ TooDeep path node

/-- What a search finds at a path: the file that it names, whatever its extension, or all files with
a wanted extension below the directory that it names, in the order of their paths. -/
inductive FoundAt (fs : FileSystem) (extensions : List String) (path : String) :
    List String → Prop
  | file {bytes : List UInt8} (there : fs.find path = .ok (.file bytes)) :
    FoundAt fs extensions path [path]
  | directory {entries : List (String × Node)} {files : List String}
    (there : fs.find path = .ok (.directory entries))
    (ordered : files.Pairwise Path.Precedes) (once : files.Nodup)
    (mem_iff : ∀ file, file ∈ files ↔ ∃ names, file = Path.extend path names ∧
      LeadsTo (HasExtension extensions) (.directory entries) names) :
    FoundAt fs extensions path files

section Searching

variable (fs : NamedFiles) {extensions : List String}

theorem exists_schemaFilesAt_eq_error_iff (path : String) :
    (∃ e, fs.schemaFilesAt extensions path = .error e) ↔ fs.Unsearchable path := by
  unfold schemaFilesAt Unsearchable
  cases there : fs.find path with
  | error reason => simp
  | ok node =>
      cases node with
      | file bytes => simp [not_tooDeep_file]
      | directory entries =>
          have below := exists_filesBelow_eq_error_iff (hasExtension (extensions.map normalize))
            (fs.wellNamed_of_find there) path
          simpa using below

theorem foundAt_of_schemaFilesAt_eq_ok {path : String} {files : List String}
    (found : fs.schemaFilesAt extensions path = .ok files) : fs.FoundAt extensions path files := by
  unfold schemaFilesAt at found
  split at found
  · cases found
  · rename_i bytes there
    cases found
    exact .file there
  · rename_i node plain there
    cases node with
    | file bytes => exact absurd rfl (plain bytes)
    | directory entries =>
        have inside := fs.wellNamed_of_find there
        rw [eq_map_of_filesBelow_eq_ok _ found]
        have wanted (names : List String) :
            names ∈ namesBelow (hasExtension (extensions.map normalize)) (.directory entries) ↔
              LeadsTo (HasExtension extensions) (.directory entries) names := by
          simp only [mem_namesBelow_iff _ inside, hasExtension_iff]
        have ordered : ((namesBelow (hasExtension (extensions.map normalize))
            (.directory entries)).map (Path.extend path)).Pairwise Path.Precedes := by
          rw [List.pairwise_map]
          refine (pairwise_namesBelow _ inside).imp_of_mem fun first second lower => ?_
          obtain ⟨⟨bytes, there⟩, -⟩ := (wanted _).mp first
          obtain ⟨⟨bytes', there'⟩, -⟩ := (wanted _).mp second
          exact Path.precedes_extend (inside.at? there).1 (inside.at? there').1 lower path
        refine .directory there ordered (ordered.imp Path.Precedes.ne) fun file => ?_
        rw [List.mem_map]
        refine exists_congr fun names => ?_
        rw [wanted, and_comm, eq_comm]

/-- The parts found at each path, in the order of the paths. -/
theorem foundAt_of_mapM_eq_ok {paths : List String} {parts : List (List String)}
    (found : paths.mapM (fs.schemaFilesAt extensions) = .ok parts) :
    List.Forall₂ (fs.FoundAt extensions) paths parts := by
  induction paths generalizing parts with
  | nil =>
      cases found
      exact .nil
  | cons path rest ih =>
      obtain ⟨files, others, first, following, rfl⟩ := mapM_cons_eq_ok_iff.mp found
      exact .cons (foundAt_of_schemaFilesAt_eq_ok fs first) (ih following)

theorem schemaFilesAt_relist {root' : Node} (same : fs.root.Reordered root') (path : String) :
    (fs.relist same).schemaFilesAt extensions path = fs.schemaFilesAt extensions path := by
  unfold schemaFilesAt
  rcases fs.find_relist same path with
    ⟨e, failed, failed'⟩ | ⟨node, node', there, there', alike⟩
  · rw [failed, failed']
  · rw [there, there']
    have kind := alike.bytes?
    have below := filesBelow_reordered (hasExtension (extensions.map normalize)) alike
      (fs.wellNamed_of_find there) path
    cases node with
    | file bytes =>
        cases node' with
        | file bytes' => rfl
        | directory es' => cases kind
    | directory es =>
        cases node' with
        | file bytes' => cases kind
        | directory es' => exact below.symm

theorem schemaFilesAt_congr {extensions' : List String}
    (same : SameExtensions extensions extensions') (path : String) :
    fs.schemaFilesAt extensions' path = fs.schemaFilesAt extensions path := by
  unfold schemaFilesAt
  dsimp only
  rw [hasExtension_congr same]

theorem exists_schemaFiles_eq_error_iff {paths : List String} :
    (∃ e, fs.schemaFiles extensions paths = .error e) ↔ ∃ path ∈ paths, fs.Unsearchable path := by
  unfold schemaFiles
  simp only [map_flatten_eq_error_iff, exists_mapM_eq_error_iff,
    exists_schemaFilesAt_eq_error_iff fs]

/-- A search fails if and only if it has a path that cannot be searched. Otherwise it gives what is
at each path, in the order of the paths. How directories list their entries makes no difference to
it, nor do the extensions' order and case, repetitions of them and points in front of them. -/
theorem schemaFiles_finds (extensions paths : List String) :
    ((∃ e, fs.schemaFiles extensions paths = .error e) ↔ ∃ path ∈ paths, fs.Unsearchable path) ∧
    (∀ files, fs.schemaFiles extensions paths = .ok files →
      ∃ parts, files = parts.flatten ∧ List.Forall₂ (fs.FoundAt extensions) paths parts) ∧
    (∀ root' (same : fs.root.Reordered root'),
      (fs.relist same).schemaFiles extensions paths = fs.schemaFiles extensions paths) ∧
    (∀ extensions', SameExtensions extensions extensions' →
      fs.schemaFiles extensions' paths = fs.schemaFiles extensions paths) := by
  refine ⟨exists_schemaFiles_eq_error_iff fs, ?_, ?_, ?_⟩
  · intro files found
    obtain ⟨parts, run, whole⟩ := map_flatten_eq_ok_iff.mp found
    exact ⟨parts, whole.symm, foundAt_of_mapM_eq_ok fs run⟩
  · intro root' same
    unfold schemaFiles
    rw [funext (schemaFilesAt_relist fs same)]
  · intro extensions' same
    unfold schemaFiles
    rw [funext (schemaFilesAt_congr fs same)]

end Searching

/-- A directory with files and directories, and a file beside it. -/
def mixedFiles : NamedFiles where
  root := .directory [
    ("api", .directory [
      ("a", .directory [(".graphql", .file []), ("b.GraphQLs", .file [])]),
      ("a-b", .directory [("x.graphql", .file [])]),
      ("a.graphql", .file []),
      ("notes.txt", .file [])]),
    ("plan.txt", .file [])]
  current := []
  named := by decide

theorem schemaFiles_mixedFiles_eq :
    mixedFiles.schemaFiles ["graphql", "graphqls"] ["plan.txt", "api"] =
      .ok ["plan.txt", "api/a/b.GraphQLs", "api/a-b/x.graphql", "api/a.graphql"] := by
  have below_a : filesBelow (hasExtension ["graphql", "graphqls"]) "api/a"
      (.directory [(".graphql", .file []), ("b.GraphQLs", .file [])]) =
      .ok ["api/a/b.GraphQLs"] := by
    rw [filesBelow_directory, byName_eq_self (by decide)]
    decide +kernel
  have below_b : filesBelow (hasExtension ["graphql", "graphqls"]) "api/a-b"
      (.directory [("x.graphql", .file [])]) = .ok ["api/a-b/x.graphql"] := by
    rw [filesBelow_directory, byName_eq_self (by decide)]
    decide +kernel
  have join_a : Path.join "api" "a" = "api/a" := by decide
  have join_b : Path.join "api" "a-b" = "api/a-b" := by decide
  have there : mixedFiles.find "api" = .ok (.directory [
      ("a", .directory [(".graphql", .file []), ("b.GraphQLs", .file [])]),
      ("a-b", .directory [("x.graphql", .file [])]),
      ("a.graphql", .file []),
      ("notes.txt", .file [])]) := by rfl
  have normal : ["graphql", "graphqls"].map normalize = ["graphql", "graphqls"] := by
    decide +kernel
  have api : mixedFiles.schemaFilesAt ["graphql", "graphqls"] "api" =
      .ok ["api/a/b.GraphQLs", "api/a-b/x.graphql", "api/a.graphql"] := by
    unfold schemaFilesAt
    rw [there, normal]
    dsimp only
    rw [filesBelow_directory, byName_eq_self (by decide)]
    simp only [List.mapM_cons, List.mapM_nil, filesOf, Node.isFile, Bool.false_eq_true, if_false,
      join_a, join_b, below_a, below_b]
    decide +kernel
  unfold schemaFiles
  rw [List.mapM_cons, List.mapM_cons, api]
  rfl

theorem schemaFiles_finds_mixedFiles :
    (∃ parts, ["plan.txt", "api/a/b.GraphQLs", "api/a-b/x.graphql", "api/a.graphql"] =
        parts.flatten ∧
      List.Forall₂ (mixedFiles.FoundAt ["graphql", "graphqls"]) ["plan.txt", "api"] parts) ∧
    mixedFiles.schemaFiles [".GraphQLs", "..graphql", "GRAPHQL"] ["plan.txt", "api"] =
      .ok ["plan.txt", "api/a/b.GraphQLs", "api/a-b/x.graphql", "api/a.graphql"] := by
  have same : SameExtensions ["graphql", "graphqls"] [".GraphQLs", "..graphql", "GRAPHQL"] := by
    decide +kernel
  obtain ⟨-, found, -, spelled⟩ :=
    schemaFiles_finds mixedFiles ["graphql", "graphqls"] ["plan.txt", "api"]
  refine ⟨found _ schemaFiles_mixedFiles_eq, ?_⟩
  rw [spelled _ same, schemaFiles_mixedFiles_eq]

/-- A directory with an empty directory and a schema file. -/
def archivedFiles : NamedFiles where
  root := .directory [("d", .directory
    [("archived-definitions", .directory []), ("x.graphql", .file [])])]
  current := []
  named := by decide

/-- A search can fail although its path leads to a directory: points in front of the path leave room
for the directory that it names, and not for one inside. -/
theorem exists_schemaFiles_eq_error_of_find_eq_ok :
    (∃ node, archivedFiles.find (Path.pointed 2038 "d") = .ok node) ∧
    ∃ e, archivedFiles.schemaFiles ["graphql"] [Path.pointed 2038 "d"] = .error e := by
  have there : archivedFiles.find (Path.pointed 2038 "d") = .ok (.directory
      [("archived-definitions", .directory []), ("x.graphql", .file [])]) := by
    rw [find_pointed rfl 2038 ⟨by decide, by decide⟩ (by decide)]
    rfl
  have long : longestPath <
      (Path.join (Path.pointed 2038 "d") "archived-definitions").utf8ByteSize := by
    have size := Path.utf8ByteSize_join (Path.pointed 2038 "d") "archived-definitions"
    rw [Path.utf8ByteSize_pointed] at size
    exact Nat.lt_of_lt_of_le (by decide) size
  have stuck : archivedFiles.Unsearchable (Path.pointed 2038 "d") :=
    .inr ⟨_, there, tooDeep_of_lookup rfl long⟩
  refine ⟨⟨_, there⟩, ?_⟩
  rw [exists_schemaFiles_eq_error_iff archivedFiles]
  exact ⟨Path.pointed 2038 "d", List.mem_singleton.mpr rfl, stuck⟩

end FileSystem

end PagedSchema
