/-
Names of files and paths made of them: the components of a path and the order that they give, and
the extensions that a name has.
-/
import PagedSchema.Files.Read
import PagedSchema.Proofs.Decoding
import Mathlib.Data.List.Forall2

namespace PagedSchema

namespace Path

section Splitting

variable (separator : Char)

theorem splitFrom_ne_nil (part cs : List Char) : splitFrom separator part cs ≠ [] := by
  induction cs generalizing part with
  | nil => exact List.cons_ne_nil _ _
  | cons c rest ih =>
      rw [splitFrom]
      split
      · exact List.cons_ne_nil _ _
      · exact ih (c :: part)

theorem splitFrom_append (part xs ys : List Char) :
    splitFrom separator part (xs ++ separator :: ys) =
      splitFrom separator part xs ++ splitFrom separator [] ys := by
  induction xs generalizing part with
  | nil => simp [splitFrom]
  | cons c rest ih =>
      simp only [List.cons_append, splitFrom]
      split
      · rw [ih]
        rfl
      · exact ih (c :: part)

theorem splitFrom_of_not_mem {cs : List Char} (absent : separator ∉ cs) (part : List Char) :
    splitFrom separator part cs = [part.reverse ++ cs] := by
  induction cs generalizing part with
  | nil => simp [splitFrom]
  | cons c rest ih =>
      rw [List.mem_cons, not_or] at absent
      rw [splitFrom, if_neg (Ne.symm absent.1), ih absent.2]
      simp

/-- Parts between separators have no separator in them, and only characters of the whole. -/
theorem of_mem_splitFrom {part cs segment : List Char} (plain : separator ∉ part)
    (member : segment ∈ splitFrom separator part cs) :
    separator ∉ segment ∧ ∀ c ∈ segment, c ∈ part ∨ c ∈ cs := by
  induction cs generalizing part with
  | nil =>
      cases List.mem_singleton.mp member
      exact ⟨fun inside => plain (List.mem_reverse.mp inside),
        fun c inside => .inl (List.mem_reverse.mp inside)⟩
  | cons d rest ih =>
      rw [splitFrom] at member
      split at member
      · rcases List.mem_cons.mp member with rfl | later
        · exact ⟨fun inside => plain (List.mem_reverse.mp inside),
            fun c inside => .inl (List.mem_reverse.mp inside)⟩
        · obtain ⟨clean, within⟩ := ih List.not_mem_nil later
          refine ⟨clean, fun c inside => .inr (List.mem_cons_of_mem d ?_)⟩
          exact (within c inside).resolve_left List.not_mem_nil
      · rename_i other
        have plain' := List.not_mem_cons_of_ne_of_not_mem (Ne.symm other) plain
        obtain ⟨clean, within⟩ := ih plain' member
        refine ⟨clean, fun c inside => ?_⟩
        rcases within c inside with started | ended
        · rcases List.mem_cons.mp started with rfl | before
          · exact .inr List.mem_cons_self
          · exact .inl before
        · exact .inr (List.mem_cons_of_mem d ended)

end Splitting

theorem split_slash_append (directory name : String) :
    split '/' (directory ++ "/" ++ name) = split '/' directory ++ split '/' name := by
  have slash : "/".toList = ['/'] := rfl
  unfold split
  rw [String.toList_append, String.toList_append, slash, List.append_assoc,
    List.singleton_append, splitFrom_append, List.map_append]

theorem split_eq_singleton {name : String} (plain : '/' ∉ name.toList) :
    split '/' name = [name] := by
  unfold split
  rw [splitFrom_of_not_mem '/' plain]
  simp

/-- A name that an entry of a directory can have. -/
def IsFileName (name : String) : Prop :=
  name ≠ "" ∧ name ≠ "." ∧ name ≠ ".." ∧ '/' ∉ name.toList ∧ '\x00' ∉ name.toList

instance (name : String) : Decidable (IsFileName name) := by
  unfold IsFileName
  infer_instance

theorem segments_eq_ok_iff {path : String} {parts : List String} :
    segments path = .ok parts ↔ path ≠ "" ∧ '\x00' ∉ path.toList ∧
      path.utf8ByteSize ≤ longestPath ∧ parts = split '/' path := by
  unfold segments
  by_cases empty : path = ""
  · simp [empty, bind, Except.bind, throw, throwThe, MonadExceptOf.throw]
  by_cases nul : '\x00' ∈ path.toList
  · simp [empty, nul, bind, Except.bind, throw, throwThe, MonadExceptOf.throw]
  by_cases long : longestPath < path.utf8ByteSize
  · simp [empty, nul, long, bind, Except.bind, throw, throwThe, MonadExceptOf.throw]
  · simp [empty, nul, long, Nat.not_lt.mp long, pure, Except.pure, eq_comm]

/-- The segments of a path can name files, apart from those that stay or lead up. -/
theorem isFileName_of_mem_segments {path name : String} {parts : List String}
    (accepted : segments path = .ok parts) (member : name ∈ parts)
    (plain : name ≠ "" ∧ name ≠ "." ∧ name ≠ "..") : IsFileName name := by
  obtain ⟨filled, point, points⟩ := plain
  obtain ⟨-, text, -, rfl⟩ := segments_eq_ok_iff.mp accepted
  obtain ⟨segment, present, rfl⟩ := List.mem_map.mp member
  obtain ⟨clean, within⟩ := of_mem_splitFrom '/' List.not_mem_nil present
  unfold IsFileName
  rw [String.toList_ofList]
  exact ⟨filled, point, points, clean,
    fun inside => text ((within _ inside).resolve_left List.not_mem_nil)⟩

/-- The components of a path: its segments without empty ones and single points. A slash in front
is the root, and a point in front stays. -/
def components (path : String) : List String :=
  match split '/' path with
  | [] => []
  | first :: rest => (if first = "" then "/" else first) :: rest.filter fun s => s ≠ "" ∧ s ≠ "."

/-- The order of paths by their components, and of components by their bytes. -/
def Precedes (p q : String) : Prop :=
  (components p).map Text.bytes < (components q).map Text.bytes

theorem Precedes.ne {p q : String} (lower : Precedes p q) : p ≠ q := by
  rintro rfl
  exact List.lt_irrefl _ lower

/-- The path that names lead to from a directory. -/
def extend (directory : String) (names : List String) : String := names.foldl join directory

theorem exists_split_eq_cons (path : String) : ∃ first rest, split '/' path = first :: rest := by
  apply List.exists_cons_of_ne_nil
  unfold split
  rw [ne_eq, List.map_eq_nil_iff]
  exact splitFrom_ne_nil '/' [] path.toList

theorem components_append {directory name : String} (named : IsFileName name) :
    components (directory ++ "/" ++ name) = components directory ++ [name] := by
  obtain ⟨filled, other, -, plain, -⟩ := named
  obtain ⟨first, rest, parts⟩ := exists_split_eq_cons directory
  unfold components
  rw [split_slash_append, split_eq_singleton plain, parts]
  simp [filled, other]

theorem components_append_slash (directory : String) :
    components (directory ++ "/") = components directory := by
  obtain ⟨first, rest, parts⟩ := exists_split_eq_cons directory
  have ended := split_slash_append directory ""
  rw [String.append_empty] at ended
  unfold components
  rw [ended, parts]
  simp [split, splitFrom]

/-- A slash at the end of a directory's path makes no difference. -/
theorem components_join {directory name : String} (named : IsFileName name) :
    components (join directory name) = components directory ++ [name] := by
  unfold join
  split
  · rename_i slashed
    obtain ⟨before, ends⟩ := List.getLast?_eq_some_iff.mp slashed
    have parted : directory = String.ofList before ++ "/" := by
      apply String.toList_inj.mp
      rw [ends, String.toList_append, String.toList_ofList]
      rfl
    rw [parted, components_append named, components_append_slash]
  · exact components_append named

theorem components_extend {names : List String} (named : ∀ name ∈ names, IsFileName name)
    (directory : String) : components (extend directory names) = components directory ++ names := by
  induction names generalizing directory with
  | nil => exact (List.append_nil _).symm
  | cons name rest ih =>
      rw [List.forall_mem_cons] at named
      change components (extend (join directory name) rest) = _
      rw [ih named.2, components_join named.1, List.append_assoc]
      rfl

/-- Paths below a directory are in the order of the names that lead to them. -/
theorem precedes_extend {xs ys : List String} (first : ∀ name ∈ xs, IsFileName name)
    (second : ∀ name ∈ ys, IsFileName name) (lower : xs < ys) (directory : String) :
    Precedes (extend directory xs) (extend directory ys) := by
  unfold Precedes
  rw [components_extend first, components_extend second, List.map_append, List.map_append]
  exact List.append_left_lt (List.map_lt (fun _ _ => Text.bytes_lt_of_lt) lower)

theorem utf8ByteSize_join (directory name : String) :
    directory.utf8ByteSize + name.utf8ByteSize ≤ (join directory name).utf8ByteSize := by
  unfold join
  split
  · rw [String.utf8ByteSize_append]
  · rw [String.utf8ByteSize_append, String.utf8ByteSize_append]
    omega

/-- A path from the current directory, without the character that no path has. -/
structure IsRelative (path : String) : Prop where
  starts : (split '/' path).head? ≠ some ""
  plain : '\x00' ∉ path.toList

theorem split_point (path : String) : split '/' ("./" ++ path) = "." :: split '/' path :=
  split_slash_append "." path

theorem utf8ByteSize_point (path : String) :
    ("./" ++ path).utf8ByteSize = 2 + path.utf8ByteSize := String.utf8ByteSize_append

theorem IsRelative.point {path : String} (relative : IsRelative path) :
    IsRelative ("./" ++ path) := by
  constructor
  · rw [split_point]
    simp
  · rw [String.toList_append, List.mem_append, not_or]
    exact ⟨by decide, relative.plain⟩

theorem IsRelative.segments_eq {path : String} (relative : IsRelative path)
    (fits : path.utf8ByteSize ≤ longestPath) : segments path = .ok (split '/' path) := by
  refine segments_eq_ok_iff.mpr ⟨?_, relative.plain, fits, rfl⟩
  rintro rfl
  exact relative.starts rfl

/-- The path with points in front. -/
def pointed : Nat → String → String
  | 0, path => path
  | n + 1, path => pointed n ("./" ++ path)

theorem utf8ByteSize_pointed (n : Nat) (path : String) :
    (pointed n path).utf8ByteSize = 2 * n + path.utf8ByteSize := by
  induction n generalizing path with
  | zero => rw [pointed, Nat.mul_zero, Nat.zero_add]
  | succ n ih =>
      rw [pointed, ih, utf8ByteSize_point]
      omega

theorem exists_of_extension?_eq_some {name ext : String} (found : extension? name = some ext) :
    ∃ stem, stem ≠ "" ∧ name = stem ++ "." ++ ext ∧ '.' ∉ ext.toList := by
  have whole := List.takeWhile_append_dropWhile (p := fun c => decide (c ≠ '.'))
    (l := name.toList.reverse)
  unfold extension? at found
  dsimp only at found
  generalize kept : name.toList.reverse.takeWhile _ = later at found whole
  generalize dropped : name.toList.reverse.dropWhile _ = earlier at found whole
  split at found
  · rename_i point last init
    cases found
    have pointed := List.head?_dropWhile_not (fun c => decide (c ≠ '.')) name.toList.reverse
    rw [dropped] at pointed
    refine ⟨String.ofList (last :: init).reverse, ?_, ?_, ?_⟩
    · simp
    · apply String.toList_inj.mp
      rw [← List.reverse_reverse name.toList, ← whole]
      simpa using pointed
    · rw [String.toList_ofList, List.mem_reverse, ← kept]
      intro member
      simpa using List.all_eq_true.mp List.all_takeWhile '.' member
  · cases found

theorem extension?_append {stem ext : String} (filled : stem ≠ "") (absent : '.' ∉ ext.toList) :
    extension? (stem ++ "." ++ ext) = some ext := by
  obtain ⟨last, init, ends⟩ : ∃ last init, stem.toList.reverse = last :: init :=
    List.exists_cons_of_ne_nil (by simpa using filled)
  have parted : (stem ++ "." ++ ext).toList.reverse =
      ext.toList.reverse ++ '.' :: last :: init := by
    rw [← ends]
    simp
  have others : ∀ c ∈ ext.toList.reverse, decide (c ≠ '.') = true := by
    intro c member
    rw [decide_eq_true_iff]
    rintro rfl
    exact absent (List.mem_reverse.mp member)
  unfold extension?
  dsimp only
  rw [parted, List.takeWhile_append_of_pos others, List.dropWhile_append_of_pos others]
  simp

/-- The extension stands after the last point, if something stands before it. -/
theorem extension?_eq_some_iff {name ext : String} :
    extension? name = some ext ↔
      ∃ stem, stem ≠ "" ∧ name = stem ++ "." ++ ext ∧ '.' ∉ ext.toList := by
  refine ⟨exists_of_extension?_eq_some, ?_⟩
  rintro ⟨stem, filled, rfl, absent⟩
  exact extension?_append filled absent

end Path

namespace Text

/-- A capital letter of the basic alphabet, and the same letter in lower case. -/
def IsCasePair (c d : Char) : Prop := 'A' ≤ c ∧ c ≤ 'Z' ∧ d.toNat = c.toNat + 32

instance (c d : Char) : Decidable (IsCasePair c d) := by
  unfold IsCasePair
  infer_instance

/-- The same text, but perhaps with some letters of the basic alphabet in the other case. -/
def SameLetters (s t : String) : Prop :=
  List.Forall₂ (fun c d => c = d ∨ IsCasePair c d ∨ IsCasePair d c) s.toList t.toList

instance (s t : String) : Decidable (SameLetters s t) := by
  unfold SameLetters
  infer_instance

theorem toNat_toLower (c : Char) :
    c.toLower.toNat = if 65 ≤ c.toNat ∧ c.toNat ≤ 90 then c.toNat + 32 else c.toNat := by
  have capital : c.val ≥ 'A'.val ∧ c.val ≤ 'Z'.val ↔ 65 ≤ c.toNat ∧ c.toNat ≤ 90 := by
    rw [ge_iff_le, UInt32.le_iff_toNat_le, UInt32.le_iff_toNat_le]
    rfl
  unfold Char.toLower
  split
  · rename_i letter
    rw [if_pos (capital.mp letter)]
    have small := (capital.mp letter).2
    change (c.val + 32).toNat = c.val.toNat + 32
    rw [UInt32.toNat_add]
    exact Nat.mod_eq_of_lt (by change c.toNat + 32 < _; omega)
  · rename_i other
    rw [if_neg (mt capital.mpr other)]

theorem toLower_eq_toLower_iff {c d : Char} :
    c.toLower = d.toLower ↔ c = d ∨ IsCasePair c d ∨ IsCasePair d c := by
  have capital (e : Char) : 'A' ≤ e ∧ e ≤ 'Z' ↔ 65 ≤ e.toNat ∧ e.toNat ≤ 90 := by
    rw [Char.le_def, Char.le_def, UInt32.le_iff_toNat_le, UInt32.le_iff_toNat_le]
    rfl
  unfold IsCasePair
  rw [← Char.toNat_inj, ← Char.toNat_inj, toNat_toLower, toNat_toLower, ← and_assoc, ← and_assoc,
    capital, capital]
  split <;> split <;> omega

theorem toLower_eq_iff_sameLetters {s t : String} : s.toLower = t.toLower ↔ SameLetters s t := by
  unfold SameLetters String.toLower
  simp only [← toLower_eq_toLower_iff]
  rw [← String.toList_inj, String.toList_map, String.toList_map, ← List.forall₂_eq_eq_eq,
    List.forall₂_map_left_iff, List.forall₂_map_right_iff]

theorem SameLetters.symm {s t : String} (same : SameLetters s t) : SameLetters t s :=
  toLower_eq_iff_sameLetters.mp (toLower_eq_iff_sameLetters.mpr same).symm

theorem SameLetters.trans {s t u : String} (first : SameLetters s t) (second : SameLetters t u) :
    SameLetters s u :=
  toLower_eq_iff_sameLetters.mp ((toLower_eq_iff_sameLetters.mpr first).trans
    (toLower_eq_iff_sameLetters.mpr second))

end Text

namespace Discovery

/-- An extension without the points in front of it. -/
def withoutPoints (extension : String) : String :=
  String.ofList (extension.toList.dropWhile (· = '.'))

/-- The part of the name behind its last point, with something before that point, is one of these
extensions but for points in front of them and for their case. -/
def HasExtension (extensions : List String) (name : String) : Prop :=
  ∃ stem ext, stem ≠ "" ∧ name = stem ++ "." ++ ext ∧ '.' ∉ ext.toList ∧
    ∃ given ∈ extensions, Text.SameLetters ext (withoutPoints given)

/-- The same extensions but for their order, repetitions, points in front of them and their case. -/
def SameExtensions (xs ys : List String) : Prop :=
  (∀ x ∈ xs, ∃ y ∈ ys, Text.SameLetters (withoutPoints x) (withoutPoints y)) ∧
  ∀ y ∈ ys, ∃ x ∈ xs, Text.SameLetters (withoutPoints x) (withoutPoints y)

instance (xs ys : List String) : Decidable (SameExtensions xs ys) := by
  unfold SameExtensions
  infer_instance

theorem hasExtension_iff {extensions : List String} {name : String} :
    hasExtension (extensions.map normalize) name ↔ HasExtension extensions name := by
  have listed (ext : String) : (extensions.map normalize).contains ext.toLower ↔
      ∃ given ∈ extensions, Text.SameLetters ext (withoutPoints given) := by
    rw [List.contains_iff_mem, List.mem_map]
    refine exists_congr fun given => and_congr_right fun _ => ?_
    rw [← Text.toLower_eq_iff_sameLetters, eq_comm]
    rfl
  simp only [hasExtension, Option.any_eq_true, Path.extension?_eq_some_iff, listed]
  constructor
  · rintro ⟨ext, ⟨stem, filled, named, absent⟩, wanted⟩
    exact ⟨stem, ext, filled, named, absent, wanted⟩
  · rintro ⟨stem, ext, filled, named, absent, wanted⟩
    exact ⟨ext, ⟨stem, filled, named, absent⟩, wanted⟩

theorem HasExtension.mono {xs ys : List String} {name : String} (has : HasExtension xs name)
    (covered : ∀ x ∈ xs, ∃ y ∈ ys, Text.SameLetters (withoutPoints x) (withoutPoints y)) :
    HasExtension ys name := by
  obtain ⟨stem, ext, filled, named, absent, x, given, same⟩ := has
  obtain ⟨y, given', same'⟩ := covered x given
  exact ⟨stem, ext, filled, named, absent, y, given', same.trans same'⟩

theorem hasExtension_congr {xs ys : List String} (same : SameExtensions xs ys) :
    hasExtension (xs.map normalize) = hasExtension (ys.map normalize) := by
  funext name
  rw [Bool.eq_iff_iff, hasExtension_iff, hasExtension_iff]
  constructor
  · exact fun has => has.mono same.1
  · intro has
    refine has.mono fun y given => ?_
    obtain ⟨x, given', letters⟩ := same.2 y given
    exact ⟨x, given', letters.symm⟩

end Discovery

end PagedSchema
