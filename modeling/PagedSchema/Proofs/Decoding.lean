/-
Text and the bytes that encode it: texts are in the same order by their characters and by their
bytes, and what bytes are the encoding of a text, and where others stop to be one.
-/
import PagedSchema.Text.Plain
import Mathlib.Data.List.Lex
import Mathlib.Order.Bounds.Basic

namespace PagedSchema.Text

/-- The bytes of a text in UTF-8. -/
def bytes (s : String) : List UInt8 := s.toUTF8.data.toList

/-- The bytes of these characters. -/
def encode (cs : List Char) : List UInt8 := cs.flatMap String.utf8EncodeChar

theorem encode_cons (c : Char) (cs : List Char) :
    encode (c :: cs) = String.utf8EncodeChar c ++ encode cs := List.flatMap_cons

theorem encode_append (cs ds : List Char) : encode (cs ++ ds) = encode cs ++ encode ds :=
  List.flatMap_append

theorem bytes_eq_encode (s : String) : bytes s = encode s.toList := by
  unfold bytes encode
  rw [String.toUTF8_eq_toByteArray]
  conv_lhs => rw [← String.ofList_toList (s := s), String.toByteArray_ofList]
  simp [List.utf8Encode]

theorem toNat_lt_of_char (c : Char) : c.val.toNat < 1114112 := by
  rcases c.valid with small | ⟨-, small⟩
  · omega
  · exact small

/-- Characters in order have encodings in order, whatever follows: these differ in some byte that
both of them have. -/
theorem utf8EncodeChar_append_lt {c d : Char} (lower : c < d) (xs ys : List UInt8) :
    String.utf8EncodeChar c ++ xs < String.utf8EncodeChar d ++ ys := by
  have below : c.val.toNat < d.val.toNat := UInt32.lt_iff_toNat_lt.mp lower
  have bound := toNat_lt_of_char d
  unfold String.utf8EncodeChar
  dsimp only
  generalize c.val.toNat = v at below
  generalize d.val.toNat = w at below bound
  have digits (n : Nat) : n / 64 / 64 = n / 4096 ∧ n / 4096 / 64 = n / 262144 := by omega
  have first := digits v
  have second := digits w
  split_ifs <;>
    simp only [List.cons_append, List.cons_lt_cons_iff, UInt8.lt_iff_toNat_lt, ← UInt8.toNat_inj,
      UInt8.toNat_ofNat', Nat.reducePow] <;>
    simp (disch := omega) only [Nat.mod_eq_of_lt] <;>
    omega

theorem encode_lt {cs ds : List Char} (lower : cs < ds) : encode cs < encode ds := by
  induction lower with
  | @nil d ds =>
      rw [encode_cons]
      obtain ⟨b, bs, encoded⟩ := List.exists_cons_of_ne_nil (@String.utf8EncodeChar_ne_nil d)
      rw [encoded]
      exact List.nil_lt_cons b _
  | cons later ih =>
      rw [encode_cons, encode_cons]
      exact List.append_left_lt ih
  | rel lower =>
      rw [encode_cons, encode_cons]
      exact utf8EncodeChar_append_lt lower _ _

/-- A text that comes first by its characters comes first by its bytes. -/
theorem bytes_lt_of_lt {s t : String} (lower : s < t) : bytes s < bytes t := by
  rw [bytes_eq_encode, bytes_eq_encode]
  exact encode_lt lower

/-- The bytes of the character with a number: its digits to the base 64, with marks at the start of
each byte that say how many bytes there are. -/
inductive IsForm (v : Nat) : List UInt8 → Prop
  | one {a : UInt8} (small : v < 0x80) (first : a.toNat = v) : IsForm v [a]
  | two {a b : UInt8} (large : 0x80 ≤ v) (small : v < 0x800) (first : a.toNat = 0xC0 + v / 64)
    (second : b.toNat = 0x80 + v % 64) : IsForm v [a, b]
  | three {a b c : UInt8} (large : 0x800 ≤ v) (small : v < 0x10000)
    (plain : v < 0xD800 ∨ 0xDFFF < v) (first : a.toNat = 0xE0 + v / 4096)
    (second : b.toNat = 0x80 + v / 64 % 64) (third : c.toNat = 0x80 + v % 64) : IsForm v [a, b, c]
  | four {a b c d : UInt8} (large : 0x10000 ≤ v) (small : v < 0x110000)
    (first : a.toNat = 0xF0 + v / 262144) (second : b.toNat = 0x80 + v / 4096 % 64)
    (third : c.toNat = 0x80 + v / 64 % 64) (fourth : d.toNat = 0x80 + v % 64) :
    IsForm v [a, b, c, d]

theorem isForm_utf8EncodeChar (c : Char) : IsForm c.toNat (String.utf8EncodeChar c) := by
  have bound := toNat_lt_of_char c
  have plain : c.val.toNat < 0xD800 ∨ 0xDFFF < c.val.toNat := by
    rcases c.valid with small | ⟨large, -⟩
    · exact .inl small
    · exact .inr large
  have byte (m n : Nat) (same : m = n) (small : n < 256) : (UInt8.ofNat m).toNat = n := by
    rw [same]
    exact UInt8.toNat_ofNat_of_lt' small
  unfold String.utf8EncodeChar Char.toNat
  dsimp only
  generalize c.val.toNat = v at bound plain ⊢
  split_ifs
  · apply IsForm.one <;> first | omega | (apply byte <;> omega)
  · apply IsForm.two <;> first | omega | (apply byte <;> omega)
  · apply IsForm.three <;> first | omega | (apply byte <;> omega)
  · apply IsForm.four <;> first | omega | (apply byte <;> omega)

theorem IsForm.unique {v : Nat} {form form' : List UInt8} (one : IsForm v form)
    (other : IsForm v form') : form = form' := by
  cases one <;> cases other <;> first
    | omega
    | simp only [List.cons.injEq, ← UInt8.toNat_inj, *, and_self]

theorem IsForm.isValidChar {v : Nat} {form : List UInt8} (has : IsForm v form) :
    v.isValidChar := by
  unfold Nat.isValidChar
  cases has <;> omega

theorem IsForm.eq_utf8EncodeChar {v : Nat} {form : List UInt8} (has : IsForm v form) :
    form = String.utf8EncodeChar (Char.ofNat v) := by
  have number : (Char.ofNat v).toNat = v := by
    rw [Char.ofNat, dif_pos has.isValidChar]
    rfl
  have encoded := isForm_utf8EncodeChar (Char.ofNat v)
  rw [number] at encoded
  exact has.unique encoded

/-- The form of a character is recognised whatever bytes follow. -/
theorem IsForm.firstChar?_append {v : Nat} {form : List UInt8} (has : IsForm v form)
    (rest : List UInt8) : firstChar? (form ++ rest) = some (Char.ofNat v, form.length) := by
  cases has with
  | one small first =>
      simp only [firstChar?, List.cons_append, List.nil_append, first]
      rw [if_pos small]
      rfl
  | two large small first second =>
      have number : (0xC0 + v / 64) % 32 * 64 + (0x80 + v % 64) % 64 = v := by omega
      simp only [firstChar?, List.cons_append, List.nil_append, first, second]
      rw [if_neg (by omega), if_neg (by omega), if_pos (by omega), if_pos (by simp; omega), number]
      rfl
  | three large small plain first second third =>
      have number : ((0xE0 + v / 4096) % 16 * 64 + (0x80 + v / 64 % 64) % 64) * 64 +
          (0x80 + v % 64) % 64 = v := by omega
      have marked : 0xE0 + v / 4096 < 0xF0 := by omega
      simp only [firstChar?, List.cons_append, List.nil_append, first, second, third]
      rw [if_neg (by omega), if_neg (by omega), if_neg (by omega), if_pos marked, if_pos, number]
      · rfl
      · simp only [Bool.and_eq_true, decide_eq_true_iff]
        split_ifs <;> omega
  | four large small first second third fourth =>
      have number : (((0xF0 + v / 262144) % 8 * 64 + (0x80 + v / 4096 % 64) % 64) * 64 +
          (0x80 + v / 64 % 64) % 64) * 64 + (0x80 + v % 64) % 64 = v := by omega
      simp only [firstChar?, List.cons_append, List.nil_append, first, second, third, fourth]
      rw [if_neg (by omega), if_neg (by omega), if_neg (by omega), if_neg (by omega),
        if_pos (by omega), if_pos, number]
      · rfl
      · simp only [Bool.and_eq_true, decide_eq_true_iff]
        split_ifs <;> omega

theorem exists_isForm_of_firstChar? {bytes : List UInt8} {c : Char} {width : Nat}
    (read : firstChar? bytes = some (c, width)) :
    ∃ v form rest, IsForm v form ∧ bytes = form ++ rest ∧ c = Char.ofNat v ∧
      width = form.length := by
  revert read
  fun_cases firstChar? bytes with
  | case2 a rest n small =>
      rintro ⟨⟩
      exact ⟨n, [a], rest, .one small rfl, rfl, rfl, rfl⟩
  | case4 mark a n _ large small b rest marked =>
      rintro ⟨⟩
      simp only [mark, Bool.and_eq_true, decide_eq_true_iff] at marked
      refine ⟨_, [a, b], rest, .two ?_ ?_ ?_ ?_, rfl, rfl, rfl⟩ <;> omega
  | case7 mark a n _ _ large small b c rest marked =>
      rintro ⟨⟩
      simp only [mark, Bool.and_eq_true, decide_eq_true_iff] at marked
      refine ⟨_, [a, b, c], rest, .three ?_ ?_ ?_ ?_ ?_ ?_, rfl, rfl, rfl⟩ <;>
        split_ifs at marked <;> omega
  | case10 mark a n _ _ _ large small b c d rest marked =>
      rintro ⟨⟩
      simp only [mark, Bool.and_eq_true, decide_eq_true_iff] at marked
      refine ⟨_, [a, b, c, d], rest, .four ?_ ?_ ?_ ?_ ?_ ?_, rfl, rfl, rfl⟩ <;>
        split_ifs at marked <;> omega
  | _ => intro none; cases none

/-- The first character of bytes is the one with whose encoding they start. -/
theorem firstChar?_eq_some_iff {bytes : List UInt8} {c : Char} {width : Nat} :
    firstChar? bytes = some (c, width) ↔
      String.utf8EncodeChar c <+: bytes ∧ width = (String.utf8EncodeChar c).length := by
  constructor
  · intro read
    obtain ⟨v, form, rest, has, rfl, rfl, rfl⟩ := exists_isForm_of_firstChar? read
    rw [← has.eq_utf8EncodeChar]
    exact ⟨List.prefix_append form rest, rfl⟩
  · rintro ⟨⟨rest, rfl⟩, rfl⟩
    rw [(isForm_utf8EncodeChar c).firstChar?_append, Char.ofNat_toNat]

theorem decodeFrom_skip (read : Nat) (text : List Char) (xs rest : List UInt8) :
    decodeFrom xs.length read text (xs ++ rest) = decodeFrom 0 read text rest := by
  induction xs with
  | nil => rfl
  | cons b later ih => exact ih

theorem decodeFrom_utf8EncodeChar_append (read : Nat) (text : List Char) (c : Char)
    (rest : List UInt8) :
    decodeFrom 0 read text (String.utf8EncodeChar c ++ rest) =
      decodeFrom 0 (read + (String.utf8EncodeChar c).length) (c :: text) rest := by
  have first : firstChar? (String.utf8EncodeChar c ++ rest) =
      some (c, (String.utf8EncodeChar c).length) :=
    firstChar?_eq_some_iff.mpr ⟨List.prefix_append _ rest, rfl⟩
  obtain ⟨b, later, encoded⟩ := List.exists_cons_of_ne_nil (@String.utf8EncodeChar_ne_nil c)
  rw [encoded] at first ⊢
  rw [List.cons_append] at first ⊢
  rw [decodeFrom, first]
  exact decodeFrom_skip _ _ later rest

theorem decodeFrom_encode_append (read : Nat) (text cs : List Char) (rest : List UInt8) :
    decodeFrom 0 read text (encode cs ++ rest) =
      decodeFrom 0 (read + (encode cs).length) (cs.reverse ++ text) rest := by
  induction cs generalizing read text with
  | nil => rfl
  | cons c later ih =>
      rw [encode_cons, List.append_assoc, decodeFrom_utf8EncodeChar_append, ih,
        List.length_append, Nat.add_assoc, List.reverse_cons, List.append_assoc]
      rfl

/-- Any bytes are those of some characters and others, with which no character starts. -/
theorem exists_eq_encode_append (bytes : List UInt8) :
    ∃ cs rest, bytes = encode cs ++ rest ∧ firstChar? rest = none := by
  induction size : bytes.length using Nat.strong_induction_on generalizing bytes with
  | _ n ih =>
      cases first : firstChar? bytes with
      | none => exact ⟨[], bytes, rfl, first⟩
      | some read =>
          obtain ⟨c, width⟩ := read
          obtain ⟨⟨later, rfl⟩, -⟩ := firstChar?_eq_some_iff.mp first
          have shorter : later.length < n := by
            have filled := c.utf8Size_pos
            rw [List.length_append, String.length_utf8EncodeChar] at size
            omega
          obtain ⟨cs, rest, whole, stuck⟩ := ih _ shorter later rfl
          refine ⟨c :: cs, rest, ?_, stuck⟩
          rw [whole, encode_cons, List.append_assoc]

/-- Characters that bytes start with come before those with which no character starts. -/
theorem isPrefix_of_encode_append_eq {cs ds : List Char} {rest later : List UInt8}
    (stuck : firstChar? rest = none) (same : encode cs ++ rest = encode ds ++ later) :
    ds <+: cs := by
  induction ds generalizing cs with
  | nil => exact List.nil_prefix
  | cons d ds ih =>
      have next : firstChar? (encode (d :: ds) ++ later) =
          some (d, (String.utf8EncodeChar d).length) := by
        rw [firstChar?_eq_some_iff, encode_cons, List.append_assoc]
        exact ⟨List.prefix_append _ _, rfl⟩
      cases cs with
      | nil =>
          rw [← same] at next
          cases stuck.symm.trans next
      | cons c cs =>
          have first : firstChar? (encode (c :: cs) ++ rest) =
              some (c, (String.utf8EncodeChar c).length) := by
            rw [firstChar?_eq_some_iff, encode_cons, List.append_assoc]
            exact ⟨List.prefix_append _ _, rfl⟩
          rw [same, next] at first
          cases first
          simp only [encode_cons, List.append_assoc, List.append_cancel_left_eq] at same
          exact List.cons_prefix_cons.mpr ⟨rfl, ih same⟩

theorem decode_encode_append {cs : List Char} {rest : List UInt8} (stuck : firstChar? rest = none) :
    decode (encode cs ++ rest) =
      if rest = [] then .ok (String.ofList cs) else .error (encode cs).length := by
  unfold decode
  rw [decodeFrom_encode_append]
  cases rest with
  | nil =>
      rw [decodeFrom, List.append_nil, List.reverse_reverse]
      rfl
  | cons b later =>
      rw [decodeFrom, stuck, Nat.zero_add]
      rfl

/-- Bytes are read as the text that they encode. -/
theorem decode_eq_ok_iff {source : List UInt8} {text : String} :
    decode source = .ok text ↔ bytes text = source := by
  constructor
  · intro read
    obtain ⟨cs, rest, rfl, stuck⟩ := exists_eq_encode_append source
    rw [decode_encode_append stuck] at read
    split at read
    · rename_i none
      cases read
      rw [none, List.append_nil, bytes_eq_encode, String.toList_ofList]
    · cases read
  · rintro rfl
    rw [bytes_eq_encode, ← List.append_nil (encode _), decode_encode_append rfl, if_pos rfl,
      String.ofList_toList]

def validPrefixes (source : List UInt8) : Set Nat :=
  {n | ∃ text, bytes text <+: source ∧ (bytes text).length = n}

theorem isGreatest_validPrefixes {cs : List Char} {rest : List UInt8}
    (stuck : firstChar? rest = none) :
    IsGreatest (validPrefixes (encode cs ++ rest)) (encode cs).length := by
  constructor
  · refine ⟨String.ofList cs, ?_, ?_⟩ <;> rw [bytes_eq_encode, String.toList_ofList]
    exact List.prefix_append _ _
  · rintro n ⟨text, ⟨later, whole⟩, rfl⟩
    rw [bytes_eq_encode] at whole ⊢
    obtain ⟨others, rfl⟩ := isPrefix_of_encode_append_eq stuck whole.symm
    rw [encode_append, List.length_append]
    exact Nat.le_add_right _ _

/-- Bytes are refused if they encode no text, with the length of the longest part at their start
that does. -/
theorem decode_eq_error_iff {source : List UInt8} {n : Nat} :
    decode source = .error n ↔
      (∀ text, bytes text ≠ source) ∧ IsGreatest (validPrefixes source) n := by
  have refused {m : Nat} (failed : decode source = .error m) :
      (∀ text, bytes text ≠ source) ∧ IsGreatest (validPrefixes source) m := by
    refine ⟨fun text encoded => ?_, ?_⟩
    · rw [decode_eq_ok_iff.mpr encoded] at failed
      cases failed
    · obtain ⟨cs, rest, rfl, stuck⟩ := exists_eq_encode_append source
      rw [decode_encode_append stuck] at failed
      split at failed
      · cases failed
      · cases failed
        exact isGreatest_validPrefixes stuck
  refine ⟨refused, fun ⟨invalid, greatest⟩ => ?_⟩
  cases read : decode source with
  | ok text => exact absurd (decode_eq_ok_iff.mp read) (invalid text)
  | error m => rw [greatest.unique (refused read).2]

end PagedSchema.Text
