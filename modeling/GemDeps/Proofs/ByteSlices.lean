import GemDeps.Text.Basic

/-!
# Bytes and slices

A text as its UTF-8 bytes, and the slices of a text between two byte offsets. A slice fails unless
its offsets stand in order, at the end at most, and between characters (`Text.slice_eq_ok_iff`). No
byte of a character that is not ASCII can be taken for one that is
(`Text.not_isAscii_of_mem_encoding`), and so none that stands at an offset inside a character
(`Text.not_isAscii_of_dropBytes?`).
-/

namespace GemDeps

/-- What fails when a text or a list is cut. -/
inductive Fault
  /-- No text stands between these byte offsets. -/
  | slice (start stop : Nat)
  /-- There is no line or argument with this number. -/
  | index (i : Nat)
  deriving DecidableEq, Repr

/-- A result, unless a cut fails on the way to it. -/
abbrev Checked (α : Type) := Except Fault α

namespace Text

/-! ## Slices -/

/-- The first `n` bytes; `none` if they go past the end or end inside a character. -/
def takeBytes? : Nat → Text → Option Text
  | 0, _ => some []
  | _ + 1, [] => none
  | n + 1, c :: t =>
    if c.utf8Size ≤ n + 1 then (takeBytes? (n + 1 - c.utf8Size) t).map (c :: ·) else none

/-- The text between two byte offsets. -/
def slice (t : Text) (start stop : Nat) : Checked Text :=
  match if start ≤ stop then (dropBytes? start t).bind (takeBytes? (stop - start)) else none with
  | some u => .ok u
  | none => .error (.slice start stop)

variable {s t u v w : Text} {n : Nat}

theorem dropBytes?_cons (c : Char) (t : Text) (n : Nat) :
    dropBytes? (c.utf8Size + n) (c :: t) = dropBytes? n t := by
  obtain ⟨k, hk⟩ : ∃ k, c.utf8Size + n = k + 1 :=
    ⟨c.utf8Size + n - 1, by have := c.utf8Size_pos; omega⟩
  rw [hk, dropBytes?, if_pos (by omega), ← hk, Nat.add_sub_cancel_left]

theorem takeBytes?_cons (c : Char) (t : Text) (n : Nat) :
    takeBytes? (c.utf8Size + n) (c :: t) = (takeBytes? n t).map (c :: ·) := by
  obtain ⟨k, hk⟩ : ∃ k, c.utf8Size + n = k + 1 :=
    ⟨c.utf8Size + n - 1, by have := c.utf8Size_pos; omega⟩
  rw [hk, takeBytes?, if_pos (by omega), ← hk, Nat.add_sub_cancel_left]

theorem dropBytes?_eq_some_iff : dropBytes? n t = some v ↔ ∃ u, t = u ++ v ∧ n = size u := by
  constructor
  · intro h
    fun_induction dropBytes? n t generalizing v with
    | case1 t =>
      cases h
      exact ⟨[], rfl, rfl⟩
    | case2 => cases h
    | case3 n c t hc ih =>
      obtain ⟨u, rfl, hn⟩ := ih h
      exact ⟨c :: u, rfl, by rw [size_cons]; omega⟩
    | case4 => cases h
  · rintro ⟨u, rfl, rfl⟩
    induction u with
    | nil => cases v <;> rfl
    | cons c u ih => rw [List.cons_append, size_cons, dropBytes?_cons, ih]

theorem takeBytes?_eq_some_iff : takeBytes? n t = some u ↔ ∃ v, t = u ++ v ∧ n = size u := by
  constructor
  · intro h
    induction t generalizing n u with
    | nil =>
      cases n with
      | zero =>
        cases h
        exact ⟨[], rfl, rfl⟩
      | succ n => cases h
    | cons c t ih =>
      cases n with
      | zero =>
        cases h
        exact ⟨c :: t, rfl, rfl⟩
      | succ n =>
        rw [takeBytes?] at h
        obtain ⟨hc, hmap⟩ := Option.ite_none_right_eq_some.1 h
        obtain ⟨u', hu', rfl⟩ := Option.map_eq_some_iff.1 hmap
        obtain ⟨v, rfl, hn⟩ := ih hu'
        exact ⟨v, rfl, by rw [size_cons]; omega⟩
  · rintro ⟨v, rfl, rfl⟩
    induction u with
    | nil => cases v <;> rfl
    | cons c u ih => rw [List.cons_append, size_cons, takeBytes?_cons, ih, Option.map_some]

/-- A slice is what stands between two offsets that cut the text in three. -/
theorem slice_eq_ok_iff {start stop : Nat} : slice t start stop = .ok v ↔
    ∃ u w, t = u ++ (v ++ w) ∧ start = size u ∧ stop = size u + size v := by
  have hbind : slice t start stop = .ok v ↔
      start ≤ stop ∧ (dropBytes? start t).bind (takeBytes? (stop - start)) = some v := by
    unfold slice
    by_cases hle : start ≤ stop
    · rw [if_pos hle, and_iff_right hle]
      cases (dropBytes? start t).bind (takeBytes? (stop - start)) <;> simp
    · rw [if_neg hle]
      simp [hle]
  rw [hbind]
  constructor
  · rintro ⟨hle, h⟩
    obtain ⟨r, hr, hv⟩ := Option.bind_eq_some_iff.1 h
    obtain ⟨u, rfl, hu⟩ := dropBytes?_eq_some_iff.1 hr
    obtain ⟨w, rfl, hw⟩ := takeBytes?_eq_some_iff.1 hv
    exact ⟨u, w, rfl, hu, by omega⟩
  · rintro ⟨u, w, rfl, rfl, rfl⟩
    refine ⟨Nat.le_add_right _ _, Option.bind_eq_some_iff.2 ⟨v ++ w, ?_, ?_⟩⟩
    · exact dropBytes?_eq_some_iff.2 ⟨u, rfl, rfl⟩
    · exact takeBytes?_eq_some_iff.2 ⟨w, rfl, by omega⟩

theorem slice_append (u v w : Text) : slice (u ++ (v ++ w)) (size u) (size u + size v) = .ok v :=
  slice_eq_ok_iff.2 ⟨u, w, rfl, rfl, rfl⟩

/-- A text up to an offset. -/
theorem slice_prefix (u v : Text) : slice (u ++ v) 0 (size u) = .ok u := by
  have h := slice_append [] u v
  rwa [List.nil_append, size_nil, Nat.zero_add] at h

/-- A text from an offset on. -/
theorem slice_suffix (u v : Text) : slice (u ++ v) (size u) (size (u ++ v)) = .ok v := by
  have h := slice_append u v []
  rwa [List.append_nil, ← size_append] at h

theorem size_eq_zero_iff : size t = 0 ↔ t = [] := by
  cases t with
  | nil => simp
  | cons c t =>
    have := c.utf8Size_pos
    simp only [size_cons, reduceCtorEq, iff_false]
    omega

/-- An offset of a text that stands between two of its characters or at one of its ends. -/
def IsBoundary (t : Text) (n : Nat) : Prop := ∃ u v, t = u ++ v ∧ n = size u

theorem isBoundary_append (u v : Text) : IsBoundary (u ++ v) (size u) := ⟨u, v, rfl, rfl⟩

theorem isBoundary_size (t : Text) : IsBoundary t (size t) := ⟨t, [], t.append_nil.symm, rfl⟩

theorem IsBoundary.le_size (h : IsBoundary t n) : n ≤ size t := by
  obtain ⟨u, v, rfl, rfl⟩ := h
  rw [size_append]
  exact Nat.le_add_right _ _

/-- A slice is there between two such offsets in order, and only there. -/
theorem exists_slice_iff {start stop : Nat} : (∃ v, slice t start stop = .ok v) ↔
    start ≤ stop ∧ IsBoundary t start ∧ IsBoundary t stop := by
  constructor
  · rintro ⟨v, hv⟩
    obtain ⟨u, w, rfl, rfl, rfl⟩ := slice_eq_ok_iff.1 hv
    refine ⟨Nat.le_add_right _ _, isBoundary_append _ _, ?_⟩
    rw [← size_append, ← List.append_assoc]
    exact isBoundary_append _ _
  · rintro ⟨hle, ⟨u, r, rfl, rfl⟩, u', w, heq, rfl⟩
    rcases List.append_eq_append_iff.1 heq with ⟨v, rfl, rfl⟩ | ⟨v, rfl, rfl⟩
    · rw [size_append]
      exact ⟨v, slice_append u v w⟩
    · rw [size_append] at hle
      obtain rfl : v = [] := size_eq_zero_iff.1 (by omega)
      rw [List.append_nil]
      exact ⟨[], slice_append u' [] r⟩

example : slice "é".toList 0 1 = .error (.slice 0 1) := rfl

/-! ## Bytes -/

/-- The UTF-8 bytes of a text. -/
def bytes (t : Text) : List UInt8 := t.flatMap String.utf8EncodeChar

theorem bytes_append (s t : Text) : bytes (s ++ t) = bytes s ++ bytes t := List.flatMap_append

theorem bytes_cons (c : Char) (t : Text) : bytes (c :: t) = String.utf8EncodeChar c ++ bytes t :=
  List.flatMap_cons

theorem length_bytes (t : Text) : (bytes t).length = size t := by
  induction t with
  | nil => rfl
  | cons c t ih => rw [bytes_cons, List.length_append, ih, String.length_utf8EncodeChar, size_cons]

theorem drop_bytes (s t : Text) : (bytes (s ++ t)).drop (size s) = bytes t := by
  rw [bytes_append, ← length_bytes, List.drop_left]

/-- Is a character encoded by the one byte that is its number? -/
def IsAscii (c : Char) : Prop := c.toNat < 128

instance (c : Char) : Decidable (IsAscii c) := inferInstanceAs (Decidable (c.toNat < 128))

theorem IsAscii.size_eq {c : Char} (h : IsAscii c) : c.utf8Size = 1 := by
  rw [Char.utf8Size_eq_one_iff, UInt32.le_iff_toNat_le]
  exact Nat.le_of_lt_succ h

theorem IsAscii.encoding {c : Char} (h : IsAscii c) : String.utf8EncodeChar c = [c.toUInt8] :=
  String.utf8EncodeChar_eq_singleton h.size_eq

theorem toNat_ofUInt8 (b : UInt8) : (Char.ofUInt8 b).toNat = b.toNat := UInt8.toNat_toUInt32 b

/-- The byte of a character that is ASCII, read as a character. -/
theorem IsAscii.ofUInt8_toUInt8 {c : Char} (h : IsAscii c) : Char.ofUInt8 c.toUInt8 = c := by
  refine Char.ext (UInt32.toNat_inj.1 ?_)
  show (Char.ofUInt8 c.toUInt8).toNat = c.toNat
  rw [toNat_ofUInt8]
  exact (UInt32.toNat_toUInt8 c.val).trans (Nat.mod_eq_of_lt (Nat.lt_trans h (by decide)))

/-- No byte of a character that is not ASCII is one of an ASCII character. -/
theorem not_isAscii_of_mem_encoding {c : Char} (h : ¬ IsAscii c) :
    ∀ b ∈ String.utf8EncodeChar c, ¬ IsAscii (Char.ofUInt8 b) := by
  have hc : ¬ c.val.toNat ≤ 127 := fun hle => h (Nat.lt_succ_of_le hle)
  have hbytes : ∀ b ∈ String.utf8EncodeChar c, 128 ≤ b.toNat := by
    unfold String.utf8EncodeChar
    dsimp only
    rw [if_neg hc]
    split
    · simp; omega
    · split
      · simp; omega
      · simp; omega
  intro b hb hascii
  rw [IsAscii, toNat_ofUInt8] at hascii
  exact Nat.not_lt.2 (hbytes b hb) hascii

/-- At an offset that is none between characters no byte of an ASCII character stands. -/
theorem not_isAscii_of_dropBytes? (h : dropBytes? n t = none) :
    ∀ b ∈ ((bytes t).drop n).head?, ¬ IsAscii (Char.ofUInt8 b) := by
  fun_induction dropBytes? n t with
  | case1 => cases h
  | case2 n => simp [bytes]
  | case3 n c t hc ih =>
    rw [bytes_cons, List.drop_append, List.drop_eq_nil_of_le
      (by rw [String.length_utf8EncodeChar]; exact hc), List.nil_append,
      String.length_utf8EncodeChar]
    exact ih h
  | case4 n c t hc =>
    have hascii : ¬ IsAscii c := fun hascii => by
      have := hascii.size_eq
      omega
    have hlength := String.length_utf8EncodeChar c
    intro b hb
    rw [bytes_cons, List.head?_drop, List.getElem?_append_left (by omega)] at hb
    exact not_isAscii_of_mem_encoding hascii b (List.mem_of_getElem? hb)

theorem ne_of_not_isAscii {c d : Char} (hc : ¬ IsAscii c) (hd : IsAscii d) : c ≠ d :=
  fun h => hc (h ▸ hd)

theorem beq_eq_false_of_not_isAscii {c d : Char} (hc : ¬ IsAscii c) (hd : IsAscii d) :
    (c == d) = false :=
  beq_eq_false_iff_ne.2 (ne_of_not_isAscii hc hd)

theorem getElem?_bytes_of_size_le (h : size t ≤ n) : (bytes t)[n]? = none :=
  List.getElem?_eq_none (by rw [length_bytes]; exact h)

/-- The bytes of a character stand at the offset of the character. -/
theorem getElem?_bytes (u : Text) (c : Char) (t : Text) {k : Nat} (hk : k < c.utf8Size) :
    (bytes (u ++ c :: t))[size u + k]? = (String.utf8EncodeChar c)[k]? := by
  rw [← List.getElem?_drop, drop_bytes, bytes_cons, List.getElem?_append_left
    (by rw [String.length_utf8EncodeChar]; exact hk)]

theorem IsAscii.getElem?_bytes {c : Char} (h : IsAscii c) (u t : Text) :
    (bytes (u ++ c :: t))[size u]? = some c.toUInt8 := by
  have hbyte := Text.getElem?_bytes u c t (k := 0) c.utf8Size_pos
  rwa [h.encoding] at hbyte

/-- A text from behind an ASCII character on. -/
theorem IsAscii.slice_suffix {c : Char} (h : IsAscii c) (u v : Text) :
    slice (u ++ c :: v) (size u + 1) (size (u ++ c :: v)) = .ok v := by
  have hslice := Text.slice_suffix (u ++ [c]) v
  rwa [← List.append_cons, size_concat, h.size_eq] at hslice

theorem exists_getElem?_bytes {c : Char} (h : ¬ IsAscii c) (u t : Text) {k : Nat}
    (hk : k < c.utf8Size) :
    ∃ b, (bytes (u ++ c :: t))[size u + k]? = some b ∧ ¬ IsAscii (Char.ofUInt8 b) := by
  rw [getElem?_bytes u c t hk]
  have hlength : k < (String.utf8EncodeChar c).length := by
    rwa [String.length_utf8EncodeChar]
  exact ⟨_, List.getElem?_eq_getElem hlength,
    not_isAscii_of_mem_encoding h _ (List.getElem_mem hlength)⟩

/-- A loop that goes on by one byte from every byte that is no ASCII character goes over a character
that is not ASCII, from wherever it stands in it. -/
theorem read_of_not_isAscii {α : Type} {read : Nat → α} {c : Char} (hc : ¬ IsAscii c) (u t : Text)
    (hread : ∀ i b, (bytes (u ++ c :: t))[i]? = some b → ¬ IsAscii (Char.ofUInt8 b) →
      read i = read (i + 1)) {k : Nat} (hk : k ≤ c.utf8Size) :
    read (size u + k) = read (size u + c.utf8Size) := by
  obtain ⟨n, hn⟩ : ∃ n, k + n = c.utf8Size := ⟨c.utf8Size - k, by omega⟩
  induction n generalizing k with
  | zero => rw [show k = c.utf8Size from hn]
  | succ n ih =>
    obtain ⟨b, hb, hhigh⟩ := exists_getElem?_bytes hc u t (k := k) (by omega)
    rw [hread _ b hb hhigh, Nat.add_assoc, ih (by omega) (by omega)]

/-- The byte at the offset of a character is that of an ASCII character when the character is. -/
theorem getElem?_bytes_eq_iff {m : Char} (hm : IsAscii m) (u t : Text) :
    ((bytes (u ++ t))[size u]?).map Char.ofUInt8 = some m ↔ t.head? = some m := by
  cases t with
  | nil =>
    rw [List.append_nil, getElem?_bytes_of_size_le (Nat.le_refl _)]
    simp
  | cons c t =>
    rw [List.head?_cons, Option.some_inj]
    by_cases hc : IsAscii c
    · rw [hc.getElem?_bytes, Option.map_some, hc.ofUInt8_toUInt8, Option.some_inj]
    · obtain ⟨b, hb, hhigh⟩ := exists_getElem?_bytes hc u t (k := 0) c.utf8Size_pos
      rw [Nat.add_zero] at hb
      rw [hb, Option.map_some, Option.some_inj]
      exact iff_of_false (ne_of_not_isAscii hhigh hm) (ne_of_not_isAscii hc hm)

end Text

end GemDeps
