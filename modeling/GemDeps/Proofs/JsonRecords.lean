import GemDeps.Manifest.Json
import GemDeps.Proofs.WrittenJson
import Mathlib.Data.List.Nodup
import Mathlib.Data.List.TakeWhile

/-!
# Written records

A record is written as an object with its fields as members, and any of them may be left out. Under
different names that need no escapes, the fields are read back as they were, those left out as
missing (`fields?_presentFields`). The values that fields have are read back from what is written
for them.
-/

namespace GemDeps.Json

/-! ## Fields -/

/-- Names for the fields of a record: no two are the same, and none needs an escape. -/
structure AreFieldNames (names : List Text) : Prop where
  nodup : names.Nodup
  plain : ∀ k ∈ names, escape k = k

/-- The members for fields under their names; fields without a value are left out. -/
def presentFields (fs : List (Text × Option Json)) : List (Text × Json) :=
  fs.filterMap fun f => f.2.map (f.1, ·)

variable {fs : List (Text × Option Json)} {ms : List (Text × Json)} {key : Text}

theorem presentFields_some (k : Text) (j : Json) :
    presentFields ((k, some j) :: fs) = (k, j) :: presentFields fs := rfl

theorem mem_presentFields {m : Text × Json} :
    m ∈ presentFields fs ↔ (m.1, some m.2) ∈ fs := by
  simp only [presentFields, List.mem_filterMap, Option.map_eq_some_iff]
  constructor
  · rintro ⟨⟨k, v⟩, hf, j, rfl, rfl⟩
    exact hf
  · intro hf
    exact ⟨_, hf, m.2, rfl, rfl⟩

theorem keys_presentFields (fs : List (Text × Option Json)) :
    ((presentFields fs).map Prod.fst).Sublist (fs.map Prod.fst) := by
  induction fs with
  | nil => exact .slnil
  | cons f fs ih =>
    obtain ⟨k, _ | j⟩ := f
    · exact ih.cons k
    · exact ih.cons_cons k

theorem member?_eq_none (h : key ∉ ms.map Prod.fst) : member? ms key = none := by
  rw [member?, Option.map_eq_none_iff, List.find?_eq_none]
  intro m hm heq
  exact h (of_decide_eq_true heq ▸ List.mem_map_of_mem hm)

theorem member?_cons_self (j : Json) : member? ((key, j) :: ms) key = some j := by
  rw [member?, List.find?_cons_of_pos (by simp), Option.map_some]

theorem member?_cons_of_ne {k : Text} (j : Json) (h : k ≠ key) :
    member? ((k, j) :: ms) key = member? ms key := by
  rw [member?, List.find?_cons_of_neg (by simpa using h), ← member?]

theorem isRepeated_eq_false (h : (ms.map Prod.fst).Nodup) : isRepeated ms key = false := by
  have hcount := List.nodup_iff_count_le_one.1 h key
  rw [List.count, List.countP_map] at hcount
  refine decide_eq_false (Nat.not_lt.2 (le_of_eq_of_le (List.countP_congr fun m _ => ?_) hcount))
  simp

/-- Each name has at most one member, so the first one with a name is the field of that name. -/
theorem member?_presentFields (hnodup : (fs.map Prod.fst).Nodup) {f : Text × Option Json}
    (hf : f ∈ fs) : member? (presentFields fs) f.1 = f.2 := by
  induction fs with
  | nil => cases hf
  | cons g fs ih =>
    obtain ⟨hg, htail⟩ := List.nodup_cons.1 hnodup
    obtain rfl | hmem := List.mem_cons.1 hf
    · obtain ⟨k, _ | j⟩ := f
      · exact member?_eq_none fun h => hg ((keys_presentFields fs).subset h)
      · exact member?_cons_self j
    · have hne : g.1 ≠ f.1 := fun h => hg (h ▸ List.mem_map_of_mem hmem)
      obtain ⟨k, _ | j⟩ := g
      · exact ih htail hmem
      · rw [presentFields_some, member?_cons_of_ne j hne, ih htail hmem]

theorem decodeKeys?_of_plain (h : ∀ m ∈ ms, escape m.1 = m.1) : decodeKeys? ms = some ms := by
  induction ms with
  | nil => rfl
  | cons m ms ih =>
    obtain ⟨hm, hms⟩ := List.forall_mem_cons.1 h
    have hkey : unescape? m.1 = some m.1 := by rw [← hm, unescape?_escape, hm]
    rw [decodeKeys?, List.mapM_cons, hkey, ← decodeKeys?, ih hms]
    rfl

/-- What is written for the fields of a record is read as these fields. -/
theorem fields?_presentFields (h : AreFieldNames (fs.map Prod.fst)) :
    fields? (fs.map Prod.fst) (.object (presentFields fs)) = some (fs.map Prod.snd) := by
  have hplain : ∀ m ∈ presentFields fs, escape m.1 = m.1 := fun m hm =>
    h.plain m.1 (List.mem_map_of_mem (mem_presentFields.1 hm))
  have hrepeated : (fs.map Prod.fst).any (isRepeated (presentFields fs)) = false :=
    List.any_eq_false.2 fun k _ => by
      simp [isRepeated_eq_false (h.nodup.sublist (keys_presentFields fs))]
  have hmembers : (fs.map Prod.fst).map (member? (presentFields fs)) = fs.map Prod.snd := by
    rw [List.map_map]
    exact List.map_congr_left fun f hf => member?_presentFields h.nodup hf
  simp only [fields?, decodeKeys?_of_plain hplain, hrepeated, hmembers, Bool.false_eq_true,
    if_false]

theorem isLexeme_of_plain (h : escape key = key) : IsLexeme key := by
  rw [← h]
  exact isLexeme_escape key

theorem isWritten_presentFields (h : AreFieldNames (fs.map Prod.fst))
    (hvalues : ∀ j, some j ∈ fs.map Prod.snd → j.IsWritten) :
    (Json.object (presentFields fs)).IsWritten := by
  refine membersWritten_iff.2 fun m hm => ?_
  have hf := mem_presentFields.1 hm
  exact ⟨isLexeme_of_plain (h.plain m.1 (List.mem_map_of_mem hf)),
    hvalues m.2 (List.mem_map_of_mem hf)⟩

/-! ## Texts -/

theorem text?_ofText (t : Text) : text? (ofText t) = some t := unescape?_escape t

theorem isWritten_ofText (t : Text) : (ofText t).IsWritten := isLexeme_escape t

/-- A list is read back where its items are. -/
theorem mapM_map_eq_some {α β : Type} {f : α → β} {g : β → Option α} (h : ∀ a, g (f a) = some a)
    (as : List α) : (as.map f).mapM g = some as := by
  induction as with
  | nil => rfl
  | cons a as ih =>
    rw [List.map_cons, List.mapM_cons, h a, ih]
    rfl

theorem texts?_ofTexts (ts : List Text) : texts? (ofTexts ts) = some ts :=
  mapM_map_eq_some text?_ofText ts

theorem isWritten_array {α : Type} {f : α → Json} (h : ∀ a, (f a).IsWritten) (as : List α) :
    (array (as.map f)).IsWritten := by
  refine areWritten_iff.2 fun j hj => ?_
  obtain ⟨a, -, rfl⟩ := List.mem_map.1 hj
  exact h a

/-! ## Values that may be `null` -/

/-- A value is told from a missing one where it is not `null` itself. -/
theorem optional?_ofOption {α : Type} {f : α → Json} {g : Json → Option α}
    (h : ∀ a, g (f a) = some a) (hnull : ∀ a, f a ≠ .null) (o : Option α) :
    optional? g (some (ofOption f o)) = some o := by
  cases o with
  | none => rfl
  | some a => rw [ofOption, optional?.eq_3 g (f a) (hnull a), h a, Option.map_some]

theorem isWritten_ofOption {α : Type} {f : α → Json} (h : ∀ a, (f a).IsWritten) (o : Option α) :
    (ofOption f o).IsWritten := by
  cases o with
  | none => trivial
  | some a => exact h a

theorem optional?_ofText (o : Option Text) : optional? text? (some (ofOption ofText o)) = some o :=
  optional?_ofOption text?_ofText (fun _ => nofun) o

/-! ## Numbers -/

theorem isDigit_digit {n : Nat} (h : n < 10) : (Text.digit n).isDigit = true := by
  have hall : ∀ m < 10, (Text.digit m).isDigit = true := by decide
  exact hall n h

theorem digit_ne_zero {n : Nat} (h : n < 10) (hpos : 0 < n) : Text.digit n ≠ '0' := by
  have hall : ∀ m < 10, 0 < m → Text.digit m ≠ '0' := by decide
  exact hall n h hpos

theorem all_isDigit_decimal (n : Nat) : (Text.decimal n).all Char.isDigit = true := by
  fun_induction Text.decimal n with
  | case1 n h => simpa using isDigit_digit h
  | case2 n h ih =>
    rw [List.all_append, ih, Bool.true_and]
    simpa using isDigit_digit (Nat.mod_lt n (by omega))

/-- The first digit of a number is a zero only for zero itself. -/
theorem exists_cons_of_pos {n : Nat} (hpos : 0 < n) :
    ∃ c t, Text.decimal n = c :: t ∧ c ≠ '0' := by
  fun_induction Text.decimal n with
  | case1 n h => exact ⟨_, [], rfl, digit_ne_zero h hpos⟩
  | case2 n h ih =>
    obtain ⟨c, t, ht, hc⟩ := ih (by omega)
    exact ⟨c, t ++ [Text.digit (n % 10)], by rw [ht, List.cons_append], hc⟩

theorem isNumber_of_all_isDigit {c : Char} {t : Text} (hall : (c :: t).all Char.isDigit = true)
    (hc : c ≠ '0') : isNumber (c :: t) = true := by
  have hsign : dropOptional (· == '-') (c :: t) = c :: t := by
    rw [dropOptional, if_neg]
    intro h
    rw [eq_of_beq h] at hall
    cases hall
  have htake : (c :: t).takeWhile Char.isDigit = c :: t :=
    List.takeWhile_eq_self_iff.2 (List.all_eq_true.1 hall)
  have hdrop : (c :: t).dropWhile Char.isDigit = [] :=
    List.dropWhile_eq_nil_iff.2 (List.all_eq_true.1 hall)
  have hdigits : isDigits (c :: t) = true := hall
  have hzero : ((c :: t).head? != some '0') = true := by simpa using hc
  rw [isNumber, hsign, htake, hdrop, hdigits, hzero, Bool.and_self, Bool.or_true]
  rfl

theorem isNumber_decimal (n : Nat) : isNumber (Text.decimal n) = true := by
  have hall := all_isDigit_decimal n
  obtain rfl | hpos := Nat.eq_zero_or_pos n
  · rw [Text.decimal, if_pos (by decide)]
    rfl
  · obtain ⟨c, t, ht, hc⟩ := exists_cons_of_pos hpos
    rw [ht] at hall ⊢
    exact isNumber_of_all_isDigit hall hc

theorem word32?_ofNat (n : UInt32) : word32? (ofNat n.toNat) = some n := by
  rw [ofNat, word32?, all_isDigit_decimal, Text.decimalValue_decimal, if_pos, UInt32.ofNat_toNat]
  simpa using n.toNat_lt

end GemDeps.Json
