import GemDeps.Json.Parser
import GemDeps.Json.Printer
import GemDeps.Proofs.JsonStrings

/-!
# Written JSON values

A value whose strings and numbers are well written is read back from its text, whether it stands on
one line or over several (`parse?_compact`, `parse?_pretty`). Both printers spell the same tokens
(`spells_compact`, `spells_pretty`), a number being cut off by the character that follows it; on
these tokens the reader goes from expecting a value to having read it (`Reader.run?_tokens`).
-/

namespace GemDeps.Json

/-! ## The written form of numbers -/

theorem isNumberChar_of_isDigit {c : Char} (h : c.isDigit = true) : isNumberChar c = true := by
  simp [isNumberChar, h]

theorem all_isNumberChar_of_isDigits {t : Text} (h : isDigits t = true) :
    t.all isNumberChar = true := by
  rw [isDigits, Bool.and_eq_true] at h
  exact List.all_eq_true.2 fun c hc => isNumberChar_of_isDigit (List.all_eq_true.1 h.2 c hc)

theorem all_isNumberChar_of_dropOptional {p : Char → Bool} {t : Text}
    (hp : ∀ c, p c = true → isNumberChar c = true)
    (h : (dropOptional p t).all isNumberChar = true) : t.all isNumberChar = true := by
  cases t with
  | nil => rfl
  | cons c t =>
    rw [dropOptional] at h
    split at h
    · rw [List.all_cons, hp c ‹_›, h, Bool.and_self]
    · exact h

theorem all_isNumberChar_of_isExponent {t : Text} (h : isExponent t = true) :
    t.all isNumberChar = true := by
  cases t with
  | nil => rfl
  | cons c t =>
    simp only [isExponent, Bool.and_eq_true, Bool.or_eq_true, beq_iff_eq] at h
    have hsign : ∀ s : Char, (s == '+' || s == '-') = true → isNumberChar s = true := by
      intro s hs
      rcases Bool.or_eq_true_iff.1 hs with hs | hs <;> rw [eq_of_beq hs] <;> rfl
    have hc : isNumberChar c = true := by
      rcases h.1 with rfl | rfl <;> rfl
    rw [List.all_cons, hc, Bool.true_and]
    exact all_isNumberChar_of_dropOptional hsign (all_isNumberChar_of_isDigits h.2)

/-- Digits in front of other characters of numbers. -/
theorem all_isNumberChar_of_dropWhile {t : Text}
    (h : (t.dropWhile Char.isDigit).all isNumberChar = true) : t.all isNumberChar = true := by
  rw [← List.takeWhile_append_dropWhile (p := Char.isDigit) (l := t), List.all_append, h,
    Bool.and_true]
  exact List.all_eq_true.2 fun c hc =>
    isNumberChar_of_isDigit (List.all_eq_true.1 List.all_takeWhile c hc)

theorem all_isNumberChar_of_isFraction {t : Text} (h : isFraction t = true) :
    t.all isNumberChar = true := by
  unfold isFraction at h
  split at h
  · rw [Bool.and_eq_true] at h
    rw [List.all_cons, all_isNumberChar_of_dropWhile (all_isNumberChar_of_isExponent h.2)]
    rfl
  · exact all_isNumberChar_of_isExponent h

theorem all_isNumberChar_of_isNumber {t : Text} (h : isNumber t = true) :
    t.all isNumberChar = true := by
  rw [isNumber, Bool.and_eq_true] at h
  have hsign : ∀ c : Char, (c == '-') = true → isNumberChar c = true := by
    intro c hc
    rw [eq_of_beq hc]
    rfl
  exact all_isNumberChar_of_dropOptional hsign
    (all_isNumberChar_of_dropWhile (all_isNumberChar_of_isFraction h.2))

/-! ## Texts that spell tokens -/

/-- A text in front of which a number ends. -/
def IsApart (u : Text) : Prop := ∀ c ∈ u.head?, isNumberChar c = false

/-- The text `t` is cut into the tokens `ks`, whatever follows behind the end of a number. -/
def Spells (t : Text) (ks : List Token) : Prop :=
  ∀ u, IsApart u → tokens? (t ++ u) = (tokens? u).map (ks ++ ·)

theorem isApart_nil : IsApart [] := nofun

theorem isApart_cons {c : Char} (u : Text) (h : isNumberChar c = false) : IsApart (c :: u) := by
  rintro d ⟨⟩
  exact h

/-- A character that is a token by itself is neither white space nor part of a number. -/
theorem not_isSpace_of_punctuation? {c : Char} {k : Token} (h : punctuation? c = some k) :
    isSpace c = false ∧ isNumberChar c = false := by
  unfold punctuation? at h
  split at h <;> first
    | exact ⟨rfl, rfl⟩
    | cases h

theorem not_isSpace_of_isNumberChar {c : Char} (h : isNumberChar c = true) : isSpace c = false := by
  by_contra hspace
  simp only [isSpace, Bool.not_eq_false, Bool.or_eq_true, beq_iff_eq] at hspace
  rcases hspace with ((rfl | rfl) | rfl) | rfl <;> cases h

theorem takeWhile_isNumberChar {n u : Text} (hn : n.all isNumberChar = true) (hu : IsApart u) :
    (n ++ u).takeWhile isNumberChar = n ∧ (n ++ u).dropWhile isNumberChar = u := by
  rw [List.takeWhile_append_of_pos (List.all_eq_true.1 hn),
    List.dropWhile_append_of_pos (List.all_eq_true.1 hn)]
  cases u with
  | nil => exact ⟨List.append_nil n, rfl⟩
  | cons c u =>
    have hc : ¬ isNumberChar c = true := by simp [hu c rfl]
    rw [List.takeWhile_cons_of_neg hc, List.dropWhile_cons_of_neg hc, List.append_nil]
    exact ⟨rfl, rfl⟩

/-- The first character tells a number from the other tokens. -/
theorem splitToken?_number {c : Char} {t u : Text} (h : isNumber (c :: t) = true)
    (hu : IsApart u) : splitToken? c (t ++ u) = some (.number (c :: t), u) := by
  have hall := all_isNumberChar_of_isNumber h
  rw [List.all_cons, Bool.and_eq_true] at hall
  have hnone : punctuation? c = none := by
    by_contra hk
    obtain ⟨k, hk⟩ := Option.ne_none_iff_exists'.1 hk
    simp [(not_isSpace_of_punctuation? hk).2] at hall
  have hquote : c ≠ '"' := by
    rintro rfl
    cases hall.1
  obtain ⟨htake, hdrop⟩ := takeWhile_isNumberChar hall.2 hu
  rw [splitToken?, hnone]
  simp only [htake, hdrop]
  rw [if_neg hquote, if_pos hall.1, if_pos h]

theorem tokens?_cons_of_splitToken? {c : Char} {t u : Text} {k : Token} (hc : isSpace c = false)
    (h : splitToken? c t = some (k, u)) : tokens? (c :: t) = (tokens? u).map (k :: ·) := by
  rw [tokens?, if_neg (by simp [hc])]
  split
  · simp_all
  · simp_all

theorem tokens?_cons_of_isSpace {c : Char} (t : Text) (hc : isSpace c = true) :
    tokens? (c :: t) = tokens? t := by
  rw [tokens?, if_pos hc]

namespace Spells

variable {c : Char} {k : Token} {t v : Text} {ks ls : List Token}

theorem tokens?_eq (h : Spells t ks) : tokens? t = some ks := by
  have := h [] isApart_nil
  rwa [List.append_nil, tokens?, Option.map_some, List.append_nil] at this

theorem nil : Spells [] [] := by
  intro u _
  exact Option.map_id'.symm

theorem punctuation (hc : punctuation? c = some k) (h : Spells t ks) :
    Spells (c :: t) (k :: ks) := by
  intro u hu
  have hk : splitToken? c (t ++ u) = some (k, t ++ u) := by rw [splitToken?, hc]
  rw [List.cons_append, tokens?_cons_of_splitToken? (not_isSpace_of_punctuation? hc).1 hk, h u hu,
    Option.map_map]
  rfl

theorem space (hc : isSpace c = true) (h : Spells t ks) : Spells (c :: t) ks := by
  intro u hu
  rw [List.cons_append, tokens?_cons_of_isSpace _ hc, h u hu]

theorem append_cons (ht : Spells t ks) (hc : isNumberChar c = false) (hv : Spells (c :: v) ls) :
    Spells (t ++ c :: v) (ks ++ ls) := by
  intro u hu
  rw [List.append_assoc, ht (c :: v ++ u) (isApart_cons (v ++ u) hc), hv u hu, Option.map_map]
  exact Option.map_congr fun _ _ => (List.append_assoc ..).symm

/-! ## Values that are no arrays and no objects -/

theorem number {n : Text} (hn : isNumber n = true) : Spells n [.number n] := by
  intro u hu
  obtain _ | ⟨c, t⟩ := n
  · cases hn
  have hc := (List.all_eq_true.1 (all_isNumberChar_of_isNumber hn)) c List.mem_cons_self
  exact tokens?_cons_of_splitToken? (not_isSpace_of_isNumberChar hc) (splitToken?_number hn hu)

theorem quoted {s : Text} (hs : IsLexeme s) : Spells (quoted s) [.string s] := by
  intro u _
  have hk : splitToken? '"' (s ++ '"' :: u) = some (.string s, u) := by
    rw [splitToken?, if_pos rfl, hs u]
    rfl
  rw [Json.quoted, List.cons_append, List.append_assoc, List.singleton_append]
  exact tokens?_cons_of_splitToken? rfl hk

/-- The words are found where they stand: no two of them start with the same letter. -/
theorem word {w : Text} (h : (w, k) ∈ words) : Spells w [k] := by
  intro u _
  simp only [words, List.mem_cons, Prod.mk.injEq, List.not_mem_nil, or_false] at h
  rcases h with ⟨rfl, rfl⟩ | ⟨rfl, rfl⟩ | ⟨rfl, rfl⟩ <;> exact tokens?_cons_of_splitToken? rfl rfl

theorem null : Spells (scalarText .null) [.null] := word (by simp [words, scalarText])

theorem bool (b : Bool) : Spells (scalarText (.bool b)) [.bool b] := by
  cases b <;> exact word (by simp [words, scalarText])

theorem newLine (level : Nat) (h : Spells t ks) : Spells (newLine level ++ t) ks := by
  refine space rfl ?_
  induction 2 * level with
  | zero => exact h
  | succ n ih => exact space rfl ih

end Spells

/-! ## The tokens of a value -/

mutual

/-- Is every string and every number of a value well written, and every key? -/
def IsWritten : Json → Prop
  | .number n => isNumber n = true
  | .string s => IsLexeme s
  | .array items => AreWritten items
  | .object members => MembersWritten members
  | _ => True
termination_by structural j => j

/-- Are all items well written? -/
def AreWritten : List Json → Prop
  | [] => True
  | j :: js => j.IsWritten ∧ AreWritten js
termination_by structural js => js

/-- Are all members well written? -/
def MembersWritten : List (Text × Json) → Prop
  | [] => True
  | (k, j) :: ms => IsLexeme k ∧ j.IsWritten ∧ MembersWritten ms
termination_by structural ms => ms

end

mutual

/-- The tokens of a value. -/
def tokens : Json → List Token
  | .null => [.null]
  | .bool b => [.bool b]
  | .number n => [.number n]
  | .string s => [.string s]
  | .array items => .openArray :: (itemTokens items ++ [.closeArray])
  | .object members => .openObject :: (memberTokens members ++ [.closeObject])
termination_by structural j => j

/-- The tokens of items, with commas between them. -/
def itemTokens : List Json → List Token
  | [] => []
  | [j] => tokens j
  | j :: js => tokens j ++ .comma :: itemTokens js
termination_by structural js => js

/-- The tokens of members, with commas between them. -/
def memberTokens : List (Text × Json) → List Token
  | [] => []
  | [(k, j)] => .string k :: .colon :: tokens j
  | (k, j) :: ms => .string k :: .colon :: (tokens j ++ .comma :: memberTokens ms)
termination_by structural ms => ms

end

theorem areWritten_iff {js : List Json} : AreWritten js ↔ ∀ j ∈ js, j.IsWritten := by
  induction js with
  | nil => simp [AreWritten]
  | cons j js ih => simp [AreWritten, ih]

theorem membersWritten_iff {ms : List (Text × Json)} :
    MembersWritten ms ↔ ∀ m ∈ ms, IsLexeme m.1 ∧ m.2.IsWritten := by
  induction ms with
  | nil => simp [MembersWritten]
  | cons m ms ih => simp [MembersWritten, ih, and_assoc]

/-! ## Both printers spell the tokens -/

namespace Spells

variable {c d : Char} {k l : Token} {t v : Text} {ks ls : List Token}

theorem single (hc : punctuation? c = some k) : Spells [c] [k] := punctuation hc nil

/-- Two parts with a comma or the like between them. -/
theorem append_punctuation (ht : Spells t ks) (hc : punctuation? c = some k) (hv : Spells v ls) :
    Spells (t ++ c :: v) (ks ++ k :: ls) :=
  ht.append_cons (not_isSpace_of_punctuation? hc).2 (punctuation hc hv)

/-- A key with its colon, in front of a value. -/
theorem member {key : Text} (hkey : IsLexeme key) (hv : Spells v ls) :
    Spells (Json.quoted key ++ ':' :: v) (.string key :: .colon :: ls) :=
  (quoted hkey).append_punctuation rfl hv

theorem member_newLine {key : Text} (hkey : IsLexeme key) (hv : Spells v ls) (level : Nat) :
    Spells (Json.newLine level ++ Json.quoted key ++ ": ".toList ++ v)
      (.string key :: .colon :: ls) := by
  rw [List.append_assoc, List.append_assoc]
  exact newLine level (member hkey (space rfl hv))

/-- What stands in brackets. -/
theorem enclosed (hc : punctuation? c = some k) (ht : Spells t ks) (hd : punctuation? d = some l) :
    Spells (c :: (t ++ [d])) (k :: (ks ++ [l])) :=
  punctuation hc (ht.append_punctuation hd nil)

theorem enclosed_newLine (hc : punctuation? c = some k) (ht : Spells t ks)
    (hd : punctuation? d = some l) (level : Nat) :
    Spells (c :: (t ++ Json.newLine level ++ [d])) (k :: (ks ++ [l])) := by
  rw [List.append_assoc]
  exact punctuation hc (ht.append_cons rfl (newLine level (single hd)))

end Spells

mutual

theorem spells_compact : ∀ j : Json, j.IsWritten → Spells j.compact j.tokens
  | .null, _ => .null
  | .bool b, _ => .bool b
  | .number _, h => .number h
  | .string _, h => .quoted h
  | .array items, h => .enclosed rfl (spells_compactItems items h) rfl
  | .object members, h => .enclosed rfl (spells_compactMembers members h) rfl
termination_by structural j => j

theorem spells_compactItems :
    ∀ js : List Json, AreWritten js → Spells (compactItems js) (itemTokens js)
  | [], _ => .nil
  | [j], h => spells_compact j h.1
  | j :: j' :: js, h =>
    .append_punctuation (spells_compact j h.1) rfl (spells_compactItems (j' :: js) h.2)
termination_by structural js => js

theorem spells_compactMembers :
    ∀ ms : List (Text × Json), MembersWritten ms → Spells (compactMembers ms) (memberTokens ms)
  | [], _ => .nil
  | [(_, j)], h => .member h.1 (spells_compact j h.2.1)
  | (_, j) :: m :: ms, h =>
    .append_punctuation (.member h.1 (spells_compact j h.2.1)) rfl
      (spells_compactMembers (m :: ms) h.2.2)
termination_by structural ms => ms

end

mutual

theorem spells_pretty : ∀ (j : Json) (level : Nat), j.IsWritten → Spells (j.pretty level) j.tokens
  | .null, _, _ => .null
  | .bool b, _, _ => .bool b
  | .number _, _, h => .number h
  | .string _, _, h => .quoted h
  | .array [], _, _ => .enclosed rfl .nil rfl
  | .array (j :: js), level, h =>
    .enclosed_newLine rfl (spells_prettyItems (j :: js) (level + 1) h) rfl level
  | .object [], _, _ => .enclosed rfl .nil rfl
  | .object (m :: ms), level, h =>
    .enclosed_newLine rfl (spells_prettyMembers (m :: ms) (level + 1) h) rfl level
termination_by structural j => j

theorem spells_prettyItems :
    ∀ (js : List Json) (level : Nat), AreWritten js →
      Spells (prettyItems level js) (itemTokens js)
  | [], _, _ => .nil
  | [j], level, h => .newLine level (spells_pretty j level h.1)
  | j :: j' :: js, level, h =>
    .append_punctuation (.newLine level (spells_pretty j level h.1)) rfl
      (spells_prettyItems (j' :: js) level h.2)
termination_by structural js => js

theorem spells_prettyMembers :
    ∀ (ms : List (Text × Json)) (level : Nat), MembersWritten ms →
      Spells (prettyMembers level ms) (memberTokens ms)
  | [], _, _ => .nil
  | [(_, j)], level, h => .member_newLine h.1 (spells_pretty j level h.2.1) level
  | (_, j) :: m :: ms, level, h =>
    .append_punctuation (.member_newLine h.1 (spells_pretty j level h.2.1) level) rfl
      (spells_prettyMembers (m :: ms) level h.2.2)
termination_by structural ms => ms

end

/-! ## Reading the tokens -/

namespace Reader

/-- The reader after some tokens. -/
def run? (r : Reader) (ks : List Token) : Option Reader := ks.foldlM step r

theorem run?_cons (r : Reader) (k : Token) (ks : List Token) :
    r.run? (k :: ks) = (r.step k).bind (·.run? ks) := rfl

theorem run?_key (fs : List Frame) (members : List (Text × Json)) (key : Text)
    (ks : List Token) :
    run? ⟨fs, .key members⟩ (.string key :: .colon :: ks) =
      run? ⟨.object members key :: fs, .value⟩ ks := rfl

/-- No value starts with the end of an array: the first item is read as the others are. -/
theorem run?_firstItem (fs : List Frame) (j : Json) (ks : List Token) :
    run? ⟨fs, .firstItem⟩ (tokens j ++ ks) = run? ⟨.array [] :: fs, .value⟩ (tokens j ++ ks) := by
  cases j <;> rfl

theorem run?_firstItems (fs : List Frame) (j : Json) (js : List Json) (ks : List Token) :
    run? ⟨fs, .firstItem⟩ (itemTokens (j :: js) ++ ks) =
      run? ⟨.array [] :: fs, .value⟩ (itemTokens (j :: js) ++ ks) := by
  cases js with
  | nil => exact run?_firstItem fs j ks
  | cons j' js =>
    rw [itemTokens.eq_3 j (j' :: js) nofun, List.append_assoc]
    exact run?_firstItem fs j _

/-- So is the first member. -/
theorem run?_firstKey (fs : List Frame) (m : Text × Json) (ms : List (Text × Json))
    (ks : List Token) :
    run? ⟨fs, .firstKey⟩ (memberTokens (m :: ms) ++ ks) =
      run? ⟨fs, .key []⟩ (memberTokens (m :: ms) ++ ks) := by
  cases ms <;> rfl

mutual

/-- Where a value is expected, its tokens are read as this value, inside whatever is open. -/
theorem run?_tokens : ∀ (j : Json) (fs : List Frame) (ks : List Token),
    run? ⟨fs, .value⟩ (tokens j ++ ks) = run? ⟨fs, .next j⟩ ks
  | .null, _, _ => rfl
  | .bool _, _, _ => rfl
  | .number _, _, _ => rfl
  | .string _, _, _ => rfl
  | .array [], _, _ => rfl
  | .array (j :: js), fs, ks => by
    rw [tokens, List.cons_append, List.append_assoc]
    exact (run?_firstItems fs j js _).trans (run?_itemTokens (j :: js) [] fs ks nofun)
  | .object [], _, _ => rfl
  | .object (m :: ms), fs, ks => by
    rw [tokens, List.cons_append, List.append_assoc]
    exact (run?_firstKey fs m ms _).trans (run?_memberTokens (m :: ms) [] fs ks nofun)
termination_by structural j => j

/-- Items are put behind the ones that have been read, up to the end of their array. -/
theorem run?_itemTokens : ∀ (js items : List Json) (fs : List Frame) (ks : List Token), js ≠ [] →
    run? ⟨.array items :: fs, .value⟩ (itemTokens js ++ .closeArray :: ks) =
      run? ⟨fs, .next (.array (items.reverse ++ js))⟩ ks
  | [j], items, fs, ks, _ => by
    rw [itemTokens, run?_tokens j, run?_cons, ← List.reverse_cons]
    rfl
  | j :: j' :: js, items, fs, ks, _ => by
    rw [itemTokens.eq_3 j (j' :: js) nofun, List.append_assoc, run?_tokens j, List.cons_append,
      run?_cons]
    have ih := run?_itemTokens (j' :: js) (j :: items) fs ks nofun
    rwa [List.reverse_cons, List.append_assoc, List.singleton_append] at ih
termination_by structural js => js

/-- The same for members. -/
theorem run?_memberTokens : ∀ (ms members : List (Text × Json)) (fs : List Frame)
    (ks : List Token), ms ≠ [] →
    run? ⟨fs, .key members⟩ (memberTokens ms ++ .closeObject :: ks) =
      run? ⟨fs, .next (.object (members.reverse ++ ms))⟩ ks
  | [(k, j)], members, fs, ks, _ => by
    rw [memberTokens, List.cons_append, List.cons_append, run?_key, run?_tokens j, run?_cons,
      ← List.reverse_cons]
    rfl
  | (k, j) :: m :: ms, members, fs, ks, _ => by
    rw [memberTokens.eq_3 k j (m :: ms) nofun, List.cons_append, List.cons_append,
      List.append_assoc, run?_key, run?_tokens j, List.cons_append, run?_cons]
    have ih := run?_memberTokens (m :: ms) ((k, j) :: members) fs ks nofun
    rwa [List.reverse_cons, List.append_assoc, List.singleton_append] at ih
termination_by structural ms => ms

end

end Reader

theorem ofTokens?_tokens (j : Json) : ofTokens? (tokens j) = some j := by
  have h := Reader.run?_tokens j [] []
  rw [List.append_nil] at h
  rw [ofTokens?, Reader.initial, ← Reader.run?, h]
  rfl

/-- A text that spells the tokens of a value is read as that value. -/
theorem parse?_of_spells {t : Text} {j : Json} (h : Spells t j.tokens) : parse? t = some j := by
  rw [parse?, h.tokens?_eq, Option.bind_some, ofTokens?_tokens]

theorem parse?_compact {j : Json} (h : j.IsWritten) : parse? j.compact = some j :=
  parse?_of_spells (spells_compact j h)

theorem parse?_pretty {j : Json} (h : j.IsWritten) (level : Nat) :
    parse? (j.pretty level) = some j :=
  parse?_of_spells (spells_pretty j level h)

end GemDeps.Json
