import GemDeps.Proofs.Blanks
import GemDeps.Revision.Addition
import Mathlib.Data.List.Basic

/-!
# Characters of written statements

A written statement consists of the characters of its name and options and of plain ones, the
printable ASCII characters. So it stays on one line when its strings do
(`forall_mem_gemStatement`), and it never ends in a carriage return (`EndsPlain`), which would be
taken for a part of the line end after it.
-/

namespace GemDeps

/-- A printable ASCII character. -/
def isPlain (c : Char) : Bool := 0x20 ≤ c.toNat && c.toNat < 0x7F

/-- The path that a `require` option names. -/
def RequireOption.path? : RequireOption → Option Text
  | .disabled => none
  | .path p => some p

/-- The strings of some options. -/
def DeclarationOptions.strings (o : DeclarationOptions) : List Text :=
  o.version.toList ++ o.groups ++ o.platforms ++ o.source.toList ++
    (o.require.bind RequireOption.path?).toList

/-- An optional part has a property if it does for any value that it may be written for. -/
theorem forall_mem_toList_map {α β : Type} {f : α → β} {o : Option α} {p : β → Prop}
    (h : ∀ a ∈ o, p (f a)) : ∀ b ∈ (o.map f).toList, p b := by
  intro b hb
  obtain ⟨a, ha, rfl⟩ := Option.map_eq_some_iff.1 (Option.mem_toList.1 hb)
  exact h a ha

theorem forall_mem_join {P : Char → Prop} {sep : Text} {ps : List Text} (hsep : ∀ c ∈ sep, P c)
    (h : ∀ p ∈ ps, ∀ c ∈ p, P c) : ∀ c ∈ Text.join sep ps, P c := by
  induction ps with
  | nil => simp [Text.join, List.intercalate]
  | cons p ps ih =>
    cases ps with
    | nil =>
      rw [Text.join_singleton]
      exact h p (by simp)
    | cons r ps =>
      rw [Text.join_cons_cons, List.forall_mem_append, List.forall_mem_append]
      exact ⟨h p (by simp), hsep, ih fun q hq => h q (List.mem_cons_of_mem _ hq)⟩

/-! ## Which characters are written -/

section Characters

variable {P : Char → Prop} (hP : ∀ c, isPlain c = true → P c)

include hP

theorem forall_mem_of_plain {t : Text} (ht : t.all isPlain = true) : ∀ c ∈ t, P c := by
  intro c hc
  exact hP c (List.all_eq_true.1 ht c hc)

theorem forall_mem_commaSeparated {ps : List Text} (h : ∀ p ∈ ps, ∀ c ∈ p, P c) :
    ∀ c ∈ commaSeparated ps, P c :=
  forall_mem_join (forall_mem_of_plain hP (by decide)) h

theorem forall_mem_escape (q : QuoteStyle) {t : Text} (ht : ∀ c ∈ t, P c) :
    ∀ c ∈ q.escape t, P c := by
  induction t with
  | nil => simp [QuoteStyle.escape]
  | cons d t ih =>
    rw [List.forall_mem_cons] at ht
    rw [QuoteStyle.escape]
    split
    · rw [List.forall_mem_cons, List.forall_mem_cons]
      exact ⟨hP _ (by decide), ht.1, ih ht.2⟩
    · rw [List.forall_mem_cons]
      exact ⟨ht.1, ih ht.2⟩

theorem forall_mem_wrap (q : QuoteStyle) {t : Text} (ht : ∀ c ∈ t, P c) : ∀ c ∈ q.wrap t, P c := by
  have hmark : P q.mark := hP _ (by cases q <;> decide)
  rw [QuoteStyle.wrap, List.forall_mem_cons, List.forall_mem_append]
  exact ⟨hmark, forall_mem_escape hP q ht, by simpa using hmark⟩

theorem forall_mem_symbolText (q : QuoteStyle) {t : Text} (ht : ∀ c ∈ t, P c) :
    ∀ c ∈ symbolText t q, P c := by
  have hcolon : P ':' := hP _ (by decide)
  unfold symbolText
  split
  · exact List.forall_mem_cons.2 ⟨hcolon, ht⟩
  · exact List.forall_mem_cons.2 ⟨hcolon, forall_mem_wrap hP q ht⟩

theorem forall_mem_versionConstraint (op : Option Operator) {v : Text} (hv : ∀ c ∈ v, P c) :
    ∀ c ∈ versionConstraint v op, P c := by
  have htrim : ∀ c ∈ Text.trim v, P c := fun c hc => hv c ((Text.trim_sublist v).mem hc)
  cases op with
  | none => exact htrim
  | some op =>
    rw [versionConstraint, List.forall_mem_append, List.forall_mem_cons]
    exact ⟨forall_mem_of_plain hP (by cases op <;> decide), hP _ (by decide), htrim⟩

theorem forall_mem_platformsPart (q : QuoteStyle) {names : List Text}
    (h : ∀ t ∈ names, ∀ c ∈ t, P c) : ∀ p ∈ platformsPart names q, ∀ c ∈ p, P c := by
  unfold platformsPart
  split
  · simp
  · rw [List.forall_mem_singleton, List.forall_mem_append]
    exact ⟨forall_mem_of_plain hP (by decide), forall_mem_symbolText hP q (h _ (by simp))⟩
  · rw [List.forall_mem_singleton, List.forall_mem_append, List.forall_mem_append]
    refine ⟨⟨forall_mem_of_plain hP (by decide), forall_mem_commaSeparated hP ?_⟩,
      forall_mem_of_plain hP (by decide)⟩
    intro p hp
    obtain ⟨t, ht, rfl⟩ := List.mem_map.1 hp
    exact forall_mem_symbolText hP q (h t ht)

theorem forall_mem_sourcePart (q : QuoteStyle) {source : Text} (h : ∀ c ∈ source, P c) :
    ∀ c ∈ sourcePart source q, P c := by
  rw [sourcePart, List.forall_mem_append, List.forall_mem_append]
  refine ⟨⟨forall_mem_of_plain hP ?_, forall_mem_of_plain hP (by decide)⟩, forall_mem_wrap hP q h⟩
  cases Origin.ofSource source <;> decide

theorem forall_mem_requirePart (q : QuoteStyle) {r : RequireOption}
    (h : ∀ t ∈ r.path?, ∀ c ∈ t, P c) : ∀ c ∈ requirePart r q, P c := by
  cases r with
  | disabled => exact forall_mem_of_plain hP (t := "require: false".toList) (by decide)
  | path p =>
    change ∀ c ∈ "require: ".toList ++ q.wrap p, P c
    rw [List.forall_mem_append]
    exact ⟨forall_mem_of_plain hP (by decide), forall_mem_wrap hP q (h p rfl)⟩

theorem forall_mem_constraint {o : DeclarationOptions} (hv : ∀ v ∈ o.version, ∀ c ∈ v, P c) :
    ∀ k ∈ o.constraint?, ∀ c ∈ k, P c := by
  intro k hk
  obtain ⟨v, hversion, rfl⟩ := Option.map_eq_some_iff.1 hk
  exact forall_mem_versionConstraint hP o.operator (hv v hversion)

/-- A `gem` statement is made of plain characters and those of its name and options. -/
theorem forall_mem_gemStatement (q : QuoteStyle) {name : Text} {o : DeclarationOptions}
    (hname : ∀ c ∈ name, P c) (ho : ∀ t ∈ o.strings, ∀ c ∈ t, P c) :
    ∀ c ∈ gemStatement name o q, P c := by
  refine forall_mem_commaSeparated hP ?_
  simp only [List.forall_mem_append, List.forall_mem_singleton]
  refine ⟨⟨⟨⟨⟨?_, ?_⟩, ?_⟩, ?_⟩, ?_⟩, ?_⟩
  · exact forall_mem_of_plain hP (by decide)
  · exact forall_mem_wrap hP q hname
  · refine forall_mem_toList_map fun k hk => ?_
    have hversion : ∀ v ∈ o.version, ∀ c ∈ v, P c := fun v hv =>
      ho v (by simp [DeclarationOptions.strings, Option.mem_def.1 hv])
    exact forall_mem_wrap hP q (forall_mem_constraint hP hversion k hk)
  · exact forall_mem_platformsPart hP q fun t ht =>
      ho t (by simp [DeclarationOptions.strings, ht])
  · refine forall_mem_toList_map fun t ht => forall_mem_sourcePart hP q (ho t ?_)
    simp [DeclarationOptions.strings, Option.mem_def.1 ht]
  · refine forall_mem_toList_map fun r hr => forall_mem_requirePart hP q fun t ht => ho t ?_
    simp [DeclarationOptions.strings, Option.mem_def.1 hr, Option.mem_def.1 ht]

/-- A dependency statement is made of plain characters and those of receiver, name and
constraint. -/
theorem forall_mem_dependencyStatement (q : QuoteStyle) {receiver name : Text}
    {o : DeclarationOptions} (hreceiver : ∀ c ∈ receiver, P c) (hname : ∀ c ∈ name, P c)
    (hconstraint : ∀ k ∈ o.constraint?, ∀ c ∈ k, P c) :
    ∀ c ∈ dependencyStatement receiver name o q, P c := by
  unfold dependencyStatement
  refine forall_mem_commaSeparated hP ?_
  rw [List.forall_mem_append, List.forall_mem_singleton, List.forall_mem_append,
    List.forall_mem_append]
  refine ⟨⟨⟨hreceiver, forall_mem_of_plain hP ?_⟩, forall_mem_wrap hP q hname⟩, ?_⟩
  · split <;> decide
  · exact forall_mem_toList_map fun k hk => forall_mem_wrap hP q (hconstraint k hk)

theorem forall_mem_groupLine (q : QuoteStyle) {groups : List Text}
    (h : ∀ t ∈ groups, ∀ c ∈ t, P c) : ∀ c ∈ groupLine groups q, P c := by
  unfold groupLine
  rw [List.forall_mem_append, List.forall_mem_append]
  refine ⟨⟨forall_mem_of_plain hP (by decide), forall_mem_commaSeparated hP ?_⟩,
    forall_mem_of_plain hP (by decide)⟩
  intro p hp
  obtain ⟨t, ht, rfl⟩ := List.mem_map.1 hp
  exact forall_mem_symbolText hP q (h t ht)

end Characters

theorem ne_newline_of_isPlain (c : Char) (hc : isPlain c = true) : c ≠ '\n' := by
  rintro rfl
  simp [isPlain] at hc

/-- A string without line feeds is written without line feeds. -/
theorem newline_notMem_wrap (q : QuoteStyle) {t : Text} (ht : '\n' ∉ t) : '\n' ∉ q.wrap t := by
  intro h
  have ht' : ∀ c ∈ t, c ≠ '\n' := fun c hc hn => ht (hn ▸ hc)
  exact forall_mem_wrap ne_newline_of_isPlain q ht' _ h rfl

/-! ## How written lines end -/

/-- Not empty, and not ending in a carriage return. -/
def EndsPlain (t : Text) : Prop := t ≠ [] ∧ t.getLast? ≠ some '\r'

theorem EndsPlain.append {t : Text} (ht : EndsPlain t) (s : Text) : EndsPlain (s ++ t) :=
  ⟨by simp [ht.1], by rw [List.getLast?_append_of_ne_nil _ ht.1]; exact ht.2⟩

/-- A quote, the bracket behind a list, or a character of an identifier. -/
def isClosing (c : Char) : Bool :=
  (QuoteStyle.ofMark? c).isSome || c == ']' || Text.isAsciiWord c

/-- Ends in a character that a written argument ends in. -/
def EndsClosed (t : Text) : Prop := ∃ s c, t = s ++ [c] ∧ isClosing c = true

namespace EndsClosed

theorem append {t : Text} (ht : EndsClosed t) (s : Text) : EndsClosed (s ++ t) := by
  obtain ⟨u, c, rfl, hc⟩ := ht
  exact ⟨s ++ u, c, (List.append_assoc s u [c]).symm, hc⟩

/-- No blank, comma or backslash is at the end, and in particular no carriage return. -/
theorem getLast?_ne {t : Text} (ht : EndsClosed t) {d : Char} (hd : isClosing d = false) :
    t.getLast? ≠ some d := by
  obtain ⟨u, c, rfl, hc⟩ := ht
  rw [List.getLast?_concat]
  rintro heq
  obtain rfl := Option.some.inj heq
  rw [hd] at hc
  cases hc

theorem ne_nil {t : Text} (ht : EndsClosed t) : t ≠ [] := by
  obtain ⟨u, c, rfl, -⟩ := ht
  simp

theorem endsPlain {t : Text} (ht : EndsClosed t) : EndsPlain t :=
  ⟨ht.ne_nil, ht.getLast?_ne (by decide)⟩

end EndsClosed

/-- What holds at the end of every part holds at the end of all. -/
theorem commaSeparated_of_append {P : Text → Prop} (happend : ∀ s t, P t → P (s ++ t))
    {ps : List Text} (hne : ps ≠ []) (h : ∀ p ∈ ps, P p) : P (commaSeparated ps) := by
  unfold commaSeparated
  induction ps with
  | nil => exact absurd rfl hne
  | cons p ps ih =>
    cases ps with
    | nil =>
      rw [Text.join_singleton]
      exact h p (by simp)
    | cons r ps =>
      rw [Text.join_cons_cons]
      exact happend _ _ (happend _ _ (ih (by simp) fun q hq => h q (List.mem_cons_of_mem _ hq)))

theorem endsClosed_commaSeparated {ps : List Text} (hne : ps ≠ []) (h : ∀ p ∈ ps, EndsClosed p) :
    EndsClosed (commaSeparated ps) :=
  commaSeparated_of_append (P := EndsClosed) (fun s _ ht => ht.append s) hne h

theorem endsClosed_wrap (q : QuoteStyle) (t : Text) : EndsClosed (q.wrap t) :=
  ⟨q.mark :: q.escape t, q.mark, rfl, by cases q <;> decide⟩

theorem exists_cons_of_isIdentifier {t : Text} (h : Text.isIdentifier t = true) :
    ∃ c r, t = c :: r ∧ Text.startsIdentifier c = true ∧ ∀ d ∈ t, Text.isAsciiWord d = true := by
  cases t with
  | nil => cases h
  | cons c r =>
    rw [Text.isIdentifier, Bool.and_eq_true] at h
    refine ⟨c, r, rfl, h.1, List.forall_mem_cons.2 ⟨?_, List.all_eq_true.1 h.2⟩⟩
    have hc := h.1
    rw [Text.startsIdentifier, Bool.or_eq_true] at hc
    rw [Text.isAsciiWord, Char.isAlphanum, Bool.or_eq_true, Bool.or_eq_true]
    exact hc.imp_left .inl

theorem exists_concat_of_isIdentifier {t : Text} (h : Text.isIdentifier t = true) :
    ∃ u d, t = u ++ [d] ∧ Text.isAsciiWord d = true := by
  obtain ⟨c, r, hcons, -, hall⟩ := exists_cons_of_isIdentifier h
  have hne : t ≠ [] := by simp [hcons]
  exact ⟨_, _, (List.dropLast_concat_getLast hne).symm, hall _ (List.getLast_mem hne)⟩

theorem endsClosed_symbolText (name : Text) (q : QuoteStyle) : EndsClosed (symbolText name q) := by
  unfold symbolText
  split
  · rename_i hname
    obtain ⟨u, d, hu, hd⟩ := exists_concat_of_isIdentifier hname
    refine EndsClosed.append ⟨u, d, hu, ?_⟩ [':']
    rw [isClosing, hd, Bool.or_true]
  · exact (endsClosed_wrap q name).append [':']

theorem endsClosed_platformsPart (names : List Text) (q : QuoteStyle) :
    ∀ p ∈ platformsPart names q, EndsClosed p := by
  unfold platformsPart
  split
  · simp
  · rw [List.forall_mem_singleton]
    exact (endsClosed_symbolText _ q).append _
  · rw [List.forall_mem_singleton]
    exact ⟨_, ']', rfl, by decide⟩

theorem endsClosed_requirePart (r : RequireOption) (q : QuoteStyle) :
    EndsClosed (requirePart r q) := by
  cases r with
  | disabled => exact ⟨"require: fals".toList, 'e', rfl, by decide⟩
  | path t => exact (endsClosed_wrap q t).append _

theorem endsPlain_gemStatement (name : Text) (o : DeclarationOptions) (q : QuoteStyle) :
    EndsPlain (gemStatement name o q) := by
  refine (endsClosed_commaSeparated (by simp) ?_).endsPlain
  simp only [List.forall_mem_append, List.forall_mem_singleton]
  refine ⟨⟨⟨⟨(endsClosed_wrap q name).append _, ?_⟩, endsClosed_platformsPart _ q⟩, ?_⟩, ?_⟩
  · exact forall_mem_toList_map fun k _ => endsClosed_wrap q k
  · exact forall_mem_toList_map fun t _ => (endsClosed_wrap q t).append _
  · exact forall_mem_toList_map fun r _ => endsClosed_requirePart r q

theorem endsPlain_dependencyStatement (receiver name : Text) (o : DeclarationOptions)
    (q : QuoteStyle) : EndsPlain (dependencyStatement receiver name o q) := by
  unfold dependencyStatement
  refine (endsClosed_commaSeparated
    (List.append_ne_nil_of_left_ne_nil (List.cons_ne_nil _ _) _) ?_).endsPlain
  rw [List.forall_mem_append, List.forall_mem_singleton]
  exact ⟨(endsClosed_wrap q name).append _, forall_mem_toList_map fun k _ => endsClosed_wrap q k⟩

theorem endsPlain_groupLine (groups : List Text) (q : QuoteStyle) :
    EndsPlain (groupLine groups q) :=
  EndsPlain.append ⟨by decide, by decide⟩ _

end GemDeps
