import GemDeps.Proofs.SplitArguments
import GemDeps.Proofs.Validated

/-!
# Reading written arguments

An item is a text that no scanner cuts: no comma in it separates arguments, no arrow in it separates
a key from a value and no comment starts in it. Items written one after the other, separated by
commas, are read as the arguments they are (`splitArguments_commaSeparated`), and the value of each
is what was written: strings, symbols, lists of symbols, and options with their keys
(`pair?_option`).
-/

namespace GemDeps

/-! ## Items -/

/-- A text inside one argument. -/
structure IsItem (p : Text) : Prop where
  uncommented : IsUncommented p
  onePiece : ∀ d t, splitCommas .code d (p ++ t) = p.foldr consFirst (splitCommas .code d t)
  arrowless : ∀ t, splitArrow? .code (p ++ t) =
    (splitArrow? .code t).map fun q => (p ++ q.1, q.2)

/-- No quote, no bracket, no `#`, no comma and no equals sign. -/
def isItemChar (c : Char) : Bool := isFlatChar c && c != ',' && c != '='

theorem IsItem.append {p q : Text} (hp : IsItem p) (hq : IsItem q) : IsItem (p ++ q) where
  uncommented := hp.uncommented.append hq.uncommented
  onePiece d t := by rw [List.append_assoc, hp.onePiece, hq.onePiece, List.foldr_append]
  arrowless t := by
    rw [List.append_assoc, hp.arrowless, hq.arrowless, Option.map_map]
    simp [Function.comp_def]

theorem IsItem.nil : IsItem [] where
  uncommented _ := rfl
  onePiece _ _ := rfl
  arrowless t := by simp

theorem isItem_singleton {c : Char} (hc : isItemChar c = true) : IsItem [c] := by
  obtain ⟨⟨hflat, hcomma⟩, hequals⟩ : (isFlatChar c = true ∧ c ≠ ',') ∧ c ≠ '=' := by
    simpa [isItemChar] using hc
  have hchar := IsFlatChar.of_eq_true hflat
  refine ⟨(IsFlat.cons hflat .nil).isUncommented, fun d t => ?_, fun t => ?_⟩
  · rw [List.singleton_append, splitCommas, if_neg (by simp [hcomma]), hchar.next, hchar.depth]
    rfl
  · rw [List.singleton_append, splitArrow?, if_neg (by simp [hequals]), hchar.next]
    rfl

theorem isItem_of_forall {p : Text} (h : ∀ c ∈ p, isItemChar c = true) : IsItem p := by
  induction p with
  | nil => exact .nil
  | cons c p ih =>
    obtain ⟨hc, hp⟩ := List.forall_mem_cons.1 h
    exact (isItem_singleton hc).append (ih hp)

theorem splitArrow?_of_leaves {z : Zone} {u : Text} (hu : z.Leaves u) (t : Text) :
    splitArrow? z (u ++ t) = (splitArrow? .code t).map fun q => (u ++ q.1, q.2) := by
  induction u generalizing z with
  | nil =>
    obtain rfl : z = .code := hu
    simp
  | cons c u ih =>
    have hz := Zone.isCode_eq_false hu.1
    rw [List.cons_append, splitArrow?, hz, Bool.false_and, Bool.false_and,
      if_neg Bool.false_ne_true, ih hu.2, Option.map_map]
    rfl

theorem IsLiteral.isItem {l : Text} (hl : IsLiteral l) : IsItem l := by
  refine ⟨hl.isFlat.isUncommented, fun d t => splitCommas_literal hl d t, fun t => ?_⟩
  obtain ⟨q, u, rfl, hu⟩ := hl
  have hequals : ¬ (Zone.isCode .code && q.mark == '=' && (u ++ t).head? == some '>') = true := by
    cases q <;> simp [QuoteStyle.mark]
  rw [List.cons_append, splitArrow?, if_neg hequals, next_code_mark, splitArrow?_of_leaves hu,
    Option.map_map]
  rfl

/-! ## Items separated by commas -/

/-- What holds of the parts, of the separator and of texts put together holds of the whole. -/
theorem commaSeparated_induction {P : Text → Prop} (hnil : P []) (hsep : P ", ".toList)
    (happend : ∀ s t, P s → P t → P (s ++ t)) {ps : List Text} (h : ∀ p ∈ ps, P p) :
    P (commaSeparated ps) := by
  induction ps with
  | nil => exact hnil
  | cons p ps ih =>
    cases ps with
    | nil =>
      rw [commaSeparated_singleton]
      exact h p List.mem_cons_self
    | cons q ps =>
      rw [commaSeparated_cons_cons]
      exact happend _ _ (h p List.mem_cons_self)
        (happend _ _ hsep (ih fun r hr => h r (List.mem_cons_of_mem _ hr)))

theorem isUncommented_commaSeparated {ps : List Text} (h : ∀ p ∈ ps, IsItem p) :
    IsUncommented (commaSeparated ps) :=
  commaSeparated_induction (fun _ => rfl) isFlat_separator.isUncommented
    (fun _ _ => IsUncommented.append) fun p hp => (h p hp).uncommented

/-- Items in square brackets are one item. -/
theorem isItem_list {ps : List Text} (h : ∀ p ∈ ps, IsItem p) :
    IsItem ('[' :: (commaSeparated ps ++ [']'])) where
  uncommented := by
    have hopen : IsUncommented ['['] := fun _ => rfl
    have hclose : IsUncommented [']'] := fun _ => rfl
    exact hopen.append ((isUncommented_commaSeparated h).append hclose)
  onePiece d t := by
    have hinner : ∀ u, splitCommas .code (d + 1) (commaSeparated ps ++ u) =
        (commaSeparated ps).foldr consFirst (splitCommas .code (d + 1) u) := by
      refine commaSeparated_induction (fun _ => rfl) (fun _ => rfl) ?_ fun p hp u =>
        (h p hp).onePiece (d + 1) u
      intro s t hs ht u
      rw [List.append_assoc, hs, ht, List.foldr_append]
    show consFirst '[' (splitCommas .code (d + 1) (commaSeparated ps ++ [']'] ++ t)) = _
    rw [List.append_assoc, hinner]
    show consFirst '[' ((commaSeparated ps).foldr consFirst
      (consFirst ']' (splitCommas .code d t))) = _
    rw [List.foldr_cons, List.foldr_append]
    rfl
  arrowless t := by
    have hinner : ∀ u, splitArrow? .code (commaSeparated ps ++ u) =
        (splitArrow? .code u).map fun q => (commaSeparated ps ++ q.1, q.2) := by
      refine commaSeparated_induction (fun u => by simp) (fun u => ?_) ?_ fun p hp u =>
        (h p hp).arrowless u
      · show ((splitArrow? .code u).map fun p => (' ' :: p.1, p.2)).map
          (fun p => (',' :: p.1, p.2)) = _
        rw [Option.map_map]
        rfl
      · intro s t hs ht u
        rw [List.append_assoc, hs, ht, Option.map_map]
        simp [Function.comp_def]
    show (splitArrow? .code (commaSeparated ps ++ [']'] ++ t)).map (fun p => ('[' :: p.1, p.2)) = _
    rw [List.append_assoc, hinner]
    show (((splitArrow? .code t).map fun p => (']' :: p.1, p.2)).map _).map _ = _
    rw [Option.map_map, Option.map_map]
    simp [Function.comp_def]

/-- An item that is an argument as it stands. -/
structure IsArgument (p : Text) : Prop extends IsItem p where
  trimmed : Text.IsTrimmed p
  ne_nil : p ≠ []

theorem IsArgument.trim_eq {p : Text} (hp : IsArgument p) : Text.trim p = p :=
  Text.trim_of_isTrimmed hp.trimmed

/-- An item behind which a comma cuts ends in plain code, outside brackets. -/
theorem IsArgument.isPiece {p : Text} (hp : IsArgument p) : IsPiece p := by
  have huncut : splitCommas .code 0 p = [p] := by
    have hpiece := hp.onePiece 0 []
    rwa [List.append_nil, splitCommas, foldr_consFirst, List.append_nil] at hpiece
  have hcut : (Zone.isCode (Zone.run .code p) && ',' == ',' && openBrackets .code 0 p == 0) =
      true := by
    have hcomma := hp.onePiece 0 [',']
    rw [splitCommas_append_of_eq huncut] at hcomma
    by_contra hcut
    rw [splitCommas, if_neg hcut] at hcomma
    have hlength := congrArg List.length
      ((foldr_consFirst p [','] []).symm.trans (hcomma.trans (foldr_consFirst p [] [[]])))
    cases hlength
  obtain ⟨hzone, hdepth⟩ : Zone.isCode (Zone.run .code p) = true ∧ openBrackets .code 0 p = 0 := by
    simpa using hcut
  refine ⟨⟨hp.ne_nil, hp.trim_eq, huncut⟩, ?_, hdepth⟩
  by_contra hne
  rw [Zone.isCode_eq_false hne] at hzone
  cases hzone

/-- Arguments separated by commas are read as they were written. -/
theorem splitArguments_commaSeparated {ps : List Text} (h : ∀ p ∈ ps, IsArgument p) :
    splitArguments (commaSeparated ps) = ps :=
  (isSplit_commaSeparated fun p hp => (h p hp).isPiece).splitArguments_eq

/-! ## Values -/

namespace Value

/-- The value of an argument does not depend on the blanks around it. -/
theorem read_congr {s t : Text} (h : s.trim = t.trim) : read s = read t := by
  unfold read
  rw [h]

theorem read_eq_readScalar {t : Text} (htrim : t.trim = t) (hquote : Quoted.whole? t = none)
    (hbracket : Text.between? '[' ']' t = none) : read t = readScalar t := by
  unfold read
  rw [htrim]
  split
  · rename_i v hv
    rw [hquote] at hv
    cases hv
  · split
    · rename_i inner hinner
      rw [hbracket] at hinner
      cases hinner
    · rfl

/-- A string is read between its quotes, with the backslashes that were written. -/
theorem read_wrap_escape (q : QuoteStyle) (t : Text) : read (q.wrap t) = .str (q.escape t) :=
  read_literal (leaves_escape q t)

end Value

/-! ### Identifiers -/

/-- A text that starts like an identifier starts with no quote, bracket, colon or percent sign. -/
theorem ne_of_startsIdentifier {c d : Char} (hc : Text.startsIdentifier c = true)
    (hd : Text.startsIdentifier d = false) : c ≠ d := by
  rintro rfl
  rw [hc] at hd
  cases hd

theorem isItemChar_of_isAsciiWord {c : Char} (hc : Text.isAsciiWord c = true) :
    isItemChar c = true := by
  have hne : ∀ d : Char, Text.isAsciiWord d = false → c ≠ d := by
    rintro d hd rfl
    rw [hc] at hd
    cases hd
  have hmarks : QuoteStyle.ofMark? c = none := by
    rw [QuoteStyle.ofMark?, if_neg (hne _ (by decide)), if_neg (hne _ (by decide))]
  simp only [isItemChar, isFlatChar, opensBracket, closesBracket, hmarks, bne_iff_ne, ne_eq,
    Bool.and_eq_true, Bool.not_eq_true', Bool.or_eq_false_iff, beq_eq_false_iff_ne,
    Option.isNone_none, and_true]
  exact ⟨⟨⟨⟨hne _ (by decide), ⟨hne _ (by decide), hne _ (by decide)⟩, hne _ (by decide)⟩,
    ⟨hne _ (by decide), hne _ (by decide)⟩, hne _ (by decide)⟩, hne _ (by decide)⟩,
    hne _ (by decide)⟩

theorem toNat_of_isAsciiWord {c : Char} (hc : Text.isAsciiWord c = true) :
    48 ≤ c.toNat ∧ c.toNat ≤ 122 := by
  rw [Text.isAsciiWord, Bool.or_eq_true, beq_iff_eq] at hc
  rcases hc with hc | rfl
  · rw [Char.isAlphanum, Bool.or_eq_true] at hc
    rcases hc with hc | hc
    · have hletter := Text.toNat_of_startsIdentifier (by rw [Text.startsIdentifier, hc]; rfl)
      omega
    · have hbounds : ('0'.val.toNat, '9'.val.toNat) = (48, 57) := by decide
      rw [Prod.mk.injEq] at hbounds
      simp only [Char.isDigit, Bool.and_eq_true, decide_eq_true_eq, UInt32.le_iff_toNat_le,
        ge_iff_le] at hc
      have hval : c.toNat = c.val.toNat := rfl
      omega
  · decide

theorem isBlank_of_isAsciiWord {c : Char} (hc : Text.isAsciiWord c = true) :
    Text.isBlank c = false := by
  have hascii := toNat_of_isAsciiWord hc
  simp only [Text.isBlank, Bool.or_eq_false_iff, Bool.and_eq_false_iff, decide_eq_false_iff_not,
    beq_eq_false_iff_ne]
  omega

theorem isItem_of_isIdentifier {t : Text} (h : Text.isIdentifier t = true) : IsItem t := by
  obtain ⟨c, r, -, -, hall⟩ := exists_cons_of_isIdentifier h
  exact isItem_of_forall fun d hd => isItemChar_of_isAsciiWord (hall d hd)

/-- Nothing that starts like an identifier is read as a literal. -/
theorem read?_of_startsIdentifier {c : Char} (hc : Text.startsIdentifier c = true) (r : Text) :
    Quoted.read? (c :: r) = none := by
  have hblank := Text.isBlank_of_startsIdentifier hc
  have hmark : QuoteStyle.ofMark? c = none := by
    rw [QuoteStyle.ofMark?, if_neg (ne_of_startsIdentifier hc (by decide)),
      if_neg (ne_of_startsIdentifier hc (by decide))]
  rw [Quoted.read?, Quoted.dropWhile_isGap (t := c :: r) (by simpa using hblank)]
  dsimp only
  rw [hmark]

/-- Nothing that starts like an identifier gives versions. -/
theorem versions?_of_startsIdentifier {c : Char} (hc : Text.startsIdentifier c = true) {r : Text}
    (htrim : Text.trim (c :: r) = c :: r) : (Value.read (c :: r)).versions? = none := by
  by_contra hsome
  rcases isVersionToken_or_words htrim (Option.isSome_iff_ne_none.2 hsome) with
    (⟨q, u, hu, -⟩ | ⟨inner, hinner, -⟩) | ⟨ws, -, hws⟩
  · exact ne_of_startsIdentifier hc (by cases q <;> decide) (List.cons.inj hu).1
  · exact ne_of_startsIdentifier hc (by decide) (List.cons.inj hinner).1
  · obtain ⟨r', hr', -⟩ := exists_of_wordArgument? hws
    exact ne_of_startsIdentifier hc (by decide) (List.cons.inj hr').1

/-! ### Strings, symbols and lists -/

theorem Text.isTrimmed_of_trim_eq {t : Text} (h : t.trim = t) : Text.IsTrimmed t :=
  h ▸ Text.isTrimmed_trim t

theorem Text.isTrimmed_cons_concat {c d : Char} (hc : Text.isBlank c = false)
    (hd : Text.isBlank d = false) (t : Text) : Text.IsTrimmed (c :: (t ++ [d])) := by
  refine ⟨by simpa using hc, ?_⟩
  rw [← List.cons_append, List.getLast?_concat]
  simpa using hd

theorem isArgument_wrap (q : QuoteStyle) (t : Text) : IsArgument (q.wrap t) where
  toIsItem := (isLiteral_wrap q t).isItem
  trimmed := Text.isTrimmed_cons_concat (Text.isBlank_mark q) (Text.isBlank_mark q) _
  ne_nil := (isLiteral_wrap q t).ne_nil

theorem isItem_colon : IsItem [':'] := isItem_singleton (by decide)

theorem isArgument_symbolText (name : Text) (q : QuoteStyle) : IsArgument (symbolText name q) := by
  unfold symbolText
  split
  · rename_i hname
    obtain ⟨u, d, hu, hd⟩ := exists_concat_of_isIdentifier hname
    refine ⟨isItem_colon.append (isItem_of_isIdentifier hname), ?_, by simp⟩
    rw [hu]
    exact Text.isTrimmed_cons_concat (by decide) (isBlank_of_isAsciiWord hd) u
  · refine ⟨isItem_colon.append (isLiteral_wrap q name).isItem, ?_, by simp⟩
    exact Text.isTrimmed_cons_concat (by decide) (Text.isBlank_mark q) (q.mark :: q.escape name)

theorem isArgument_symbols (names : List Text) (q : QuoteStyle) :
    ∀ p ∈ names.map (symbolText · q), IsArgument p := by
  intro p hp
  obtain ⟨name, -, rfl⟩ := List.mem_map.1 hp
  exact isArgument_symbolText name q

theorem exists_symbolText_eq (name : Text) (q : QuoteStyle) :
    ∃ r, symbolText name q = ':' :: r := by
  unfold symbolText
  split
  · exact ⟨_, rfl⟩
  · exact ⟨_, rfl⟩

theorem isArgument_list {ps : List Text} (h : ∀ p ∈ ps, IsItem p) :
    IsArgument ('[' :: (commaSeparated ps ++ [']'])) :=
  ⟨isItem_list h, Text.isTrimmed_cons_concat (by decide) (by decide) _, by simp⟩

namespace Value

theorem whole?_of_isIdentifier {name : Text} (h : Text.isIdentifier name = true) :
    Quoted.whole? name = none := by
  obtain ⟨c, r, rfl, hc, -⟩ := exists_cons_of_isIdentifier h
  rw [Quoted.whole?, read?_of_startsIdentifier hc]

theorem dropEndWhile_of_isIdentifier {name : Text} (h : Text.isIdentifier name = true) :
    Text.dropEndWhile (fun c => c == '?' || c == '!') name = name := by
  obtain ⟨u, d, hu, hd⟩ := exists_concat_of_isIdentifier h
  have hne : (d == '?' || d == '!') = false := by
    rw [Bool.or_eq_false_iff, beq_eq_false_iff_ne, beq_eq_false_iff_ne]
    constructor
    · rintro rfl
      exact absurd hd (by decide)
    · rintro rfl
      exact absurd hd (by decide)
  rw [hu, Text.dropEndWhile, List.reverse_append, List.reverse_singleton, List.singleton_append,
    List.dropWhile_cons_of_neg (by simp [hne]), List.reverse_cons, List.reverse_reverse]

theorem readScalar_colon (r : Text) :
    readScalar (':' :: r) =
      match Quoted.whole? r with
      | some name => symbol name
      | none =>
        if Text.isIdentifier (Text.dropEndWhile (fun c => c == '?' || c == '!') r) then symbol r
        else other (':' :: r) := rfl

/-- A symbol is read as its name. -/
theorem read_symbolText {name : Text} {q : QuoteStyle} (hescape : q.escape name = name) :
    read (symbolText name q) = .symbol name := by
  have hargument := isArgument_symbolText name q
  have hcolon : ∀ r, symbolText name q = ':' :: r → read (symbolText name q) =
      readScalar (':' :: r) := by
    intro r hr
    rw [read_eq_readScalar hargument.trim_eq (by rw [hr]; rfl) (by rw [hr]; rfl), hr]
  unfold symbolText at hcolon ⊢
  split
  · rename_i hname
    rw [if_pos hname] at hcolon
    rw [hcolon _ rfl, readScalar_colon, whole?_of_isIdentifier hname,
      dropEndWhile_of_isIdentifier hname]
    exact if_pos hname
  · rename_i hname
    rw [if_neg hname] at hcolon
    rw [hcolon _ rfl, readScalar_colon, wrap_eq hescape,
      Quoted.whole?_literal (leaves_constraint hescape)]

/-- A list of symbols is read as their names. -/
theorem read_symbols {names : List Text} {q : QuoteStyle}
    (h : ∀ name ∈ names, q.escape name = name) :
    read ('[' :: (commaSeparated (names.map (symbolText · q)) ++ [']'])) =
      .list (names.map .symbol) := by
  rw [read_list rfl, splitArguments_commaSeparated (isArgument_symbols names q), List.map_map]
  exact congrArg _ (List.map_congr_left fun name hname => read_symbolText (h name hname))

end Value

/-! ### Options -/

section Option

variable {key value : Text} (hkey : Text.isIdentifier key = true) (hvalue : IsArgument value)

include hkey hvalue

theorem isArgument_option : IsArgument (key ++ (':' :: ' ' :: value)) := by
  obtain ⟨c, r, hcons, hc, -⟩ := exists_cons_of_isIdentifier hkey
  have hspace : IsItem [' '] := isItem_singleton (by decide)
  refine ⟨(isItem_of_isIdentifier hkey).append (isItem_colon.append (hspace.append
    hvalue.toIsItem)), ⟨?_, ?_⟩, by simp⟩
  · rw [hcons]
    simpa using Text.isBlank_of_startsIdentifier hc
  · rw [List.getLast?_append_of_ne_nil _ (by simp), List.getLast?_cons_of_ne_nil (by simp),
      List.getLast?_cons_of_ne_nil hvalue.ne_nil]
    exact hvalue.trimmed.2

/-- An option is read as its key and its value. -/
theorem Value.pair?_option :
    pair? (key ++ (':' :: ' ' :: value)) = some (key, read value) := by
  have hargument := isArgument_option hkey hvalue
  obtain ⟨c, r, hcons, hc, hall⟩ := exists_cons_of_isIdentifier hkey
  have harrow : splitArrow? .code (key ++ (':' :: ' ' :: value)) = none := by
    have := hargument.arrowless []
    rwa [List.append_nil] at this
  have hquote : Quoted.read? (key ++ (':' :: ' ' :: value)) = none := by
    rw [hcons]
    exact read?_of_startsIdentifier hc _
  have hcolon : ∀ d ∈ key, (d != ':') = true := by
    intro d hd
    rw [bne_iff_ne]
    rintro rfl
    exact absurd (hall _ hd) (by decide)
  have hread : read (' ' :: value) = read value :=
    read_congr (Text.trim_blanks_append isBlanks_space value)
  rw [pair?, hargument.trim_eq, harrow, hquote]
  dsimp only
  rw [bareKey?, List.takeWhile_append_of_pos hcolon, List.dropWhile_append_of_pos hcolon,
    List.takeWhile_cons_of_neg (by simp), List.dropWhile_cons_of_neg (by simp), List.append_nil]
  dsimp only
  rw [hkey, hread]
  rfl

theorem versions?_option : (Value.read (key ++ (':' :: ' ' :: value))).versions? = none := by
  have htrim := (isArgument_option hkey hvalue).trim_eq
  obtain ⟨c, r, rfl, hc, -⟩ := exists_cons_of_isIdentifier hkey
  exact versions?_of_startsIdentifier hc htrim

end Option

/-- A symbol is no option. -/
theorem Value.pair?_symbolText (name : Text) (q : QuoteStyle) :
    pair? (symbolText name q) = none := by
  have hargument := isArgument_symbolText name q
  have harrow : splitArrow? .code (symbolText name q) = none := by
    have := hargument.arrowless []
    rwa [List.append_nil] at this
  obtain ⟨r, hr⟩ := exists_symbolText_eq name q
  rw [pair?, hargument.trim_eq, harrow, hr]
  rfl

end GemDeps
