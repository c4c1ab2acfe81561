import GemDeps.Proofs.AddedGem
import GemDeps.Proofs.EditedNames
import GemDeps.Proofs.GroupMarks

/-!
# Gems of the same groups

Once a gem with groups was added, another gem with the same groups goes into a block that is there
already (`addDeclaration_sameGroups`). The line of the first gem ends in no `do` of its own
(`EndsApart`), so it changes no depth, and a new block around it is closed by its own `end` whatever
blocks are open in front. A platform named `do` would spoil this: written last on the line, it opens
a block.
-/

namespace GemDeps

/-! ## No block opens on the line of a gem -/

/-- What stands in front of a final `do` ends in no word character. -/
theorem isWord_of_splitDo? {afterWord : Bool} {t before : Text}
    (h : splitDo? afterWord t = some before) :
    (before = [] → afterWord = false) ∧ ∀ c ∈ before.getLast?, Text.isWord c = false := by
  fun_induction splitDo? afterWord t generalizing before with
  | case1 => cases h
  | case2 afterWord c t hdo =>
    obtain ⟨⟨⟨hword, -⟩, -⟩, -⟩ : ((afterWord = false ∧ c = 'd') ∧ t.head? = some 'o') ∧
        isDoTail t.tail = true := by simpa using hdo
    obtain rfl : [] = before := Option.some.inj h
    exact ⟨fun _ => hword, by simp⟩
  | case3 afterWord c t _ ih =>
    obtain ⟨v, hv, rfl⟩ := Option.map_eq_some_iff.1 h
    obtain ⟨hnil, hlast⟩ := ih hv
    refine ⟨fun hcons => absurd hcons (List.cons_ne_nil c v), fun d hd => ?_⟩
    rcases List.eq_nil_or_concat v with rfl | ⟨u, e, rfl⟩
    · obtain rfl : c = d := Option.some.inj hd
      exact hnil rfl
    · refine hlast d ?_
      rw [List.concat_eq_append] at hd ⊢
      rwa [← List.cons_append, List.getLast?_concat, ← List.getLast?_concat] at hd

theorem Text.isWord_of_isAsciiWord {c : Char} (hc : Text.isAsciiWord c = true) :
    Text.isWord c = true := by
  have hle := (toNat_of_isAsciiWord hc).2
  rw [Text.isWord, if_pos (by omega), hc]

theorem isBlank_of_isClosing {c : Char} (hc : isClosing c = true) : Text.isBlank c = false := by
  rw [isClosing, Bool.or_eq_true, Bool.or_eq_true] at hc
  rcases hc with (hmark | hbracket) | hword
  · obtain ⟨q, hq⟩ := Option.isSome_iff_exists.1 hmark
    rw [QuoteStyle.ofMark?_eq_some_iff.1 hq]
    cases q <;> decide
  · rw [eq_of_beq hbracket]
    decide
  · exact isBlank_of_isAsciiWord hword

/-- Neither a blank nor a bar closes an argument, so behind a `do` there is nothing. -/
theorem eq_nil_of_isDoTail {k u : Text} (hend : EndsClosed (k ++ u)) (h : isDoTail u = true) :
    u = [] := by
  obtain ⟨s, c, hs, hc⟩ := hend
  have hlast : ∀ v d, u = v ++ [d] → d = c := by
    rintro v d rfl
    rw [← List.append_assoc] at hs
    exact (List.append_singleton_inj.1 hs).2
  have hblank := isBlank_of_isClosing hc
  rcases ends_of_isDoTail h with hb | ⟨v, b, rfl, hb⟩
  · rcases List.eq_nil_or_concat u with hnil | ⟨v, d, rfl⟩
    · exact hnil
    · rw [List.concat_eq_append] at hlast hb
      rw [← hlast v d rfl, hb d (by simp)] at hblank
      cases hblank
  · rcases List.eq_nil_or_concat b with rfl | ⟨w, d, rfl⟩
    · rw [← hlast v '|' rfl] at hc
      exact absurd hc (by decide)
    · rw [List.concat_eq_append] at hlast hb
      rw [← hlast (v ++ '|' :: w) d (by simp), hb d (by simp)] at hblank
      cases hblank

/-- The text ends as an argument does, but not in the word `do`: in a character other than `o`, or
in a symbol with another name. -/
def EndsApart (t : Text) : Prop :=
  (∃ s c, t = s ++ [c] ∧ isClosing c = true ∧ c ≠ 'o') ∨
    ∃ s name, t = s ++ ':' :: name ∧ Text.isIdentifier name = true ∧ name ≠ "do".toList

namespace EndsApart

theorem append {t : Text} (ht : EndsApart t) (s : Text) : EndsApart (s ++ t) := by
  rcases ht with ⟨u, c, rfl, hc⟩ | ⟨u, name, rfl, hname⟩
  · exact .inl ⟨s ++ u, c, (List.append_assoc s u [c]).symm, hc⟩
  · exact .inr ⟨s ++ u, name, (List.append_assoc s u _).symm, hname⟩

theorem endsClosed {t : Text} (ht : EndsApart t) : EndsClosed t := by
  rcases ht with ⟨s, c, rfl, hc, -⟩ | ⟨s, name, rfl, hname, -⟩
  · exact ⟨s, c, rfl, hc⟩
  · obtain ⟨u, d, rfl, hd⟩ := exists_concat_of_isIdentifier hname
    exact ⟨s ++ ':' :: u, d, by simp, by rw [isClosing, hd, Bool.or_true]⟩

theorem splitDo?_eq_none {t : Text} (ht : EndsApart t) (afterWord : Bool) :
    splitDo? afterWord t = none := by
  refine Option.eq_none_iff_forall_ne_some.2 fun before hsplit => ?_
  obtain ⟨u, hu, htail⟩ := eq_of_splitDo? hsplit
  obtain ⟨-, hbefore⟩ := isWord_of_splitDo? hsplit
  have hdo : t = before ++ ['d', 'o'] ++ u := by simp [hu]
  obtain rfl := eq_nil_of_isDoTail (hdo ▸ ht.endsClosed) htail
  rw [List.append_nil] at hdo
  rcases ht with ⟨s, c, rfl, -, hc⟩ | ⟨s, name, rfl, hname, hne⟩
  · have hlast : s ++ [c] = before ++ ['d'] ++ ['o'] := by simpa using hdo
    exact hc (List.append_singleton_inj.1 hlast).2
  · obtain ⟨-, -, -, -, hword⟩ := exists_cons_of_isIdentifier hname
    -- The `do` ends the name of the symbol, and stands behind a word character or is all of it.
    rcases List.append_eq_append_iff.1 hdo with ⟨a, rfl, hsymbol⟩ | ⟨a, -, hsymbol⟩
    · cases a with
      | nil => cases hsymbol
      | cons c a =>
        obtain ⟨rfl, rfl⟩ := List.cons.inj hsymbol
        rcases List.eq_nil_or_concat a with rfl | ⟨v, d, rfl⟩
        · exact hne rfl
        · have hlast : Text.isWord d = false := hbefore d (by
            rw [List.concat_eq_append, ← List.cons_append, ← List.append_assoc,
              List.getLast?_concat]
            rfl)
          have hmem : d ∈ v.concat d ++ ['d', 'o'] := by simp
          rw [Text.isWord_of_isAsciiWord (hword d hmem)] at hlast
          cases hlast
    · have hmem : ':' ∈ ['d', 'o'] := hsymbol ▸ by simp
      exact absurd hmem (by decide)

end EndsApart

theorem endsApart_wrap (q : QuoteStyle) (t : Text) : EndsApart (q.wrap t) :=
  .inl ⟨q.mark :: q.escape t, q.mark, rfl, by cases q <;> decide⟩

theorem endsApart_symbolText {name : Text} (hname : name ≠ "do".toList) (q : QuoteStyle) :
    EndsApart (symbolText name q) := by
  unfold symbolText
  split
  · rename_i hidentifier
    exact .inr ⟨[], name, rfl, hidentifier, hname⟩
  · exact (endsApart_wrap q name).append [':']

theorem endsApart_platformsPart {names : List Text} (h : "do".toList ∉ names) (q : QuoteStyle) :
    ∀ p ∈ platformsPart names q, EndsApart p := by
  unfold platformsPart
  split
  · simp
  · rename_i name
    rw [List.forall_mem_singleton]
    exact (endsApart_symbolText (fun hname => h (by simp [hname])) q).append _
  · rw [List.forall_mem_singleton]
    exact .inl ⟨_, ']', rfl, by decide⟩

theorem endsApart_requirePart (r : RequireOption) (q : QuoteStyle) :
    EndsApart (requirePart r q) := by
  cases r with
  | disabled => exact .inl ⟨"require: fals".toList, 'e', rfl, by decide⟩
  | path t => exact (endsApart_wrap q t).append _

section Statement

variable {name : Text} {o : DeclarationOptions}

theorem endsApart_gemStatement (h : "do".toList ∉ o.platforms) (q : QuoteStyle) :
    EndsApart (gemStatement name o q) := by
  refine commaSeparated_of_append (P := EndsApart) (fun s _ ht => ht.append s) (by simp) ?_
  simp only [List.forall_mem_append, List.forall_mem_singleton]
  refine ⟨⟨⟨⟨(endsApart_wrap q name).append _, ?_⟩, endsApart_platformsPart h q⟩, ?_⟩, ?_⟩
  · exact forall_mem_toList_map fun k _ => endsApart_wrap q k
  · exact forall_mem_toList_map fun t _ => (endsApart_wrap q t).append _
  · exact forall_mem_toList_map fun r _ => endsApart_requirePart r q

/-- A written statement is code from end to end. -/
theorem trim_stripComment_gemStatement (name : Text) (o : DeclarationOptions) (q : QuoteStyle) :
    Text.trim (stripComment (gemStatement name o q)) = gemStatement name o q := by
  have hcall : IsArgument ("gem ".toList ++ q.wrap name) :=
    { toIsItem := (isItem_of_forall (List.all_eq_true.1 (by decide))).append
        (isArgument_wrap q name).toIsItem
      trimmed := Text.isTrimmed_cons_concat (by decide) (Text.isBlank_mark q)
        ("em ".toList ++ q.mark :: q.escape name)
      ne_nil := List.cons_ne_nil _ _ }
  have hparts := List.forall_mem_cons.2 ⟨hcall, isArgument_parts o q⟩
  have hstrip := isUncommented_commaSeparated (fun p hp => (hparts p hp).toIsItem) []
  rw [List.append_nil] at hstrip
  rw [gemStatement_eq, ← List.append_assoc, ← commaSeparated_cons, hstrip,
    show stripComment [] = [] from rfl, List.append_nil]
  exact Text.trim_of_isTrimmed (isTrimmed_commaSeparated (List.cons_ne_nil _ _) hparts)

/-- The line of a gem leaves no mark. -/
theorem blockMark?_gemStatement (hname : isGemName name = true) (h : "do".toList ∉ o.platforms)
    (q : QuoteStyle) : blockMark? (gemStatement name o q) = none := by
  refine blockMark?_eq_none_iff.2 ⟨?_, ?_⟩
  · have hgem := Entry.ofLine_of_readGem?
      (readGem?_gemStatement (List.forall_mem_nil _) hname o q)
    rw [List.nil_append] at hgem
    refine Option.eq_none_iff_forall_ne_some.2 fun names hnames => ?_
    rw [Entry.ofLine_of_groupOpening? hnames] at hgem
    cases hgem
  · have hcode : Text.trim (stripComment (gemStatement name o q)) =
        "gem".toList ++ ' ' :: (q.wrap name ++ argumentsTail (o.parts q)) :=
      (trim_stripComment_gemStatement name o q).trans (gemStatement_eq name o q)
    have hspace : ∀ c ∈ (' ' :: (q.wrap name ++ argumentsTail (o.parts q))).head?, c ≠ 'd' := by
      simp
    have hapart : EndsApart (gemStatement name o q) := endsApart_gemStatement h q
    have hdo := hapart.splitDo?_eq_none false
    rw [← trim_stripComment_gemStatement, hcode, splitDo?_append (by decide) hspace,
      Option.map_eq_none_iff] at hdo
    rw [blockDelta_of_call (by decide) hcode hspace, hdo]
    rfl

end Statement

/-! ## The lines of a block -/

theorem groupOpening?_groupLine_eraseDups {groups : List Text} (hne : groups ≠ [])
    (hgroups : ∀ g ∈ groups, isSymbolName g = true) (q : QuoteStyle) :
    groupOpening? (groupLine groups q) = some groups.eraseDups := by
  rw [groupOpening?_groupLine q hgroups hne, Text.union_eq]
  simp

theorem GroupSpan.sameNames_iff {xs ys : List Text} :
    sameNames xs ys = true ↔ ∀ g, g ∈ xs ↔ g ∈ ys := by
  simp only [sameNames, Bool.and_eq_true, List.all_eq_true, decide_eq_true_eq]
  exact ⟨fun h g => ⟨h.1 g, h.2 g⟩, fun h => ⟨fun g => (h g).1, fun g => (h g).2⟩⟩

theorem GroupSpan.sameNames_congr {xs ys : List Text} (h : ∀ g, g ∈ xs ↔ g ∈ ys)
    (names : List Text) : sameNames names xs = sameNames names ys := by
  rw [Bool.eq_iff_iff, sameNames_iff, sameNames_iff]
  simp only [h]

theorem hasBlock_congr {groups groups' : List Text} (h : ∀ g, g ∈ groups ↔ g ∈ groups')
    (ms : List BlockMark) : hasBlock groups ms = hasBlock groups' ms := by
  induction ms with
  | nil => rfl
  | cons m ms ih =>
    rw [hasBlock, hasBlock, ih]
    simp only [GroupSpan.sameNames_congr h]

/-- A line that opens a block of some groups, and behind it one that closes it. -/
theorem hasBlock_pair {groups names : List Text} (hsame : GroupSpan.sameNames names groups = true)
    (delta : Int) (ms : List BlockMark) :
    hasBlock groups (⟨some names, delta⟩ :: ⟨none, -1⟩ :: ms) = true := by
  simp [hasBlock, hsame, closes]

/-! ## Adding gems of the same groups -/

section Adding

variable {t name : Text} {o : DeclarationOptions} {style : Style} {r : Revision}
  (hne : o.groups ≠ []) (hcheck : checkOptions name o = .ok ())
  (hversion : ∀ v ∈ o.version, '\n' ∉ v) (hplatform : "do".toList ∉ o.platforms)
  (hindent : Text.IsBlanks style.indent)

include hcheck hversion hplatform hindent

/-- In a block that is there the line of a gem leaves every block as it is. -/
theorem scan_addToBlock {groups : List Text} {span : GroupSpan}
    (h : GroupSpan.find? t groups = some span) :
    Text.scan blockMark? (addToBlock t name o style span).text = Text.scan blockMark? t := by
  have hchecked := isChecked_of_checkOptions hcheck
  obtain ⟨hnewline, hstrings⟩ := hchecked.newline_notMem hversion
  obtain ⟨-, hlt, -⟩ := GroupSpan.of_find? h
  obtain ⟨line, -, -, -, -, hindentation⟩ := GroupSpan.exists_line h
  have hblanks : Text.IsBlanks (span.indent ++ style.indent) := by
    rw [hindentation]
    exact List.forall_mem_append.2 ⟨Text.isBlanks_indentation line, hindent⟩
  rw [length_lines] at hlt
  unfold addToBlock
  dsimp only
  rw [scan_ofInsertion ignoresBlanks_blockMark? hlt.le, List.flatMap_singleton,
    Text.scan_blanks_line ignoresBlanks_blockMark? hblanks
      (newline_notMem_gemStatement hnewline hstrings _),
    blockMark?_gemStatement hchecked.name hplatform, Option.toList_none, List.append_nil,
    ← List.filterMap_append, List.take_append_drop, Text.scan]

include hne in
/-- A new block is closed where it ends. -/
theorem hasBlock_addAtEnd {groups : List Text} (hsame : ∀ g, g ∈ groups ↔ g ∈ o.groups) :
    hasBlock groups (Text.scan blockMark? (addAtEnd t name o style).text) = true := by
  have hchecked := isChecked_of_checkOptions hcheck
  obtain ⟨hnewline, hstrings⟩ := hchecked.newline_notMem hversion
  have hgroups : ∀ g ∈ o.groups, '\n' ∉ g := fun g hg =>
    hstrings g (by simp [DeclarationOptions.strings, hg])
  unfold addAtEnd
  dsimp only
  generalize QuoteStyle.resolve _ _ _ = q
  have hopening := groupOpening?_groupLine_eraseDups hne hchecked.groups q
  have hmark : blockMark? (groupLine o.groups q) =
      some ⟨some o.groups.eraseDups, blockDelta (groupLine o.groups q)⟩ := by
    rw [blockMark?, hopening, if_neg (by simp)]
  have hend : blockMark? "end".toList = some ⟨none, -1⟩ := by decide
  rw [if_neg (by simpa using hne), scan_ofInsertion ignoresBlanks_blockMark?
      (trailingBlankStart_le t), flatMap_scan_newBlock ignoresBlanks_blockMark? hindent hgroups
      (newline_notMem_gemStatement hnewline hstrings q),
    blockMark?_gemStatement hchecked.name hplatform, hmark, hend, List.append_assoc]
  refine hasBlock_append (hasBlock_pair (GroupSpan.sameNames_iff.2 fun g => ?_) _ _) _
  rw [List.mem_eraseDups, hsame]

include hne in
/-- After a gem with groups was added, there is a closed block of these groups. -/
theorem isSome_find?_of_addDeclaration {groups : List Text}
    (hsame : ∀ g, g ∈ groups ↔ g ∈ o.groups) (h : addDeclaration t name o style = .ok r) :
    (GroupSpan.find? r.text groups).isSome = true := by
  have hnew := not_isSome_of_addDeclaration h
  rw [GroupSpan.isSome_find?_iff_hasBlock]
  cases hspan : targetBlock? t o.groups with
  | none =>
    rw [addDeclaration_of_targetBlock?_none hnew hspan] at h
    obtain rfl := Except.ok.inj h
    exact hasBlock_addAtEnd hne hcheck hversion hplatform hindent hsame
  | some span =>
    rw [addDeclaration_of_targetBlock? hnew hspan] at h
    obtain rfl := Except.ok.inj h
    rw [targetBlock?, if_neg (by simpa using hne)] at hspan
    rw [scan_addToBlock hcheck hversion hplatform hindent hspan, hasBlock_congr hsame,
      ← GroupSpan.isSome_find?_iff_hasBlock, hspan]
    rfl

end Adding

/-- A line is put directly before line `i` of a text, and the rest stays. -/
structure Revision.InsertsLine (r : Revision) (t : Text) (i : Nat) (l : Text) : Prop where
  firstLine : r.firstLine = i
  endLine : r.endLine = i + 1
  text : r.text = ((Text.pieces t).take i).flatten ++
    (l ++ (LineBuffer.ofText t).newline.text) ++ ((Text.pieces t).drop i).flatten
  lines : '\n' ∉ l → Text.lines r.text = (Text.lines t).take i ++ l :: (Text.lines t).drop i

theorem insertsLine_ofInsertion {t l : Text} {i : Nat} (hi : i < (Text.lines t).length)
    (hl : EndsPlain l) : (Revision.ofInsertion t i [l]).InsertsLine t i l where
  firstLine := rfl
  endLine := rfl
  text := by
    have hlt := length_lines t ▸ hi
    rw [text_ofInsertion (fun hopen => hlt.ne hopen.1) (List.cons_ne_nil _ _)]
    simp [LineBuffer.terminated]
  lines hnewline := by
    obtain ⟨kept, -, hkept, hlines⟩ := lines_ofInsertion hi.le (plainEnds_singleton hl)
      (List.forall_mem_singleton.2 hnewline)
    rw [hlines, hkept hi, List.append_assoc]
    rfl

/-- When a gem with groups was added, a gem that is not declared yet can be added with the same
groups: it goes on one line, directly before the `end` of a block that is there. The written line
of a new block names its groups, each once. -/
theorem addDeclaration_sameGroups {t n₁ n₂ : Text} {o₁ o₂ : DeclarationOptions}
    {style₁ style₂ : Style} {r₁ : Revision} (hne : o₁.groups ≠ [])
    (hsame : ∀ g, g ∈ o₂.groups ↔ g ∈ o₁.groups) (hcheck₁ : checkOptions n₁ o₁ = .ok ())
    (hversion₁ : ∀ v ∈ o₁.version, '\n' ∉ v) (hplatform : "do".toList ∉ o₁.platforms)
    (hindent₁ : Text.IsBlanks style₁.indent) (hcheck₂ : checkOptions n₂ o₂ = .ok ())
    (hversion₂ : ∀ v ∈ o₂.version, '\n' ∉ v) (h₁ : addDeclaration t n₁ o₁ style₁ = .ok r₁)
    (hnew : declarationLine? .gemfile r₁.text n₂ = none) :
    (∃ span line q r₂, GroupSpan.find? r₁.text o₂.groups = some span ∧
      (Text.lines r₁.text)[span.endLine]? = some line ∧ "end".toList <+: Text.trimStart line ∧
      addDeclaration r₁.text n₂ o₂ style₂ = .ok r₂ ∧
      r₂.InsertsLine r₁.text span.endLine
        (span.indent ++ style₂.indent ++ gemStatement n₂ o₂ q) ∧
      ('\n' ∉ style₂.indent → '\n' ∉ span.indent ++ style₂.indent ++ gemStatement n₂ o₂ q)) ∧
    ∀ q, groupOpening? (groupLine o₁.groups q) = some o₁.groups.eraseDups := by
  refine ⟨?_, groupOpening?_groupLine_eraseDups hne (isChecked_of_checkOptions hcheck₁).groups⟩
  obtain ⟨span, hspan⟩ := Option.isSome_iff_exists.1
    (isSome_find?_of_addDeclaration hne hcheck₁ hversion₁ hplatform hindent₁ hsame h₁)
  obtain ⟨-, hlt, hindent⟩ := GroupSpan.of_find? hspan
  obtain ⟨-, -, -, -, hmatching, -⟩ := GroupSpan.exists_line hspan
  obtain ⟨line, hline, hend⟩ := startsWithEnd_of_matchingEnd? hmatching
  have hne₂ : o₂.groups ≠ [] := by
    obtain ⟨g, hg⟩ := List.exists_mem_of_ne_nil _ hne
    exact List.ne_nil_of_mem ((hsame g).2 hg)
  have htarget : targetBlock? r₁.text o₂.groups = some span := by
    rw [targetBlock?, if_neg (by simpa using hne₂), hspan]
  obtain ⟨hname, hstrings⟩ := (isChecked_of_checkOptions hcheck₂).newline_notMem hversion₂
  exact ⟨span, line, _, _, hspan, hline, prefix_of_startsWithEnd hend,
    addDeclaration_of_targetBlock? (by simp [hnew]) htarget,
    insertsLine_ofInsertion hlt ((endsPlain_gemStatement n₂ o₂ _).append _),
    fun hnewline => by simp [hindent, hnewline, newline_notMem_gemStatement hname hstrings]⟩

/-- Behind a block that stays open, a group named `do`, and the groups in another order. -/
theorem addDeclaration_sameGroups_open :
    ∃ r₁ span r₂ l, addDeclaration "if x\n".toList "a".toList
        { DeclarationOptions.none with groups := ["do".toList, "test".toList] }
        ⟨none, .single, "  ".toList⟩ = .ok r₁ ∧
      r₁.text = "if x\n\ngroup :do, :test do\n  gem 'a'\nend\n".toList ∧
      GroupSpan.find? r₁.text ["test".toList, "do".toList] = some span ∧
      addDeclaration r₁.text "b".toList
        { DeclarationOptions.none with groups := ["test".toList, "do".toList] }
        ⟨none, .single, "  ".toList⟩ = .ok r₂ ∧
      r₂.InsertsLine r₁.text span.endLine l := by
  have h₁ : addDeclaration "if x\n".toList "a".toList
      { DeclarationOptions.none with groups := ["do".toList, "test".toList] }
      ⟨none, .single, "  ".toList⟩ =
        .ok ⟨"if x\n\ngroup :do, :test do\n  gem 'a'\nend\n".toList, 1, 5⟩ := by
    decide
  have hsame : ∀ g, g ∈ ["test".toList, "do".toList] ↔ g ∈ ["do".toList, "test".toList] := by
    intro g
    simp only [List.mem_cons, List.not_mem_nil, or_false]
    exact or_comm
  obtain ⟨⟨span, -, q, r₂, hspan, -, -, h₂, hline, -⟩, -⟩ :=
    @addDeclaration_sameGroups _ _ "b".toList _
      { DeclarationOptions.none with groups := ["test".toList, "do".toList] } _
      ⟨none, .single, "  ".toList⟩ _ (by decide) hsame (by decide) (by decide) (by decide)
      (List.all_eq_true.1 (by decide)) (by decide) (by decide) h₁ (by decide)
  exact ⟨_, span, r₂, _, h₁, rfl, hspan, h₂, hline⟩

end GemDeps
