import GemDeps.Proofs.AddedGem
import GemDeps.Proofs.EditedNames
import GemDeps.Proofs.Slots

/-!
# The version of what was added

A gem or a dependency that was added stands in a slot of the new text, and neither the slot nor the
quotes depend on its version (`exists_slot_addDeclaration`, `exists_slot_addDependency`). What is
put into the slot is spelled as a name, a constraint and some options (`Spelling`), and to pin or to
unpin it is to write the line with another constraint or with none (`Spelling.pin_fill`,
`Spelling.unpin_fill`). So the version just added is edited into what adding with that version gives
(`edits_added`).
-/

namespace GemDeps

/-! ## Written arguments -/

section Arguments

variable {ps : List Text}

theorem argumentsTail_cons_append (p : Text) (ps : List Text) :
    argumentsTail (p :: ps) = ", ".toList ++ p ++ argumentsTail ps := by
  rw [argumentsTail_cons, commaSeparated_cons, List.append_assoc]

/-- Arguments that end a line of their own do so behind a name. -/
theorem continues_argumentsTail (h : ∀ p ∈ ps, IsFinished p) :
    continues (argumentsTail ps) = false := by
  induction ps with
  | nil => rfl
  | cons p ps ih =>
    obtain ⟨hp, hps⟩ := List.forall_mem_cons.1 h
    have hfinished := hp.append_left isFlat_separator.isUncommented
    rw [argumentsTail_cons_append, continues_append hfinished, ih hps]

theorem isFinished_parts (o : DeclarationOptions) (q : QuoteStyle) :
    ∀ p ∈ o.parts q, IsFinished p := by
  intro p hp
  have hargument := isArgument_parts o q p hp
  have hclosed : EndsClosed p := by
    unfold DeclarationOptions.parts DeclarationOptions.optionParts at hp
    simp only [List.mem_append, Option.mem_toList, Option.map_eq_some_iff] at hp
    rcases hp with ⟨c, -, rfl⟩ | (hp | ⟨s, -, rfl⟩) | ⟨r, -, rfl⟩
    · exact endsClosed_wrap q c
    · exact endsClosed_platformsPart _ q p hp
    · exact (endsClosed_wrap q s).append _
    · exact endsClosed_requirePart r q
  obtain ⟨u, c, rfl, hc⟩ := hclosed
  refine ⟨hargument.uncommented, u, c, rfl, hargument.trimmed.2 c (by simp), ?_, ?_⟩
  · rintro rfl
    exact absurd hc (by decide)
  · rintro rfl
    exact absurd hc (by decide)

theorem continuesKey_argumentsTail (ps : List Text) : continuesKey (argumentsTail ps) = false := by
  cases ps with
  | nil => rfl
  | cons p ps =>
    rw [argumentsTail_cons]
    show continuesKey (',' :: ' ' :: commaSeparated (p :: ps)) = false
    rw [continuesKey, Text.trimStart_cons (by decide)]
    rfl

variable (hps : ∀ p ∈ ps, ∃ key value, IsOption p key value)

include hps

/-- No option is taken for a version. -/
theorem dropVersionArgument?_options : dropVersionArgument? (argumentsTail ps) = none := by
  cases ps with
  | nil => rfl
  | cons p ps =>
    obtain ⟨key, value, hoption⟩ := hps p List.mem_cons_self
    obtain ⟨c, r, hkey, hc, -⟩ := exists_cons_of_isIdentifier hoption.key
    have hargument : Text.trimStart (' ' :: (p ++ argumentsTail ps)) = p ++ argumentsTail ps := by
      rw [hoption.eq, hkey]
      exact (Text.trimStart_append isBlanks_space _).trans
        (Text.trimStart_cons (Text.isBlank_of_startsIdentifier hc) _)
    have htoken : argumentToken? (p ++ argumentsTail ps) = none := by
      have hsquare := ne_of_startsIdentifier hc (d := '[') (by decide)
      rw [hoption.eq, hkey, argumentToken?, List.append_assoc, List.cons_append,
        read?_of_startsIdentifier hc]
      simp [hsquare]
    rw [argumentsTail_cons_append]
    show dropVersionArgument? (',' :: ' ' :: (p ++ argumentsTail ps)) = none
    rw [dropVersionArgument?, Text.trimStart_cons (by decide)]
    simp only [hargument, htoken]

theorem dropVersionArguments_argumentsTail (q : QuoteStyle) (c : Option Text) :
    dropVersionArguments (argumentsTail ((c.map q.wrap).toList ++ ps)) = argumentsTail ps := by
  have hoptions := dropVersionArguments_of_none (dropVersionArgument?_options hps)
  cases c with
  | none => exact hoptions
  | some c =>
    show dropVersionArguments (argumentsTail (q.wrap c :: ps)) = _
    rw [argumentsTail_cons_append, dropVersionArguments_wrap, continuesKey_argumentsTail]
    exact hoptions

theorem hasVersionArgument_argumentsTail (q : QuoteStyle) (c : Option Text) :
    hasVersionArgument (argumentsTail ((c.map q.wrap).toList ++ ps)) = c.isSome := by
  cases c with
  | none =>
    show hasVersionArgument (argumentsTail ps) = false
    rw [hasVersionArgument, dropVersionArgument?_options hps]
    rfl
  | some c =>
    show hasVersionArgument (argumentsTail (q.wrap c :: ps)) = true
    rw [argumentsTail_cons_append, hasVersionArgument,
      dropVersionArgument?_constraint q c (continuesKey_argumentsTail ps)]
    rfl

end Arguments

/-! ## Spellings -/

/-- How a declaration is written but for its constraint. -/
structure Spelling where
  /-- The line up to the name, in its quotes. -/
  head : Text
  options : List Text
  quote : QuoteStyle
  isOption : ∀ p ∈ options, ∃ key value, IsOption p key value
  isFinished : ∀ p ∈ options, IsFinished p

namespace Spelling

/-- The arguments behind the name, with a constraint or without one. -/
def tail (w : Spelling) (c : Option Text) : Text :=
  argumentsTail ((c.map w.quote.wrap).toList ++ w.options)

/-- The declaration with a constraint or without one. -/
def line (w : Spelling) (c : Option Text) : Text := w.head ++ w.tail c

/-- Behind any blanks the line is read as a statement about `name`, with the arguments behind it. -/
def Declares (w : Spelling) (kind : Kind) (name : Text) (c : Option Text) : Prop :=
  ∀ b, Text.IsBlanks b → ∃ s, Statement.read? kind (b ++ w.line c) = some s ∧
    s.name = name ∧ s.quote = w.quote ∧ s.rest = w.tail c

theorem isFinished_parts (w : Spelling) (c : Option Text) :
    ∀ p ∈ (c.map w.quote.wrap).toList ++ w.options, IsFinished p := by
  rw [List.forall_mem_append]
  exact ⟨forall_mem_toList_map fun d _ => (isLiteral_wrap w.quote d).isFinished, w.isFinished⟩

variable {w : Spelling} {kind : Kind} {name : Text} {c : Option Text} {a : Slot}
  (hw : w.Declares kind name c) (hnew : a.IsNew kind name) (hline : '\n' ∉ w.line c)
  (hends : EndsPlain (w.line c))

include hw hnew hline hends

/-- In a slot it is found as the first declaration of its name. -/
theorem declaredOn_fill : ∃ s, DeclaredOn kind (a.fill (w.line c)) name a.before.length
    (a.margin ++ w.line c) s ∧ s.quote = w.quote ∧ s.head = a.margin ++ w.head ∧
      s.rest = w.tail c := by
  obtain ⟨s, hread, hname, hquote, hrest⟩ := hw a.margin a.isMargin.isBlanks
  have hon := Statement.isOn_of_read? hread
  have hsplit := hon.head_append_rest
  have hsingle : continues (a.margin ++ w.line c) = false := by
    rw [← hsplit, continues_append hon.isFinished_head, hrest]
    exact continues_argumentsTail (w.isFinished_parts c)
  refine ⟨s, a.declaredOn_fill hline hends hnew hread hname hsingle, hquote, ?_, hrest⟩
  rw [hrest, line, ← List.append_assoc] at hsplit
  exact List.append_cancel_right hsplit

/-- Pinned, it is written with the new constraint. -/
theorem pin_fill {style : Style} (hstyle : style.quote.getD w.quote = w.quote) (d : Text) :
    ∃ r, pin (a.fill (w.line c)) kind name d style = .ok r ∧ r.text = a.fill (w.line (some d)) := by
  obtain ⟨s, hs, hquote, hhead, hrest⟩ := declaredOn_fill hw hnew hline hends
  have hpinned : s.pinned d w.quote = a.margin ++ w.line (some d) := by
    have htail : w.tail (some d) = ", ".toList ++ w.quote.wrap d ++ argumentsTail w.options :=
      argumentsTail_cons_append ..
    rw [Statement.pinned, Statement.headIn, if_pos hquote, hhead, hrest, line, htail, tail,
      dropVersionArguments_argumentsTail w.isOption]
    simp only [List.append_assoc]
  refine ⟨_, pin_eq_ok_iff.2 ⟨_, _, s, hs, rfl⟩, ?_⟩
  rw [hquote, hstyle, hpinned]
  exact a.text_ofLine_fill hline hends _

/-- Unpinned, it is written without a constraint; where there was none, nothing changes. -/
theorem unpin_fill : ∃ r, unpin (a.fill (w.line c)) kind name = .ok r ∧
    r.map (·.text) = c.map fun _ => a.fill (w.line none) := by
  obtain ⟨s, hs, hquote, hhead, hrest⟩ := declaredOn_fill hw hnew hline hends
  have hunpinned : s.unpinned = a.margin ++ w.line none := by
    rw [Statement.unpinned, hhead, hrest, tail, dropVersionArguments_argumentsTail w.isOption,
      List.append_assoc]
    rfl
  have hversion : hasVersionArgument s.rest = c.isSome := by
    rw [hrest, tail, hasVersionArgument_argumentsTail w.isOption]
  refine ⟨_, unpin_eq_ok_iff.2 ⟨_, _, s, hs, rfl⟩, ?_⟩
  rw [hversion, hunpinned]
  cases c with
  | none => rfl
  | some d => exact congrArg some (a.text_ofLine_fill hline hends _)

end Spelling

/-! ## Written declarations -/

/-- The options with another version and no operator, or with no version. -/
def DeclarationOptions.withVersion (o : DeclarationOptions) (version : Option Text) :
    DeclarationOptions :=
  { o with
    version
    operator := .none }

theorem DeclarationOptions.constraint?_withVersion (o : DeclarationOptions)
    (version : Option Text) : (o.withVersion version).constraint? = version.map Text.trim := by
  cases version <;> rfl

/-- How a gem is written. -/
def gemSpelling (name : Text) (o : DeclarationOptions) (q : QuoteStyle) : Spelling where
  head := "gem ".toList ++ q.wrap name
  options := o.optionParts q
  quote := q
  isOption := forall_optionParts o q
  isFinished p hp := isFinished_parts o q p (List.mem_append_right _ hp)

theorem gemStatement_eq_line (name : Text) (o : DeclarationOptions) (q : QuoteStyle) :
    gemStatement name o q = (gemSpelling name o q).line o.constraint? := by
  rw [gemStatement_eq, ← List.append_assoc]
  rfl

theorem gemStatement_withVersion (name : Text) (o : DeclarationOptions) (q : QuoteStyle)
    (version : Option Text) : gemStatement name (o.withVersion version) q =
      (gemSpelling name o q).line (version.map Text.trim) := by
  rw [gemStatement_eq_line, o.constraint?_withVersion]
  rfl

theorem declares_gemSpelling {name : Text} (hname : isGemName name = true) (o : DeclarationOptions)
    (q : QuoteStyle) : (gemSpelling name o q).Declares .gemfile name o.constraint? := by
  intro b hb
  rw [← gemStatement_eq_line]
  exact ⟨_, readGem?_gemStatement hb hname o q, rfl, rfl, rfl⟩

/-- How a dependency is written. -/
def dependencySpelling (receiver name : Text) (o : DeclarationOptions) (q : QuoteStyle) :
    Spelling where
  head := DependencyCall.head ⟨receiver, o.method, []⟩ ++ ' ' :: q.wrap name
  options := []
  quote := q
  isOption := List.forall_mem_nil _
  isFinished := List.forall_mem_nil _

theorem tail_dependencySpelling (receiver name : Text) (o : DeclarationOptions) (q : QuoteStyle)
    (c : Option Text) :
    (dependencySpelling receiver name o q).tail c = argumentsTail (c.map q.wrap).toList :=
  congrArg argumentsTail (List.append_nil _)

theorem dependencyStatement_eq_line (receiver name : Text) (o : DeclarationOptions)
    (q : QuoteStyle) : dependencyStatement receiver name o q =
      (dependencySpelling receiver name o q).line o.constraint? := by
  rw [dependencyStatement_eq, Spelling.line, tail_dependencySpelling]
  simp [dependencySpelling]

theorem dependencyStatement_withVersion (receiver name : Text) (o : DeclarationOptions)
    (q : QuoteStyle) (version : Option Text) :
    dependencyStatement receiver name (o.withVersion version) q =
      (dependencySpelling receiver name o q).line (version.map Text.trim) := by
  rw [dependencyStatement_eq_line, o.constraint?_withVersion]
  rfl

theorem declares_dependencySpelling {receiver name : Text} (hname : isGemName name = true)
    (hreceiver : IsReceiver receiver) (o : DeclarationOptions) (q : QuoteStyle) :
    (dependencySpelling receiver name o q).Declares .gemspec name o.constraint? := by
  intro b hb
  rw [← dependencyStatement_eq_line]
  refine ⟨_, readDependency?_dependencyStatement hb hname hreceiver o q, rfl, rfl, ?_⟩
  rw [tail_dependencySpelling]
  rfl

/-! ## Additions -/

theorem getD_resolve (style : Style) (line : Option Text) :
    style.quote.getD (QuoteStyle.resolve style.quote line style.defaultQuote) =
      QuoteStyle.resolve style.quote line style.defaultQuote := by
  cases h : style.quote with
  | none => rfl
  | some q => rfl

section Additions

variable {t name : Text} {o : DeclarationOptions} {style : Style} {r : Revision}
  (hindent : Text.IsBlanks style.indent)

include hindent

theorem exists_slot_addToBlock {groups : List Text} {span : GroupSpan}
    (hnew : ¬ (declarationLine? .gemfile t name).isSome = true)
    (hspan : GroupSpan.find? t groups = some span) :
    ∃ (a : Slot) (q : QuoteStyle), a.IsNew .gemfile name ∧ style.quote.getD q = q ∧
      ∀ o, (addToBlock t name o style span).text = a.fill (gemStatement name o q) := by
  obtain ⟨-, hlt, -⟩ := GroupSpan.of_find? hspan
  obtain ⟨line, -, -, -, -, hindentation⟩ := GroupSpan.exists_line hspan
  rw [length_lines] at hlt
  have hblanks : Text.IsBlanks (span.indent ++ style.indent) := by
    rw [hindentation]
    exact List.forall_mem_append.2 ⟨Text.isBlanks_indentation line, hindent⟩
  obtain ⟨a, ha, htext⟩ :=
    exists_slot_ofInsertion (Nat.le_of_lt hlt) hnew (List.forall_mem_nil _) hblanks []
  exact ⟨a, _, ha, getD_resolve style (lastGemLineIn? t span <|> lastGemLine? t),
    fun o => htext _⟩

theorem exists_slot_addAtEnd {groups : List Text}
    (hnew : ¬ (declarationLine? .gemfile t name).isSome = true) (hgroups : ∀ g ∈ groups, '\n' ∉ g) :
    ∃ (a : Slot) (q : QuoteStyle), a.IsNew .gemfile name ∧ style.quote.getD q = q ∧
      ∀ o : DeclarationOptions, o.groups = groups →
        (addAtEnd t name o style).text = a.fill (gemStatement name o q) := by
  have hle := trailingBlankStart_le t
  have hquote := getD_resolve style (lastGemLine? t)
  by_cases hempty : groups.isEmpty = true
  · obtain ⟨a, ha, htext⟩ := exists_slot_ofInsertion hle hnew (List.forall_mem_nil _)
      (List.forall_mem_nil _) []
    refine ⟨a, _, ha, hquote, ?_⟩
    rintro o rfl
    rw [addAtEnd, if_pos hempty]
    exact htext _
  · -- The line that opens the new block stands in front of the slot, its `end` behind it.
    have hopening : ∀ (apart : Bool) (q : QuoteStyle),
        ∀ k ∈ (if apart then [[]] else []) ++ [groupLine groups q],
          '\n' ∉ k ∧ nameOn? .gemfile k = none := by
      intro apart q
      rw [List.forall_mem_append, List.forall_mem_singleton]
      exact ⟨forall_mem_apart ⟨List.not_mem_nil, rfl⟩ apart, newline_notMem_groupLine hgroups q,
        nameOn?_groupLine groups q⟩
    obtain ⟨a, ha, htext⟩ :=
      exists_slot_ofInsertion hle hnew (hopening _ _) hindent ["end".toList]
    refine ⟨a, _, ha, hquote, ?_⟩
    rintro o rfl
    rw [addAtEnd, if_neg hempty, ← htext, List.append_assoc]
    rfl

/-- A gem goes into the same slot and is written in the same quotes whatever else is asked for than
its groups. -/
theorem exists_slot_addDeclaration (hgroups : ∀ g ∈ o.groups, '\n' ∉ g)
    (h : addDeclaration t name o style = .ok r) :
    ∃ (a : Slot) (q : QuoteStyle), a.IsNew .gemfile name ∧ style.quote.getD q = q ∧
      ∀ o' : DeclarationOptions, o'.groups = o.groups →
        ∃ r', addDeclaration t name o' style = .ok r' ∧
          r'.text = a.fill (gemStatement name o' q) := by
  have hnew := not_isSome_of_addDeclaration h
  cases hspan : targetBlock? t o.groups with
  | some span =>
    obtain ⟨a, q, ha, hq, htext⟩ :=
      exists_slot_addToBlock hindent hnew (Option.ite_none_left_eq_some.1 hspan).2
    refine ⟨a, q, ha, hq, fun o' ho' => ⟨_, ?_, htext o'⟩⟩
    exact addDeclaration_of_targetBlock? hnew (ho' ▸ hspan)
  | none =>
    obtain ⟨a, q, ha, hq, htext⟩ := exists_slot_addAtEnd hindent hnew hgroups
    refine ⟨a, q, ha, hq, fun o' ho' => ⟨_, ?_, htext o' ho'⟩⟩
    exact addDeclaration_of_targetBlock?_none hnew (ho' ▸ hspan)

/-- A dependency goes into the same slot, and is declared on the same receiver in the same quotes,
whatever is asked for. -/
theorem exists_slot_addDependency (h : addDependency t name o style = .ok r) :
    ∃ (a : Slot) (receiver : Text) (q : QuoteStyle), IsReceiver receiver ∧
      a.IsNew .gemspec name ∧ style.quote.getD q = q ∧
      ∀ o', ∃ r', addDependency t name o' style = .ok r' ∧
        r'.text = a.fill (dependencyStatement receiver name o' q) := by
  have hnew := not_isSome_of_addDependency h
  unfold addDependency at h ⊢
  rw [if_neg hnew] at h
  simp only [if_neg hnew]
  dsimp only at h
  split at h
  · rename_i last hlast
    obtain ⟨l, s, hl, hs⟩ := lastDeclarationLine?_eq_some hlast
    have hlt := (List.getElem?_eq_some_iff.1 hl).1
    rw [length_lines] at hlt
    change Statement.readDependency? l = some s at hs
    obtain ⟨hmargin, w, hw, hreceiver⟩ := exists_receiver hs
    have hblanks : Text.IsBlanks s.indent := hmargin ▸ Text.isBlanks_indentation l
    obtain ⟨a, ha, htext⟩ :=
      exists_slot_ofInsertion hlt hnew (List.forall_mem_nil _) hblanks []
    refine ⟨a, w, _, hreceiver, ha, getD_resolve style (some l), fun o' => ⟨_, rfl, ?_⟩⟩
    rw [← htext, addAfter]
    simp only [LineBuffer.content_ofText hl, hs, Option.map_some, Option.getD_some,
      Option.bind_some, hw, List.nil_append]
  · rename_i stop hlast hstop
    obtain ⟨hlt, hmargin, -, hreceiver⟩ := SpecificationSpan.of_find t
    have hlt := hlt stop hstop
    rw [length_lines] at hlt
    have hempty : ∀ apart : Bool, ∀ k ∈ (if apart then [[]] else ([] : List Text)),
        '\n' ∉ k ∧ nameOn? .gemspec k = none :=
      forall_mem_apart ⟨List.not_mem_nil, rfl⟩
    obtain ⟨a, ha, htext⟩ := exists_slot_ofInsertion (Nat.le_of_lt hlt) hnew (hempty _)
      (List.forall_mem_append.2 ⟨hmargin, hindent⟩) []
    refine ⟨a, _, _, isReceiver_getD hreceiver, ha, getD_resolve style none,
      fun o' => ⟨_, rfl, ?_⟩⟩
    rw [← htext]
    rfl
  · cases h

end Additions

/-! ## Edits of what was added -/

/-- The version that a revision has just added is edited into the text that adding with that version
gives: with the version it is pinned to, and with none where it is unpinned. Where there was none,
unpinning changes nothing. -/
structure EditsAsAdded (add : DeclarationOptions → Except RevisionError Revision) (kind : Kind)
    (name c : Text) (o : DeclarationOptions) (style : Style) (r : Revision) : Prop where
  pinned : ∃ p a, pin r.text kind name c style = .ok p ∧ add (o.withVersion (some c)) = .ok a ∧
    p.text = a.text
  unpinned : o.version.isSome = true → ∃ p a, unpin r.text kind name = .ok (some p) ∧
    add (o.withVersion none) = .ok a ∧ p.text = a.text
  unchanged : o.version = none → unpin r.text kind name = .ok none

/-- What is spelled in a slot is edited as it would be added there. -/
theorem editsAsAdded_of_fill {add : DeclarationOptions → Except RevisionError Revision}
    {kind : Kind} {name c : Text} {o : DeclarationOptions} {style : Style} {r : Revision}
    {a : Slot} {w : Spelling} (hw : w.Declares kind name o.constraint?) (hnew : a.IsNew kind name)
    (hline : '\n' ∉ w.line o.constraint?) (hends : EndsPlain (w.line o.constraint?))
    (hquote : style.quote.getD w.quote = w.quote) (hc : c.trim = c)
    (hr : r.text = a.fill (w.line o.constraint?))
    (hadd : ∀ version, ∃ r', add (o.withVersion version) = .ok r' ∧
      r'.text = a.fill (w.line (version.map Text.trim))) :
    EditsAsAdded add kind name c o style r := by
  obtain ⟨p, hp, hptext⟩ := Spelling.pin_fill hw hnew hline hends hquote c
  obtain ⟨u, hu, hutext⟩ := Spelling.unpin_fill hw hnew hline hends
  rw [← hr] at hp hu
  refine ⟨?_, ?_, ?_⟩
  · obtain ⟨r', hr', htext⟩ := hadd (some c)
    rw [Option.map_some, hc] at htext
    exact ⟨p, r', hp, hr', hptext.trans htext.symm⟩
  · intro hversion
    obtain ⟨v, hv⟩ := Option.isSome_iff_exists.1 hversion
    obtain ⟨r', hr', htext⟩ := hadd none
    rw [DeclarationOptions.constraint?, hv, Option.map_some, Option.map_some] at hutext
    obtain ⟨p', rfl, hp'⟩ := Option.map_eq_some_iff.1 hutext
    exact ⟨p', r', hu, hr', hp'.trans htext.symm⟩
  · intro hversion
    rw [DeclarationOptions.constraint?, hversion, Option.map_none, Option.map_none] at hutext
    rw [hu, Option.map_eq_none_iff.1 hutext]

/-- To pin or unpin what was just added is to add it with that version or with none. -/
theorem edits_added {t name c : Text} {o : DeclarationOptions} {style : Style}
    (hname : isGemName name = true) (ho : ∀ s ∈ o.strings, '\n' ∉ s)
    (hindent : Text.IsBlanks style.indent) (hc : c.trim = c) :
    (∀ r, addDeclaration t name o style = .ok r →
        EditsAsAdded (addDeclaration t name · style) .gemfile name c o style r) ∧
      ∀ r, addDependency t name o style = .ok r →
        EditsAsAdded (addDependency t name · style) .gemspec name c o style r := by
  have hnewline := newline_notMem_of_isGemName hname
  constructor
  · intro r h
    have hgroups : ∀ g ∈ o.groups, '\n' ∉ g := fun g hg =>
      ho g (by simp [DeclarationOptions.strings, hg])
    obtain ⟨a, q, hnew, hquote, hadd⟩ := exists_slot_addDeclaration hindent hgroups h
    obtain ⟨r', hr', htext⟩ := hadd o rfl
    obtain rfl : r = r' := Except.ok.inj (h.symm.trans hr')
    have hline := gemStatement_eq_line name o q
    refine editsAsAdded_of_fill (declares_gemSpelling hname o q) hnew ?_ ?_ hquote hc
      (hline ▸ htext) fun version => ?_
    · exact hline ▸ newline_notMem_gemStatement hnewline ho q
    · exact hline ▸ endsPlain_gemStatement name o q
    · rw [← gemStatement_withVersion]
      exact hadd _ rfl
  · intro r h
    have hversion : ∀ v ∈ o.version, '\n' ∉ v := fun v hv =>
      ho v (by simp [DeclarationOptions.strings, Option.mem_def.1 hv])
    obtain ⟨a, receiver, q, hreceiver, hnew, hquote, hadd⟩ := exists_slot_addDependency hindent h
    obtain ⟨r', hr', htext⟩ := hadd o
    obtain rfl : r = r' := Except.ok.inj (h.symm.trans hr')
    have hline := dependencyStatement_eq_line receiver name o q
    refine editsAsAdded_of_fill (declares_dependencySpelling hname hreceiver o q) hnew ?_ ?_ hquote
      hc (hline ▸ htext) fun version => ?_
    · exact hline ▸ newline_notMem_dependencyStatement hnewline
        (newline_notMem_constraint hversion) hreceiver q
    · exact hline ▸ endsPlain_dependencyStatement receiver name o q
    · rw [← dependencyStatement_withVersion]
      exact hadd _

/-- A gem in a new block behind an open line, with an operator and a platform. -/
theorem edits_added_newBlock :
    ∃ r p u, addDeclaration "gem 'rack'".toList "rspec".toList
        ⟨some "3.0".toList, some .pessimistic, ["test".toList], ["ruby".toList], none, none⟩
        ⟨none, .double, "  ".toList⟩ = .ok r ∧
      pin r.text .gemfile "rspec".toList "4.0".toList ⟨none, .double, "  ".toList⟩ = .ok p ∧
      p.text =
        "gem 'rack'\n\ngroup :test do\n  gem 'rspec', '4.0', platforms: :ruby\nend".toList ∧
      unpin r.text .gemfile "rspec".toList = .ok (some u) ∧
      u.text = "gem 'rack'\n\ngroup :test do\n  gem 'rspec', platforms: :ruby\nend".toList := by
  obtain ⟨r, hadd⟩ : ∃ r, addDeclaration "gem 'rack'".toList "rspec".toList
      ⟨some "3.0".toList, some .pessimistic, ["test".toList], ["ruby".toList], none, none⟩
      ⟨none, .double, "  ".toList⟩ = .ok r := ⟨_, rfl⟩
  have hpinned : addDeclaration "gem 'rack'".toList "rspec".toList
      ⟨some "4.0".toList, none, ["test".toList], ["ruby".toList], none, none⟩
      ⟨none, .double, "  ".toList⟩ = .ok
        ⟨"gem 'rack'\n\ngroup :test do\n  gem 'rspec', '4.0', platforms: :ruby\nend".toList,
          1, 5⟩ := by decide
  have hunpinned : addDeclaration "gem 'rack'".toList "rspec".toList
      ⟨none, none, ["test".toList], ["ruby".toList], none, none⟩
      ⟨none, .double, "  ".toList⟩ = .ok
        ⟨"gem 'rack'\n\ngroup :test do\n  gem 'rspec', platforms: :ruby\nend".toList,
          1, 5⟩ := by decide
  obtain ⟨⟨p, a, hp, ha, hpa⟩, hunpin, -⟩ :=
    (@edits_added "gem 'rack'".toList "rspec".toList "4.0".toList _ _ (by decide) (by decide)
      (List.all_eq_true.1 (by decide)) (by decide)).1 _ hadd
  obtain ⟨u, b, hu, hb, hub⟩ := hunpin rfl
  obtain rfl := Except.ok.inj (hpinned.symm.trans ha)
  obtain rfl := Except.ok.inj (hunpinned.symm.trans hb)
  exact ⟨_, p, u, hadd, hp, hpa, hu, hub⟩

end GemDeps
