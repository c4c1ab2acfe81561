import GemDeps.Proofs.Keywords

/-!
# The shape of a statement

The head of a statement is described by its form alone: blanks, a keyword, what opens its arguments,
and a static name between quotes (`Statement.HasHead`). A line holds a statement exactly when it is
such a head and any rest (`Statement.read?_eq_some_iff`): nothing of it is lost, and with another
name or another rest it holds the same statement but for that name or rest (`Statement.IsOn`). No
line holds a statement of both kinds (`Statement.readGem?_eq_none`), so the quotes detected on it are
those of its statement. Altogether the split of a line depends on its head only
(`Statement.split_of_read?`).
-/

namespace GemDeps

namespace Statement

/-! ## Names behind a keyword -/

theorem finish?_of_literal {indent called : Text} {receiver : Option Text} {development : Bool}
    {opening : ArgumentOpening} {q : QuoteStyle} {name rest : Text}
    (h : opening.rest = q.mark :: (name ++ q.mark :: rest))
    (hname : Zone.Leaves (.literal q) (name ++ [q.mark])) (hne : name ≠ [])
    (hstatic : isDynamic name = false) :
    finish? indent called receiver development opening =
      some ⟨indent, called ++ opening.text, receiver, q, name, rest, opening.parenthesized,
        development⟩ := by
  rw [finish?, h, Quoted.read?_literal hname]
  simp [hne, hstatic]

theorem eq_of_finish? {indent called t : Text} {receiver : Option Text} {development : Bool}
    {s : Statement}
    (h : finish? indent called receiver development (ArgumentOpening.read t) = some s) :
    (ArgumentOpening.read t).rest = s.quote.mark :: (s.name ++ s.quote.mark :: s.rest) ∧
      Zone.Leaves (.literal s.quote) (s.name ++ [s.quote.mark]) ∧ s.name ≠ [] ∧
      isDynamic s.name = false ∧
      s = ⟨indent, called ++ (ArgumentOpening.read t).text, receiver, s.quote, s.name, s.rest,
        (ArgumentOpening.read t).parenthesized, development⟩ := by
  unfold finish? at h
  split at h
  · simp at h
  · rename_i l hl
    rw [Option.ite_none_left_eq_some, Bool.or_eq_true, not_or] at h
    obtain ⟨⟨hne, hstatic⟩, h⟩ := h
    cases h
    obtain ⟨hrest, hleaves⟩ := Quoted.eq_of_read? hl
    rw [ArgumentOpening.dropWhile_isGap_rest] at hrest
    exact ⟨hrest, hleaves, by simpa using hne, by simpa using hstatic, rfl⟩

theorem readGem?_of_keyword {indent r : Text} (hindent : Text.IsBlanks indent)
    (hends : Text.wordEnds r = true) :
    readGem? (indent ++ ("gem".toList ++ r)) =
      finish? indent "gem".toList none false (ArgumentOpening.read r) := by
  have htrim : Text.trimStart (indent ++ ("gem".toList ++ r)) = "gem".toList ++ r :=
    (Text.trimStart_append hindent _).trans (Text.trimStart_cons (by decide) _)
  have hind : Text.indentation (indent ++ ("gem".toList ++ r)) = indent := by
    rw [Text.indentation_append hindent]
    exact (congrArg _ (Text.indentation_cons (by decide) _)).trans (List.append_nil _)
  rw [readGem?, htrim, hind, Text.isPrefixOf?_eq_some_iff.2 rfl]
  exact if_pos hends

theorem readDependency?_of_call {indent u : Text} {call : DependencyCall}
    (hindent : Text.IsBlanks indent) (hcall : call.IsProper)
    (hends : Text.wordEnds u = true) :
    readDependency? (indent ++ (call.head ++ u)) =
      finish? indent call.head (some call.receiver) (call.scope == "development_".toList)
        (ArgumentOpening.read u) := by
  obtain ⟨c, w, hw, hc⟩ : ∃ c w, call.head ++ u = c :: w ∧ Text.isBlank c = false := by
    obtain ⟨⟨c, r, hreceiver, hc, -⟩, -⟩ := hcall
    refine ⟨c, r ++ ".add_".toList ++ call.scope ++ "dependency".toList ++ u, ?_, ?_⟩
    · simp [DependencyCall.head, hreceiver]
    · exact Text.isBlank_of_startsIdentifier hc
  have htrim : Text.trimStart (indent ++ (call.head ++ u)) = call.head ++ u := by
    rw [Text.trimStart_append hindent, hw, Text.trimStart_cons hc]
  have hind : Text.indentation (indent ++ (call.head ++ u)) = indent := by
    rw [Text.indentation_append hindent, hw, Text.indentation_cons hc, List.append_nil]
  rw [readDependency?, htrim, hind, dependencyCall?_head hcall hends]
  rfl

/-- Behind a call a statement is read alike whatever the call. -/
theorem read?_of_isCall {kind : Kind} {indent called u : Text} {receiver : Option Text}
    {development : Bool} (h : IsCall kind called receiver development)
    (hindent : Text.IsBlanks indent) (hends : Text.wordEnds u = true) :
    read? kind (indent ++ (called ++ u)) =
      finish? indent called receiver development (ArgumentOpening.read u) := by
  cases h with
  | gem => exact readGem?_of_keyword hindent hends
  | dependency hcall => exact readDependency?_of_call hindent hcall hends

theorem head_append (s : Statement) (r : Text) :
    s.head ++ r = s.indent ++ s.keyword ++ s.quote.mark :: (s.name ++ s.quote.mark :: r) := by
  simp [head]

/-! ## Heads -/

/-- The head of a statement, up to and including the quoted name. Nothing is said of the rest. -/
structure HasHead (s : Statement) (kind : Kind) : Prop where
  indent : Text.IsBlanks s.indent
  keyword : ∃ called opening, s.keyword = called ++ opening ∧
    IsCall kind called s.receiver s.development ∧
    ArgumentOpening.IsOpening opening s.parenthesized
  /-- The closing quote is the first one that no backslash protects. -/
  literal : Zone.Leaves (.literal s.quote) (s.name ++ [s.quote.mark])
  name_ne_nil : s.name ≠ []
  static : isDynamic s.name = false

variable {kind : Kind} {line : Text} {s : Statement}

namespace HasHead

variable (h : s.HasHead kind)

include h

theorem isQuiet : Text.IsQuiet (s.indent ++ s.keyword) := by
  obtain ⟨called, opening, hkeyword, hcalled, hopening⟩ := h.keyword
  have hindent : Text.IsQuiet s.indent :=
    Text.isQuiet_of_forall (by decide) (by decide) (by decide) h.indent
  rw [hkeyword]
  exact hindent.append (hcalled.isQuiet.append hopening.isQuiet)

/-- Behind a head any rest is read. -/
theorem read?_append (r : Text) :
    Statement.read? kind (s.head ++ r) = some { s with rest := r } := by
  obtain ⟨called, opening, hkeyword, hcalled, hopening⟩ := h.keyword
  have hline : s.head ++ r = s.indent ++
      (called ++ (opening ++ s.quote.mark :: (s.name ++ s.quote.mark :: r))) := by
    simp [head_append, hkeyword]
  rw [hline, read?_of_isCall hcalled h.indent (hopening.wordEnds_append _ _), hopening.read_append,
    finish?_of_literal rfl h.literal h.name_ne_nil h.static, ← hkeyword]

/-- With another static name a head stays one. -/
theorem replace {q : QuoteStyle} {name : Text} (hname : Zone.Leaves (.literal q) (name ++ [q.mark]))
    (hne : name ≠ []) (hstatic : isDynamic name = false) (rest : Text) :
    HasHead { s with quote := q, name := name, rest := rest } kind :=
  ⟨h.indent, h.keyword, hname, hne, hstatic⟩

end HasHead

theorem hasHead_of_finish? {indent called t : Text} {receiver : Option Text} {development : Bool}
    (hindent : Text.IsBlanks indent) (hcalled : IsCall kind called receiver development)
    (h : finish? indent called receiver development (ArgumentOpening.read t) = some s) :
    s.HasHead kind ∧ s.head ++ s.rest = indent ++ (called ++ t) := by
  obtain ⟨hrest, hliteral, hne, hstatic, hs⟩ := eq_of_finish? h
  have hopening := ArgumentOpening.isOpening_read t
  have ht := ArgumentOpening.text_append_rest t
  rw [hrest] at ht
  constructor
  · rw [hs]
    exact ⟨hindent, ⟨called, _, rfl, hcalled, hopening⟩, hliteral, hne, hstatic⟩
  · rw [head_append, hs]
    simp only [List.append_assoc, ht]

/-- A line with a statement is the head of the statement and its rest, with nothing lost. -/
theorem hasHead_of_read? (h : read? kind line = some s) :
    s.HasHead kind ∧ s.head ++ s.rest = line := by
  have hindent := Text.isBlanks_indentation line
  conv => rhs; rw [← Text.indentation_append_trimStart line]
  cases kind with
  | gemfile =>
    change readGem? line = some s at h
    unfold readGem? at h
    split at h
    · cases h
    · rename_i r hr
      rw [Text.isPrefixOf?_eq_some_iff.1 hr]
      obtain ⟨-, h⟩ := Option.ite_none_right_eq_some.1 h
      exact hasHead_of_finish? hindent .gem h
  | gemspec =>
    change readDependency? line = some s at h
    unfold readDependency? at h
    split at h
    · cases h
    · rename_i call hcall
      obtain ⟨hproper, hline, -⟩ := eq_of_dependencyCall? hcall
      rw [hline]
      exact hasHead_of_finish? hindent (.dependency hproper) h

/-- A line holds a statement exactly when it is the head of the statement and its rest. -/
theorem read?_eq_some_iff :
    read? kind line = some s ↔ s.HasHead kind ∧ s.head ++ s.rest = line := by
  constructor
  · exact hasHead_of_read?
  · rintro ⟨hhead, rfl⟩
    exact hhead.read?_append s.rest

/-! ## Statements on lines -/

/-- What is known of the statement on a line: nothing of the line is lost, the name is a static
literal, and what stands in front of the name is read alike in front of any such name. -/
structure IsOn (s : Statement) (kind : Kind) (line : Text) : Prop where
  line_eq : line = s.indent ++ s.keyword ++ s.quote.mark :: (s.name ++ s.quote.mark :: s.rest)
  literal : Zone.Leaves (.literal s.quote) (s.name ++ [s.quote.mark])
  name_ne_nil : s.name ≠ []
  static : isDynamic s.name = false
  quiet : Text.IsQuiet (s.indent ++ s.keyword)
  read?_of_name : ∀ (q : QuoteStyle) (name rest : Text),
    Zone.Leaves (.literal q) (name ++ [q.mark]) → name ≠ [] → isDynamic name = false →
      read? kind (s.indent ++ s.keyword ++ q.mark :: (name ++ q.mark :: rest)) =
        some { s with quote := q, name := name, rest := rest }

/-- A line with a statement is nothing but its parts, and its head is read on its own. -/
theorem isOn_of_read? (h : read? kind line = some s) : s.IsOn kind line := by
  obtain ⟨hhead, hline⟩ := hasHead_of_read? h
  refine ⟨?_, hhead.literal, hhead.name_ne_nil, hhead.static, hhead.isQuiet, ?_⟩
  · rw [← hline, head_append]
  · intro q name rest hname hne hstatic
    have hagain := (hhead.replace hname hne hstatic rest).read?_append rest
    rwa [head_append] at hagain

namespace IsOn

variable (h : s.IsOn kind line)

include h

theorem head_append_rest : s.head ++ s.rest = line := by
  rw [head_append, ← h.line_eq]

/-- Another name or another rest makes the same statement with that name or rest. -/
theorem replace {q : QuoteStyle} {name : Text} (hname : Zone.Leaves (.literal q) (name ++ [q.mark]))
    (hne : name ≠ []) (hstatic : isDynamic name = false) (rest : Text) :
    IsOn { s with quote := q, name := name, rest := rest } kind
      (head { s with quote := q, name := name, rest := rest } ++ rest) where
  line_eq := head_append _ rest
  literal := hname
  name_ne_nil := hne
  static := hstatic
  quiet := h.quiet
  read?_of_name := h.read?_of_name

theorem read?_eq : read? kind line = some s := by
  rw [h.line_eq]
  exact h.read?_of_name s.quote s.name s.rest h.literal h.name_ne_nil h.static

/-- No comment starts in the head of a statement. -/
theorem isUncommented_head : IsUncommented s.head := by
  have hname : IsLiteral (s.quote.mark :: (s.name ++ [s.quote.mark])) :=
    ⟨s.quote, _, rfl, h.literal⟩
  exact h.quiet.isUncommented.append hname.isUncommented

end IsOn

/-! ## The two kinds apart -/

/-- A dependency call starts no `gem` statement. -/
theorem readGem?_of_dependencyCall? {call : DependencyCall}
    (h : dependencyCall? (Text.trimStart line) = some call) : readGem? line = none := by
  obtain ⟨hproper, hline, -⟩ := eq_of_dependencyCall? h
  rw [readGem?]
  split
  · rfl
  · rename_i r hr
    rw [Text.isPrefixOf?_eq_some_iff] at hr
    split
    · rename_i hends
      -- The receiver is the longest word at the start, so it is the keyword, and a dot follows.
      obtain ⟨w, rfl⟩ : ∃ w, r = '.' :: w := by
        have hword : "gem".toList.takeWhile Text.isWord = "gem".toList := by decide
        have htake : ("gem".toList ++ r).takeWhile Text.isWord = "gem".toList := by
          rw [List.takeWhile_append_of_pos Text.isWord_of_mem_gem]
          cases r with
          | nil => rfl
          | cons c r =>
            rw [List.takeWhile_cons_of_neg (by simpa [Text.wordEnds] using hends),
              List.append_nil]
        have hdot : call.head ++ call.rest = call.receiver ++
            '.' :: ("add_".toList ++ call.scope ++ "dependency".toList ++ call.rest) := by
          simp [DependencyCall.head]
        have hreceiver : call.receiver = "gem".toList := by
          rw [← htake, ← hr, hline, hdot,
            List.takeWhile_append_of_pos hproper.1.isWord,
            List.takeWhile_cons_of_neg (by decide), List.append_nil]
        rw [hline, hdot, hreceiver] at hr
        exact ⟨_, (List.append_cancel_left hr).symm⟩
      rfl
    · rfl

theorem exists_dependencyCall? (h : readDependency? line = some s) :
    ∃ call, dependencyCall? (Text.trimStart line) = some call := by
  cases hcall : dependencyCall? (Text.trimStart line) with
  | none => simp only [readDependency?, hcall, reduceCtorEq] at h
  | some call => exact ⟨call, rfl⟩

/-- A dependency statement is no `gem` statement. -/
theorem readGem?_eq_none (h : readDependency? line = some s) : readGem? line = none := by
  obtain ⟨call, hcall⟩ := exists_dependencyCall? h
  exact readGem?_of_dependencyCall? hcall

theorem detect?_eq (h : read? kind line = some s) :
    QuoteStyle.detect? line = some s.quote := by
  cases kind with
  | gemfile =>
    change readGem? line = some s at h
    rw [QuoteStyle.detect?, h]
    rfl
  | gemspec =>
    rw [QuoteStyle.detect?, readGem?_eq_none h]
    change readDependency? line = some s at h
    rw [h]
    rfl

/-- A line with a statement of one kind holds none of the other. -/
theorem read?_eq_none_of_ne {other : Kind} (h : Statement.read? kind line = some s)
    (hne : other ≠ kind) : Statement.read? other line = none := by
  cases kind with
  | gemfile =>
    cases other with
    | gemfile => exact absurd rfl hne
    | gemspec =>
      refine Option.eq_none_iff_forall_ne_some.2 fun w hw => ?_
      have hgem : readGem? line = none := readGem?_eq_none hw
      rw [show readGem? line = some s from h] at hgem
      cases hgem
  | gemspec =>
    cases other with
    | gemfile => exact readGem?_eq_none h
    | gemspec => exact absurd rfl hne

/-- A line with a statement is the head of the statement and its rest, and any comment of the line
is one of the rest. The head is one of its kind whatever follows, so with another rest it is read as
the same statement with that rest. The line holds no statement of the other kind, so the quotes
detected on it are those around the name. -/
theorem split_of_read? (h : Statement.read? kind line = some s) :
    s.HasHead kind ∧ s.head ++ s.rest = line ∧
      stripComment line = s.head ++ stripComment s.rest ∧
      commentStart? line = (commentStart? s.rest).map (Text.size s.head + ·) ∧
      (∀ r, Statement.read? kind (s.head ++ r) = some { s with rest := r }) ∧
      (∀ other, other ≠ kind → Statement.read? other line = none) ∧
      QuoteStyle.detect? line = some s.quote := by
  obtain ⟨hhead, hline⟩ := read?_eq_some_iff.1 h
  have huncommented := (isOn_of_read? h).isUncommented_head
  refine ⟨hhead, hline, ?_, ?_, hhead.read?_append, fun other hne => read?_eq_none_of_ne h hne,
    detect?_eq h⟩
  · rw [← hline]
    exact huncommented s.rest
  · rw [← hline]
    exact huncommented.commentStart?_append s.rest

/-- Parentheses, a `#` in the name, and a comment. -/
theorem split_of_read?_parenthesized :
    ∃ s, Statement.read? .gemspec
        "  spec.add_development_dependency( \"a#b\", '~> 1' ) # web".toList = some s ∧
      s.head = "  spec.add_development_dependency( \"a#b\"".toList ∧
      s.rest = ", '~> 1' ) # web".toList ∧
      commentStart? "  spec.add_development_dependency( \"a#b\", '~> 1' ) # web".toList = some 51 ∧
      (∀ r, Statement.read? .gemspec (s.head ++ r) = some { s with rest := r }) ∧
      Statement.read? .gemfile
        "  spec.add_development_dependency( \"a#b\", '~> 1' ) # web".toList = none ∧
      QuoteStyle.detect?
        "  spec.add_development_dependency( \"a#b\", '~> 1' ) # web".toList = some .double := by
  have hread : Statement.read? .gemspec
      "  spec.add_development_dependency( \"a#b\", '~> 1' ) # web".toList =
        some ⟨"  ".toList, "spec.add_development_dependency( ".toList, some "spec".toList, .double,
          "a#b".toList, ", '~> 1' ) # web".toList, true, true⟩ := by
    rfl
  obtain ⟨-, -, -, hcomment, hagain, hother, hdetect⟩ := split_of_read? hread
  have hsize : (commentStart? ", '~> 1' ) # web".toList).map (40 + ·) = some 51 := by decide
  exact ⟨_, hread, rfl, rfl, hcomment.trans hsize, hagain, hother .gemfile (by decide), hdetect⟩

end Statement

end GemDeps
