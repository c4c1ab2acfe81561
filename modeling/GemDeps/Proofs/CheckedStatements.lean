import GemDeps.Manifest.Gemspec
import GemDeps.Proofs.BlockDepth
import GemDeps.Proofs.CheckedValues
import GemDeps.Proofs.Requirement

/-!
# Statements with checked cuts

The parts of a line, cut at the offsets that the scanners find: the rest of a statement behind its
name, its arguments, the version arguments at its start, the arguments of a call and the literals
of an assigned value.
-/

namespace GemDeps.Checked

/-! ## Statements -/

/-- The statement on a line that starts with this indentation and keyword, if a static name
follows. -/
def finish? (line indent keyword : Text) (receiver : Option Text)
    (parenthesized development : Bool) : Checked (Option Statement) := do
  match ← quotedAt line (indent.size + keyword.size) with
  | none => return none
  | some q =>
    if q.value.isEmpty || Statement.isDynamic q.value then return none
    else
      let rest ← line.slice q.stop line.size
      return some ⟨indent, keyword, receiver, q.style, q.value, rest, parenthesized, development⟩

/-- The `gem` statement on a line. -/
def readGem? (line : Text) : Checked (Option Statement) :=
  match "gem".toList.isPrefixOf? (Text.trimStart line) with
  | none => .ok none
  | some r =>
    let opening := ArgumentOpening.read r
    if Text.wordEnds r then
      finish? line (Text.indentation line) ("gem".toList ++ opening.text) none
        opening.parenthesized false
    else .ok none

/-- The `add_dependency` statement on a line. -/
def readDependency? (line : Text) : Checked (Option Statement) :=
  match dependencyCall? (Text.trimStart line) with
  | none => .ok none
  | some call =>
    let opening := ArgumentOpening.read call.rest
    finish? line (Text.indentation line) (call.head ++ opening.text) (some call.receiver)
      opening.parenthesized (call.scope == "development_".toList)

/-- The statement on a line of a manifest of the given kind. -/
def read? : Kind → Text → Checked (Option Statement)
  | .gemfile, line => readGem? line
  | .gemspec, line => readDependency? line

/-- The arguments after the name, without the closing parenthesis and without a comment. -/
def arguments (s : Statement) : Checked Text := do
  let code ← stripComment s.rest
  let inner ←
    match if s.parenthesized then closingParen? code else none with
    | some i => code.slice 0 i
    | none => .ok code
  return match Text.trimStart inner with
    | ',' :: r => r
    | _ => inner

theorem text_append_rest (t : Text) :
    (ArgumentOpening.read t).text ++ (ArgumentOpening.read t).rest = t := by
  have ht := Text.indentation_append_trimStart t
  unfold ArgumentOpening.read
  split
  · rename_i r hr
    rw [hr] at ht
    rw [List.append_assoc, List.cons_append, Text.indentation_append_trimStart, ht]
  · exact ht

/-- The name is looked for at an offset of the line that starts with indentation and keyword. -/
theorem finish?_eq {line indent called t : Text} (hline : line = indent ++ (called ++ t))
    (receiver : Option Text) (development : Bool) :
    finish? line indent (called ++ (ArgumentOpening.read t).text) receiver
        (ArgumentOpening.read t).parenthesized development =
      .ok (Statement.finish? indent called receiver development (ArgumentOpening.read t)) := by
  have ht := text_append_rest t
  unfold finish? Statement.finish?
  generalize ArgumentOpening.read t = opening at ht ⊢
  obtain ⟨text, parenthesized, rest⟩ := opening
  subst ht
  have hkeyword : line = (indent ++ (called ++ text)) ++ rest := by
    rw [hline]
    simp only [List.append_assoc]
  rw [← Text.size_append, hkeyword, quotedAt_append, ok_bind]
  dsimp only
  cases hread : Quoted.read? rest with
  | none => rfl
  | some l =>
    obtain ⟨u, hsplit, hstop, -⟩ := append_slice_rest hread (indent ++ (called ++ text))
    dsimp only [Option.map_some]
    rw [hstop, hsplit, Text.slice_suffix]
    split <;> rfl

theorem readGem?_eq (line : Text) : readGem? line = .ok (Statement.readGem? line) := by
  unfold readGem? Statement.readGem?
  cases hr : "gem".toList.isPrefixOf? (Text.trimStart line) with
  | none => rfl
  | some r =>
    rw [Text.isPrefixOf?_eq_some_iff] at hr
    have hline : line = Text.indentation line ++ ("gem".toList ++ r) := by
      rw [← hr, Text.indentation_append_trimStart]
    dsimp only
    rw [finish?_eq hline]
    split <;> rfl

theorem readDependency?_eq (line : Text) :
    readDependency? line = .ok (Statement.readDependency? line) := by
  unfold readDependency? Statement.readDependency?
  cases hcall : dependencyCall? (Text.trimStart line) with
  | none => rfl
  | some call =>
    obtain ⟨-, hr, -⟩ := eq_of_dependencyCall? hcall
    have hline : line = Text.indentation line ++ (call.head ++ call.rest) := by
      rw [← hr, Text.indentation_append_trimStart]
    exact finish?_eq hline _ _

theorem read?_eq (kind : Kind) (line : Text) : read? kind line = .ok (Statement.read? kind line) :=
  match kind with
  | .gemfile => readGem?_eq line
  | .gemspec => readDependency?_eq line

theorem arguments_eq (s : Statement) : arguments s = .ok s.arguments := by
  unfold arguments Statement.arguments
  rw [stripComment_eq, ok_bind]
  dsimp only
  generalize GemDeps.stripComment s.rest = code
  cases s.parenthesized with
  | false => rfl
  | true =>
    rw [if_pos rfl, if_pos rfl, closingParen?_eq]
    cases hparen : beforeClosingParen? .code 0 code with
    | none => rfl
    | some u =>
      obtain ⟨w, rfl⟩ := eq_append_of_beforeClosingParen? hparen
      dsimp only [Option.map_some, Option.getD_some]
      rw [Text.slice_prefix]
      rfl

/-! ## Versions -/

/-- The constraints that the arguments start with, and the number of arguments that give them. -/
def leadingVersions : List Text → Checked (List Text × Nat)
  | [] => .ok ([], 0)
  | a :: as => do
    match (← readValue a).versions? with
    | none => return ([], 0)
    | some vs =>
      let (versions, consumed) ← leadingVersions as
      return (vs ++ versions, consumed + 1)

/-- The arguments from number `n` on. -/
def argumentsFrom (as : List Text) (n : Nat) : Checked (List Text) :=
  if n ≤ as.length then .ok (as.drop n) else .error (.index n)

/-- The arguments that are counted are there. -/
theorem leadingVersions_eq (as : List Text) : ∃ n,
    leadingVersions as = .ok ((GemDeps.leadingVersions as).1, n) ∧
      argumentsFrom as n = .ok (GemDeps.leadingVersions as).2 := by
  induction as with
  | nil => exact ⟨0, rfl, rfl⟩
  | cons a as ih =>
    obtain ⟨n, hversions, hrest⟩ := ih
    unfold leadingVersions GemDeps.leadingVersions
    rw [readValue_eq, ok_bind, hversions]
    cases (Value.read a).versions? with
    | none => exact ⟨0, rfl, rfl⟩
    | some vs =>
      refine ⟨n + 1, rfl, ?_⟩
      unfold argumentsFrom at hrest ⊢
      by_cases hn : n ≤ as.length
      · rw [if_pos hn] at hrest
        rw [if_pos (show n + 1 ≤ (a :: as).length from Nat.succ_le_succ hn)]
        exact hrest
      · rw [if_neg hn] at hrest
        cases hrest

/-- The length of the literal or list at the start of a text. -/
def tokenLength? (t : Text) : Checked (Option Nat) := do
  match ← quotedAt t 0 with
  | some q => return some q.stop
  | none => return if t.head? = some '[' then listEnd? t else none

/-- The text after the version argument that it starts with. -/
def dropToken? (t : Text) : Checked (Option Text) := do
  match ← tokenLength? t with
  | none => return none
  | some n =>
    let token ← t.slice 0 n
    let rest ← t.slice n t.size
    return if (← readValue token).versions?.isSome && !continuesKey rest then some rest else none

/-- The text after the comma and the version argument that it starts with. -/
def dropVersionArgument? (t : Text) : Checked (Option Text) :=
  match Text.trimStart t with
  | ',' :: r => dropToken? (Text.trimStart r)
  | _ => .ok none

theorem eq_of_argumentToken? {t k r : Text} (h : argumentToken? t = some (k, r)) : t = k ++ r := by
  unfold argumentToken? at h
  split at h
  · rename_i l hl
    obtain ⟨u, hu, -, -⟩ := slice_rest hl
    have htake := take_length_sub u l.rest
    rw [← hu] at htake
    rw [htake] at h
    cases h
    exact hu
  · exact (eq_of_splitList? (Option.ite_none_right_eq_some.1 h).2).1

theorem tokenLength?_eq (t : Text) :
    tokenLength? t = .ok ((argumentToken? t).map (·.1.size)) := by
  unfold tokenLength? argumentToken?
  rw [quotedAt_zero, ok_bind]
  cases hread : Quoted.read? t with
  | none =>
    dsimp only [Option.map_none]
    rw [listEnd?_eq]
    by_cases hlist : t.head? = some '['
    · rw [if_pos hlist, if_pos (beq_iff_eq.2 hlist)]
      rfl
    · rw [if_neg hlist, if_neg (mt beq_iff_eq.1 hlist)]
      rfl
  | some l =>
    obtain ⟨u, hu, hstop, -⟩ := slice_rest hread
    have htake := take_length_sub u l.rest
    rw [← hu] at htake
    dsimp only [Option.map_some]
    rw [hstop, htake]
    rfl

theorem dropToken?_eq (t : Text) :
    dropToken? t =
      .ok (match argumentToken? t with
        | some (token, rest) =>
          if (Value.read token).versions?.isSome && !continuesKey rest then some rest else none
        | none => none) := by
  unfold dropToken?
  rw [tokenLength?_eq, ok_bind]
  cases htoken : argumentToken? t with
  | none => rfl
  | some p =>
    obtain ⟨token, rest⟩ := p
    obtain rfl := eq_of_argumentToken? htoken
    dsimp only [Option.map_some]
    rw [Text.slice_prefix, Text.slice_suffix, ok_bind, ok_bind, readValue_eq]
    rfl

theorem dropVersionArgument?_eq (t : Text) :
    dropVersionArgument? t = .ok (GemDeps.dropVersionArgument? t) := by
  unfold dropVersionArgument? GemDeps.dropVersionArgument?
  cases Text.trimStart t with
  | nil => rfl
  | cons c r =>
    by_cases hc : c = ','
    · subst hc
      exact dropToken?_eq _
    · simp [hc]

/-- The text without the version arguments that it starts with, and whether there was one; `dropped`
says that some were dropped before. -/
def dropVersionArguments (t : Text) (dropped : Bool) : Checked (Text × Bool) :=
  match _h : dropVersionArgument? t with
  | .error e => .error e
  | .ok none => .ok (t, dropped)
  | .ok (some r) => dropVersionArguments r true
termination_by t.length
decreasing_by
  rw [dropVersionArgument?_eq] at _h
  exact length_dropVersionArgument? (Except.ok.inj _h)

theorem dropVersionArguments_eq (t : Text) (dropped : Bool) :
    dropVersionArguments t dropped =
      .ok (GemDeps.dropVersionArguments t, dropped || hasVersionArgument t) := by
  fun_induction dropVersionArguments t dropped with
  | case1 t dropped e he =>
    rw [dropVersionArgument?_eq] at he
    cases he
  | case2 t dropped hnone =>
    rw [dropVersionArgument?_eq] at hnone
    have hdrop := Except.ok.inj hnone
    rw [dropVersionArguments_of_none hdrop, hasVersionArgument, hdrop, Option.isSome_none,
      Bool.or_false]
  | case3 t dropped r hsome ih =>
    rw [dropVersionArgument?_eq] at hsome
    have hdrop := Except.ok.inj hsome
    have hhas : hasVersionArgument t = true := Option.isSome_iff_exists.2 ⟨r, hdrop⟩
    rw [ih, dropVersionArguments_of_some hdrop, hhas, Bool.or_true, Bool.true_or]

/-! ## Calls -/

/-- The offset of the final `do` of a line's code, with the blanks in front of it. -/
def doStart? (t : Text) : Option Nat := (splitDo? false t).map fun u => (Text.trimEnd u).size

/-- The call in `code` of one of `keywords`. -/
def readCall? (keywords : List Text) (code : Text) : Checked (Option Call) :=
  match Call.afterKeyword? keywords code with
  | none => .ok none
  | some r =>
    match doStart? r with
    | some i => do return some ⟨Call.unwrap (← r.slice 0 i), true⟩
    | none => .ok (some ⟨Call.unwrap r, false⟩)

theorem unwrap_trimEnd (t : Text) : Call.unwrap (Text.trimEnd t) = Call.unwrap t := by
  obtain ⟨b, hb, ht⟩ := Text.exists_trimEnd_append t
  have htrim := Text.trim_append (b := []) (List.forall_mem_nil _) hb (Text.trimEnd t)
  rw [List.nil_append, ← ht] at htrim
  rw [Call.unwrap, Call.unwrap, htrim]

theorem readCall?_eq (keywords : List Text) (code : Text) :
    readCall? keywords code = .ok (Call.read? keywords code) := by
  unfold readCall? Call.read? doStart?
  cases Call.afterKeyword? keywords code with
  | none => rfl
  | some r =>
    dsimp only [Option.map_some]
    cases hdo : splitDo? false r with
    | none => rfl
    | some u =>
      obtain ⟨w, hr, -⟩ := eq_of_splitDo? hdo
      obtain ⟨b, -, hu⟩ := Text.exists_trimEnd_append u
      have hslice : r.slice 0 (Text.trimEnd u).size = .ok (Text.trimEnd u) := by
        have hsplit : r = Text.trimEnd u ++ (b ++ 'd' :: 'o' :: w) := by
          rw [hr, ← List.append_assoc, ← hu]
        rw [hsplit]
        exact Text.slice_prefix _ _
      dsimp only [Option.map_some]
      rw [hslice, ok_bind, unwrap_trimEnd]
      rfl

/-! ## Literals of a text -/

/-- A literal that is found ends behind the offset at which it is looked for, between two
characters. -/
theorem stop_of_quotedAt {t : Text} {start : Nat} {q : QuotedAt}
    (h : quotedAt t start = .ok (some q)) : start < q.stop ∧ t.IsBoundary q.stop := by
  rw [quotedAt_eq] at h
  obtain ⟨p, hp, rfl⟩ := Option.map_eq_some_iff.1 (Except.ok.inj h)
  obtain ⟨r, hr, hread⟩ := Option.bind_eq_some_iff.1 hp
  obtain ⟨l, hl, hlast⟩ := Option.bind_eq_some_iff.1 hread
  obtain ⟨u, rfl, rfl⟩ := Text.dropBytes?_eq_some_iff.1 hr
  obtain ⟨v, hsplit, hstop, hpos⟩ := append_slice_rest hl u
  obtain rfl : (l, (u ++ r).size - l.rest.size) = p := Option.some.inj hlast
  dsimp only
  rw [hstop, hsplit]
  refine ⟨?_, Text.isBoundary_append _ _⟩
  rw [Text.size_append]
  omega

/-- The values of the literals of a text from an offset on, in order, up to the first quote that
nothing closes. -/
def quotedStrings (t : Text) (i : Nat) : Checked (List Text) :=
  if i < t.size then
    match t.slice i t.size with
    | .error e => .error e
    | .ok u =>
      match findOffset? (fun c => !Quoted.isNoMark c) u with
      | none => .ok []
      | some offset =>
        match _hq : quotedAt t (i + offset) with
        | .error e => .error e
        | .ok none => .ok []
        | .ok (some q) => do return q.value :: (← quotedStrings t q.stop)
  else .ok []
termination_by t.size - i
decreasing_by
  obtain ⟨hlt, -⟩ := stop_of_quotedAt _hq
  omega

/-- The literal behind the characters in front of the first quote of a text. -/
theorem quotedAt_skip (u v : Text) (p : Char → Bool) :
    quotedAt (u ++ v) (u.size + Text.size (v.takeWhile p)) =
      .ok ((Quoted.read? (v.dropWhile p)).map fun l =>
        ⟨l.style, l.value, (u ++ v).size - l.rest.size⟩) := by
  have h := quotedAt_append (u ++ v.takeWhile p) (v.dropWhile p)
  rwa [List.append_assoc, List.takeWhile_append_dropWhile, Text.size_append u] at h

/-- From between characters the literals are found of the text there. -/
theorem quotedStrings_append (u v : Text) :
    quotedStrings (u ++ v) u.size = .ok (Quoted.all v) := by
  fun_induction Quoted.all v generalizing u with
  | case1 v hnone =>
    have hfound := quotedAt_skip u v Quoted.isNoMark
    rw [hnone] at hfound
    rw [quotedStrings, Text.slice_suffix]
    unfold findOffset?
    simp only [Bool.not_not]
    split
    · cases v.dropWhile Quoted.isNoMark with
      | nil => rfl
      | cons c r =>
        dsimp only
        split
        · rename_i hq
          rw [hfound] at hq
          cases hq
        · rfl
        · rename_i hq
          rw [hfound] at hq
          cases hq
    · rfl
  | case2 v l hl ih =>
    have hfound := quotedAt_skip u v Quoted.isNoMark
    obtain ⟨w, hsplit, hstop, hpos⟩ := append_slice_rest hl (u ++ v.takeWhile Quoted.isNoMark)
    rw [List.append_assoc u, List.takeWhile_append_dropWhile] at hsplit hstop
    have hlt : u.size < (u ++ v).size := by
      rw [hsplit]
      simp only [Text.size_append]
      omega
    have hrest := ih (u ++ v.takeWhile Quoted.isNoMark ++ w)
    rw [← hsplit] at hrest
    rw [hl, Option.map_some, hstop] at hfound
    rw [quotedStrings, if_pos hlt, Text.slice_suffix]
    unfold findOffset?
    simp only [Bool.not_not]
    cases hdrop : v.dropWhile Quoted.isNoMark with
    | nil =>
      rw [hdrop] at hl
      cases hl
    | cons c r =>
      dsimp only
      split
      · rename_i hq
        rw [hfound] at hq
        cases hq
      · rename_i hq
        rw [hfound] at hq
        cases hq
      · rename_i q hq
        rw [hfound] at hq
        obtain rfl := Option.some.inj (Except.ok.inj hq)
        dsimp only
        rw [hrest]
        rfl

/-! ## All offsets -/

/-- Every offset at which a scanner cuts a text stands between two characters, whatever the text and
wherever the scanner starts, and no reader of a text makes a cut that fails. -/
structure ScansSucceed (t : Text) : Prop where
  literal : ∀ start, quotedAt t start =
    .ok ((Quoted.readAt? t start).map fun p => ⟨p.1.style, p.1.value, p.2⟩)
  stop : ∀ start q, quotedAt t start = .ok (some q) → start < q.stop ∧ t.IsBoundary q.stop
  comment : ∀ i ∈ commentStart? t, t.IsBoundary i
  code : stripComment t = .ok (GemDeps.stripComment t)
  parenthesis : ∀ i ∈ closingParen? t, t.IsBoundary i
  pieces : splitArguments t = .ok (GemDeps.splitArguments t)
  arrow : ∀ i ∈ findArrow? t, t.IsBoundary i ∧ t.IsBoundary (i + 2)
  value : readValue t = .ok (Value.read t)
  pair : pair? t = .ok (Value.pair? t)
  list : ∀ i ∈ listEnd? t, t.IsBoundary i
  versions : ∀ dropped, dropVersionArguments t dropped =
    .ok (GemDeps.dropVersionArguments t, dropped || hasVersionArgument t)
  name : ∀ indent keyword receiver parenthesized development,
    ∃ s, finish? t indent keyword receiver parenthesized development = .ok s
  statement : ∀ kind, read? kind t = .ok (Statement.read? kind t)
  call : ∀ keywords, readCall? keywords t = .ok (Call.read? keywords t)
  literals : quotedStrings t 0 = .ok (Quoted.all t)

theorem isBoundary_commentStart? {t : Text} {i : Nat} (h : commentStart? t = some i) :
    t.IsBoundary i := by
  rw [commentStart?_eq] at h
  obtain ⟨-, rfl⟩ : ¬ (splitComment .code t).2.isEmpty = true ∧
      (GemDeps.stripComment t).size = i := by
    simpa [GemDeps.commentStart?] using h
  exact ⟨_, _, (splitComment_append .code t).symm, rfl⟩

theorem isBoundary_closingParen? {t : Text} {i : Nat} (h : closingParen? t = some i) :
    t.IsBoundary i := by
  rw [closingParen?_eq] at h
  obtain ⟨u, hu, rfl⟩ := Option.map_eq_some_iff.1 h
  obtain ⟨w, hw⟩ := eq_append_of_beforeClosingParen? hu
  exact ⟨u, _, hw, rfl⟩

theorem isBoundary_findArrow? {t : Text} {i : Nat} (h : findArrow? t = some i) :
    t.IsBoundary i ∧ t.IsBoundary (i + 2) := by
  rw [findArrow?_eq] at h
  obtain ⟨p, hp, rfl⟩ := Option.map_eq_some_iff.1 h
  have ht := eq_of_splitArrow? hp
  refine ⟨⟨p.1, _, ht, rfl⟩, p.1 ++ ['=', '>'], p.2, ?_, ?_⟩
  · rw [ht, List.append_assoc]
    rfl
  · rw [Text.size_append]
    rfl

theorem isBoundary_listEnd? {t : Text} {i : Nat} (h : listEnd? t = some i) : t.IsBoundary i := by
  rw [listEnd?_eq] at h
  obtain ⟨p, hp, rfl⟩ := Option.map_eq_some_iff.1 h
  exact ⟨p.1, p.2, (eq_of_splitList? hp).1, rfl⟩

/-- The rest behind a name is cut off wherever the name is looked for. -/
theorem exists_finish? (line indent keyword : Text) (receiver : Option Text)
    (parenthesized development : Bool) :
    ∃ s, finish? line indent keyword receiver parenthesized development = .ok s := by
  have hquoted := quotedAt_eq line (indent.size + keyword.size)
  unfold finish?
  rw [hquoted, ok_bind]
  cases hread : Quoted.readAt? line (indent.size + keyword.size) with
  | none => exact ⟨none, rfl⟩
  | some p =>
    rw [hread] at hquoted
    obtain ⟨-, hstop⟩ := stop_of_quotedAt hquoted
    obtain ⟨rest, hrest⟩ :=
      Text.exists_slice_iff.2 ⟨hstop.le_size, hstop, Text.isBoundary_size line⟩
    dsimp only [Option.map_some]
    rw [hrest]
    split
    · exact ⟨none, rfl⟩
    · exact ⟨_, rfl⟩

theorem scansSucceed (t : Text) : ScansSucceed t where
  literal := quotedAt_eq t
  stop _ _ := stop_of_quotedAt
  comment _ := isBoundary_commentStart?
  code := stripComment_eq t
  parenthesis _ := isBoundary_closingParen?
  pieces := splitArguments_eq t
  arrow _ := isBoundary_findArrow?
  value := readValue_eq t
  pair := pair?_eq t
  list _ := isBoundary_listEnd?
  versions := dropVersionArguments_eq t
  name := exists_finish? t
  statement kind := read?_eq kind t
  call keywords := readCall?_eq keywords t
  literals := quotedStrings_append [] t

end GemDeps.Checked
