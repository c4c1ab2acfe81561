import GemDeps.Proofs.Lines
import GemDeps.Proofs.Statements
import GemDeps.Revision.Location

/-!
# Where the located lines lie

Every line number that a search gives back is the number of a line of the text
(`matchingEnd?_lt`, `lastDeclarationLine?_eq_some`), and what it says besides, indentations and
receivers, stands on a line and so has no line feed.
-/

namespace GemDeps

/-! ## Closing lines -/

theorem linesToEnd?_lt {depth : Int} {lines : List Text} {n : Nat}
    (h : linesToEnd? depth lines = some n) : n < lines.length := by
  induction lines generalizing depth n with
  | nil => simp [linesToEnd?] at h
  | cons l ls ih =>
    rw [linesToEnd?] at h
    split at h
    · obtain rfl : 0 = n := by simpa using h
      simp
    · obtain ⟨m, hm, rfl⟩ := Option.map_eq_some_iff.1 h
      have := ih hm
      rw [List.length_cons]
      omega

/-- A block is closed behind the line that opens it. -/
theorem matchingEnd?_lt {lines : List Text} {start stop : Nat}
    (h : matchingEnd? lines start = some stop) : start < stop ∧ stop < lines.length := by
  obtain ⟨n, hn, rfl⟩ := Option.map_eq_some_iff.1 h
  have hlt := linesToEnd?_lt hn
  rw [List.length_drop] at hlt
  omega

/-! ## Declarations -/

theorem lastIdx?_eq_none_iff {p : Text → Bool} {n : Nat} {lines : List Text} :
    lastIdx? p n lines = none ↔ ∀ l ∈ lines, p l = false := by
  induction lines generalizing n with
  | nil => simp [lastIdx?]
  | cons l ls ih =>
    rw [lastIdx?, List.forall_mem_cons, ← ih (n := n + 1), and_comm]
    cases lastIdx? p (n + 1) ls <;> simp

/-- The last member is found where no member behind it is one. -/
theorem eq_append_of_lastIdx? {p : Text → Bool} {n k : Nat} {lines : List Text}
    (h : lastIdx? p n lines = some k) : ∃ before l after, lines = before ++ l :: after ∧
      k = n + before.length ∧ p l = true ∧ ∀ l' ∈ after, p l' = false := by
  induction lines generalizing n with
  | nil => simp [lastIdx?] at h
  | cons l ls ih =>
    rw [lastIdx?] at h
    cases hls : lastIdx? p (n + 1) ls with
    | some m =>
      obtain rfl : m = k := by simpa [hls] using h
      obtain ⟨before, l', after, rfl, hm, hp, hafter⟩ := ih hls
      exact ⟨l :: before, l', after, rfl, by rw [hm, List.length_cons]; omega, hp, hafter⟩
    | none =>
      obtain ⟨hp, rfl⟩ : p l = true ∧ n = k := by simpa [hls] using h
      exact ⟨[], l, ls, rfl, rfl, hp, lastIdx?_eq_none_iff.1 hls⟩

theorem lastDeclarationLine?_eq_some {kind : Kind} {t : Text} {last : Nat}
    (h : lastDeclarationLine? kind t = some last) :
    ∃ l s, (Text.lines t)[last]? = some l ∧ Statement.read? kind l = some s := by
  obtain ⟨before, l, after, hlines, rfl, hp, -⟩ := eq_append_of_lastIdx? h
  obtain ⟨s, hs⟩ := Option.isSome_iff_exists.1 hp
  exact ⟨l, s, by simp [hlines], hs⟩

/-! ## Receivers -/

/-- A dependency is declared on a receiver, behind the blanks of its line. -/
theorem exists_receiver {line : Text} {s : Statement}
    (h : Statement.readDependency? line = some s) :
    s.indent = Text.indentation line ∧ ∃ w, s.receiver = some w ∧ IsReceiver w := by
  cases hcall : dependencyCall? (Text.trimStart line) with
  | none => simp only [Statement.readDependency?, hcall, reduceCtorEq] at h
  | some call =>
    simp only [Statement.readDependency?, hcall] at h
    obtain ⟨-, -, -, -, hs⟩ := Statement.eq_of_finish? h
    exact ⟨by rw [hs], call.receiver, by rw [hs], (eq_of_dependencyCall? hcall).1.1⟩

namespace SpecificationOpening

/-- A block parameter may be a receiver. -/
theorem isReceiver_of_parameter? {t w : Text} (h : parameter? t = some (some w)) :
    IsReceiver w := by
  unfold parameter? at h
  split at h
  · simp at h
  · split at h
    · simp at h
    · rename_i c s hs
      split at h
      · rename_i hc
        split at h
        · split at h
          · obtain rfl : c :: s.takeWhile Text.isWord = w := by simpa using h
            exact ⟨c, _, rfl, hc, List.all_eq_true.1 List.all_takeWhile⟩
          · simp at h
        · simp at h
      · simp at h
  · simp at h

/-- A block is opened by a `do` and what may stand behind it. -/
theorem eq_of_splitDo? {afterWord : Bool} {t before : Text} {receiver : Option Text}
    (h : splitDo? afterWord t = some (before, receiver)) :
    ∃ u, t = before ++ 'd' :: 'o' :: u ∧ parameter? u = some receiver := by
  induction t generalizing afterWord before with
  | nil => simp [splitDo?] at h
  | cons c t ih =>
    rw [splitDo?] at h
    cases hrest : splitDo? (Text.isWord c) t with
    | some p =>
      obtain ⟨u, v⟩ := p
      obtain ⟨rfl, rfl⟩ : c :: u = before ∧ v = receiver := by simpa [hrest] using h
      obtain ⟨w, rfl, hw⟩ := ih hrest
      exact ⟨w, rfl, hw⟩
    | none =>
      simp only [hrest, Option.map_none] at h
      obtain ⟨hdo, h⟩ := Option.ite_none_right_eq_some.1 h
      obtain ⟨v, hv, he⟩ := Option.map_eq_some_iff.1 h
      obtain ⟨rfl, rfl⟩ : [] = before ∧ v = receiver := by simpa using he
      obtain ⟨⟨-, rfl⟩, ho⟩ : (afterWord = false ∧ c = 'd') ∧ t.head? = some 'o' := by
        simpa using hdo
      obtain ⟨w, rfl⟩ := List.head?_eq_some_iff.1 ho
      exact ⟨w, rfl, hv⟩

theorem of_ofLine? {line : Text} {opening : SpecificationOpening}
    (h : ofLine? line = some opening) : opening.indent = Text.indentation line ∧
      ∀ w, opening.receiver = some w → IsReceiver w := by
  unfold ofLine? at h
  split at h
  · rename_i before receiver hsplit
    obtain ⟨-, h⟩ := Option.ite_none_right_eq_some.1 h
    obtain rfl : (⟨Text.indentation line, receiver⟩ : SpecificationOpening) = opening := by
      simpa using h
    refine ⟨rfl, ?_⟩
    rintro w rfl
    obtain ⟨u, -, hu⟩ := eq_of_splitDo? hsplit
    exact isReceiver_of_parameter? hu
  · simp at h

end SpecificationOpening

/-! ## Spans -/

theorem newline_notMem_indentation {line : Text} (h : '\n' ∉ line) :
    '\n' ∉ Text.indentation line :=
  fun hc => h ((List.takeWhile_sublist _).mem hc)

theorem GroupSpan.openedAt?_eq_some {lines : List Text} {groups names : List Text} {line : Text}
    {i stop : Nat} (hline : lines[i]? = some line) (hnames : groupOpening? line = some names)
    (hsame : sameNames names groups = true) (hstop : matchingEnd? lines i = some stop) :
    openedAt? lines groups i = some ⟨names, i, stop, Text.indentation line⟩ := by
  simp [openedAt?, hline, hnames, hsame, hstop]

/-- The block that is found for some groups opens on a line that names them, and is closed. -/
theorem GroupSpan.exists_line {t : Text} {groups : List Text} {span : GroupSpan}
    (h : GroupSpan.find? t groups = some span) :
    ∃ line, (Text.lines t)[span.startLine]? = some line ∧
      groupOpening? line = some span.names ∧ sameNames span.names groups = true ∧
      matchingEnd? (Text.lines t) span.startLine = some span.endLine ∧
      span.indent = Text.indentation line := by
  obtain ⟨i, -, h⟩ := List.exists_of_findSome?_eq_some h
  unfold GroupSpan.openedAt? at h
  obtain ⟨line, hline, h⟩ := Option.bind_eq_some_iff.1 h
  obtain ⟨names, hnames, h⟩ := Option.bind_eq_some_iff.1 h
  obtain ⟨hsame, h⟩ := Option.ite_none_right_eq_some.1 h
  obtain ⟨stop, hstop, h⟩ := Option.bind_eq_some_iff.1 h
  obtain rfl : (⟨names, i, stop, Text.indentation line⟩ : GroupSpan) = span := by simpa using h
  exact ⟨line, hline, hnames, hsame, hstop, rfl⟩

/-- The block of a set of groups is a block of the text. -/
theorem GroupSpan.of_find? {t : Text} {groups : List Text} {span : GroupSpan}
    (h : GroupSpan.find? t groups = some span) :
    span.startLine < span.endLine ∧ span.endLine < (Text.lines t).length ∧
      '\n' ∉ span.indent := by
  obtain ⟨line, hline, -, -, hstop, hindent⟩ := GroupSpan.exists_line h
  have hlt := matchingEnd?_lt hstop
  rw [hindent]
  exact ⟨hlt.1, hlt.2,
    newline_notMem_indentation (newline_notMem_of_mem_lines (List.mem_of_getElem? hline))⟩

/-- The specification block is a block of the text, and its parameter may be a receiver. -/
theorem SpecificationSpan.of_find (t : Text) :
    (∀ stop, (find t).endLine = some stop → stop < (Text.lines t).length) ∧
      Text.IsBlanks (find t).indent ∧ '\n' ∉ (find t).indent ∧
      ∀ w, (find t).receiver = some w → IsReceiver w := by
  unfold find
  dsimp only
  cases hopening : opening? (Text.lines t) with
  | none => simp [Text.IsBlanks]
  | some opening =>
    obtain ⟨i, -, h⟩ := List.exists_of_findSome?_eq_some hopening
    obtain ⟨o, ho, rfl⟩ := Option.map_eq_some_iff.1 h
    obtain ⟨line, hline, ho⟩ := Option.bind_eq_some_iff.1 ho
    obtain ⟨hindent, hreceiver⟩ := SpecificationOpening.of_ofLine? ho
    refine ⟨?_, ?_, ?_, ?_⟩
    · intro stop hstop
      exact (matchingEnd?_lt (by simpa using hstop)).2
    · show Text.IsBlanks o.indent
      rw [hindent]
      exact Text.isBlanks_indentation line
    · show '\n' ∉ o.indent
      rw [hindent]
      exact newline_notMem_indentation (newline_notMem_of_mem_lines (List.mem_of_getElem? hline))
    · intro w hw
      exact hreceiver w (by simpa using hw)

end GemDeps
