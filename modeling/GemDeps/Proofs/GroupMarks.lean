import GemDeps.Proofs.BlockDepth
import GemDeps.Proofs.LineReadings
import GemDeps.Proofs.Spans

/-!
# Marks of blocks

Whether a text has a closed block of given groups depends on a few of its lines only, those that
change the depth or open a `group` block (`isSome_find?_iff_hasBlock`), and these are told by marks
that do not see the blanks around a line. So lines without a mark, wherever they are added, neither
open such a block nor take one away. The line that closes a block starts with `end`
(`startsWithEnd_of_matchingEnd?`).
-/

namespace GemDeps

/-! ## Marks -/

/-- What a line says about blocks. -/
structure BlockMark where
  /-- The groups of the block that it opens. -/
  names? : Option (List Text)
  /-- The change in depth. -/
  delta : Int
  deriving DecidableEq, Repr

/-- The mark on a line; none when the line changes no depth and opens no `group` block. -/
def blockMark? (line : Text) : Option BlockMark :=
  if groupOpening? line = none ∧ blockDelta line = 0 then none
  else some ⟨groupOpening? line, blockDelta line⟩

theorem blockMark?_eq_none_iff {line : Text} :
    blockMark? line = none ↔ groupOpening? line = none ∧ blockDelta line = 0 := by
  unfold blockMark?
  split <;> simp_all

theorem eq_of_blockMark? {line : Text} {m : BlockMark} (h : blockMark? line = some m) :
    m = ⟨groupOpening? line, blockDelta line⟩ := by
  unfold blockMark? at h
  split at h
  · cases h
  · exact (Option.some.inj h).symm

theorem trim_stripComment_blanks {b : Text} (hb : Text.IsBlanks b) (l : Text) :
    Text.trim (stripComment (b ++ l)) = Text.trim (stripComment l) := by
  rw [(isFlat_of_isBlanks hb).isUncommented, Text.trim, Text.trim, Text.trimStart_append hb]

theorem blockMark?_congr {k l : Text}
    (h : Text.trim (stripComment k) = Text.trim (stripComment l)) :
    blockMark? k = blockMark? l := by
  unfold blockMark? groupOpening? blockDelta
  rw [h]

theorem ignoresBlanks_blockMark? : IgnoresBlanks blockMark? where
  before _ l hb := blockMark?_congr (trim_stripComment_blanks hb l)
  behind _ l hb := blockMark?_congr (trim_stripComment_append hb l)
  empty := by decide

/-! ## Depth -/

/-- Do changes in depth close `depth` open blocks? -/
def closes (depth : Int) : List Int → Bool
  | [] => false
  | d :: ds => depth + d ≤ 0 || closes (depth + d) ds

theorem isSome_linesToEnd? (depth : Int) (lines : List Text) :
    (linesToEnd? depth lines).isSome = closes depth (lines.map blockDelta) := by
  induction lines generalizing depth with
  | nil => rfl
  | cons l ls ih =>
    rw [linesToEnd?, List.map_cons, closes, ← ih]
    by_cases h : depth + blockDelta l ≤ 0
    · simp [h]
    · simp [h]

/-- Lines without a mark change nothing as long as a block is open. -/
theorem closes_marks {depth : Int} (hdepth : 0 < depth) (lines : List Text) :
    closes depth (lines.map blockDelta) =
      closes depth ((lines.filterMap blockMark?).map BlockMark.delta) := by
  induction lines generalizing depth with
  | nil => rfl
  | cons l ls ih =>
    by_cases hstop : depth + blockDelta l ≤ 0
    · have hdelta : blockDelta l ≠ 0 := by omega
      cases hm : blockMark? l with
      | none => exact absurd (blockMark?_eq_none_iff.1 hm).2 hdelta
      | some m =>
        rw [List.filterMap_cons_some hm, eq_of_blockMark? hm]
        simp [closes, hstop]
    · have hnext := ih (by omega : 0 < depth + blockDelta l)
      cases hm : blockMark? l with
      | none =>
        have hdelta := (blockMark?_eq_none_iff.1 hm).2
        rw [hdelta, Int.add_zero] at hnext hstop
        rw [List.filterMap_cons_none hm, List.map_cons, closes, hdelta, Int.add_zero, hnext]
        simp [hstop]
      | some m =>
        rw [List.filterMap_cons_some hm, List.map_cons, List.map_cons, closes, closes, hnext,
          eq_of_blockMark? hm]

/-! ## Blocks -/

/-- Does a block of the given groups open at one of the marks and close at a later one? -/
def hasBlock (groups : List Text) : List BlockMark → Bool
  | [] => false
  | m :: ms =>
    (m.names?.any (GroupSpan.sameNames · groups) && closes 1 (ms.map BlockMark.delta)) ||
      hasBlock groups ms

theorem hasBlock_append {groups : List Text} {ms : List BlockMark}
    (h : hasBlock groups ms = true) (before : List BlockMark) :
    hasBlock groups (before ++ ms) = true := by
  induction before with
  | nil => exact h
  | cons m before ih => rw [List.cons_append, hasBlock, ih, Bool.or_true]

namespace GroupSpan

variable {groups : List Text}

theorem isSome_openedAt?_iff {lines : List Text} {i : Nat} :
    (openedAt? lines groups i).isSome = true ↔
      ∃ line names, lines[i]? = some line ∧ groupOpening? line = some names ∧
        sameNames names groups = true ∧ (matchingEnd? lines i).isSome = true := by
  constructor
  · intro h
    obtain ⟨span, hspan⟩ := Option.isSome_iff_exists.1 h
    obtain ⟨line, hline, h⟩ := Option.bind_eq_some_iff.1 hspan
    obtain ⟨names, hnames, h⟩ := Option.bind_eq_some_iff.1 h
    obtain ⟨hsame, h⟩ := Option.ite_none_right_eq_some.1 h
    obtain ⟨stop, hstop, -⟩ := Option.bind_eq_some_iff.1 h
    exact ⟨line, names, hline, hnames, hsame, Option.isSome_of_eq_some hstop⟩
  · rintro ⟨line, names, hline, hnames, hsame, hend⟩
    obtain ⟨stop, hstop⟩ := Option.isSome_iff_exists.1 hend
    rw [openedAt?_eq_some hline hnames hsame hstop]
    rfl

theorem isSome_matchingEnd?_zero (l : Text) (ls : List Text) :
    (matchingEnd? (l :: ls) 0).isSome =
      closes 1 ((ls.filterMap blockMark?).map BlockMark.delta) := by
  rw [matchingEnd?, Option.isSome_map, List.drop_succ_cons, List.drop_zero, isSome_linesToEnd?,
    closes_marks (by decide)]

theorem isSome_matchingEnd?_succ (l : Text) (ls : List Text) (i : Nat) :
    (matchingEnd? (l :: ls) (i + 1)).isSome = (matchingEnd? ls i).isSome := by
  rw [matchingEnd?, matchingEnd?, Option.isSome_map, Option.isSome_map, List.drop_succ_cons]

/-- On the first line a block opens, or on one of the others. -/
theorem exists_openedAt?_cons_iff (l : Text) (ls : List Text) :
    (∃ i, (openedAt? (l :: ls) groups i).isSome = true) ↔
      ((groupOpening? l).any (sameNames · groups) &&
          closes 1 ((ls.filterMap blockMark?).map BlockMark.delta)) = true ∨
        ∃ i, (openedAt? ls groups i).isSome = true := by
  simp only [isSome_openedAt?_iff]
  rw [Bool.and_eq_true, Option.any_eq_true, ← isSome_matchingEnd?_zero]
  constructor
  · rintro ⟨i, line, names, hline, hnames, hsame, hend⟩
    cases i with
    | zero =>
      obtain rfl := Option.some.inj hline
      exact .inl ⟨⟨names, hnames, hsame⟩, hend⟩
    | succ i =>
      rw [isSome_matchingEnd?_succ] at hend
      exact .inr ⟨i, line, names, hline, hnames, hsame, hend⟩
  · rintro (⟨⟨names, hnames, hsame⟩, hend⟩ | ⟨i, line, names, hline, hnames, hsame, hend⟩)
    · exact ⟨0, l, names, rfl, hnames, hsame, hend⟩
    · rw [← isSome_matchingEnd?_succ l] at hend
      exact ⟨i + 1, line, names, hline, hnames, hsame, hend⟩

theorem exists_openedAt?_iff (lines : List Text) :
    (∃ i, (openedAt? lines groups i).isSome = true) ↔
      hasBlock groups (lines.filterMap blockMark?) = true := by
  induction lines with
  | nil => simp [openedAt?, hasBlock]
  | cons l ls ih =>
    rw [exists_openedAt?_cons_iff, ih]
    cases hm : blockMark? l with
    | none =>
      rw [List.filterMap_cons_none hm, (blockMark?_eq_none_iff.1 hm).1]
      simp
    | some m =>
      rw [List.filterMap_cons_some hm, hasBlock, eq_of_blockMark? hm, Bool.or_eq_true]

/-- The search finds a block exactly when the marks of the text have one. -/
theorem isSome_find?_iff_hasBlock {t : Text} :
    (find? t groups).isSome = true ↔ hasBlock groups (Text.scan blockMark? t) = true := by
  rw [← Text.filterMap_lines ignoresBlanks_blockMark?, ← exists_openedAt?_iff, find?,
    List.findSome?_isSome_iff]
  refine ⟨fun ⟨i, _, h⟩ => ⟨i, h⟩, fun ⟨i, h⟩ => ⟨i, ?_, h⟩⟩
  rw [List.mem_range]
  by_contra hi
  unfold openedAt? at h
  rw [List.getElem?_eq_none (Nat.le_of_not_lt hi)] at h
  cases h

end GroupSpan

/-! ## The closing line -/

/-- Where the depth comes down to zero, the line starts with `end`. -/
theorem startsWithEnd_of_linesToEnd? {depth : Int} {lines : List Text} {n : Nat}
    (hdepth : 0 < depth) (h : linesToEnd? depth lines = some n) :
    ∃ l, lines[n]? = some l ∧ startsWithEnd (Text.trim (stripComment l)) = true := by
  induction lines generalizing depth n with
  | nil => cases h
  | cons l ls ih =>
    rw [linesToEnd?] at h
    split at h
    · rename_i hstop
      obtain rfl : 0 = n := Option.some.inj h
      refine ⟨l, rfl, ?_⟩
      by_contra hend
      have hdelta := blockDelta_nonneg (by simpa using hend)
      omega
    · obtain ⟨k, hk, rfl⟩ := Option.map_eq_some_iff.1 h
      exact ih (by omega) hk

theorem startsWithEnd_of_matchingEnd? {lines : List Text} {start stop : Nat}
    (h : matchingEnd? lines start = some stop) :
    ∃ l, lines[stop]? = some l ∧ startsWithEnd (Text.trim (stripComment l)) = true := by
  obtain ⟨n, hn, rfl⟩ := Option.map_eq_some_iff.1 h
  obtain ⟨l, hl, hend⟩ := startsWithEnd_of_linesToEnd? (by decide) hn
  rw [List.getElem?_drop] at hl
  exact ⟨l, hl, hend⟩

theorem exists_of_startsWithEnd {code : Text} (h : startsWithEnd code = true) :
    ∃ b r, Text.IsBlanks b ∧ code = b ++ ("end".toList ++ r) := by
  unfold startsWithEnd at h
  cases hp : "end".toList.isPrefixOf? (Text.trimStart code) with
  | none =>
    rw [hp] at h
    cases h
  | some r =>
    refine ⟨_, r, Text.isBlanks_indentation code, ?_⟩
    rw [← Text.isPrefixOf?_eq_some_iff.1 hp, Text.indentation_append_trimStart]

/-- So it does behind the blanks in front. -/
theorem prefix_of_startsWithEnd {line : Text}
    (h : startsWithEnd (Text.trim (stripComment line)) = true) :
    "end".toList <+: Text.trimStart line := by
  obtain ⟨b, b', hb, -, hcode⟩ := Text.exists_blanks_trim (stripComment line)
  obtain ⟨m, r, hm, hr⟩ := exists_of_startsWithEnd h
  have hline : line = b ++ m ++ ("end".toList ++ (r ++ b' ++ (splitComment .code line).2)) := by
    conv_lhs => rw [← splitComment_append .code line]
    rw [show (splitComment .code line).1 = _ from hcode, hr]
    simp only [List.append_assoc]
  rw [hline, Text.trimStart_append (List.forall_mem_append.2 ⟨hb, hm⟩)]
  exact ⟨_, (Text.trimStart_cons (by decide) _).symm⟩

end GemDeps
