import GemDeps.Proofs.GroupMarks
import Mathlib.Algebra.BigOperators.Intervals
import Mathlib.Order.Bounds.Basic

/-!
# Spans and the depth inside them

The depth behind a line counts the block that opens on the first line of a span and adds what the
lines since then change (`spanDepth`). No line takes more than one from it, so it comes down to zero
before it falls below, and a span ends on the first line behind which it is zero
(`matchingEnd?_eq_some_iff`). A block that opens inside a span has to be closed before the span's
own end is reached (`exists_matchingEnd?_inside`). So the spans of two blocks are apart, or one lies
inside the other, and no two of them end on one line (`spans_nested`). The depth has no bound here;
kept in 32 bits it leads to the same lines in any text of fewer than `2 ^ 31` of them
(`matchingEndWord?_eq`).
-/

namespace GemDeps

/-! ## Depth -/

/-- The change in depth over line `i`; nothing past the last line. -/
def deltaAt (lines : List Text) (i : Nat) : Int := (lines[i]?.map blockDelta).getD 0

/-- The depth behind line `i`, counted from the block that line `start` opens. -/
def spanDepth (lines : List Text) (start i : Nat) : Int :=
  1 + ∑ k ∈ Finset.Ioc start i, deltaAt lines k

variable {lines : List Text} {start stop i k : Nat}

theorem deltaAt_of_getElem? {l : Text} (h : lines[i]? = some l) :
    deltaAt lines i = blockDelta l := by
  rw [deltaAt, h]
  rfl

/-- A line opens or closes one block at most. -/
theorem blockDelta_bounds (l : Text) : -1 ≤ blockDelta l ∧ blockDelta l ≤ 1 := by
  rw [blockDelta]
  split_ifs <;> decide

theorem neg_one_le_deltaAt (lines : List Text) (i : Nat) : -1 ≤ deltaAt lines i := by
  cases h : lines[i]? with
  | none =>
    rw [deltaAt, h]
    decide
  | some l =>
    rw [deltaAt_of_getElem? h]
    exact (blockDelta_bounds l).1

@[simp] theorem spanDepth_self (lines : List Text) (start : Nat) :
    spanDepth lines start start = 1 := by
  simp [spanDepth]

theorem spanDepth_succ (h : start ≤ i) :
    spanDepth lines start (i + 1) = spanDepth lines start i + deltaAt lines (i + 1) := by
  rw [spanDepth, Finset.sum_Ioc_succ_top h, ← add_assoc]
  rfl

/-- The depth behind a line, with a line in between as the new start. -/
theorem spanDepth_add (hk : start ≤ k) (hi : k ≤ i) :
    spanDepth lines start k + spanDepth lines k i = spanDepth lines start i + 1 := by
  unfold spanDepth
  rw [← Finset.sum_Ioc_consecutive _ hk hi]
  omega

/-! ## The end of a span -/

/-- The search stops behind the first line at which no block is left open. -/
theorem linesToEnd?_eq_some_iff {rest : List Text} {n : Nat} (hi : start ≤ i)
    (hrest : lines.drop (i + 1) = rest) :
    linesToEnd? (spanDepth lines start i) rest = some n ↔
      i + 1 + n < lines.length ∧ spanDepth lines start (i + 1 + n) ≤ 0 ∧
        ∀ k, i < k → k < i + 1 + n → 0 < spanDepth lines start k := by
  induction rest generalizing i n with
  | nil =>
    have hlength := List.drop_eq_nil_iff.1 hrest
    refine iff_of_false (by simp [linesToEnd?]) fun h => ?_
    omega
  | cons l rest ih =>
    have hl : lines[i + 1]? = some l := by
      rw [← List.head?_drop, hrest]
      rfl
    have hrest' : lines.drop (i + 1 + 1) = rest := by
      rw [← List.tail_drop, hrest]
      rfl
    have hlength := (List.getElem?_eq_some_iff.1 hl).1
    rw [linesToEnd?, ← deltaAt_of_getElem? hl, ← spanDepth_succ hi]
    split
    · rename_i hstop
      constructor
      · intro h
        obtain rfl : 0 = n := Option.some.inj h
        exact ⟨hlength, hstop, fun k hik hk => by omega⟩
      · rintro ⟨-, -, hopen⟩
        cases n with
        | zero => rfl
        | succ n =>
          have hpos := hopen (i + 1) (by omega) (by omega)
          omega
    · rename_i hstop
      cases n with
      | zero =>
        refine iff_of_false (by simp) ?_
        rintro ⟨-, hle, -⟩
        exact hstop hle
      | succ n =>
        have hindex : i + 1 + 1 + n = i + 1 + (n + 1) := by omega
        rw [Option.map_eq_some_iff]
        simp only [Nat.add_right_cancel_iff, exists_eq_right]
        rw [ih (by omega) hrest', hindex]
        refine and_congr_right fun _ => and_congr_right fun _ => ⟨fun hopen k hik hk => ?_,
          fun hopen k hik hk => hopen k (by omega) hk⟩
        rcases Nat.eq_or_lt_of_le hik with rfl | hlt
        · exact Int.not_le.1 hstop
        · exact hopen k hlt hk

/-- A span ends on the first line behind which its block is not open any more. -/
theorem matchingEnd?_eq_some_iff_le : matchingEnd? lines start = some stop ↔
    start < stop ∧ stop < lines.length ∧ spanDepth lines start stop ≤ 0 ∧
      ∀ i, start < i → i < stop → 0 < spanDepth lines start i := by
  rw [matchingEnd?, ← spanDepth_self lines start, Option.map_eq_some_iff]
  simp only [linesToEnd?_eq_some_iff (Nat.le_refl start) rfl]
  constructor
  · rintro ⟨n, h, rfl⟩
    exact ⟨by omega, h⟩
  · rintro ⟨hlt, h⟩
    have hindex : start + 1 + (stop - (start + 1)) = stop := by omega
    exact ⟨stop - (start + 1), by rwa [hindex], hindex⟩

/-- Inside a span some block is open. -/
theorem spanDepth_pos (h : matchingEnd? lines start = some stop) (hi : start ≤ i) (his : i < stop) :
    0 < spanDepth lines start i := by
  rcases Nat.eq_or_lt_of_le hi with rfl | hlt
  · simp
  · exact (matchingEnd?_eq_some_iff_le.1 h).2.2.2 i hlt his

/-- On its last line a span is one block deep, and that line closes it. -/
theorem spanDepth_eq_zero (h : matchingEnd? lines start = some stop) :
    spanDepth lines start stop = 0 ∧ deltaAt lines stop = -1 := by
  obtain ⟨hlt, -, hle, -⟩ := matchingEnd?_eq_some_iff_le.1 h
  obtain ⟨i, rfl⟩ : ∃ i, stop = i + 1 := ⟨stop - 1, by omega⟩
  have hpos := spanDepth_pos h (Nat.le_of_lt_succ hlt) (Nat.lt_succ_self i)
  have hdelta := neg_one_le_deltaAt lines (i + 1)
  rw [spanDepth_succ (Nat.le_of_lt_succ hlt)] at hle ⊢
  omega

/-- A span ends on the first line behind which the depth is zero. -/
theorem matchingEnd?_eq_some_iff : matchingEnd? lines start = some stop ↔
    IsLeast {i | start < i ∧ i < lines.length ∧ spanDepth lines start i = 0} stop := by
  constructor
  · intro h
    obtain ⟨hlt, hlength, -, hopen⟩ := matchingEnd?_eq_some_iff_le.1 h
    refine ⟨⟨hlt, hlength, (spanDepth_eq_zero h).1⟩, ?_⟩
    rintro i ⟨hi, -, hzero⟩
    by_contra his
    have hpos := hopen i hi (by omega)
    omega
  · rintro ⟨⟨hlt, hlength, hzero⟩, hleast⟩
    -- The depth is one at first, and it cannot get below zero without being zero in between.
    have hpos : ∀ i, start ≤ i → i < stop → 0 < spanDepth lines start i := by
      intro i hi
      induction i, hi using Nat.le_induction with
      | base => simp
      | succ i hi ih =>
        intro his
        have hbefore := ih (by omega)
        have hdelta := neg_one_le_deltaAt lines (i + 1)
        have hne : spanDepth lines start (i + 1) ≠ 0 := fun h =>
          absurd (hleast ⟨by omega, by omega, h⟩) (by omega)
        rw [spanDepth_succ hi] at hne ⊢
        omega
    exact matchingEnd?_eq_some_iff_le.2
      ⟨hlt, hlength, hzero.le, fun i hi his => hpos i (Nat.le_of_lt hi) his⟩

/-! ## Depths of 32 bits -/

/-- The search with the depth in a word of 32 bits, which wraps around. -/
def linesToEndWord? (depth : Int32) : List Text → Option Nat
  | [] => none
  | l :: ls =>
    if depth + .ofInt (blockDelta l) ≤ 0 then some 0
    else (linesToEndWord? (depth + .ofInt (blockDelta l)) ls).map (· + 1)

/-- The line that closes the block opened on line `start`, found with a depth of 32 bits. -/
def matchingEndWord? (lines : List Text) (start : Nat) : Option Nat :=
  (linesToEndWord? 1 (lines.drop (start + 1))).map (start + 1 + ·)

theorem toInt_add_blockDelta {depth : Int32} (hpos : 0 ≤ depth.toInt)
    (hdepth : depth.toInt + 1 < 2 ^ 31) (l : Text) :
    (depth + .ofInt (blockDelta l)).toInt = depth.toInt + blockDelta l := by
  obtain ⟨hlow, hhigh⟩ := blockDelta_bounds l
  rw [Int32.toInt_add, Int32.toInt_ofInt_of_le (by omega) (by omega)]
  exact Int.bmod_eq_of_le (by omega) (by omega)

/-- Each line adds one at most, so the word does not overflow while there is room for one for each
line. -/
theorem linesToEndWord?_eq {depth : Int32} {ls : List Text} (hpos : 0 ≤ depth.toInt)
    (hroom : depth.toInt + ls.length < 2 ^ 31) :
    linesToEndWord? depth ls = linesToEnd? depth.toInt ls := by
  induction ls generalizing depth with
  | nil => rfl
  | cons l ls ih =>
    rw [List.length_cons] at hroom
    have hnext := toInt_add_blockDelta hpos (by omega) l
    have hhigh := (blockDelta_bounds l).2
    rw [linesToEndWord?, linesToEnd?]
    by_cases hstop : depth.toInt + blockDelta l ≤ 0
    · rw [if_pos hstop, if_pos (Int32.le_iff_toInt_le.2 (by rwa [hnext]))]
    · rw [if_neg hstop, if_neg fun h => hstop (by rwa [Int32.le_iff_toInt_le, hnext] at h),
        ih (by omega) (by omega), hnext]

/-- In a text of fewer than `2 ^ 31` lines a depth of 32 bits finds the same ends of blocks. -/
theorem matchingEndWord?_eq (h : lines.length < 2 ^ 31) (start : Nat) :
    matchingEndWord? lines start = matchingEnd? lines start := by
  have hroom : Int32.toInt 1 + (lines.drop (start + 1)).length < 2 ^ 31 := by
    rw [List.length_drop, Int32.toInt_one]
    omega
  rw [matchingEndWord?, matchingEnd?, linesToEndWord?_eq (by decide) hroom]
  rfl

/-! ## Spans inside spans -/

/-- A block that is not open any more behind some line is closed there or above. -/
theorem exists_matchingEnd?_of_le (hi : start < i) (hlength : i < lines.length)
    (h : spanDepth lines start i ≤ 0) :
    ∃ stop, matchingEnd? lines start = some stop ∧ stop ≤ i := by
  have hex : ∃ k, start < k ∧ spanDepth lines start k ≤ 0 := ⟨i, hi, h⟩
  have hle : Nat.find hex ≤ i := Nat.find_min' hex ⟨hi, h⟩
  obtain ⟨hlt, hzero⟩ := Nat.find_spec hex
  refine ⟨Nat.find hex, matchingEnd?_eq_some_iff_le.2 ⟨hlt, by omega, hzero, ?_⟩, hle⟩
  intro k hk hbefore
  have := Nat.find_min hex hbefore
  omega

/-- A block that opens inside a span ends inside it. -/
theorem exists_matchingEnd?_inside (h : matchingEnd? lines start = some stop) (hk : start < k)
    (hks : k < stop) (hopens : deltaAt lines k = 1) :
    ∃ stop', matchingEnd? lines k = some stop' ∧ k < stop' ∧ stop' < stop := by
  obtain ⟨m, rfl⟩ : ∃ m, k = m + 1 := ⟨k - 1, by omega⟩
  have hpos : 0 < spanDepth lines start m := spanDepth_pos h (by omega) (by omega)
  have hdeep : spanDepth lines start (m + 1) = spanDepth lines start m + 1 := by
    rw [spanDepth_succ (Nat.le_of_lt_succ hk), hopens]
  -- Two blocks are open behind the inner opener, and none behind the end of the outer span.
  have hbelow : spanDepth lines (m + 1) stop < 0 := by
    have hadd : spanDepth lines start (m + 1) + spanDepth lines (m + 1) stop =
        spanDepth lines start stop + 1 := spanDepth_add (Nat.le_of_lt hk) (Nat.le_of_lt hks)
    rw [(spanDepth_eq_zero h).1] at hadd
    omega
  obtain ⟨stop', hstop', hle⟩ := exists_matchingEnd?_of_le hks (matchingEnd?_lt h).2 hbelow.le
  refine ⟨stop', hstop', (matchingEnd?_lt hstop').1, lt_of_le_of_ne hle ?_⟩
  rintro rfl
  have hzero := (spanDepth_eq_zero hstop').1
  omega

/-- A span from an earlier line ends above a block that opens later, or behind that block's end. -/
theorem lt_or_lt_of_matchingEnd? {stop' : Nat} (hk : start < k) (hopens : deltaAt lines k = 1)
    (h : matchingEnd? lines start = some stop) (h' : matchingEnd? lines k = some stop') :
    stop < k ∨ stop' < stop := by
  rcases Nat.lt_trichotomy stop k with hlt | rfl | hgt
  · exact .inl hlt
  · -- The line that closes the first block opens none.
    rw [(spanDepth_eq_zero h).2] at hopens
    omega
  · obtain ⟨j, hj, -, hlt⟩ := exists_matchingEnd?_inside h hk hgt hopens
    obtain rfl : j = stop' := Option.some.inj (hj.symm.trans h')
    exact .inr hlt

/-- The search for the end of a block finds the first line behind which the depth is zero; that line
starts with `end`, and every block that opens in between ends in between. So the spans of two blocks
are apart or one lies inside the other, and no two blocks end on one line. -/
theorem spans_nested (lines : List Text) :
    (∀ start stop, matchingEnd? lines start = some stop ↔
        IsLeast {i | start < i ∧ i < lines.length ∧ spanDepth lines start i = 0} stop) ∧
      (∀ start stop, matchingEnd? lines start = some stop →
        (∃ l, lines[stop]? = some l ∧ startsWithEnd (Text.trim (stripComment l)) = true) ∧
          ∀ k, start < k → k < stop → deltaAt lines k = 1 →
            ∃ stop', matchingEnd? lines k = some stop' ∧ k < stop' ∧ stop' < stop) ∧
      ∀ i j stop stop', i ≠ j → deltaAt lines i = 1 → deltaAt lines j = 1 →
        matchingEnd? lines i = some stop → matchingEnd? lines j = some stop' →
          stop ≠ stop' ∧
            (stop < j ∨ stop' < i ∨ (i < j ∧ stop' < stop) ∨ (j < i ∧ stop < stop')) := by
  refine ⟨fun start stop => matchingEnd?_eq_some_iff, fun start stop h => ?_, ?_⟩
  · exact ⟨startsWithEnd_of_matchingEnd? h, fun k => exists_matchingEnd?_inside h⟩
  · intro i j stop stop' hne hi hj h h'
    have hbehind := (matchingEnd?_lt h).1
    have hbehind' := (matchingEnd?_lt h').1
    rcases Nat.lt_or_gt_of_ne hne with hlt | hgt
    · have := lt_or_lt_of_matchingEnd? hlt hj h h'
      omega
    · have := lt_or_lt_of_matchingEnd? hgt hi h' h
      omega

/-- A conditional inside a group, and a second group behind it. -/
def nestedConditional : List Text :=
  ["group :test do", "  if ENV['CI']", "    gem 'a'", "  end # CI", "  gem 'b'", "end",
    "group :doc do", "end"].map String.toList

theorem spans_nested_conditional :
    matchingEnd? nestedConditional 0 = some 5 ∧ deltaAt nestedConditional 1 = 1 ∧
      (∃ stop, matchingEnd? nestedConditional 1 = some stop ∧ 1 < stop ∧ stop < 5) ∧
      IsLeast
        {i | 6 < i ∧ i < nestedConditional.length ∧ spanDepth nestedConditional 6 i = 0} 7 := by
  have hgroup : matchingEnd? nestedConditional 0 = some 5 := by decide
  have hif : deltaAt nestedConditional 1 = 1 := by decide
  obtain ⟨hends, hinside, -⟩ := spans_nested nestedConditional
  exact ⟨hgroup, hif, (hinside 0 5 hgroup).2 1 (by decide) (by decide) hif,
    (hends 6 7).1 (by decide)⟩

end GemDeps
