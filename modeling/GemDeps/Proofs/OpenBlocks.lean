import GemDeps.Proofs.BlockDepth
import GemDeps.Proofs.ReaderRun
import GemDeps.Proofs.Spans
import Mathlib.Data.List.Sort

/-!
# Open blocks and spans

The reader of a Gemfile keeps the open blocks on a stack; the search for the end of a block counts
the depth. Both delimit the same blocks (`open_blocks_are_spans`): the line that takes a block off
the stack is the one found by the search, so what scopes a declaration are the blocks whose spans
reach over its line.
-/

namespace GemDeps

namespace Gemfile

/-! ## The stack with line numbers -/

/-- The block that line `i` opens. -/
def scope? (lines : List Text) (i : Nat) : Option Scope :=
  match lines[i]?.map Entry.ofLine with
  | some (.opens scope) => some scope
  | _ => none

/-- Does line `j` close a block? -/
def closesBlock (lines : List Text) (j : Nat) : Bool :=
  decide (lines[j]?.map Entry.ofLine = some .closes)

/-- The lines whose blocks are open before line `k`, the innermost first: a line that opens a block
is put on top, and one that closes a block takes the top off. -/
def openLines (lines : List Text) : Nat → List Nat
  | 0 => []
  | k + 1 =>
    if (scope? lines k).isSome then k :: openLines lines k
    else if closesBlock lines k then (openLines lines k).tail
    else openLines lines k

section Stack

variable {lines : List Text}

theorem scope?_of_getElem? {l : Text} {i : Nat} (h : lines[i]? = some l) :
    scope? lines i = match Entry.ofLine l with
      | .opens scope => some scope
      | _ => none := by
  unfold scope?
  rw [h, Option.map_some]
  cases Entry.ofLine l <;> rfl

theorem closesBlock_of_getElem? {l : Text} {j : Nat} (h : lines[j]? = some l) :
    closesBlock lines j = decide (Entry.ofLine l = .closes) := by
  unfold closesBlock
  simp only [h, Option.map_some, Option.some.injEq]

/-- A line that closes a block opens none. -/
theorem scope?_of_closesBlock {j : Nat} (h : closesBlock lines j = true) :
    scope? lines j = none := by
  unfold scope?
  rw [of_decide_eq_true h]

/-- The numbered stack holds the blocks of the reader's stack. -/
theorem scopes_stateAt (lines : List Text) (k : Nat) :
    (stateAt lines k).scopes.map some = (openLines lines k).map (scope? lines) := by
  induction k with
  | zero => rfl
  | succ k ih =>
    unfold openLines
    cases hl : lines[k]? with
    | none =>
      have hstate : stateAt lines (k + 1) = stateAt lines k := by
        rw [stateAt, List.take_add_one, hl, Option.toList_none, List.append_nil]
        rfl
      rw [hstate, ih]
      simp [scope?, closesBlock, hl]
    | some l =>
      rw [stateAt_succ hl, scope?_of_getElem? hl, closesBlock_of_getElem? hl]
      cases he : Entry.ofLine l with
      | opens scope =>
        have hscope : scope? lines k = some scope := by rw [scope?_of_getElem? hl, he]
        show some scope :: (stateAt lines k).scopes.map some = _
        simp [ih, hscope]
      | closes =>
        show (stateAt lines k).scopes.tail.map some = _
        rw [List.map_tail, ih]
        simp
      | nothing | language _ | server _ | gem _ =>
        show (stateAt lines k).scopes.map some = _
        simp [ih]

theorem of_mem_openLines {i k : Nat} (h : i ∈ openLines lines k) :
    i < k ∧ (scope? lines i).isSome = true := by
  induction k with
  | zero => simp [openLines] at h
  | succ k ih =>
    unfold openLines at h
    split at h
    · rename_i hscope
      rcases List.mem_cons.1 h with rfl | h
      · exact ⟨Nat.lt_succ_self i, hscope⟩
      · exact ⟨Nat.lt_succ_of_lt (ih h).1, (ih h).2⟩
    · split at h
      · have h := List.mem_of_mem_tail h
        exact ⟨Nat.lt_succ_of_lt (ih h).1, (ih h).2⟩
      · exact ⟨Nat.lt_succ_of_lt (ih h).1, (ih h).2⟩

/-- An inner block is opened below an outer one. -/
theorem pairwise_openLines (lines : List Text) (k : Nat) :
    (openLines lines k).Pairwise (· > ·) := by
  induction k with
  | zero => exact .nil
  | succ k ih =>
    unfold openLines
    split
    · exact List.pairwise_cons.2 ⟨fun i hi => (of_mem_openLines hi).1, ih⟩
    · split
      · exact ih.tail
      · exact ih

/-- A block that is off the stack does not come back. -/
theorem mem_openLines_of_le {i k m : Nat} (h : i ∈ openLines lines m) (hi : i < k) (hkm : k ≤ m) :
    i ∈ openLines lines k := by
  induction m, hkm using Nat.le_induction with
  | base => exact h
  | succ m hkm ih =>
    refine ih ?_
    unfold openLines at h
    split at h
    · rcases List.mem_cons.1 h with rfl | h
      · omega
      · exact h
    · split at h
      · exact List.mem_of_mem_tail h
      · exact h

theorem openLines_of_length_le {k m : Nat} (hk : lines.length ≤ k) (hkm : k ≤ m) :
    openLines lines m = openLines lines k := by
  induction m, hkm using Nat.le_induction with
  | base => rfl
  | succ m hkm ih =>
    have hnone : lines[m]? = none := List.getElem?_eq_none (Nat.le_trans hk hkm)
    rw [openLines]
    simp [scope?, closesBlock, hnone, ih]

/-! ## Stack and depth -/

/-- With a block on the stack, a line takes it off when nothing lies above it, or adds to what lies
above as much as to the depth. -/
theorem openLines_step {l : Text} {i k : Nat} {above below : List Nat} (hl : lines[k]? = some l)
    (hshows : ShowsBlocks l) (h : openLines lines k = above ++ i :: below) :
    (above = [] ∧ closesBlock lines k = true ∧ blockDelta l = -1) ∨
      ∃ above', openLines lines (k + 1) = above' ++ i :: below ∧
        (above.length + 1 : Int) + blockDelta l = above'.length + 1 := by
  rw [blockDelta_eq hshows]
  unfold openLines
  rw [scope?_of_getElem? hl, closesBlock_of_getElem? hl, h]
  cases Entry.ofLine l with
  | opens scope => exact .inr ⟨k :: above, rfl, by simp [Entry.depthChange]⟩
  | closes =>
    cases above with
    | nil => exact .inl ⟨rfl, rfl, rfl⟩
    | cons p above =>
      refine .inr ⟨above, rfl, ?_⟩
      rw [Entry.depthChange, List.length_cons]
      omega
  | nothing | language _ | server _ | gem _ =>
    exact .inr ⟨above, rfl, by simp [Entry.depthChange]⟩

/-- With a block on the stack, the search for the end of the lines above it and it finds the line
that takes it off, and up to that line it stays. -/
theorem openLines_of_linesToEnd? (hshows : ∀ l ∈ lines, ShowsBlocks l) {i k : Nat}
    {rest : List Text} {above below : List Nat} (hrest : lines.drop k = rest)
    (h : openLines lines k = above ++ i :: below) :
    (∀ n, linesToEnd? (above.length + 1) rest = some n →
        closesBlock lines (k + n) = true ∧ openLines lines (k + n) = i :: below) ∧
      ∀ m, k ≤ m → (∀ n, linesToEnd? (above.length + 1) rest = some n → m ≤ k + n) →
        ∃ above', openLines lines m = above' ++ i :: below := by
  induction rest generalizing k above with
  | nil =>
    refine ⟨by simp [linesToEnd?], fun m hm _ => ⟨above, ?_⟩⟩
    rw [openLines_of_length_le (List.drop_eq_nil_iff.1 hrest) hm, h]
  | cons l rest ih =>
    have hl : lines[k]? = some l := by
      rw [← List.head?_drop, hrest]
      rfl
    have hrest' : lines.drop (k + 1) = rest := by
      rw [← List.tail_drop, hrest]
      rfl
    rw [linesToEnd?]
    rcases openLines_step hl (hshows l (List.mem_of_getElem? hl)) h with
      ⟨rfl, hcloses, hdelta⟩ | ⟨above', hnext, hdepth⟩
    · rw [hdelta, if_pos (by decide)]
      constructor
      · rintro n hn
        obtain rfl : 0 = n := by simpa using hn
        exact ⟨hcloses, h⟩
      · intro m hm hstop
        obtain rfl : m = k := Nat.le_antisymm (hstop 0 rfl) hm
        exact ⟨[], h⟩
    · obtain ⟨hends, hstays⟩ := ih hrest' hnext
      rw [hdepth, if_neg (by omega)]
      constructor
      · intro n hn
        obtain ⟨n', hn', rfl⟩ := Option.map_eq_some_iff.1 hn
        have hends := hends n' hn'
        rwa [Nat.add_right_comm] at hends
      · intro m hm hstop
        rcases Nat.eq_or_lt_of_le hm with rfl | hlt
        · exact ⟨above, h⟩
        · refine hstays m hlt fun n' hn' => ?_
          have := hstop (n' + 1) (by rw [hn']; rfl)
          omega

theorem openLines_succ {i : Nat} (h : (scope? lines i).isSome = true) :
    openLines lines (i + 1) = i :: openLines lines i := by
  rw [openLines, if_pos h]

/-- The block of a line is on the stack behind it up to the end of its span. -/
theorem openLines_of_matchingEnd? (hshows : ∀ l ∈ lines, ShowsBlocks l) {i : Nat}
    (h : (scope? lines i).isSome = true) :
    (∀ j, matchingEnd? lines i = some j →
        closesBlock lines j = true ∧ openLines lines j = i :: openLines lines i) ∧
      ∀ k, i < k → (∀ j, matchingEnd? lines i = some j → k ≤ j) →
        ∃ above, openLines lines k = above ++ i :: openLines lines i := by
  have hstack : openLines lines (i + 1) = [] ++ i :: openLines lines i := openLines_succ h
  obtain ⟨hends, hstays⟩ := openLines_of_linesToEnd? hshows rfl hstack
  constructor
  · intro j hj
    obtain ⟨n, hn, rfl⟩ := Option.map_eq_some_iff.1 hj
    exact hends n hn
  · intro k hk hstop
    refine hstays k hk fun n hn => hstop _ ?_
    exact Option.map_eq_some_iff.2 ⟨n, hn, rfl⟩

/-- A block is on the stack exactly on the lines of its span. -/
theorem mem_openLines_iff (hshows : ∀ l ∈ lines, ShowsBlocks l) {i k : Nat} :
    i ∈ openLines lines k ↔ i < k ∧ (scope? lines i).isSome = true ∧
      ∀ j, matchingEnd? lines i = some j → k ≤ j := by
  constructor
  · intro h
    obtain ⟨hlt, hscope⟩ := of_mem_openLines h
    refine ⟨hlt, hscope, fun j hj => ?_⟩
    by_contra hkj
    obtain ⟨hcloses, hstack⟩ := (openLines_of_matchingEnd? hshows hscope).1 j hj
    have hbehind := (matchingEnd?_lt hj).1
    have hmem := mem_openLines_of_le (k := j + 1) h (by omega) (by omega)
    rw [openLines, scope?_of_closesBlock hcloses, hcloses, hstack] at hmem
    have := (of_mem_openLines (by simpa using hmem)).1
    omega
  · rintro ⟨hlt, hscope, hstop⟩
    obtain ⟨above, habove⟩ := (openLines_of_matchingEnd? hshows hscope).2 k hlt hstop
    simp [habove]

/-- The blocks that open above line `k` and end below it or never, the outermost first. -/
def scopesOver (lines : List Text) (k : Nat) : List Scope :=
  (List.range k).filterMap fun i =>
    if (matchingEnd? lines i).all (k < ·) then scope? lines i else none

/-- On a line that closes no block, the blocks on the stack are those whose spans reach over it. -/
theorem openLines_eq (hshows : ∀ l ∈ lines, ShowsBlocks l) {k : Nat}
    (hk : closesBlock lines k = false) :
    openLines lines k = ((List.range k).filter fun i =>
      (matchingEnd? lines i).all (k < ·) && (scope? lines i).isSome).reverse := by
  have hspans : ((List.range k).filter fun i =>
      (matchingEnd? lines i).all (k < ·) && (scope? lines i).isSome).reverse.Pairwise (· > ·) :=
    List.pairwise_reverse.2 (List.pairwise_lt_range.filter _)
  refine (pairwise_openLines lines k).eq_of_mem_iff hspans fun i => ?_
  rw [mem_openLines_iff hshows, List.mem_reverse, List.mem_filter, List.mem_range,
    Bool.and_eq_true, Option.all_eq_true, and_comm (a := ∀ _, _)]
  refine and_congr_right fun _ => and_congr_right fun hscope => forall_congr' fun j => ?_
  refine imp_congr_right fun hj => ?_
  -- The end of the block is not line `k`, which closes nothing.
  have hne : k ≠ j := by
    rintro rfl
    rw [((openLines_of_matchingEnd? hshows hscope).1 k hj).1] at hk
    cases hk
  rw [decide_eq_true_iff]
  omega

/-- On a line that closes no block, the reader has open the blocks whose spans reach over it. -/
theorem scopes_eq (hshows : ∀ l ∈ lines, ShowsBlocks l) {k : Nat}
    (hk : closesBlock lines k = false) :
    (stateAt lines k).scopes = (scopesOver lines k).reverse := by
  have hstack := congrArg (List.filterMap id) (scopes_stateAt lines k)
  rw [List.filterMap_map, List.filterMap_map, Function.id_comp, Function.id_comp,
    List.filterMap_some, openLines_eq hshows hk, List.filterMap_reverse,
    List.filterMap_filter] at hstack
  rw [hstack, scopesOver]
  congr 2
  funext i
  cases (matchingEnd? lines i).all (k < ·) <;> cases scope? lines i <;> rfl

end Stack

end Gemfile

open Gemfile

/-- A group inside a block of platforms. -/
def nestedGroup : Text :=
  "platforms :jruby do\n  group :test do\n    gem 'a'\n  end\nend\n".toList

end GemDeps
