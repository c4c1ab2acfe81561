import GemDeps.Code.Zone
import GemDeps.Text.Blank

/-!
# Argument lists

Arguments are separated by commas that stand outside quotes and outside brackets.

* `bracketDepth`: how many brackets are open after a character.
* `splitArguments`: the arguments, trimmed, without empty ones.
* `beforeClosingParen?`: what stands before the parenthesis that closes nothing opened inside.
* `splitArrow?`: the two sides of the first `=>` outside quotes.
* `splitList?`: the bracketed list at the start of a text, and the rest.
-/

namespace GemDeps

/-! ## Brackets -/

/-- Does `c` open a bracket? -/
def opensBracket (c : Char) : Bool := c == '(' || c == '[' || c == '{'

/-- Does `c` close a bracket? -/
def closesBracket (c : Char) : Bool := c == ')' || c == ']' || c == '}'

/-- The number of open brackets after `c`, read in zone `z` with `d` open ones. Brackets of
different kinds close each other, and one that closes nothing is ignored. -/
def bracketDepth (z : Zone) (d : Nat) (c : Char) : Nat :=
  if z.isCode then if opensBracket c then d + 1 else if closesBracket c then d - 1 else d else d

/-- What stands before the first `)` outside quotes that closes nothing opened inside; `none` when a
comment or the end comes first. -/
def beforeClosingParen? (z : Zone) (d : Nat) : Text → Option Text
  | [] => none
  | c :: t =>
    if z.isCode && c == ')' && d == 0 then some []
    else if z.isCode && c == '#' then none
    else (beforeClosingParen? (z.next c) (bracketDepth z d c) t).map (c :: ·)

/-! ## Commas -/

/-- `c` put in front of the first piece. -/
def consFirst (c : Char) : List Text → List Text
  | [] => [[c]]
  | p :: ps => (c :: p) :: ps

/-- The pieces between the commas outside quotes and brackets. -/
def splitCommas (z : Zone) (d : Nat) : Text → List Text
  | [] => [[]]
  | c :: t =>
    if z.isCode && c == ',' && d == 0 then [] :: splitCommas z d t
    else consFirst c (splitCommas (z.next c) (bracketDepth z d c) t)

/-- The arguments of a call, trimmed; pieces of blanks alone are dropped. -/
def splitArguments (t : Text) : List Text :=
  ((splitCommas .code 0 t).map Text.trim).filter (!·.isEmpty)

/-! ## Arrows and lists -/

/-- The two sides of the first `=>` outside quotes. -/
def splitArrow? (z : Zone) : Text → Option (Text × Text)
  | [] => none
  | c :: t =>
    if z.isCode && c == '=' && t.head? == some '>' then some ([], t.tail)
    else (splitArrow? (z.next c) t).map fun p => (c :: p.1, p.2)

/-- The number of open square brackets after `c`. -/
def squareDepth (z : Zone) (d : Nat) (c : Char) : Nat :=
  if z.isCode then if c = '[' then d + 1 else if c = ']' then d - 1 else d else d

/-- Cuts a text after the `]` that leaves no square bracket open. -/
def splitList? (z : Zone) (d : Nat) : Text → Option (Text × Text)
  | [] => none
  | c :: t =>
    if z.isCode && c == ']' && d ≤ 1 then some ([c], t)
    else (splitList? (z.next c) (squareDepth z d c) t).map fun p => (c :: p.1, p.2)

/-! ## Lengths -/

theorem length_le_of_mem_consFirst {c : Char} {ps : List Text} {p : Text} {n : Nat}
    (hps : ∀ q ∈ ps, q.length ≤ n) (h : p ∈ consFirst c ps) : p.length ≤ n + 1 := by
  cases ps with
  | nil => simp [consFirst] at h; simp [h]
  | cons q ps =>
    rcases List.mem_cons.1 h with rfl | h
    · simpa using hps q (by simp)
    · exact Nat.le_succ_of_le (hps p (by simp [h]))

theorem length_le_of_mem_splitCommas {z : Zone} {d : Nat} {t p : Text}
    (h : p ∈ splitCommas z d t) : p.length ≤ t.length := by
  fun_induction splitCommas z d t generalizing p with
  | case1 => simp_all
  | case2 z d c t hz ih =>
    rcases List.mem_cons.1 h with rfl | h
    · simp
    · exact Nat.le_succ_of_le (ih h)
  | case3 z d c t hz ih => exact length_le_of_mem_consFirst (fun q hq => ih hq) h

theorem length_le_of_mem_splitArguments {t p : Text} (h : p ∈ splitArguments t) :
    p.length ≤ t.length := by
  obtain ⟨q, hq, rfl⟩ := List.mem_map.1 (List.mem_filter.1 h).1
  exact Nat.le_trans (Text.length_trim_le q) (length_le_of_mem_splitCommas hq)

end GemDeps
