/-!
# Texts

A text is the list of its characters. Cuts are made between characters; where an offset is wanted it
is the size in UTF-8 bytes of what stands before the cut.

* `Text.size`: the size of a text in bytes.
* `Text.dropBytes?`: the rest of a text from a byte offset, if the offset lies between characters.
* `Text.between?`: what stands between an opening and a closing character.
-/

namespace GemDeps

/-- A text is the list of its characters. -/
abbrev Text := List Char

namespace Text

instance : LawfulBEq Text := inferInstance

/-! ## Sizes and offsets -/

/-- The size in UTF-8 bytes. -/
def size : Text → Nat
  | [] => 0
  | c :: t => c.utf8Size + size t

@[simp] theorem size_nil : size [] = 0 := rfl

@[simp] theorem size_cons (c : Char) (t : Text) : size (c :: t) = c.utf8Size + size t := rfl

@[simp] theorem size_append (s t : Text) : size (s ++ t) = size s + size t := by
  induction s with
  | nil => simp
  | cons c s ih => simp only [List.cons_append, size_cons, ih, Nat.add_assoc]

theorem size_concat (t : Text) (c : Char) : size (t ++ [c]) = size t + c.utf8Size :=
  size_append t [c]

/-- The rest from byte offset `n`; `none` past the end or inside a character. -/
def dropBytes? : Nat → Text → Option Text
  | 0, t => some t
  | _ + 1, [] => none
  | n + 1, c :: t => if c.utf8Size ≤ n + 1 then dropBytes? (n + 1 - c.utf8Size) t else none

/-! ## Affixes -/

/-- Does `p` stand at the end of `t`? -/
def endsWith (p t : Text) : Bool := p.isSuffixOf t

/-- Does `p` stand somewhere in `t`? -/
def contains (p : Text) : Text → Bool
  | [] => p.isEmpty
  | c :: t => p.isPrefixOf (c :: t) || contains p t

/-- A text starts with `p` if it is `p` and the rest. -/
theorem isPrefixOf?_eq_some_iff {p t u : Text} : p.isPrefixOf? t = some u ↔ t = p ++ u := by
  induction p generalizing t with
  | nil => exact Option.some_inj
  | cons c p ih =>
    cases t with
    | nil =>
      show none = some u ↔ [] = c :: (p ++ u)
      simp
    | cons d t =>
      show (if c == d then p.isPrefixOf? t else none) = some u ↔ d :: t = c :: (p ++ u)
      rw [Option.ite_none_right_eq_some, ih, beq_iff_eq, List.cons.injEq]
      exact and_congr_left fun _ => eq_comm

/-- The text without its last character, if that is `c`. -/
def dropLast? (c : Char) : Text → Option Text
  | [] => none
  | [d] => if d = c then some [] else none
  | d :: e :: t => (dropLast? c (e :: t)).map (d :: ·)

/-- What stands between a leading `l` and a final `r`. -/
def between? (l r : Char) : Text → Option Text
  | [] => none
  | c :: t => if c = l then dropLast? r t else none

/-- A text that ends in `c` is what stands before it and `c`. -/
theorem eq_concat_of_dropLast? {c : Char} {t u : Text} (h : dropLast? c t = some u) :
    t = u ++ [c] := by
  fun_induction dropLast? c t generalizing u with
  | case1 => simp at h
  | case2 => simp_all
  | case3 => simp at h
  | case4 d e t ih =>
    obtain ⟨v, hv, rfl⟩ := Option.map_eq_some_iff.1 h
    simp [ih hv]

/-- A delimited text is its delimiters around what stands between them. -/
theorem eq_of_between? {l r : Char} {t u : Text} (h : between? l r t = some u) :
    t = l :: (u ++ [r]) := by
  cases t with
  | nil => simp [between?] at h
  | cons c t =>
    simp only [between?, Option.ite_none_right_eq_some] at h
    rw [h.1, eq_concat_of_dropLast? h.2]

/-! ## Lists of texts -/

/-- The texts in order with `sep` between neighbours. -/
def join (sep : Text) (ts : List Text) : Text := List.intercalate sep ts

theorem join_singleton (sep t : Text) : join sep [t] = t := List.intercalate_singleton

theorem join_cons_cons (sep t u : Text) (ts : List Text) :
    join sep (t :: u :: ts) = t ++ (sep ++ join sep (u :: ts)) := by
  rw [join, List.intercalate_cons_cons, List.append_assoc]
  rfl

/-- `ts` with the members of `us` that it does not hold yet added at the end, in order. -/
def union (ts us : List Text) : List Text :=
  us.foldl (fun acc u => if u ∈ acc then acc else acc ++ [u]) ts

end Text

end GemDeps
