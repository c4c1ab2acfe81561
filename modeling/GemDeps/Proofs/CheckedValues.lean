import GemDeps.Proofs.ByteCuts
import GemDeps.Proofs.ReaderRun

/-!
# Reading with checked cuts

Values, options, statements and calls, read by the scanners of bytes and cut at the offsets that
these find. Each reader is shown to succeed with what the library reads.
-/

namespace GemDeps.Checked

theorem ok_bind {α β : Type} (a : α) (f : α → Checked β) : (.ok a >>= f : Checked β) = f a := rfl

theorem mapM_eq_ok {α β : Type} {f : α → Checked β} {g : α → β} {as : List α}
    (h : ∀ a ∈ as, f a = .ok (g a)) : as.mapM f = .ok (as.map g) := by
  induction as with
  | nil => rfl
  | cons a as ih =>
    obtain ⟨ha, has⟩ := List.forall_mem_cons.1 h
    rw [List.mapM_cons, ha, ok_bind, ih has, ok_bind]
    rfl

/-! ## Literals at the start -/

/-- The value of a text that is one literal and nothing else. -/
def whole? (t : Text) : Checked (Option Text) := do
  match ← quotedAt t 0 with
  | some q => return if q.stop = t.size then some q.value else none
  | none => return none

/-- The text from the end of the literal at its start on. -/
theorem slice_rest {t : Text} {l : Quoted} (h : Quoted.read? t = some l) :
    ∃ u, t = u ++ l.rest ∧ t.size - l.rest.size = u.size ∧ 0 < u.size := by
  obtain ⟨hdrop, -⟩ := Quoted.eq_of_read? h
  have ht : t = t.takeWhile Quoted.isGap ++ l.style.mark :: (l.value ++ [l.style.mark]) ++
      l.rest := by
    conv => lhs; rw [← List.takeWhile_append_dropWhile (p := Quoted.isGap) (l := t), hdrop]
    simp
  refine ⟨_, ht, ?_, ?_⟩
  · conv => lhs; rw [ht, Text.size_append, Nat.add_sub_cancel_right]
  · have := l.style.mark.utf8Size_pos
    rw [Text.size_append, Text.size_cons]
    omega

/-- The same behind another text. -/
theorem append_slice_rest {t : Text} {l : Quoted} (h : Quoted.read? t = some l) (u : Text) :
    ∃ v, u ++ t = (u ++ v) ++ l.rest ∧ (u ++ t).size - l.rest.size = (u ++ v).size ∧
      0 < v.size := by
  obtain ⟨v, ht, -, hpos⟩ := slice_rest h
  have hsplit : u ++ t = (u ++ v) ++ l.rest := by rw [List.append_assoc, ← ht]
  refine ⟨v, hsplit, ?_, hpos⟩
  rw [hsplit, Text.size_append _ l.rest, Nat.add_sub_cancel_right]

theorem quotedAt_zero (t : Text) : quotedAt t 0 = .ok ((Quoted.read? t).map fun l =>
    ⟨l.style, l.value, t.size - l.rest.size⟩) :=
  quotedAt_append [] t

theorem whole?_eq (t : Text) : whole? t = .ok (Quoted.whole? t) := by
  unfold whole? Quoted.whole?
  rw [quotedAt_zero, ok_bind]
  cases hread : Quoted.read? t with
  | none => rfl
  | some l =>
    obtain ⟨u, ht, hstop, -⟩ := slice_rest hread
    have hend : u.size = t.size ↔ l.rest.isEmpty = true := by
      rw [ht, Text.size_append, List.isEmpty_iff, ← Text.size_eq_zero_iff]
      omega
    dsimp only [Option.map_some]
    rw [hstop]
    simp only [hend]
    rfl

/-! ## Values -/

/-- A value that is neither a string nor a list in square brackets. -/
def readScalar (t : Text) : Checked Value :=
  match t with
  | ':' :: r => do
    match ← whole? r with
    | some name => return .symbol name
    | none =>
      return if Text.isIdentifier (Text.dropEndWhile (fun c => c == '?' || c == '!') r) then
        .symbol r else .other (':' :: r)
  | _ => .ok (Value.readScalar t)

theorem readScalar_colon (r : Text) : Value.readScalar (':' :: r) =
    match Quoted.whole? r with
    | some name => .symbol name
    | none =>
      if Text.isIdentifier (Text.dropEndWhile (fun c => c == '?' || c == '!') r) then .symbol r
      else .other (':' :: r) :=
  rfl

theorem readScalar_eq (t : Text) : readScalar t = .ok (Value.readScalar t) := by
  unfold readScalar
  split
  · rename_i r
    rw [whole?_eq, ok_bind, readScalar_colon]
    cases Quoted.whole? r <;> rfl
  · rfl

/-- The value of an argument. -/
def readValue (t : Text) : Checked Value := do
  match ← whole? t.trim with
  | some s => return .str s
  | none =>
    match _h : Text.between? '[' ']' t.trim with
    | none => readScalar t.trim
    | some inner =>
      match _hargs : splitArguments inner with
      | .error e => .error e
      | .ok as => return .list (← as.attach.mapM fun p => readValue p.1)
termination_by t.length
decreasing_by
  obtain rfl := Except.ok.inj ((splitArguments_eq inner).symm.trans _hargs)
  have h₁ := length_le_of_mem_splitArguments p.2
  have h₂ := congrArg List.length (Text.eq_of_between? _h)
  have h₃ := Text.length_trim_le t
  simp only [List.length_cons, List.length_append, List.length_nil] at h₂
  omega

theorem readValue_eq (t : Text) : readValue t = .ok (Value.read t) := by
  fun_induction Value.read t with
  | case1 t s hs =>
    rw [readValue, whole?_eq, hs]
    rfl
  | case2 t hs inner hinner ih =>
    rw [readValue, whole?_eq, hs, ok_bind]
    dsimp only
    split
    · simp_all
    · rename_i inner' hinner'
      obtain rfl := Option.some.inj (hinner.symm.trans hinner')
      split
      · rename_i hargs
        rw [splitArguments_eq] at hargs
        cases hargs
      · rename_i hargs
        obtain rfl := Except.ok.inj ((splitArguments_eq inner).symm.trans hargs)
        rw [mapM_eq_ok fun p _ => ih p]
        rfl
  | case3 t hs hinner =>
    rw [readValue, whole?_eq, hs, ok_bind]
    dsimp only
    split
    · exact readScalar_eq _
    · simp_all

/-! ## Options and names -/

/-- The offset of the first character in `p`. -/
def findOffset? (p : Char → Bool) (t : Text) : Option Nat :=
  match t.dropWhile fun c => !p c with
  | [] => none
  | _ :: _ => some (Text.size (t.takeWhile fun c => !p c))

/-- An option that starts with a bare key and a colon. -/
def bareKey? (t : Text) : Checked (Option (Text × Value)) := do
  match findOffset? (· == ':') t with
  | none => return none
  | some colon =>
    let key ← t.slice 0 colon
    let rest ← t.slice (colon + 1) t.size
    if Text.isIdentifier key && rest.head? != some ':' then return some (key, ← readValue rest)
    else return none

/-- An option with its key: `key => value`, `'key': value` or `key: value`. -/
def pair? (t : Text) : Checked (Option (Text × Value)) := do
  match findArrow? t.trim with
  | some arrow =>
    match (← readValue (← t.trim.slice 0 arrow)).text? with
    | none => return none
    | some key => return some (key, ← readValue (← t.trim.slice (arrow + 2) t.trim.size))
  | none =>
    match ← quotedAt t.trim 0 with
    | none => bareKey? t.trim
    | some q =>
      if (← t.trim.slice q.stop t.trim.size).head? = some ':' then
        return some (q.value, ← readValue (← t.trim.slice (q.stop + 1) t.trim.size))
      else bareKey? t.trim

/-- The names in an argument list, each once; options are passed over. -/
def nameList (t : Text) : Checked (List Text) := do
  (← splitArguments t).foldlM
    (fun names a => do
      if (← pair? a).isSome then return names
      else return Text.union names (← readValue a).names) []

theorem bareKey?_eq (t : Text) : bareKey? t = .ok (Value.bareKey? t) := by
  have ht : t.takeWhile (fun c => !(c == ':')) ++ t.dropWhile (fun c => !(c == ':')) = t :=
    List.takeWhile_append_dropWhile
  have hcolon : ∀ c ∈ (t.dropWhile fun c => !(c == ':')).head?, c = ':' := by
    intro c hc
    have hstop := List.head?_dropWhile_not (fun c => !(c == ':')) t
    rw [Option.mem_def.1 hc] at hstop
    simpa using hstop
  unfold bareKey? Value.bareKey? findOffset?
  simp only [bne]
  generalize t.takeWhile (fun c => !(c == ':')) = key at ht
  generalize t.dropWhile (fun c => !(c == ':')) = r at ht hcolon
  cases r with
  | nil => rfl
  | cons c r =>
    obtain rfl := hcolon c rfl
    subst ht
    dsimp only
    rw [Text.slice_prefix, Text.IsAscii.slice_suffix (by decide), ok_bind, ok_bind, readValue_eq]
    split <;> rfl

theorem pair?_eq (t : Text) : pair? t = .ok (Value.pair? t) := by
  unfold pair? Value.pair?
  generalize t.trim = s
  rw [findArrow?_eq]
  cases harrow : splitArrow? .code s with
  | some p =>
    obtain rfl := eq_of_splitArrow? harrow
    have hvalue : Text.slice (p.1 ++ '=' :: '>' :: p.2) (p.1.size + 2)
        (Text.size (p.1 ++ '=' :: '>' :: p.2)) = .ok p.2 := by
      have h := Text.IsAscii.slice_suffix (c := '>') (by decide) (p.1 ++ ['=']) p.2
      rwa [← List.append_cons, Text.size_concat] at h
    dsimp only [Option.map_some]
    rw [Text.slice_prefix, ok_bind, readValue_eq, ok_bind]
    cases (Value.read p.1).text? with
    | none => rfl
    | some key =>
      dsimp only
      rw [hvalue, ok_bind, readValue_eq]
      rfl
  | none =>
    dsimp only [Option.map_none]
    rw [quotedAt_zero, ok_bind]
    cases hread : Quoted.read? s with
    | none => exact bareKey?_eq s
    | some l =>
      obtain ⟨u, hs, hstop, -⟩ := slice_rest hread
      obtain ⟨style, key, rest⟩ := l
      dsimp only [Option.map_some] at hs hstop ⊢
      have hrest : s.slice u.size s.size = .ok rest := by
        rw [hs]
        exact Text.slice_suffix u rest
      rw [hstop, hrest, ok_bind]
      by_cases hcolon : rest.head? = some ':'
      · obtain ⟨r, rfl⟩ := List.head?_eq_some_iff.1 hcolon
        have hvalue : s.slice (u.size + 1) s.size = .ok r := by
          rw [hs]
          exact Text.IsAscii.slice_suffix (by decide) u r
        rw [if_pos hcolon, hvalue, ok_bind, readValue_eq]
        rfl
      · rw [if_neg hcolon, bareKey?_eq]
        split
        · rename_i hkey
          cases hkey
          exact absurd rfl hcolon
        · rfl

theorem foldlM_eq_ok {α β : Type} {f : β → α → Checked β} {g : β → α → β}
    (h : ∀ b a, f b a = .ok (g b a)) (as : List α) (b : β) :
    as.foldlM f b = .ok (as.foldl g b) := by
  induction as generalizing b with
  | nil => rfl
  | cons a as ih => rw [List.foldlM_cons, h, ok_bind, ih, List.foldl_cons]

theorem nameList_eq (t : Text) : nameList t = .ok (Value.nameList t) := by
  have hstep : ∀ names a, (do
      if (← pair? a).isSome then return names
      else return Text.union names (← readValue a).names : Checked (List Text)) =
        .ok (if (Value.pair? a).isNone then Text.union names (Value.read a).names else names) := by
    intro names a
    rw [pair?_eq, ok_bind, readValue_eq]
    cases Value.pair? a <;> rfl
  unfold nameList Value.nameList
  rw [splitArguments_eq, ok_bind, foldlM_eq_ok hstep, ← Text.foldl_union, List.foldl_filter]

end GemDeps.Checked
