import GemDeps.Proofs.Reading

/-!
# Lines and block depth

The reader of a Gemfile decides by the meaning of a line whether a block opens or closes, and the
search for the end of a block by the depth that the line's code adds. The two agree on every line
(`blockDelta_eq`), unless a `gem` or `ruby` statement opens a block, which the reader passes over.
-/

namespace GemDeps

/-! ## The final `do` -/

/-- In front of a final `do`, characters other than a `d` are passed over. -/
theorem splitDo?_append {k r : Text} (hk : 'd' ∉ k) (hr : ∀ c ∈ r.head?, c ≠ 'd')
    (afterWord : Bool) : splitDo? afterWord (k ++ r) = (splitDo? false r).map (k ++ ·) := by
  induction k generalizing afterWord with
  | nil =>
    cases r with
    | nil => rfl
    | cons c r =>
      have hc : (c == 'd') = false := by simpa using hr c rfl
      simp [splitDo?, hc, Function.comp_def]
  | cons c k ih =>
    rw [List.mem_cons, not_or] at hk
    have hc : (c == 'd') = false := by simpa using Ne.symm hk.1
    rw [List.cons_append, splitDo?, hc, Bool.and_false, Bool.false_and, Bool.false_and,
      if_neg Bool.false_ne_true, ih hk.2, Option.map_map]
    rfl

/-- What is split off ends in a `do` and what may stand behind it. -/
theorem eq_of_splitDo? {afterWord : Bool} {t before : Text}
    (h : splitDo? afterWord t = some before) :
    ∃ u, t = before ++ 'd' :: 'o' :: u ∧ isDoTail u = true := by
  fun_induction splitDo? afterWord t generalizing before with
  | case1 => simp at h
  | case2 afterWord c t hdo =>
    obtain ⟨⟨⟨-, rfl⟩, ho⟩, htail⟩ : ((afterWord = false ∧ c = 'd') ∧ t.head? = some 'o') ∧
        isDoTail t.tail = true := by simpa using hdo
    obtain ⟨u, rfl⟩ := List.head?_eq_some_iff.1 ho
    obtain rfl : [] = before := by simpa using h
    exact ⟨u, rfl, htail⟩
  | case3 afterWord c t _ ih =>
    obtain ⟨v, hv, rfl⟩ := Option.map_eq_some_iff.1 h
    obtain ⟨u, rfl, hu⟩ := ih hv
    exact ⟨u, rfl, hu⟩

/-- Behind a final `do` stand blanks, or block parameters and their closing bar. -/
theorem ends_of_isDoTail {u : Text} (h : isDoTail u = true) :
    Text.IsBlanks u ∨ ∃ v b, u = v ++ '|' :: b ∧ Text.IsBlanks b := by
  unfold isDoTail at h
  split at h
  · rename_i hu
    exact .inl (Text.trimStart_eq_nil_iff.1 hu)
  · rename_i r hu
    split at h
    · simp at h
    · rename_i c s hs
      have hbar : c = '|' := by
        have := List.head?_dropWhile_not (· != '|') r
        rw [hs] at this
        simpa using this
      subst hbar
      have hr : '|' :: s <:+ r := hs ▸ List.dropWhile_suffix _
      have hu : '|' :: r <:+ u := hu ▸ List.dropWhile_suffix _
      obtain ⟨v, hv⟩ := (hr.trans (List.suffix_cons '|' r)).trans hu
      exact .inr ⟨v, s, hv.symm, Text.trimStart_eq_nil_iff.1 (List.isEmpty_iff.1 h)⟩
  · simp at h

theorem isSuffixOf?_eq_some {p t u : Text} (h : p.isSuffixOf? t = some u) : t = u ++ p := by
  rw [List.isSuffixOf?, Option.map_eq_some_iff] at h
  obtain ⟨v, hv, rfl⟩ := h
  rw [Text.isPrefixOf?_eq_some_iff] at hv
  rw [← List.reverse_reverse t, hv, List.reverse_append, List.reverse_reverse]

/-- A line that ends in a `do` does not end in an `end` as well. -/
theorem endsWithEnd_of_splitDo? {afterWord : Bool} {t before : Text}
    (h : splitDo? afterWord t = some before) : endsWithEnd t = false := by
  obtain ⟨u, rfl, hu⟩ := eq_of_splitDo? h
  obtain ⟨v, c, b, hsplit, hc, hb, hd⟩ : ∃ v c b, before ++ 'd' :: 'o' :: u = v ++ [c] ++ b ∧
      Text.isBlank c = false ∧ Text.IsBlanks b ∧ c ≠ 'd' := by
    rcases ends_of_isDoTail hu with hu | ⟨v, b, rfl, hb⟩
    · exact ⟨before ++ ['d'], 'o', u, by simp, by decide, hu, by decide⟩
    · exact ⟨before ++ 'd' :: 'o' :: v, '|', b, by simp, by decide, hb, by decide⟩
  unfold endsWithEnd
  rw [hsplit, Text.trimEnd_append hb, Text.trimEnd_concat hc]
  split
  · rename_i r hr
    have hlast := congrArg List.getLast? (isSuffixOf?_eq_some hr)
    rw [List.getLast?_concat, show "end".toList = ['e', 'n'] ++ ['d'] from rfl, ← List.append_assoc,
      List.getLast?_concat, Option.some.injEq] at hlast
    exact absurd hlast hd
  · rfl

/-! ## Calls -/

/-- The keywords of the calls that the reader knows. -/
def callKeywords : List Text :=
  ["ruby", "source", "group", "platforms", "platform", "git", "path", "github", "gem"].map
    String.toList

/-- No block keyword and no `end` starts like a call. -/
theorem startsWithWord_of_call {k r : Text} (hk : k ∈ callKeywords) :
    startsWithEnd (k ++ r) = false ∧ openingKeywords.any (startsWithWord · (k ++ r)) = false := by
  simp only [callKeywords, List.map_cons, List.map_nil, List.mem_cons, List.not_mem_nil,
    or_false] at hk
  rcases hk with rfl | rfl | rfl | rfl | rfl | rfl | rfl | rfl | rfl <;> exact ⟨rfl, rfl⟩

/-- The depth that a call adds is one when a final `do` opens a block. -/
theorem blockDelta_of_call {line k r : Text} (hk : k ∈ callKeywords)
    (hcode : Text.trim (stripComment line) = k ++ r) (hr : ∀ c ∈ r.head?, c ≠ 'd') :
    blockDelta line = if (splitDo? false r).isSome then 1 else 0 := by
  have hd : ∀ k ∈ callKeywords, 'd' ∉ k := by decide
  have hdo := splitDo?_append (hd k hk) hr false
  obtain ⟨hend, hopening⟩ := startsWithWord_of_call (r := r) hk
  have htrim : Text.trim (k ++ r) = k ++ r := hcode ▸ Text.trim_trim _
  have hopens : opensBlock (k ++ r) = (splitDo? false r).isSome := by
    unfold opensBlock
    dsimp only
    rw [htrim]
    rw [hopening, Bool.or_false, hdo, Option.isSome_map]
  unfold blockDelta
  dsimp only
  rw [hcode, hend, if_neg Bool.false_ne_true, hopens]
  cases hsplit : splitDo? false r with
  | none => rfl
  | some before =>
    rw [hsplit] at hdo
    rw [endsWithEnd_of_splitDo? hdo]
    rfl

theorem ne_of_followsKeyword {r : Text} (h : Call.followsKeyword r = true) :
    ∀ c ∈ r.head?, c ≠ 'd' := by
  cases r with
  | nil => simp
  | cons c r =>
    rintro d hd rfl
    obtain rfl : c = 'd' := by simpa using hd
    simp [Call.followsKeyword] at h

/-- A call opens a block exactly when it adds to the depth. -/
theorem blockDelta_of_read? {keywords : List Text} (hkeywords : keywords ⊆ callKeywords)
    {line : Text} {call : Call}
    (h : Call.read? keywords (Text.trim (stripComment line)) = some call) :
    blockDelta line = if call.opensBlock then 1 else 0 := by
  unfold Call.read? at h
  obtain ⟨r, hr, hcall⟩ := Option.map_eq_some_iff.1 h
  obtain ⟨k, hk, hkeyword⟩ := List.exists_of_findSome?_eq_some hr
  obtain ⟨hstart, hfollows⟩ := Option.filter_eq_some_iff.1 hkeyword
  rw [Text.isPrefixOf?_eq_some_iff] at hstart
  rw [blockDelta_of_call (hkeywords hk) hstart (ne_of_followsKeyword hfollows)]
  subst hcall
  cases splitDo? false r <;> rfl

/-! ## Comments -/

/-- Code has no comment. -/
theorem splitComment_splitComment (z : Zone) (t : Text) :
    (splitComment z (splitComment z t).1).1 = (splitComment z t).1 := by
  fun_induction splitComment z t with
  | case1 => rfl
  | case2 => rfl
  | case3 z c t hz ih =>
    dsimp only
    rw [splitComment, if_neg hz, ih]

/-- A text without its last characters has no comment if it has none with them. -/
theorem splitComment_of_append {z : Zone} {s t : Text}
    (h : (splitComment z (s ++ t)).1 = s ++ t) : (splitComment z s).1 = s := by
  induction s generalizing z with
  | nil => rfl
  | cons c s ih =>
    rw [List.cons_append, splitComment] at h
    rw [splitComment]
    split at h
    · simp at h
    · rename_i hz
      rw [if_neg hz, ih (by simpa using h)]

theorem stripComment_trim_stripComment (line : Text) :
    stripComment (Text.trim (stripComment line)) = Text.trim (stripComment line) := by
  obtain ⟨b, b', hb, -, hsplit⟩ := Text.exists_blanks_trim (stripComment line)
  have hcode : stripComment (stripComment line) = stripComment line :=
    splitComment_splitComment .code line
  rw [hsplit, (isFlat_of_isBlanks hb).isUncommented, List.append_cancel_left_eq] at hcode
  exact splitComment_of_append hcode

/-! ## Meanings and depths -/

namespace Entry

/-- What a line of this meaning adds to the depth. -/
def depthChange : Entry → Int
  | opens _ => 1
  | closes => -1
  | _ => 0

theorem depthChange_ofRuby (call : Call) : (ofRuby call).depthChange = 0 := by
  unfold ofRuby
  split <;> rfl

theorem depthChange_ofSource (call : Call) :
    (ofSource call).depthChange = if call.opensBlock then 1 else 0 := by
  unfold ofSource
  split <;> simp_all [depthChange]

end Entry

/-- The `ruby` statement on a line. -/
def rubyCall? (line : Text) : Option Call :=
  Call.read? ["ruby".toList] (Text.trim (stripComment line))

/-- Neither a `gem` nor a `ruby` statement on the line opens a block. -/
def ShowsBlocks (line : Text) : Prop :=
  (Statement.readGem? line).isSome = true ∨ (rubyCall? line).isSome = true → blockDelta line ≤ 0

instance (line : Text) : Decidable (ShowsBlocks line) := inferInstanceAs (Decidable (_ → _))

theorem blockDelta_nonneg {line : Text}
    (h : startsWithEnd (Text.trim (stripComment line)) = false) : 0 ≤ blockDelta line := by
  unfold blockDelta
  dsimp only
  rw [h, if_neg Bool.false_ne_true]
  split_ifs <;> decide

theorem depthChange_ofPlain {line : Text} (h : ShowsBlocks line) :
    (Entry.ofPlain line (Text.trim (stripComment line))).depthChange = blockDelta line := by
  unfold Entry.ofPlain
  split
  · rename_i hend
    unfold blockDelta
    dsimp only
    rw [hend, if_pos rfl]
    rfl
  · rename_i hend
    have hnonneg := blockDelta_nonneg (by simpa using hend)
    split
    · rename_i s hs
      have hle := h (.inl (by rw [hs]; rfl))
      show (0 : Int) = _
      omega
    · have hcode : blockDelta (Text.trim (stripComment line)) = blockDelta line := by
        unfold blockDelta
        rw [stripComment_trim_stripComment, Text.trim_trim]
      have hle : blockDelta line ≤ 1 := by
        unfold blockDelta
        dsimp only
        split_ifs <;> decide
      rw [hcode]
      split
      · show (1 : Int) = _
        omega
      · show (0 : Int) = _
        omega

/-- What a line adds to the depth is what its meaning says. -/
theorem blockDelta_eq {line : Text} (h : ShowsBlocks line) :
    blockDelta line = (Entry.ofLine line).depthChange := by
  have hblock : ∀ {keywords call}, keywords ⊆ callKeywords →
      Entry.blockCall? keywords (Text.trim (stripComment line)) = some call →
        blockDelta line = 1 := by
    intro keywords call hkeywords hcall
    obtain ⟨hread, hopens⟩ := Option.filter_eq_some_iff.1 hcall
    rw [blockDelta_of_read? hkeywords hread, if_pos hopens]
  rcases @Entry.ofLine_cases line _ rfl with ⟨hempty, he⟩ | ⟨call, hcall, he⟩ |
    ⟨call, hcall, he⟩ | ⟨call, hcall, he⟩ | ⟨call, hcall, he⟩ | ⟨call, -, hcall, he⟩ | he
  · rw [he]
    unfold blockDelta
    rw [hempty]
    rfl
  · have hread := blockDelta_of_read? (by decide) hcall
    have hle := h (.inr (by rw [rubyCall?, hcall]; rfl))
    rw [he, Entry.depthChange_ofRuby]
    split at hread <;> omega
  · rw [he, Entry.depthChange_ofSource, blockDelta_of_read? (by decide) hcall]
  · rw [he]
    exact hblock (by decide) hcall
  · rw [he]
    exact hblock (by decide) hcall
  · rw [he]
    exact hblock (by decide) hcall
  · rw [he]
    exact (depthChange_ofPlain h).symm

end GemDeps
