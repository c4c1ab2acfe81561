import GemDeps.Proofs.Blanks
import GemDeps.Proofs.Literals

/-!
# Keywords of statements

What stands between the start of a line and the quoted name of a statement: blanks, the words that
call the statement, and what opens its arguments. An opening and a dependency call are each
described by their form (`ArgumentOpening.IsOpening`, `DependencyCall.IsProper`), and what has that
form is read as it was written in front of any quote.
-/

namespace GemDeps

namespace Text

/-! ## Quiet texts -/

theorem isBlank_mark (q : QuoteStyle) : isBlank q.mark = false := by cases q <;> rfl

theorem isWord_of_isBlank {c : Char} (hc : isBlank c = true) : isWord c = false := by
  have hblanks : ∀ n ∈ [9, 10, 11, 12, 13, 0x20, 0x85, 0xA0, 0x1680, 0x2000, 0x2001, 0x2002, 0x2003,
      0x2004, 0x2005, 0x2006, 0x2007, 0x2008, 0x2009, 0x200A, 0x2028, 0x2029, 0x202F, 0x205F,
      0x3000], isWord (Char.ofNat n) = false := by decide +kernel
  rw [← Char.ofNat_toNat c]
  refine hblanks _ ?_
  simp only [isBlank, Bool.or_eq_true, Bool.and_eq_true, decide_eq_true_eq, beq_iff_eq] at hc
  simp only [List.mem_cons, List.not_mem_nil, or_false]
  omega

/-- No quote and no `#`. -/
def IsQuiet (t : Text) : Prop := ∀ c ∈ t, c ≠ '#' ∧ QuoteStyle.ofMark? c = none

theorem IsQuiet.append {s t : Text} (hs : IsQuiet s) (ht : IsQuiet t) : IsQuiet (s ++ t) :=
  List.forall_mem_append.2 ⟨hs, ht⟩

/-- Whether a character is no quote and no `#`, as a class decides that holds neither. -/
theorem isQuiet_of_forall {p : Char → Bool} {t : Text} (hhash : p '#' = false)
    (hsingle : p '\'' = false) (hdouble : p '"' = false) (ht : ∀ c ∈ t, p c = true) :
    IsQuiet t := by
  intro c hc
  have hp := ht c hc
  constructor
  · rintro rfl
    simp [hhash] at hp
  · rw [QuoteStyle.ofMark?, if_neg, if_neg]
    · rintro rfl
      simp [hdouble] at hp
    · rintro rfl
      simp [hsingle] at hp

theorem IsQuiet.isUncommented {t : Text} (ht : IsQuiet t) : IsUncommented t := by
  intro u
  rw [stripComment, splitComment_of_quiet ht]
  rfl

theorem isQuiet_indentation (t : Text) : IsQuiet (indentation t) :=
  isQuiet_of_forall (by decide) (by decide) (by decide) (isBlanks_indentation t)

end Text

/-! ## Keywords -/

namespace ArgumentOpening

/-- Blanks, or blanks on both sides of a parenthesis. -/
inductive IsOpening : Text → Bool → Prop
  | bare {b : Text} (hb : Text.IsBlanks b) : IsOpening b false
  | parenthesis {b b' : Text} (hb : Text.IsBlanks b) (hb' : Text.IsBlanks b') :
      IsOpening (b ++ '(' :: b') true

/-- Without a parenthesis only blanks are taken. -/
theorem read_of_head?_ne {t : Text} (ht : (Text.trimStart t).head? ≠ some '(') :
    read t = ⟨Text.indentation t, false, Text.trimStart t⟩ := by
  unfold read
  split
  · rename_i hr
    rw [hr] at ht
    exact absurd rfl ht
  · rfl

theorem read_of_parenthesis {t r : Text} (ht : Text.trimStart t = '(' :: r) :
    read t = ⟨Text.indentation t ++ '(' :: Text.indentation r, true, Text.trimStart r⟩ := by
  rw [read, ht]
  rfl

theorem head?_trimStart_cases (t : Text) :
    (Text.trimStart t).head? ≠ some '(' ∨ ∃ r, Text.trimStart t = '(' :: r := by
  by_cases h : (Text.trimStart t).head? = some '('
  · exact .inr (List.head?_eq_some_iff.1 h)
  · exact .inl h

theorem isOpening_read (t : Text) : IsOpening (read t).text (read t).parenthesized := by
  rcases head?_trimStart_cases t with ht | ⟨r, hr⟩
  · rw [read_of_head?_ne ht]
    exact .bare (Text.isBlanks_indentation t)
  · rw [read_of_parenthesis hr]
    exact .parenthesis (Text.isBlanks_indentation t) (Text.isBlanks_indentation r)

theorem text_append_rest (t : Text) : (read t).text ++ (read t).rest = t := by
  rcases head?_trimStart_cases t with ht | ⟨r, hr⟩
  · rw [read_of_head?_ne ht]
    exact Text.indentation_append_trimStart t
  · rw [read_of_parenthesis hr]
    show Text.indentation t ++ '(' :: Text.indentation r ++ Text.trimStart r = t
    rw [List.append_assoc, List.cons_append, Text.indentation_append_trimStart, ← hr,
      Text.indentation_append_trimStart]

namespace IsOpening

variable {opening : Text} {parenthesized : Bool} (h : IsOpening opening parenthesized)

include h

theorem isQuiet : Text.IsQuiet opening := by
  have hblanks : ∀ {b : Text}, Text.IsBlanks b → Text.IsQuiet b := fun hb =>
    Text.isQuiet_of_forall (by decide) (by decide) (by decide) hb
  cases h with
  | bare hb => exact hblanks hb
  | parenthesis hb hb' =>
    exact (hblanks hb).append (List.forall_mem_cons.2 ⟨by decide, hblanks hb'⟩)

/-- In front of a quote an opening is read as it was written. -/
theorem read_append (q : QuoteStyle) (w : Text) :
    read (opening ++ q.mark :: w) = ⟨opening, parenthesized, q.mark :: w⟩ := by
  have hmark := Text.isBlank_mark q
  have htrim : ∀ {b : Text}, Text.IsBlanks b → Text.trimStart (b ++ q.mark :: w) = q.mark :: w :=
    fun hb => (Text.trimStart_append hb _).trans (Text.trimStart_cons hmark w)
  have hindent : ∀ {b : Text}, Text.IsBlanks b → Text.indentation (b ++ q.mark :: w) = b := by
    intro b hb
    rw [Text.indentation_append hb, Text.indentation_cons hmark, List.append_nil]
  cases h with
  | bare hb =>
    have hne : q.mark ≠ '(' := by cases q <;> decide
    rw [read_of_head?_ne (by simpa [htrim hb] using hne), htrim hb, hindent hb]
  | @parenthesis b b' hb hb' =>
    have ht : Text.trimStart (b ++ '(' :: b' ++ q.mark :: w) = '(' :: (b' ++ q.mark :: w) := by
      rw [List.append_assoc, Text.trimStart_append hb]
      exact Text.trimStart_cons (by decide) _
    have hb'' : Text.indentation (b ++ '(' :: b' ++ q.mark :: w) = b := by
      rw [List.append_assoc, Text.indentation_append hb, List.cons_append,
        Text.indentation_cons (by decide), List.append_nil]
    rw [read_of_parenthesis ht, hb'', hindent hb', htrim hb']

/-- In front of a quote an opening lets the word before it end. -/
theorem wordEnds_append (q : QuoteStyle) (w : Text) :
    Text.wordEnds (opening ++ q.mark :: w) = true := by
  have hblanks : ∀ {b u : Text}, Text.IsBlanks b → Text.wordEnds u = true →
      Text.wordEnds (b ++ u) = true := by
    intro b u hb hu
    cases b with
    | nil => exact hu
    | cons c b => simp [Text.wordEnds, Text.isWord_of_isBlank (hb c List.mem_cons_self)]
  cases h with
  | bare hb => exact hblanks hb (by cases q <;> rfl)
  | parenthesis hb _ =>
    rw [List.append_assoc]
    exact hblanks hb rfl

end IsOpening

/-- No gap stands in front of the first argument. -/
theorem dropWhile_isGap_rest (t : Text) :
    (read t).rest.dropWhile Quoted.isGap = (read t).rest := by
  have htrim : ∀ u : Text, (Text.trimStart u).dropWhile Quoted.isGap = Text.trimStart u :=
    fun u => Quoted.dropWhile_isGap (Text.isBlank_of_head?_trimStart u)
  rw [read]
  split
  · exact htrim _
  · exact htrim t

end ArgumentOpening

theorem Text.isWord_of_mem_gem : ∀ c ∈ "gem".toList, Text.isWord c = true :=
  List.all_eq_true.1 (by decide)

theorem isQuiet_gem : Text.IsQuiet "gem".toList :=
  Text.isQuiet_of_forall (by decide) (by decide) (by decide) Text.isWord_of_mem_gem

/-! ## Dependency calls -/

theorem Text.toNat_of_startsIdentifier {c : Char} (hc : Text.startsIdentifier c = true) :
    65 ≤ c.toNat ∧ c.toNat ≤ 122 := by
  rw [Text.startsIdentifier, Bool.or_eq_true, beq_iff_eq] at hc
  rcases hc with hc | rfl
  · have hletters : ('A'.val.toNat, 'Z'.val.toNat, 'a'.val.toNat, 'z'.val.toNat) =
        (65, 90, 97, 122) := by decide
    simp only [Prod.mk.injEq] at hletters
    change (decide ('A'.val ≤ c.val ∧ c.val ≤ 'Z'.val) ||
      (decide ('a'.val ≤ c.val) && decide (c.val ≤ 'z'.val))) = true at hc
    simp only [Bool.or_eq_true, Bool.and_eq_true, decide_eq_true_eq, UInt32.le_iff_toNat_le] at hc
    have hval : c.toNat = c.val.toNat := rfl
    omega
  · decide

theorem Text.isWord_of_startsIdentifier {c : Char} (hc : Text.startsIdentifier c = true) :
    Text.isWord c = true := by
  have hascii := Text.toNat_of_startsIdentifier hc
  rw [Text.isWord, if_pos (by omega), Text.isAsciiWord, Char.isAlphanum]
  simp only [Text.startsIdentifier, Bool.or_eq_true] at hc ⊢
  tauto

theorem Text.isBlank_of_startsIdentifier {c : Char} (hc : Text.startsIdentifier c = true) :
    Text.isBlank c = false := by
  have hascii := Text.toNat_of_startsIdentifier hc
  simp only [Text.isBlank, Bool.or_eq_false_iff, Bool.and_eq_false_iff, decide_eq_false_iff_not,
    beq_eq_false_iff_ne]
  omega

/-- An object on which dependencies are declared: an identifier of word characters. -/
def IsReceiver (w : Text) : Prop :=
  ∃ c r, w = c :: r ∧ Text.startsIdentifier c = true ∧ ∀ d ∈ r, Text.isWord d = true

theorem IsReceiver.isWord {w : Text} (h : IsReceiver w) : ∀ c ∈ w, Text.isWord c = true := by
  obtain ⟨c, r, rfl, hc, hr⟩ := h
  exact List.forall_mem_cons.2 ⟨Text.isWord_of_startsIdentifier hc, hr⟩

/-- A call's text up to the end of its method name. -/
def DependencyCall.head (call : DependencyCall) : Text :=
  call.receiver ++ ".add_".toList ++ call.scope ++ "dependency".toList

/-- A receiver that is a word, and one of the scopes. -/
def DependencyCall.IsProper (call : DependencyCall) : Prop :=
  IsReceiver call.receiver ∧ call.scope ∈ dependencyScopes

theorem eq_of_dependencyCall? {t : Text} {call : DependencyCall}
    (h : dependencyCall? t = some call) :
    call.IsProper ∧ t = call.head ++ call.rest ∧ Text.wordEnds call.rest = true := by
  unfold dependencyCall? at h
  split at h
  · simp at h
  · rename_i c r
    rw [Option.ite_none_right_eq_some] at h
    obtain ⟨hc, h⟩ := h
    split at h
    · simp at h
    · rename_i s hs
      rw [Text.isPrefixOf?_eq_some_iff] at hs
      obtain ⟨scope, hscope, h⟩ := List.exists_of_findSome?_eq_some h
      split at h
      · rename_i u hu
        rw [Text.isPrefixOf?_eq_some_iff] at hu
        rw [Option.ite_none_right_eq_some] at h
        obtain ⟨hends, h⟩ := h
        cases h
        have hr : r = r.takeWhile Text.isWord ++ (".add_".toList ++ s) := by
          rw [← hs, List.takeWhile_append_dropWhile]
        refine ⟨⟨⟨c, _, rfl, hc, List.all_eq_true.1 List.all_takeWhile⟩, hscope⟩, ?_, hends⟩
        rw [DependencyCall.head]
        conv => lhs; rw [hr, hu]
        simp only [List.cons_append, List.append_assoc]
      · simp at h

/-- A call is read as it was written when its method name ends as a word. -/
theorem dependencyCall?_head {call : DependencyCall} (hcall : call.IsProper) {u : Text}
    (hu : Text.wordEnds u = true) :
    dependencyCall? (call.head ++ u) = some { call with rest := u } := by
  obtain ⟨receiver, scope, rest⟩ := call
  obtain ⟨⟨c, r, rfl, hc, hr⟩, hscope⟩ := hcall
  change scope ∈ dependencyScopes at hscope
  have htake : ∀ t, (r ++ '.' :: t).takeWhile Text.isWord = r := by
    intro t
    rw [List.takeWhile_append_of_pos hr, List.takeWhile_cons_of_neg (by decide), List.append_nil]
  have hdrop : ∀ t, (r ++ '.' :: t).dropWhile Text.isWord = '.' :: t := by
    intro t
    rw [List.dropWhile_append_of_pos hr, List.dropWhile_cons_of_neg (by decide)]
  have hhead : DependencyCall.head ⟨c :: r, scope, rest⟩ ++ u =
      c :: (r ++ '.' :: ("add_".toList ++ (scope ++ "dependency".toList ++ u))) := by
    simp [DependencyCall.head]
  have hadd : ".add_".toList.isPrefixOf?
      ('.' :: ("add_".toList ++ (scope ++ "dependency".toList ++ u))) =
        some (scope ++ "dependency".toList ++ u) :=
    Text.isPrefixOf?_eq_some_iff.2 rfl
  rw [hhead, dependencyCall?, if_pos hc, hdrop, hadd, htake]
  simp only [dependencyScopes, List.mem_cons, List.not_mem_nil, or_false] at hscope
  have hfound : ∀ s : Text, (s ++ "dependency".toList).isPrefixOf?
      (s ++ "dependency".toList ++ u) = some u := fun s => Text.isPrefixOf?_eq_some_iff.2 rfl
  -- A scope in front of the one that was written differs from it in some character.
  rcases hscope with rfl | rfl | rfl
  · have hruntime := hfound "runtime_".toList
    simp only [dependencyScopes, List.findSome?_cons, hruntime, if_pos hu]
  · have hruntime : ("runtime_".toList ++ "dependency".toList).isPrefixOf?
        ("development_".toList ++ "dependency".toList ++ u) = none := rfl
    simp only [dependencyScopes, List.findSome?_cons, hruntime, hfound, if_pos hu]
  · have hruntime : ("runtime_".toList ++ "dependency".toList).isPrefixOf?
        ([] ++ "dependency".toList ++ u) = none := rfl
    have hdevelopment : ("development_".toList ++ "dependency".toList).isPrefixOf?
        ([] ++ "dependency".toList ++ u) = none := rfl
    simp only [dependencyScopes, List.findSome?_cons, hruntime, hdevelopment, hfound, if_pos hu]

theorem DependencyCall.IsProper.isQuiet_head {call : DependencyCall} (hcall : call.IsProper) :
    Text.IsQuiet call.head := by
  have hreceiver : Text.IsQuiet call.receiver :=
    Text.isQuiet_of_forall (by decide) (by decide) (by decide) hcall.1.isWord
  have hplain : ∀ t : Text, t.all (fun c => Text.isWord c || c == '.') = true → Text.IsQuiet t :=
    fun t ht => Text.isQuiet_of_forall (by decide) (by decide) (by decide) (List.all_eq_true.1 ht)
  have hscope : ∀ s ∈ dependencyScopes, Text.IsQuiet s := by
    simp only [dependencyScopes, List.forall_mem_cons, List.not_mem_nil, false_implies,
      implies_true, and_true]
    exact ⟨hplain _ (by decide), hplain _ (by decide), hplain _ (by decide)⟩
  exact ((hreceiver.append (hplain _ (by decide))).append (hscope _ hcall.2)).append
    (hplain _ (by decide))

/-! ## Calls -/

/-- The words that call a statement of a manifest of some kind, with the object on which it is
called and whether it is for development alone. -/
inductive IsCall : Kind → Text → Option Text → Bool → Prop
  | gem : IsCall .gemfile "gem".toList none false
  | dependency {call : DependencyCall} (hcall : call.IsProper) :
      IsCall .gemspec call.head (some call.receiver) (call.scope == "development_".toList)

theorem IsCall.isQuiet {kind : Kind} {called : Text} {receiver : Option Text} {development : Bool}
    (h : IsCall kind called receiver development) : Text.IsQuiet called := by
  cases h with
  | gem => exact isQuiet_gem
  | dependency hcall => exact hcall.isQuiet_head

end GemDeps
