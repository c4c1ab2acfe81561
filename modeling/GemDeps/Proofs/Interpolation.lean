import GemDeps.Proofs.WrittenStatements

/-!
# Interpolation in written statements

`#` and an opening brace in a literal between double quotes are evaluated when the manifest runs. A
string is written with backslashes in front of quotes and backslashes only, so it is evaluated
between double quotes when it has the two in it (`contributes_wrap`). The checks keep them out
of names, versions, groups and platforms, but not out of a source or a path to load
(`interpolates_written_iff`).
-/

namespace GemDeps

/-- Some `#` and opening brace stand in a literal between double quotes, with no backslash that
protects the first of them. -/
def Interpolates (t : Text) : Prop :=
  ∃ a b, t = a ++ '#' :: '{' :: b ∧ Zone.run .code a = .literal .double

/-- Does a text that starts in a zone interpolate? -/
def interpolatesFrom (z : Zone) : Text → Bool
  | [] => false
  | c :: t =>
    (z = .literal .double && ['#', '{'].isPrefixOf (c :: t)) || interpolatesFrom (z.next c) t

theorem interpolatesFrom_iff {z : Zone} {t : Text} : interpolatesFrom z t = true ↔
    ∃ a b, t = a ++ '#' :: '{' :: b ∧ z.run a = .literal .double := by
  induction t generalizing z with
  | nil => simp [interpolatesFrom]
  | cons c t ih =>
    rw [interpolatesFrom, Bool.or_eq_true, Bool.and_eq_true, decide_eq_true_eq,
      List.isPrefixOf_iff_prefix, ih]
    constructor
    · rintro (⟨hz, b, hb⟩ | ⟨a, b, ht, ha⟩)
      · exact ⟨[], b, hb.symm, hz⟩
      · exact ⟨c :: a, b, by rw [ht]; rfl, ha⟩
    · rintro ⟨a, b, ht, ha⟩
      cases a with
      | nil => exact .inl ⟨ha, b, ht.symm⟩
      | cons d a =>
        obtain ⟨rfl, htail⟩ := List.cons.inj ht
        exact .inr ⟨a, b, htail, ha⟩

theorem interpolates_iff {t : Text} : Interpolates t ↔ interpolatesFrom .code t = true :=
  interpolatesFrom_iff.symm

/-! ## Parts of a statement -/

/-- A part of the code that is code again behind it: it interpolates or not, and what follows does
as it does alone. -/
def Contributes (p : Text) (b : Bool) : Prop :=
  ∀ t, interpolatesFrom .code (p ++ t) = (b || interpolatesFrom .code t)

namespace Contributes

variable {p p' : Text} {b b' : Bool}

theorem eq (h : Contributes p b) : interpolatesFrom .code p = b := by
  have := h []
  rwa [List.append_nil, interpolatesFrom, Bool.or_false] at this

theorem nil : Contributes [] false := fun _ => rfl

theorem append (h : Contributes p b) (h' : Contributes p' b') :
    Contributes (p ++ p') (b || b') := by
  intro t
  rw [List.append_assoc, h, h', Bool.or_assoc]

theorem of_isQuiet (h : Text.IsQuiet p) : Contributes p false := by
  intro t
  induction p with
  | nil => rfl
  | cons c p ih =>
    obtain ⟨hc, hp⟩ := List.forall_mem_cons.1 h
    have hnext : Zone.next .code c = .code := by rw [Zone.next, hc.2]
    rw [List.cons_append, interpolatesFrom, hnext, ih hp]
    rfl

end Contributes

/-- A fixed text without `#` and quotes. -/
theorem contributes_fixed {p : Text}
    (h : p.all (fun c => c != '#' && (QuoteStyle.ofMark? c).isNone) = true) :
    Contributes p false :=
  .of_isQuiet (Text.isQuiet_of_forall (by decide) (by decide) (by decide) (List.all_eq_true.1 h))

/-! ## Written strings -/

theorem isDynamic_cons (c : Char) (s : Text) : Statement.isDynamic (c :: s) =
    (['#', '{'].isPrefixOf (c :: s) || Statement.isDynamic s) := rfl

/-- The two characters start a written string when they start the string. -/
theorem isPrefixOf_escape (q : QuoteStyle) (c : Char) (s t : Text) :
    ['#', '{'].isPrefixOf (c :: (q.escape s ++ q.mark :: t)) = ['#', '{'].isPrefixOf (c :: s) := by
  have hbrace : ∀ d, d = q.mark ∨ d = '\\' → ('{' == d) = false := by
    rintro d (rfl | rfl)
    · cases q <;> rfl
    · rfl
  show ('#' == c && ['{'].isPrefixOf _) = ('#' == c && ['{'].isPrefixOf s)
  refine congrArg ('#' == c && ·) ?_
  cases s with
  | nil =>
    show ('{' == q.mark && _) = false
    rw [hbrace _ (.inl rfl), Bool.false_and]
  | cons d s =>
    rw [QuoteStyle.escape]
    split
    · rename_i hd
      show ('{' == '\\' && _) = ('{' == d && _)
      rw [hbrace _ (.inr rfl), hbrace d (by simpa using hd), Bool.false_and, Bool.false_and]
    · rfl

/-- What is evaluated in a written string: the two characters, since no backslash is put in front of
them. -/
theorem interpolatesFrom_escape (q : QuoteStyle) (s t : Text) :
    interpolatesFrom (.literal q) (q.escape s ++ q.mark :: t) =
      ((q == .double && Statement.isDynamic s) || interpolatesFrom .code t) := by
  have hstyle : decide (Zone.literal q = .literal .double) = (q == .double) := by
    cases q <;> rfl
  induction s with
  | nil => cases q <;> rfl
  | cons c s ih =>
    rw [QuoteStyle.escape, isDynamic_cons]
    split
    · rename_i hc
      have hhash : ('#' == c) = false := by
        rcases (by simpa using hc : c = q.mark ∨ c = '\\') with rfl | rfl
        · cases q <;> rfl
        · rfl
      have hprefix : ['#', '{'].isPrefixOf (c :: s) = false := by
        show ('#' == c && _) = false
        rw [hhash, Bool.false_and]
      have hnext : Zone.next (.literal q) '\\' = .escape q := rfl
      rw [List.cons_append, List.cons_append, interpolatesFrom, interpolatesFrom, hnext, hprefix,
        Bool.false_or]
      show (_ && false || (false && _ || interpolatesFrom (.literal q) _)) = _
      rw [ih, Bool.and_false, Bool.false_and, Bool.false_or, Bool.false_or]
    · rename_i hc
      obtain ⟨hmark, hslash⟩ : c ≠ q.mark ∧ c ≠ '\\' := by simpa using hc
      have hnext : Zone.next (.literal q) c = .literal q := (if_neg hslash).trans (if_neg hmark)
      rw [List.cons_append, interpolatesFrom, hnext, hstyle, isPrefixOf_escape, ih,
        Bool.and_or_distrib_left, Bool.or_assoc]

theorem contributes_wrap (q : QuoteStyle) (s : Text) :
    Contributes (q.wrap s) (q == .double && Statement.isDynamic s) := by
  intro t
  rw [QuoteStyle.wrap, List.cons_append, List.append_assoc, interpolatesFrom, next_code_mark]
  exact interpolatesFrom_escape q s t

theorem contributes_commaSeparated {ps : List Text} (h : ∀ p ∈ ps, ∃ b, Contributes p b) :
    Contributes (commaSeparated ps) (ps.any (interpolatesFrom .code)) := by
  have hcomma : Contributes ", ".toList false :=
    contributes_fixed (by decide)
  induction ps with
  | nil => exact .nil
  | cons p ps ih =>
    obtain ⟨⟨b, hb⟩, hps⟩ := List.forall_mem_cons.1 h
    rw [List.any_cons, hb.eq]
    cases ps with
    | nil =>
      rw [commaSeparated_singleton, List.any_nil, Bool.or_false]
      exact hb
    | cons q ps =>
      rw [commaSeparated_cons_cons]
      exact hb.append (hcomma.append (ih hps))

theorem any_eq_false_of_contributes {ps : List Text} (h : ∀ p ∈ ps, Contributes p false) :
    ps.any (interpolatesFrom .code) = false := by
  rw [List.any_eq_false]
  intro p hp
  rw [(h p hp).eq]
  exact Bool.false_ne_true

/-! ## Statements -/

/-- A checked version has no `#`. -/
theorem hash_notMem_constraint {v : Text} {op : Option Operator}
    (h : checkVersion v op = .ok ()) : '#' ∉ versionConstraint v op := by
  obtain ⟨own, hown⟩ := exists_ownOperator?_of_checkVersion h
  have hclass : ∀ {p : Char → Bool} {c : Char}, p '#' = false → p c = true → c ≠ '#' := by
    rintro p c hp hc rfl
    rw [hp] at hc
    cases hc
  have hoperators : ∀ op ∈ ownOperators, List.contains op '#' = false := by decide
  have htrim : '#' ∉ v.trim := by
    refine fun hmem => (forall_of_ownOperator? (P := (· ≠ '#')) (fun c => hclass (by decide))
      (fun c => hclass (by decide)) ?_ hown).2 _ hmem rfl
    rintro op hop c hc rfl
    exact absurd (List.contains_iff_mem.2 hc) (ne_true_of_eq_false (hoperators op hop))
  cases op with
  | none => exact htrim
  | some op =>
    rw [versionConstraint, List.mem_append, List.mem_cons]
    rintro (hop | hspace | hv)
    · revert hop
      cases op <;> decide
    · cases hspace
    · exact htrim hv

section Written

variable {name : Text} {o : DeclarationOptions} (q : QuoteStyle)

theorem contributes_wrap_of_notMem {s : Text} (h : '#' ∉ s) : Contributes (q.wrap s) false := by
  have hstatic : Statement.isDynamic s = false := contains_eq_false (c := '#') (by decide) h
  have hwrap := contributes_wrap q s
  rwa [hstatic, Bool.and_false] at hwrap

theorem contributes_symbolText {g : Text} (h : isSymbolName g = true) :
    Contributes (symbolText g q) false := by
  have hclass := forall_of_isSymbolName h
  have hcolon : Contributes [':'] false := contributes_fixed (by decide)
  unfold symbolText
  split
  · exact hcolon.append <| .of_isQuiet <|
      Text.isQuiet_of_forall (by decide) (by decide) (by decide) hclass
  · exact hcolon.append (contributes_wrap_of_notMem q (not_mem_of_class hclass (by decide)))

theorem contributes_symbols {names : List Text} (h : ∀ g ∈ names, isSymbolName g = true) :
    Contributes (commaSeparated (names.map (symbolText · q))) false := by
  have hall : ∀ p ∈ names.map (symbolText · q), Contributes p false := by
    intro p hp
    obtain ⟨g, hg, rfl⟩ := List.mem_map.1 hp
    exact contributes_symbolText q (h g hg)
  have hjoin := contributes_commaSeparated fun p hp => ⟨false, hall p hp⟩
  rwa [any_eq_false_of_contributes hall] at hjoin

theorem contributes_groupLine {groups : List Text} (h : ∀ g ∈ groups, isSymbolName g = true) :
    Contributes (groupLine groups q) false := by
  have hopening : Contributes "group ".toList false := contributes_fixed (by decide)
  exact (hopening.append (contributes_symbols q h)).append (contributes_fixed (by decide))

theorem contributes_platformsPart {names : List Text} (h : ∀ g ∈ names, isSymbolName g = true) :
    ∀ p ∈ platformsPart names q, Contributes p false := by
  unfold platformsPart
  split
  · exact fun p hp => absurd hp List.not_mem_nil
  · rename_i name
    refine List.forall_mem_singleton.2 (.append (contributes_fixed (by decide)) ?_)
    exact contributes_symbolText q (h name List.mem_cons_self)
  · have hopening : Contributes "platforms: [".toList false := contributes_fixed (by decide)
    refine List.forall_mem_singleton.2 ?_
    exact (hopening.append (contributes_symbols q h)).append (contributes_fixed (by decide))

theorem contributes_constraint (h : ∀ v ∈ o.version, checkVersion v o.operator = .ok ()) :
    ∀ p ∈ o.constraint?.map q.wrap, Contributes p false := by
  intro p hp
  obtain ⟨c, hc, rfl⟩ := Option.map_eq_some_iff.1 hp
  obtain ⟨v, hv, rfl⟩ := Option.map_eq_some_iff.1 hc
  exact contributes_wrap_of_notMem q (hash_notMem_constraint (h v hv))

theorem contributes_name (hname : isGemName name = true) : Contributes (q.wrap name) false :=
  contributes_wrap_of_notMem q (hash_notMem_of_isGemName hname)

theorem contributes_sourcePart (source : Text) :
    Contributes (sourcePart source q) (q == .double && Statement.isDynamic source) := by
  have hkey : Contributes (Origin.ofSource source).key false := by
    cases Origin.ofSource source <;> exact contributes_fixed (by decide)
  exact (hkey.append (contributes_fixed (by decide))).append (contributes_wrap q source)

theorem contributes_requirePart (r : RequireOption) :
    Contributes (requirePart r q) (q == .double && r.path?.any Statement.isDynamic) := by
  cases r with
  | disabled =>
    have hfixed : Contributes "require: false".toList false := contributes_fixed (by decide)
    rwa [RequireOption.path?, Option.any_none, Bool.and_false]
  | path p =>
    have hkey : Contributes "require: ".toList false := contributes_fixed (by decide)
    exact hkey.append (contributes_wrap q p)

/-- What an optional part adds that is written from a string or more. -/
theorem any_toList_map {α : Type} {x : Option α} {write : α → Text} {dynamic : α → Bool}
    (h : ∀ a, Contributes (write a) (q == .double && dynamic a)) :
    (x.map write).toList.any (interpolatesFrom .code) = (q == .double && x.any dynamic) := by
  cases x with
  | none => exact (Bool.and_false _).symm
  | some a =>
    show (interpolatesFrom .code (write a) || false) = _
    rw [(h a).eq, Bool.or_false]
    rfl

theorem interpolatesFrom_gemStatement (h : IsChecked name o) :
    interpolatesFrom .code (gemStatement name o q) = (q == .double &&
      (o.source.any Statement.isDynamic ||
        o.require.any fun r => r.path?.any Statement.isDynamic)) := by
  have hname : Contributes ("gem ".toList ++ q.wrap name) false :=
    .append (contributes_fixed (by decide)) (contributes_name q h.name)
  have hfixed : ∀ p ∈ ["gem ".toList ++ q.wrap name] ++ (o.constraint?.map q.wrap).toList ++
      platformsPart o.platforms q, Contributes p false := by
    simp only [List.forall_mem_append, List.forall_mem_singleton, Option.mem_toList]
    exact ⟨⟨hname, contributes_constraint q h.version⟩, contributes_platformsPart q h.platforms⟩
  have hsource : ∀ p ∈ (o.source.map (sourcePart · q)).toList, ∃ b, Contributes p b :=
    forall_mem_toList_map fun source _ => ⟨_, contributes_sourcePart q source⟩
  have hrequire : ∀ p ∈ (o.require.map (requirePart · q)).toList, ∃ b, Contributes p b :=
    forall_mem_toList_map fun r _ => ⟨_, contributes_requirePart q r⟩
  have hjoin : Contributes (gemStatement name o q) _ :=
    contributes_commaSeparated <| List.forall_mem_append.2
      ⟨List.forall_mem_append.2 ⟨fun p hp => ⟨false, hfixed p hp⟩, hsource⟩, hrequire⟩
  rw [hjoin.eq, List.any_append, List.any_append, any_eq_false_of_contributes hfixed,
    any_toList_map q (contributes_sourcePart q), any_toList_map q (contributes_requirePart q),
    Bool.false_or, Bool.and_or_distrib_left]

theorem interpolatesFrom_dependencyStatement (hname : isGemName name = true)
    (hversion : ∀ v ∈ o.version, checkVersion v o.operator = .ok ()) {receiver : Text}
    (hreceiver : IsReceiver receiver) :
    interpolatesFrom .code (dependencyStatement receiver name o q) = false := by
  have hword : Contributes receiver false :=
    .of_isQuiet (Text.isQuiet_of_forall (by decide) (by decide) (by decide) hreceiver.isWord)
  have hmethod : Contributes (if o.isDevelopment then ".add_development_dependency ".toList
      else ".add_dependency ".toList) false := by
    split <;> exact contributes_fixed (by decide)
  have hall : ∀ p ∈ [receiver ++
      (if o.isDevelopment then ".add_development_dependency ".toList
        else ".add_dependency ".toList) ++ q.wrap name] ++ (o.constraint?.map q.wrap).toList,
      Contributes p false := by
    simp only [List.forall_mem_append, List.forall_mem_singleton, Option.mem_toList]
    exact ⟨(hword.append hmethod).append (contributes_name q hname),
      contributes_constraint q hversion⟩
  have hjoin : Contributes (dependencyStatement receiver name o q) _ :=
    contributes_commaSeparated fun p hp => ⟨false, hall p hp⟩
  rw [hjoin.eq, any_eq_false_of_contributes hall]

end Written

/-! ## What is evaluated -/

/-- Of the inputs that pass their checks only a source and a path to load are ever evaluated: the
statement of a gem interpolates when it is written between double quotes and one of the two has `#`
and an opening brace in it; a dependency and the line that opens a block never do. -/
theorem interpolates_written_iff {name : Text} {o : DeclarationOptions}
    (h : checkOptions name o = .ok ()) (q : QuoteStyle) :
    (Interpolates (gemStatement name o q) ↔ q = .double ∧
      ((∃ source ∈ o.source, Statement.isDynamic source = true) ∨
        ∃ p, o.require = some (.path p) ∧ Statement.isDynamic p = true)) ∧
      (∀ receiver, IsReceiver receiver →
        ¬ Interpolates (dependencyStatement receiver name o q)) ∧
      ¬ Interpolates (groupLine o.groups q) := by
  have hchecked := isChecked_of_checkOptions h
  refine ⟨?_, ?_, ?_⟩
  · have hpath : (o.require.any fun r => r.path?.any Statement.isDynamic) = true ↔
        ∃ p, o.require = some (.path p) ∧ Statement.isDynamic p = true := by
      cases o.require with
      | none => simp
      | some r => cases r <;> simp [RequireOption.path?]
    rw [interpolates_iff, interpolatesFrom_gemStatement q hchecked, Bool.and_eq_true,
      beq_iff_eq, Bool.or_eq_true, Option.any_eq_true, hpath]
    rfl
  · intro receiver hreceiver
    rw [interpolates_iff, interpolatesFrom_dependencyStatement q hchecked.name hchecked.version
      hreceiver]
    exact Bool.false_ne_true
  · rw [interpolates_iff, (contributes_groupLine q hchecked.groups).eq]
    exact Bool.false_ne_true

/-- A path that passes its check and is evaluated when the manifest runs. -/
theorem gemStatement_evaluated :
    checkOptions "x".toList ⟨none, none, [], [], none, some (.path "lib/#\x7by\x7d".toList)⟩ =
        .ok () ∧
      gemStatement "x".toList ⟨none, none, [], [], none, some (.path "lib/#\x7by\x7d".toList)⟩
        .double = "gem \"x\", require: \"lib/#\x7by\x7d\"".toList ∧
      Interpolates (gemStatement "x".toList
        ⟨none, none, [], [], none, some (.path "lib/#\x7by\x7d".toList)⟩ .double) :=
  ⟨by decide, by decide, "gem \"x\", require: \"lib/".toList, "y\x7d\"".toList, by decide,
    by decide⟩

/-- The same path in quotes of either style. -/
theorem interpolates_written_iff_path :
    Interpolates (gemStatement "x".toList
        ⟨none, none, [], [], none, some (.path "lib/#\x7by\x7d".toList)⟩ .double) ∧
      ¬ Interpolates (gemStatement "x".toList
        ⟨none, none, [], [], none, some (.path "lib/#\x7by\x7d".toList)⟩ .single) := by
  have hcheck : checkOptions "x".toList
      ⟨none, none, [], [], none, some (.path "lib/#\x7by\x7d".toList)⟩ = .ok () := by decide
  refine ⟨(interpolates_written_iff hcheck .double).1.2 ⟨rfl, .inr ⟨_, rfl, by decide⟩⟩, ?_⟩
  intro hsingle
  cases ((interpolates_written_iff hcheck .single).1.1 hsingle).1

end GemDeps
