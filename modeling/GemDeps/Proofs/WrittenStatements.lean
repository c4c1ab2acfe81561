import GemDeps.Proofs.BlockDepth
import GemDeps.Proofs.ReaderRun
import GemDeps.Proofs.WrittenArguments

/-!
# Reading written statements

A statement that is written is read as the statement it was meant to be: `readGem?_gemStatement`,
`readDependency?_dependencyStatement`. Its constraint comes back as its requirement and its options
with their values (`requirement_ofGem`, `optionNames_ofGem`, `ownSource?_ofGem`, `require_ofGem`),
and a written group line names its groups (`groupOpening?_groupLine`).
-/

namespace GemDeps

/-! ## Arguments behind a name -/

/-- Arguments behind a name, each after a comma. -/
def argumentsTail (ps : List Text) : Text := ps.flatMap (", ".toList ++ ·)

theorem commaSeparated_cons (p : Text) (ps : List Text) :
    commaSeparated (p :: ps) = p ++ argumentsTail ps := by
  induction ps generalizing p with
  | nil => rw [commaSeparated_singleton, argumentsTail, List.flatMap_nil, List.append_nil]
  | cons q ps ih =>
    rw [commaSeparated_cons_cons, ih, argumentsTail, argumentsTail, List.flatMap_cons,
      List.append_assoc]

theorem argumentsTail_cons (p : Text) (ps : List Text) :
    argumentsTail (p :: ps) = ", ".toList ++ commaSeparated (p :: ps) := by
  rw [commaSeparated_cons, argumentsTail, List.flatMap_cons, List.append_assoc]
  rfl

/-- The arguments behind a name are read as they were written. -/
theorem splitArguments_argumentsTail {s : Statement} {ps : List Text}
    (hps : ∀ p ∈ ps, IsArgument p) (hrest : s.rest = argumentsTail ps)
    (hparen : s.parenthesized = false) : splitArguments s.arguments = ps := by
  have htext : s.argumentText = stripComment s.rest := by
    unfold Statement.argumentText
    rw [hparen]
    rfl
  cases ps with
  | nil =>
    have hnil : s.argumentText = [] := by
      rw [htext, hrest]
      rfl
    rw [Statement.arguments_of_isBlanks (by rw [hnil]; exact List.forall_mem_nil _), hnil]
    rfl
  | cons p ps =>
    have hcode := (isFlat_separator.isUncommented.append
      (isUncommented_commaSeparated fun q hq => (hps q hq).toIsItem)) []
    rw [List.append_nil, ← argumentsTail_cons, ← hrest, ← htext,
      show stripComment [] = [] from rfl, List.append_nil, hrest, argumentsTail_cons] at hcode
    have hcomma : Text.trimStart s.argumentText = ',' :: ([' '] ++ commaSeparated (p :: ps)) := by
      rw [hcode]
      exact Text.trimStart_cons (by decide) _
    rw [Statement.arguments_of_comma hcomma,
      splitArguments_blanks isBlanks_space,
      splitArguments_commaSeparated hps]

/-! ## Names -/

theorem Text.contains_iff_isInfix {p t : Text} : Text.contains p t = true ↔ p <:+: t := by
  induction t with
  | nil => rw [Text.contains, List.isEmpty_iff, List.infix_nil]
  | cons c t ih =>
    rw [Text.contains, Bool.or_eq_true, ih, List.isPrefixOf_iff_prefix, List.infix_cons_iff]

theorem contains_eq_false {p t : Text} {c : Char} (hp : c ∈ p) (ht : c ∉ t) :
    Text.contains p t = false := by
  rw [Bool.eq_false_iff, ne_eq, Text.contains_iff_isInfix]
  intro h
  exact ht (h.subset hp)

theorem ArgumentOpening.read_space (q : QuoteStyle) (w : Text) :
    read (' ' :: q.mark :: w) = ⟨[' '], false, q.mark :: w⟩ := by
  cases q <;> rfl

section Name

variable {name : Text} (hname : isGemName name = true)

include hname

theorem isDynamic_of_isGemName : Statement.isDynamic name = false :=
  contains_eq_false (c := '#') (by decide) (hash_notMem_of_isGemName hname)

theorem escape_of_isGemName (q : QuoteStyle) : q.escape name = name :=
  escape_of_isBare (isBare_of_isGemName hname) q

/-- A keyword, a space and a written name are read as a statement with this name. -/
theorem finish?_of_isGemName (indent called : Text) (receiver : Option Text) (development : Bool)
    (q : QuoteStyle) (rest : Text) :
    Statement.finish? indent called receiver development
        (ArgumentOpening.read (' ' :: (q.wrap name ++ rest))) =
      some ⟨indent, called ++ [' '], receiver, q, name, rest, false, development⟩ := by
  have hopening : ArgumentOpening.read (' ' :: (q.wrap name ++ rest)) =
      ⟨[' '], false, q.mark :: (name ++ q.mark :: rest)⟩ := by
    rw [wrap_eq (escape_of_isGemName hname q), List.cons_append, List.append_assoc]
    exact ArgumentOpening.read_space q _
  rw [hopening]
  exact Statement.finish?_of_literal rfl (leaves_constraint (escape_of_isGemName hname q))
    (forall_of_isGemName hname).1 (isDynamic_of_isGemName hname)

end Name

/-! ## Gem statements -/

/-- The options of a written `gem` statement. -/
def DeclarationOptions.optionParts (o : DeclarationOptions) (q : QuoteStyle) : List Text :=
  platformsPart o.platforms q ++ (o.source.map (sourcePart · q)).toList ++
    (o.require.map (requirePart · q)).toList

/-- The arguments behind the name of a written `gem` statement. -/
def DeclarationOptions.parts (o : DeclarationOptions) (q : QuoteStyle) : List Text :=
  (o.constraint?.map q.wrap).toList ++ o.optionParts q

/-- A written `gem` statement behind some blanks. -/
def Statement.ofGem (indent name : Text) (o : DeclarationOptions) (q : QuoteStyle) : Statement :=
  ⟨indent, "gem ".toList, none, q, name, argumentsTail (o.parts q), false, false⟩

theorem gemStatement_eq (name : Text) (o : DeclarationOptions) (q : QuoteStyle) :
    gemStatement name o q = "gem ".toList ++ (q.wrap name ++ argumentsTail (o.parts q)) := by
  have hparts : gemStatement name o q =
      commaSeparated (("gem ".toList ++ q.wrap name) :: o.parts q) := by
    unfold gemStatement DeclarationOptions.parts DeclarationOptions.optionParts
    simp only [List.append_assoc, List.cons_append, List.nil_append]
  rw [hparts, commaSeparated_cons, List.append_assoc]

theorem readGem?_gemStatement {indent name : Text} (hindent : Text.IsBlanks indent)
    (hname : isGemName name = true) (o : DeclarationOptions) (q : QuoteStyle) :
    Statement.readGem? (indent ++ gemStatement name o q) = some (.ofGem indent name o q) := by
  rw [gemStatement_eq]
  refine (Statement.readGem?_of_keyword hindent
    (r := ' ' :: (q.wrap name ++ argumentsTail (o.parts q))) rfl).trans ?_
  exact finish?_of_isGemName hname ..

/-! ### Options -/

/-- A written option. -/
structure IsOption (p key value : Text) : Prop where
  eq : p = key ++ (':' :: ' ' :: value)
  key : Text.isIdentifier key = true
  value : IsArgument value

namespace IsOption

variable {p key value : Text} (h : IsOption p key value)

include h

theorem isArgument : IsArgument p := h.eq ▸ isArgument_option h.key h.value

theorem pair?_eq : Value.pair? p = some (key, Value.read value) := by
  rw [h.eq, Value.pair?_option h.key h.value]

theorem versions?_eq : (Value.read p).versions? = none := by
  rw [h.eq, versions?_option h.key h.value]

end IsOption

/-- The option that names the platforms is written when there are any. -/
theorem platformsPart_eq (names : List Text) (q : QuoteStyle) :
    (platformsPart names q = [] ∧ names = []) ∨
      ∃ p value, platformsPart names q = [p] ∧ IsOption p "platforms".toList value ∧
        ((∀ name ∈ names, q.escape name = name) → (Value.read value).names = names) := by
  unfold platformsPart
  split
  · exact .inl ⟨rfl, rfl⟩
  · rename_i name
    refine .inr ⟨_, symbolText name q, rfl, ⟨rfl, by decide, isArgument_symbolText name q⟩,
      fun h => ?_⟩
    rw [Value.read_symbolText (h name List.mem_cons_self)]
    rfl
  · have hlist := isArgument_list fun p hp => (isArgument_symbols names q p hp).toIsItem
    refine .inr ⟨_, _, rfl, ⟨?_, by decide, hlist⟩, fun h => ?_⟩
    · rw [List.append_assoc]
      rfl
    · rw [Value.read_symbols h, Value.names, List.filterMap_map]
      exact List.filterMap_some

theorem isOption_sourcePart (source : Text) (q : QuoteStyle) :
    IsOption (sourcePart source q) (Origin.ofSource source).key (q.wrap source) where
  eq := by
    rw [sourcePart, List.append_assoc]
    rfl
  key := by cases Origin.ofSource source <;> decide
  value := isArgument_wrap q source

/-- What the value of a `require` option is read as. -/
def RequireOption.value (q : QuoteStyle) : RequireOption → Value
  | disabled => .bool false
  | path p => .str (q.escape p)

/-- A `require` option with the backslashes that are written in a path. -/
def RequireOption.escaped (q : QuoteStyle) : RequireOption → RequireOption
  | disabled => disabled
  | path p => path (q.escape p)

theorem requireOf_value (r : RequireOption) (q : QuoteStyle) :
    Gemfile.Options.requireOf (r.value q) = some (r.escaped q) := by
  cases r <;> rfl

theorem isArgument_false : IsArgument "false".toList where
  toIsItem := isItem_of_isIdentifier (by decide)
  trimmed := Text.isTrimmed_of_trim_eq (by decide)
  ne_nil := by decide

theorem isOption_requirePart (r : RequireOption) (q : QuoteStyle) :
    ∃ value, IsOption (requirePart r q) "require".toList value ∧
      Value.read value = r.value q := by
  cases r with
  | disabled =>
    exact ⟨"false".toList, ⟨rfl, by decide, isArgument_false⟩,
      Value.read_eq_readScalar (by decide) rfl rfl⟩
  | path p =>
    exact ⟨q.wrap p, ⟨rfl, by decide, isArgument_wrap q p⟩, Value.read_wrap_escape q p⟩

section Options

variable (o : DeclarationOptions) (q : QuoteStyle)

theorem forall_optionParts :
    ∀ p ∈ o.optionParts q, ∃ key value, IsOption p key value := by
  unfold DeclarationOptions.optionParts
  simp only [List.forall_mem_append]
  refine ⟨⟨?_, ?_⟩, ?_⟩
  · rcases platformsPart_eq o.platforms q with ⟨hnil, -⟩ | ⟨p, value, hpart, hoption, -⟩
    · simp [hnil]
    · rw [hpart]
      exact List.forall_mem_singleton.2 ⟨_, _, hoption⟩
  · exact forall_mem_toList_map fun source _ => ⟨_, _, isOption_sourcePart source q⟩
  · refine forall_mem_toList_map fun r _ => ?_
    obtain ⟨value, hoption, -⟩ := isOption_requirePart r q
    exact ⟨_, _, hoption⟩

theorem isArgument_parts : ∀ p ∈ o.parts q, IsArgument p := by
  unfold DeclarationOptions.parts
  rw [List.forall_mem_append]
  refine ⟨forall_mem_toList_map fun c _ => isArgument_wrap q c, fun p hp => ?_⟩
  obtain ⟨key, value, hoption⟩ := forall_optionParts o q p hp
  exact hoption.isArgument

/-- The constraint comes first, and no option is taken for a constraint. -/
theorem leadingVersions_parts :
    leadingVersions (o.parts q) = ((o.constraint?.map q.escape).toList, o.optionParts q) := by
  have hoptions : leadingVersions (o.optionParts q) = ([], o.optionParts q) := by
    cases hparts : o.optionParts q with
    | nil => rfl
    | cons p ps =>
      obtain ⟨key, value, hoption⟩ := forall_optionParts o q p (by simp [hparts])
      rw [leadingVersions, hoption.versions?_eq]
  unfold DeclarationOptions.parts
  cases o.constraint? with
  | none => exact hoptions
  | some c =>
    show leadingVersions (q.wrap c :: o.optionParts q) = ([q.escape c], o.optionParts q)
    rw [leadingVersions, Value.read_wrap_escape, hoptions]
    rfl

/-- The options of a written statement are read with their keys and values. -/
theorem filterMap_optionParts (h : ∀ p ∈ o.platforms, q.escape p = p) :
    ∃ ps : List (Text × Value), (∀ option ∈ ps, option.1 = "platforms".toList) ∧
      ps.flatMap (·.2.names) = o.platforms ∧
      (o.optionParts q).filterMap Value.pair? = ps ++
        (o.source.map fun s => ((Origin.ofSource s).key, Value.str (q.escape s))).toList ++
        (o.require.map fun r => ("require".toList, r.value q)).toList := by
  have hsource : (o.source.map (sourcePart · q)).toList.filterMap Value.pair? =
      (o.source.map fun s => ((Origin.ofSource s).key, Value.str (q.escape s))).toList := by
    cases o.source with
    | none => rfl
    | some s =>
      rw [Option.map_some, Option.toList_some,
        List.filterMap_cons_some (isOption_sourcePart s q).pair?_eq, Value.read_wrap_escape]
      rfl
  have hrequire : (o.require.map (requirePart · q)).toList.filterMap Value.pair? =
      (o.require.map fun r => ("require".toList, r.value q)).toList := by
    cases o.require with
    | none => rfl
    | some r =>
      obtain ⟨value, hoption, hread⟩ := isOption_requirePart r q
      rw [Option.map_some, Option.toList_some, List.filterMap_cons_some hoption.pair?_eq, hread]
      rfl
  unfold DeclarationOptions.optionParts
  rw [List.filterMap_append, List.filterMap_append, hsource, hrequire]
  rcases platformsPart_eq o.platforms q with ⟨hnil, hnames⟩ | ⟨p, value, hpart, hoption, hnames⟩
  · exact ⟨[], by simp, hnames.symm, by rw [hnil]; rfl⟩
  · refine ⟨[("platforms".toList, Value.read value)], by simp, ?_, ?_⟩
    · rw [List.flatMap_singleton, hnames h]
    · rw [hpart, List.filterMap_cons_some hoption.pair?_eq]
      rfl

end Options

/-! ### What the options say -/

theorem optionNames_append (keys : List Text) (as bs : List (Text × Value)) :
    optionNames keys (as ++ bs) = optionNames keys as ++ optionNames keys bs := by
  rw [optionNames, List.filter_append, List.flatMap_append]
  rfl

theorem optionNames_of_mem {keys : List Text} {options : List (Text × Value)}
    (h : ∀ option ∈ options, option.1 ∈ keys) :
    optionNames keys options = options.flatMap (·.2.names) := by
  rw [optionNames, List.filter_eq_self.2 fun option hoption => decide_eq_true (h option hoption)]

theorem optionNames_of_notMem {keys : List Text} {options : List (Text × Value)}
    (h : ∀ option ∈ options, option.1 ∉ keys) : optionNames keys options = [] := by
  rw [optionNames, List.filter_eq_nil_iff.2 fun option hoption => by simpa using h option hoption]
  rfl

theorem optionSource?_of_notMem {option : Text × Value}
    (h : option.1 ∉ "github".toList :: sourceKeys) : optionSource? option = none := by
  rw [List.mem_cons, not_or] at h
  rw [optionSource?, if_neg h.2, if_neg h.1]

theorem Origin.key_cases (origin : Origin) : origin.key ∈ sourceKeys ∧
    origin.key ∉ platformKeys ∧ origin.key ∉ groupKeys ∧ origin.key ≠ "require".toList := by
  cases origin <;> decide

namespace Statement

section OfGem

variable (indent name : Text) {o : DeclarationOptions} {q : QuoteStyle}

theorem splitArguments_ofGem :
    splitArguments (ofGem indent name o q).arguments = o.parts q :=
  splitArguments_argumentsTail (isArgument_parts o q) rfl rfl

theorem requirement_ofGem : (ofGem indent name o q).requirement =
    joinVersions (o.constraint?.map q.escape).toList := by
  rw [requirement, splitArguments_ofGem, leadingVersions_parts]

variable (h : ∀ p ∈ o.platforms, q.escape p = p)

include h

theorem options_ofGem :
    ∃ ps : List (Text × Value), (∀ option ∈ ps, option.1 = "platforms".toList) ∧
      ps.flatMap (·.2.names) = o.platforms ∧
      (ofGem indent name o q).options = ps ++
        (o.source.map fun s => ((Origin.ofSource s).key, Value.str (q.escape s))).toList ++
        (o.require.map fun r => ("require".toList, r.value q)).toList := by
  rw [options, splitArguments_ofGem, leadingVersions_parts]
  exact filterMap_optionParts o q h

/-- The platforms come back, and no groups. -/
theorem optionNames_ofGem :
    optionNames platformKeys (ofGem indent name o q).options = o.platforms ∧
      optionNames groupKeys (ofGem indent name o q).options = [] := by
  obtain ⟨ps, hkeys, hnames, hoptions⟩ := options_ofGem indent name h
  have hplatforms : ∀ option ∈ ps, option.1 ∈ platformKeys ∧ option.1 ∉ groupKeys := by
    intro option hoption
    rw [hkeys option hoption]
    decide
  have hsource : ∀ option ∈ (o.source.map fun s =>
      ((Origin.ofSource s).key, Value.str (q.escape s))).toList,
      option.1 ∉ platformKeys ∧ option.1 ∉ groupKeys := by
    refine forall_mem_toList_map fun s _ => ?_
    obtain ⟨-, hplatform, hgroup, -⟩ := (Origin.ofSource s).key_cases
    exact ⟨hplatform, hgroup⟩
  have hrequire : ∀ option ∈ (o.require.map fun r => ("require".toList, r.value q)).toList,
      option.1 ∉ platformKeys ∧ option.1 ∉ groupKeys :=
    forall_mem_toList_map fun _ _ =>
      (by decide : "require".toList ∉ platformKeys ∧ "require".toList ∉ groupKeys)
  rw [hoptions]
  simp only [optionNames_append]
  constructor
  · rw [optionNames_of_mem fun option hoption => (hplatforms option hoption).1,
      optionNames_of_notMem fun option hoption => (hsource option hoption).1,
      optionNames_of_notMem fun option hoption => (hrequire option hoption).1, hnames,
      List.append_nil, List.append_nil]
  · rw [optionNames_of_notMem fun option hoption => (hplatforms option hoption).2,
      optionNames_of_notMem fun option hoption => (hsource option hoption).2,
      optionNames_of_notMem fun option hoption => (hrequire option hoption).2]
    rfl

/-- The source comes back as it was written. -/
theorem ownSource?_ofGem : (ofGem indent name o q).ownSource? = o.source.map q.escape := by
  obtain ⟨ps, hkeys, -, hoptions⟩ := options_ofGem indent name h
  have hplatforms : ps.findSome? optionSource? = none := by
    refine List.findSome?_eq_none_iff.2 fun option hoption => optionSource?_of_notMem ?_
    rw [hkeys option hoption]
    decide
  have hrequire : (o.require.map fun r => ("require".toList, r.value q)).toList.findSome?
      optionSource? = none := by
    refine List.findSome?_eq_none_iff.2 (forall_mem_toList_map fun r _ => ?_)
    exact optionSource?_of_notMem (by decide : "require".toList ∉ "github".toList :: sourceKeys)
  rw [ownSource?, hoptions, List.findSome?_append, List.findSome?_append, hplatforms, hrequire]
  cases o.source with
  | none => rfl
  | some s =>
    have hkey : optionSource? ((Origin.ofSource s).key, .str (q.escape s)) =
        some (q.escape s) := by
      rw [optionSource?, if_pos (Origin.key_cases _).1]
      rfl
    rw [Option.map_some, Option.toList_some, List.findSome?_singleton, hkey]
    rfl

/-- What is loaded comes back as it was written. -/
theorem require_ofGem : (requireValue? (ofGem indent name o q).options).bind
    Gemfile.Options.requireOf = o.require.map (·.escaped q) := by
  obtain ⟨ps, hkeys, -, hoptions⟩ := options_ofGem indent name h
  have hplatforms : ps.filter (·.1 = "require".toList) = [] := by
    refine List.filter_eq_nil_iff.2 fun option hoption => ?_
    rw [hkeys option hoption]
    decide
  have hsource : (o.source.map fun s => ((Origin.ofSource s).key,
      Value.str (q.escape s))).toList.filter (·.1 = "require".toList) = [] := by
    refine List.filter_eq_nil_iff.2 (forall_mem_toList_map fun s _ hkey => ?_)
    exact (Origin.ofSource s).key_cases.2.2.2 (of_decide_eq_true hkey)
  rw [requireValue?, hoptions, List.filter_append, List.filter_append, hplatforms, hsource]
  cases o.require with
  | none => rfl
  | some r => exact requireOf_value r q

end OfGem

end Statement

/-! ## Dependency statements -/

theorem DeclarationOptions.isDevelopment_iff {o : DeclarationOptions} :
    o.isDevelopment = true ↔ developmentGroup ∈ o.groups :=
  List.contains_iff_mem

/-- The method by which a dependency is written. -/
def DeclarationOptions.method (o : DeclarationOptions) : Text :=
  if o.isDevelopment then "development_".toList else []

/-- A written dependency behind some blanks. -/
def Statement.ofDependency (indent receiver name : Text) (o : DeclarationOptions)
    (q : QuoteStyle) : Statement :=
  ⟨indent, receiver ++ ".add_".toList ++ o.method ++ "dependency".toList ++ [' '], some receiver,
    q, name, argumentsTail (o.constraint?.map q.wrap).toList, false, o.isDevelopment⟩

theorem dependencyStatement_eq (receiver name : Text) (o : DeclarationOptions) (q : QuoteStyle) :
    dependencyStatement receiver name o q =
      DependencyCall.head ⟨receiver, o.method, []⟩ ++
        (' ' :: (q.wrap name ++ argumentsTail (o.constraint?.map q.wrap).toList)) := by
  unfold dependencyStatement
  dsimp only
  rw [List.singleton_append, commaSeparated_cons]
  unfold DependencyCall.head DeclarationOptions.method
  cases o.isDevelopment <;> simp

theorem readDependency?_dependencyStatement {indent receiver name : Text}
    (hindent : Text.IsBlanks indent) (hname : isGemName name = true)
    (hreceiver : IsReceiver receiver) (o : DeclarationOptions) (q : QuoteStyle) :
    Statement.readDependency? (indent ++ dependencyStatement receiver name o q) =
      some (.ofDependency indent receiver name o q) := by
  obtain ⟨hscope, hdevelopment⟩ : o.method ∈ dependencyScopes ∧
      (o.method == "development_".toList) = o.isDevelopment := by
    unfold DeclarationOptions.method
    cases o.isDevelopment <;> decide
  have hproper : DependencyCall.IsProper ⟨receiver, o.method, []⟩ := ⟨hreceiver, hscope⟩
  rw [dependencyStatement_eq, Statement.readDependency?_of_call hindent hproper rfl,
    finish?_of_isGemName hname, hdevelopment]
  rfl

theorem requirement_ofDependency (indent receiver name : Text) (o : DeclarationOptions)
    (q : QuoteStyle) : (Statement.ofDependency indent receiver name o q).requirement =
      joinVersions (o.constraint?.map q.escape).toList := by
  have hparts : ∀ p ∈ (o.constraint?.map q.wrap).toList, IsArgument p :=
    forall_mem_toList_map fun c _ => isArgument_wrap q c
  rw [Statement.requirement, splitArguments_argumentsTail hparts rfl rfl]
  cases o.constraint? with
  | none => rfl
  | some c =>
    show joinVersions (leadingVersions [q.wrap c]).1 = _
    rw [leadingVersions, Value.read_wrap_escape]
    rfl

/-! ## Requirements -/

/-- A checked constraint comes back as the requirement. -/
theorem joinVersions_constraint {c : Option Text} (q : QuoteStyle)
    (h : ∀ d ∈ c, (∀ e ∈ d, isBare e = true) ∧ d ≠ [] ∧ d.trim = d) :
    joinVersions (c.map q.escape).toList = c := by
  cases c with
  | none => rfl
  | some d =>
    obtain ⟨hbare, hne, htrim⟩ := h d rfl
    rw [Option.map_some, Option.toList_some, escape_of_isBare hbare,
      joinVersions_cons_eq_some_iff htrim hne]
    rfl

/-! ## Group lines -/

theorem splitDo?_concat {x : Text} (hx : '|' ∉ x) (afterWord : Bool) :
    splitDo? afterWord (x ++ " do".toList) = some (x ++ [' ']) := by
  induction x generalizing afterWord with
  | nil => cases afterWord <;> rfl
  | cons c x ih =>
    rw [List.mem_cons, not_or] at hx
    rw [List.cons_append, splitDo?, ih hx.2, if_neg]
    · rfl
    · intro hdo
      obtain ⟨⟨-, ho⟩, htail⟩ : ((afterWord = false ∧ c = 'd') ∧
          (x ++ " do".toList).head? = some 'o') ∧ isDoTail (x ++ " do".toList).tail = true := by
        simpa using hdo
      cases x with
      | nil => exact absurd ho (by decide)
      | cons d x =>
        rcases ends_of_isDoTail htail with hblank | ⟨v, b, hv, -⟩
        · exact absurd (hblank 'd' (by simp)) (by decide)
        · have hbar : '|' ∈ x ++ " do".toList := by
            show '|' ∈ (d :: x ++ " do".toList).tail
            rw [hv]
            simp
          rcases List.mem_append.1 hbar with hmem | hmem
          · exact hx.2 (List.mem_cons_of_mem d hmem)
          · exact absurd hmem (by decide)

theorem isTrimmed_commaSeparated {ps : List Text} (hne : ps ≠ []) (h : ∀ p ∈ ps, IsArgument p) :
    Text.IsTrimmed (commaSeparated ps) := by
  induction ps with
  | nil => exact absurd rfl hne
  | cons p ps ih =>
    have hp := h p List.mem_cons_self
    cases ps with
    | nil =>
      rw [commaSeparated_singleton]
      exact hp.trimmed
    | cons q ps =>
      have hrest := ih (by simp) fun r hr => h r (List.mem_cons_of_mem p hr)
      have hq : commaSeparated (q :: ps) ≠ [] := by
        rw [commaSeparated_cons]
        exact List.append_ne_nil_of_left_ne_nil (h q (by simp)).ne_nil _
      rw [commaSeparated_cons_cons]
      refine ⟨?_, ?_⟩
      · rw [List.head?_append_of_ne_nil _ hp.ne_nil]
        exact hp.trimmed.1
      · rw [List.getLast?_append_of_ne_nil _ (by simp), List.getLast?_append_of_ne_nil _ hq]
        exact hrest.2

section GroupLine

variable {groups : List Text} (q : QuoteStyle)

theorem groupLine_eq (groups : List Text) :
    groupLine groups q = "group".toList ++
      ([' '] ++ commaSeparated (groups.map (symbolText · q)) ++ " do".toList) := by
  unfold groupLine
  simp

/-- All of a group line is code. -/
theorem trim_stripComment_groupLine (groups : List Text) :
    Text.trim (stripComment (groupLine groups q)) = groupLine groups q := by
  have hopening : IsUncommented ("group".toList ++ [' ']) :=
    (isFlat_of_forall (List.all_eq_true.1 (by decide))).isUncommented
  have hsymbols := isUncommented_commaSeparated fun p hp =>
    (isArgument_symbols groups q p hp).toIsItem
  have hend := hopening.append hsymbols " do".toList
  rw [show stripComment " do".toList = " do".toList by decide] at hend
  have hstrip : stripComment (groupLine groups q) = groupLine groups q := by
    rw [groupLine_eq]
    simpa using hend
  rw [hstrip, groupLine_eq]
  refine Text.trim_of_isTrimmed ⟨?_, ?_⟩
  · intro c hc
    obtain rfl : 'g' = c := by simpa using hc
    decide
  · intro c hc
    rw [List.getLast?_append_of_ne_nil _ (by simp),
      List.getLast?_append_of_ne_nil _ (by simp)] at hc
    obtain rfl : 'o' = c := by simpa using hc
    decide

/-- The arguments of a written group line, without the blanks around them. -/
theorem unwrap_symbols (hne : groups ≠ []) :
    Call.unwrap ([' '] ++ commaSeparated (groups.map (symbolText · q)) ++ [' ']) =
      commaSeparated (groups.map (symbolText · q)) := by
  have hmap : groups.map (symbolText · q) ≠ [] := by simpa using hne
  have htrim := Text.trim_of_isTrimmed <|
    isTrimmed_commaSeparated hmap (isArgument_symbols groups q)
  obtain ⟨r, hr⟩ : ∃ r, commaSeparated (groups.map (symbolText · q)) = ':' :: r := by
    obtain ⟨g, gs, rfl⟩ := List.exists_cons_of_ne_nil hne
    obtain ⟨r, hr⟩ := exists_symbolText_eq g q
    exact ⟨_, by rw [List.map_cons, commaSeparated_cons, hr]; rfl⟩
  rw [Call.unwrap, List.append_assoc, Text.trim_append isBlanks_space isBlanks_space, htrim, hr]
  rfl

variable (hgroups : ∀ g ∈ groups, isSymbolName g = true)

include hgroups

/-- No bar stands among written groups, so no block parameters are seen there. -/
theorem bar_notMem_symbols : '|' ∉ commaSeparated (groups.map (symbolText · q)) := by
  intro hbar
  have hsep : ∀ c ∈ ", ".toList, c ≠ '|' := fun c hc => bne_iff_ne.1 <|
    List.all_eq_true.1 (by decide : ", ".toList.all (· != '|') = true) c hc
  refine forall_mem_join hsep (fun p hp => ?_) '|' hbar rfl
  obtain ⟨g, hg, rfl⟩ := List.mem_map.1 hp
  have hname : '|' ∉ g := not_mem_of_class (forall_of_isSymbolName (hgroups g hg)) (by decide)
  have hmark : '|' ≠ q.mark := by cases q <;> decide
  have hmem : '|' ∉ symbolText g q := by
    unfold symbolText
    split
    · simp [hname]
    · rw [wrap_eq (escape_of_isBare (isBare_of_isSymbolName (hgroups g hg)) q)]
      simp [hname, hmark]
  rintro c hc rfl
  exact hmem hc

/-- The names in a written list of groups. -/
theorem nameList_symbols :
    Value.nameList (commaSeparated (groups.map (symbolText · q))) = Text.union [] groups := by
  rw [Value.nameList, splitArguments_commaSeparated (isArgument_symbols groups q)]
  have hfilter : ((groups.map (symbolText · q)).filter fun a => (Value.pair? a).isNone) =
      groups.map (symbolText · q) := by
    refine List.filter_eq_self.2 fun a ha => ?_
    obtain ⟨g, -, rfl⟩ := List.mem_map.1 ha
    rw [Value.pair?_symbolText]
    rfl
  rw [hfilter, List.flatMap_map]
  congr 1
  have hnames : ∀ g ∈ groups, (Value.read (symbolText g q)).names = [g] := by
    intro g hg
    rw [Value.read_symbolText (escape_of_isBare (isBare_of_isSymbolName (hgroups g hg)) q)]
    rfl
  rw [List.flatMap_congr hnames]
  exact List.flatMap_singleton' groups

/-- A written group line names its groups. -/
theorem groupOpening?_groupLine (hne : groups ≠ []) :
    groupOpening? (groupLine groups q) = some (Text.union [] groups) := by
  have hbar := bar_notMem_symbols q hgroups
  have hunwrap := unwrap_symbols q hne
  have hnames := nameList_symbols q hgroups
  have hstart : "group".toList.isPrefixOf? (groupLine groups q) = some _ :=
    Text.isPrefixOf?_eq_some_iff.2 (groupLine_eq q groups)
  have hkeyword : Call.afterKeyword? ["group".toList] (groupLine groups q) =
      some ([' '] ++ commaSeparated (groups.map (symbolText · q)) ++ " do".toList) := by
    rw [Call.afterKeyword?, List.findSome?_cons, hstart]
    rfl
  rw [groupOpening?, trim_stripComment_groupLine, Entry.blockCall?, Call.read?, hkeyword,
    Option.map_some, splitDo?_concat (by simp [hbar])]
  dsimp only
  rw [hunwrap]
  show some (Value.nameList _) = _
  rw [hnames]

end GroupLine

/-- A line that names the groups of a block opens it: no other call starts like it. -/
theorem Entry.ofLine_of_groupOpening? {line : Text} {names : List Text}
    (h : groupOpening? line = some names) : Entry.ofLine line = .opens (.groups names) := by
  obtain ⟨call, hcall, rfl⟩ := Option.map_eq_some_iff.1 h
  obtain ⟨r, hr⟩ : ∃ r, Text.trim (stripComment line) = "group".toList ++ r := by
    obtain ⟨hread, -⟩ := Option.filter_eq_some_iff.1 hcall
    obtain ⟨r, hkeyword, -⟩ := Option.map_eq_some_iff.1 hread
    obtain ⟨k, hk, hkeyword⟩ := List.exists_of_findSome?_eq_some hkeyword
    obtain rfl := List.mem_singleton.1 hk
    obtain ⟨hstart, -⟩ := Option.filter_eq_some_iff.1 hkeyword
    exact ⟨r, Text.isPrefixOf?_eq_some_iff.1 hstart⟩
  have hruby : Call.read? ["ruby".toList] ("group".toList ++ r) = none := rfl
  have hsource : Call.read? ["source".toList] ("group".toList ++ r) = none := rfl
  unfold Entry.ofLine
  dsimp only
  rw [hr] at hcall ⊢
  rw [hruby, hsource, hcall]
  rfl

end GemDeps
