import GemDeps.Proofs.Blanks
import GemDeps.Proofs.Literals
import GemDeps.Proofs.WrittenLines
import GemDeps.Workspace.Validation

/-!
# What passes the checks

Names and versions that pass their checks consist of bare characters, which are no quotes and no
backslashes, so they are written between quotes as they are (`escape_of_isBare`). A constraint made
of a checked version is not empty and has no blanks at its ends.
-/

namespace GemDeps

/-- No quote and no backslash. -/
def isBare (c : Char) : Bool := c != '\'' && c != '"' && c != '\\'

theorem escape_of_isBare {t : Text} (ht : ∀ c ∈ t, isBare c = true) (q : QuoteStyle) :
    q.escape t = t := by
  refine escape_eq_self fun c hc => ?_
  obtain ⟨⟨hsingle, hdouble⟩, hslash⟩ : (c ≠ '\'' ∧ c ≠ '"') ∧ c ≠ '\\' := by
    simpa [isBare] using ht c hc
  cases q
  · exact ⟨hsingle, hslash⟩
  · exact ⟨hdouble, hslash⟩

/-- A class of characters without quotes and the backslash is bare. -/
theorem isBare_of_class {p : Char → Bool} (hsingle : p '\'' = false) (hdouble : p '"' = false)
    (hslash : p '\\' = false) {c : Char} (hc : p c = true) : isBare c = true := by
  rw [isBare, Bool.and_eq_true, Bool.and_eq_true, bne_iff_ne, bne_iff_ne, bne_iff_ne]
  refine ⟨⟨?_, ?_⟩, ?_⟩
  · rintro rfl
    simp [hsingle] at hc
  · rintro rfl
    simp [hdouble] at hc
  · rintro rfl
    simp [hslash] at hc

/-! ## Names -/

/-- A character of a name may stand in no class that holds none of them. -/
theorem not_mem_of_class {p : Char → Bool} {t : Text} (ht : ∀ c ∈ t, p c = true) {d : Char}
    (hd : p d = false) : d ∉ t := by
  intro h
  rw [ht d h] at hd
  cases hd

theorem forall_of_isGemName {name : Text} (h : isGemName name = true) :
    name ≠ [] ∧ ∀ c ∈ name, isNameChar ['.', '_', '-'] c = true := by
  cases name with
  | nil => cases h
  | cons c t =>
    rw [isGemName, Bool.and_eq_true] at h
    refine ⟨by simp, List.forall_mem_cons.2 ⟨?_, List.all_eq_true.1 h.2⟩⟩
    rw [isNameChar, h.1, Bool.true_or]

theorem newline_notMem_of_isGemName {name : Text} (h : isGemName name = true) : '\n' ∉ name :=
  not_mem_of_class (forall_of_isGemName h).2 (by decide)

theorem hash_notMem_of_isGemName {name : Text} (h : isGemName name = true) : '#' ∉ name :=
  not_mem_of_class (forall_of_isGemName h).2 (by decide)

theorem isBare_of_isGemName {name : Text} (h : isGemName name = true) :
    ∀ c ∈ name, isBare c = true := fun c hc =>
  isBare_of_class (by decide) (by decide) (by decide) ((forall_of_isGemName h).2 c hc)

theorem forall_of_isSymbolName {name : Text} (h : isSymbolName name = true) :
    ∀ c ∈ name, isNameChar ['_', '-'] c = true := by
  cases name with
  | nil => cases h
  | cons c t =>
    rw [isSymbolName, Bool.and_eq_true] at h
    refine List.forall_mem_cons.2 ⟨?_, List.all_eq_true.1 h.2⟩
    have hc := h.1
    rw [isNameChar, Bool.or_eq_true] at hc ⊢
    refine hc.imp_right fun hc => ?_
    obtain rfl : c = '_' := by simpa using hc
    decide

theorem isBare_of_isSymbolName {name : Text} (h : isSymbolName name = true) :
    ∀ c ∈ name, isBare c = true := fun c hc =>
  isBare_of_class (by decide) (by decide) (by decide) (forall_of_isSymbolName h c hc)

/-! ## Versions -/

/-- A character of a version without its operator. -/
def isVersionChar (c : Char) : Bool := Text.isDecimal c || c.isAlphanum || c == '.'

theorem isVersionChar_of_isVersionTail {t : Text} (h : isVersionTail t = true) :
    ∀ c ∈ t, isVersionChar c = true := by
  have hjoin : Text.join ['.'] (t.splitOn '.') = t := List.intercalate_splitOn '.'
  unfold isVersionTail at h
  split at h
  · rename_i parts hparts
    rw [hparts] at hjoin
    rw [← hjoin]
    refine forall_mem_join (List.all_eq_true.1 (by decide)) (List.forall_mem_cons.2 ⟨by simp, ?_⟩)
    intro p hp c hc
    obtain ⟨-, hall⟩ : p ≠ [] ∧ ∀ d ∈ p, d.isAlphanum = true := by
      simpa using List.all_eq_true.1 h p hp
    simp [isVersionChar, hall c hc]
  · simp at h

theorem isVersionChar_of_isVersion {t : Text} (h : isVersion t = true) :
    t ≠ [] ∧ ∀ c ∈ t, isVersionChar c = true := by
  unfold isVersion at h
  dsimp only at h
  obtain ⟨hdigits, htail⟩ : t.takeWhile Text.isDecimal ≠ [] ∧
      (t.dropWhile Text.isDecimal = [] ∨ isVersionTail (t.dropWhile Text.isDecimal) = true) := by
    simpa using h
  constructor
  · rintro rfl
    exact hdigits rfl
  · rw [← List.takeWhile_append_dropWhile (p := Text.isDecimal) (l := t), List.forall_mem_append]
    constructor
    · intro c hc
      have hdecimal := List.all_eq_true.1 List.all_takeWhile c hc
      simp [isVersionChar, hdecimal]
    · rcases htail with htail | htail
      · simp [htail]
      · exact isVersionChar_of_isVersionTail htail

/-- A version constraint is a version, or an operator, blanks and a version. -/
theorem ownOperator?_cases {t : Text} {own : Option Text} (h : ownOperator? t = some own) :
    own = none ∧ isVersion t = true ∨
      ∃ op b n, own = some op ∧ op ∈ ownOperators ∧ Text.IsBlanks b ∧ isVersion n = true ∧
        t = op ++ (b ++ n) := by
  unfold ownOperator? at h
  split at h
  · rename_i op r hsplit
    obtain ⟨hr, hown⟩ := Option.ite_none_right_eq_some.1 h
    obtain ⟨op', hop, h⟩ := List.exists_of_findSome?_eq_some hsplit
    obtain ⟨u, hu, he⟩ := Option.map_eq_some_iff.1 h
    obtain ⟨rfl, rfl⟩ : op' = op ∧ Text.trimStart u = r := by simpa using he
    refine .inr ⟨op', Text.indentation u, Text.trimStart u, (Option.some.inj hown).symm, hop,
      Text.isBlanks_indentation u, hr, ?_⟩
    rw [Text.indentation_append_trimStart]
    exact Text.isPrefixOf?_eq_some_iff.1 hu
  · obtain ⟨ht, hown⟩ := Option.ite_none_right_eq_some.1 h
    exact .inl ⟨(Option.some.inj hown).symm, ht⟩

/-- A constraint consists of the characters of versions, blanks and those of operators. -/
theorem forall_of_ownOperator? {P : Char → Prop} (hversion : ∀ c, isVersionChar c = true → P c)
    (hblank : ∀ c, Text.isBlank c = true → P c) (hoperator : ∀ op ∈ ownOperators, ∀ c ∈ op, P c)
    {t : Text} {own : Option Text} (h : ownOperator? t = some own) : t ≠ [] ∧ ∀ c ∈ t, P c := by
  rcases ownOperator?_cases h with ⟨-, ht⟩ | ⟨op, b, n, -, hop, hb, hn, rfl⟩
  · exact (isVersionChar_of_isVersion ht).imp_right fun ht c hc => hversion c (ht c hc)
  · obtain ⟨hne, hn⟩ := isVersionChar_of_isVersion hn
    refine ⟨by simp [hne], List.forall_mem_append.2 ⟨hoperator op hop, ?_⟩⟩
    exact List.forall_mem_append.2
      ⟨fun c hc => hblank c (hb c hc), fun c hc => hversion c (hn c hc)⟩

theorem isBare_of_ownOperator? {t : Text} {own : Option Text} (h : ownOperator? t = some own) :
    t ≠ [] ∧ ∀ c ∈ t, isBare c = true := by
  have hoperators : ∀ op ∈ ownOperators, op.all isBare = true := by decide
  exact forall_of_ownOperator? (fun c => isBare_of_class (by decide) (by decide) (by decide))
    (fun c => isBare_of_class (by decide) (by decide) (by decide))
    (fun op hop => List.all_eq_true.1 (hoperators op hop)) h

theorem exists_ownOperator?_of_checkVersion {v : Text} {op : Option Operator}
    (h : checkVersion v op = .ok ()) : ∃ own, ownOperator? v.trim = some own := by
  unfold checkVersion at h
  cases hown : ownOperator? v.trim with
  | none => simp [hown] at h
  | some own => exact ⟨own, rfl⟩

/-- A constraint made of a checked version is bare, not empty and trimmed. -/
theorem constraint_of_checkVersion {v : Text} {op : Option Operator}
    (h : checkVersion v op = .ok ()) :
    (∀ c ∈ versionConstraint v op, isBare c = true) ∧ versionConstraint v op ≠ [] ∧
      (versionConstraint v op).trim = versionConstraint v op := by
  obtain ⟨own, hown⟩ := exists_ownOperator?_of_checkVersion h
  obtain ⟨hne, hbare⟩ := isBare_of_ownOperator? hown
  cases op with
  | none => exact ⟨hbare, hne, Text.trim_trim v⟩
  | some op =>
    obtain ⟨d, t, hop, hd, hall⟩ : ∃ d t, op.text = d :: t ∧ Text.isBlank d = false ∧
        op.text.all isBare = true := by
      cases op <;> exact ⟨_, _, rfl, by decide, by decide⟩
    refine ⟨?_, by simp [versionConstraint], Text.trim_of_isTrimmed ⟨?_, ?_⟩⟩
    · rw [versionConstraint, List.forall_mem_append, List.forall_mem_cons]
      exact ⟨List.all_eq_true.1 hall, by decide, hbare⟩
    · intro c hc
      obtain rfl : d = c := by simpa [versionConstraint, hop] using hc
      exact hd
    · rw [versionConstraint, List.getLast?_append_of_ne_nil _ (by simp),
        List.getLast?_cons_of_ne_nil hne]
      exact (Text.isTrimmed_trim v).2

/-! ## Options -/

/-- Of two checks made one after the other both pass. -/
theorem and_of_bind_eq_ok {x : Except InputError Unit} {f : Unit → Except InputError Unit}
    (h : x >>= f = .ok ()) : x = .ok () ∧ f () = .ok () := by
  cases x with
  | error e => cases h
  | ok u => exact ⟨rfl, h⟩

theorem isGemName_of_checkGemName {name : Text} (h : checkGemName name = .ok ()) :
    isGemName name = true := by
  unfold checkGemName at h
  split at h
  · assumption
  · cases h

theorem isSymbolName_of_checkSymbolNames {field : Text} {names : List Text}
    (h : checkSymbolNames field names = .ok ()) : ∀ name ∈ names, isSymbolName name = true := by
  unfold checkSymbolNames at h
  split at h
  · cases h
  · rename_i hnone
    intro name hname
    simpa using List.find?_eq_none.1 hnone name hname

theorem newline_notMem_of_checkPlainText {field t : Text} (h : checkPlainText field t = .ok ()) :
    '\n' ∉ t := by
  unfold checkPlainText at h
  split at h
  · cases h
  · split at h
    · cases h
    · rename_i hany
      intro hmem
      exact hany (List.any_eq_true.2 ⟨'\n', hmem, rfl⟩)

/-- What is known of a name and options that pass their checks. -/
structure IsChecked (name : Text) (o : DeclarationOptions) : Prop where
  name : isGemName name = true
  version : ∀ v ∈ o.version, checkVersion v o.operator = .ok ()
  groups : ∀ g ∈ o.groups, isSymbolName g = true
  platforms : ∀ p ∈ o.platforms, isSymbolName p = true
  source : ∀ s ∈ o.source, '\n' ∉ s
  path : ∀ p ∈ o.require.bind RequireOption.path?, '\n' ∉ p

theorem isChecked_of_checkOptions {name : Text} {o : DeclarationOptions}
    (h : checkOptions name o = .ok ()) : IsChecked name o := by
  unfold checkOptions at h
  obtain ⟨hname, h⟩ := and_of_bind_eq_ok h
  obtain ⟨hversion, h⟩ := and_of_bind_eq_ok h
  obtain ⟨hgroups, h⟩ := and_of_bind_eq_ok h
  obtain ⟨hplatforms, h⟩ := and_of_bind_eq_ok h
  dsimp only at h
  obtain ⟨hsource, hpath⟩ : (∀ s ∈ o.source, '\n' ∉ s) ∧
      ∀ p ∈ o.require.bind RequireOption.path?, '\n' ∉ p := by
    have hpath : ∀ p ∈ o.require.bind RequireOption.path?, o.require = some (.path p) := by
      intro p hp
      obtain ⟨r, hr, hp⟩ := Option.bind_eq_some_iff.1 hp
      cases r with
      | disabled => cases hp
      | path _ =>
        cases hp
        exact hr
    cases hs : o.source with
    | none =>
      rw [hs] at h
      refine ⟨by simp, fun p hp => ?_⟩
      rw [hpath p hp] at h
      exact newline_notMem_of_checkPlainText h
    | some source =>
      rw [hs] at h
      obtain ⟨hplain, h⟩ := and_of_bind_eq_ok h
      refine ⟨by simpa using newline_notMem_of_checkPlainText hplain, fun p hp => ?_⟩
      rw [hpath p hp] at h
      exact newline_notMem_of_checkPlainText h
  refine ⟨isGemName_of_checkGemName hname, ?_, isSymbolName_of_checkSymbolNames hgroups,
    isSymbolName_of_checkSymbolNames hplatforms, hsource, hpath⟩
  rintro v hv
  obtain hv := Option.mem_def.1 hv
  unfold checkRequirement at hversion
  rwa [hv] at hversion

/-- The strings of checked options have no line feed when the version has none. -/
theorem IsChecked.newline_notMem {name : Text} {o : DeclarationOptions} (h : IsChecked name o)
    (hversion : ∀ v ∈ o.version, '\n' ∉ v) : '\n' ∉ name ∧ ∀ s ∈ o.strings, '\n' ∉ s := by
  have hsymbol : ∀ {s}, isSymbolName s = true → '\n' ∉ s := fun hs =>
    not_mem_of_class (forall_of_isSymbolName hs) (by decide)
  refine ⟨newline_notMem_of_isGemName h.name, ?_⟩
  unfold DeclarationOptions.strings
  simp only [List.forall_mem_append, Option.mem_toList]
  exact ⟨⟨⟨⟨hversion, fun g hg => hsymbol (h.groups g hg)⟩,
    fun p hp => hsymbol (h.platforms p hp)⟩, h.source⟩, h.path⟩

/-- The constraint of a checked version, when there is one. -/
theorem forall_constraint_of_checkVersion {o : DeclarationOptions}
    (h : ∀ v ∈ o.version, checkVersion v o.operator = .ok ()) :
    ∀ c ∈ o.constraint?, (∀ d ∈ c, isBare d = true) ∧ c ≠ [] ∧ c.trim = c := by
  intro c hc
  obtain ⟨v, hv, rfl⟩ := Option.map_eq_some_iff.1 hc
  exact constraint_of_checkVersion (h v hv)

/-! ## Versions without blanks at their ends -/

/-- Options with the blanks at the ends of the version taken away, which are never written. -/
def DeclarationOptions.trimmed (o : DeclarationOptions) : DeclarationOptions :=
  { o with version := o.version.map Text.trim }

theorem constraint?_trimmed (o : DeclarationOptions) : o.trimmed.constraint? = o.constraint? := by
  unfold DeclarationOptions.constraint? DeclarationOptions.trimmed
  rw [Option.map_map]
  refine congrArg (Option.map · o.version) (funext fun v => ?_)
  unfold versionConstraint
  cases o.operator <;> simp [Text.trim_trim]

theorem gemStatement_trimmed (name : Text) (o : DeclarationOptions) (q : QuoteStyle) :
    gemStatement name o.trimmed q = gemStatement name o q := by
  unfold gemStatement
  rw [constraint?_trimmed]
  rfl

theorem checkVersion_trim {v : Text} {op : Option Operator} (h : checkVersion v op = .ok ()) :
    checkVersion v.trim op = .ok () := by
  unfold checkVersion at h ⊢
  rw [Text.trim_trim]
  cases hown : ownOperator? v.trim with
  | none =>
    rw [hown] at h
    cases h
  | some own =>
    rw [hown] at h
    cases own with
    | none => rfl
    | some own =>
      cases op with
      | none => rfl
      | some op => cases h

theorem IsChecked.trimmed {name : Text} {o : DeclarationOptions} (h : IsChecked name o) :
    IsChecked name o.trimmed := by
  refine { h with version := fun v hv => ?_ }
  obtain ⟨w, hw, rfl⟩ := Option.map_eq_some_iff.1 hv
  exact checkVersion_trim (h.version w hw)

theorem newline_notMem_trimmed_iff {o : DeclarationOptions} : (∀ v ∈ o.trimmed.version, '\n' ∉ v) ↔
    ∀ v ∈ o.version, '\n' ∉ v.trim := by
  simp [DeclarationOptions.trimmed]

theorem checkRequirement_trimmed {o : DeclarationOptions} (h : checkRequirement o = .ok ()) :
    checkRequirement o.trimmed = .ok () := by
  obtain ⟨version, operator, groups, platforms, source, require⟩ := o
  cases version with
  | none => exact h
  | some v => exact checkVersion_trim h

theorem checkOptions_trimmed {name : Text} {o : DeclarationOptions}
    (h : checkOptions name o = .ok ()) : checkOptions name o.trimmed = .ok () := by
  unfold checkOptions at h ⊢
  obtain ⟨hname, h⟩ := and_of_bind_eq_ok h
  obtain ⟨hrequirement, h⟩ := and_of_bind_eq_ok h
  rw [hname, checkRequirement_trimmed hrequirement]
  exact h

end GemDeps
