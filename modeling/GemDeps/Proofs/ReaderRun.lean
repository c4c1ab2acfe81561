import GemDeps.Proofs.Reading
import GemDeps.Proofs.Unions

/-!
# Runs of the Gemfile reader

What the reader makes of a list of lines is put together from what it makes of its parts
(`Gemfile.readLines_append`): the second part is read from the state after the first. Starting at
another line number moves the declarations and changes nothing else (`Gemfile.readLines_add`). Of a
statement the reader uses its requirement and its options (`Gemfile.declaration_eq`).
-/

namespace GemDeps

/-! ## Options of a statement -/

/-- The keys that name platforms. -/
def platformKeys : List Text := ["platform".toList, "platforms".toList]

/-- The keys that name groups. -/
def groupKeys : List Text := ["group".toList, "groups".toList]

/-- The names in the options with one of some keys. -/
def optionNames (keys : List Text) (options : List (Text × Value)) : List Text :=
  (options.filter (·.1 ∈ keys)).flatMap (·.2.names)

/-- The keys that name a source as it is. -/
def sourceKeys : List Text := ["source".toList, "git".toList, "path".toList]

/-- The source that an option names. -/
def optionSource? (option : Text × Value) : Option Text :=
  if option.1 ∈ sourceKeys then option.2.text?
  else if option.1 = "github".toList then option.2.text?.map githubUrl
  else none

/-- The option that says what to load: the last one counts. -/
def requireValue? (options : List (Text × Value)) : Option Value :=
  ((options.filter (·.1 = "require".toList)).getLast?).map (·.2)

theorem optionNames_cons (keys : List Text) (option : Text × Value)
    (options : List (Text × Value)) :
    optionNames keys (option :: options) =
      (if option.1 ∈ keys then option.2.names else []) ++ optionNames keys options := by
  unfold optionNames
  by_cases hkey : option.1 ∈ keys
  · rw [List.filter_cons_of_pos (by simpa using hkey), if_pos hkey]
    rfl
  · rw [List.filter_cons_of_neg (by simpa using hkey), if_neg hkey]
    rfl

theorem requireValue?_cons (option : Text × Value) (options : List (Text × Value)) :
    requireValue? (option :: options) =
      (requireValue? options <|>
        if option.1 = "require".toList then some option.2 else none) := by
  unfold requireValue?
  by_cases hkey : option.1 = "require".toList
  · have hfilter := decide_eq_true hkey
    rw [List.filter_cons, if_pos hfilter, if_pos hkey, List.getLast?_cons]
    cases (options.filter (·.1 = "require".toList)).getLast? <;> rfl
  · have hfilter : ¬ decide (option.1 = "require".toList) = true := by rwa [decide_eq_true_iff]
    rw [List.filter_cons, if_neg hfilter, if_neg hkey]
    cases (options.filter (·.1 = "require".toList)).getLast? <;> rfl

namespace Statement

/-- The options of a statement. -/
def options (s : Statement) : List (Text × Value) :=
  (leadingVersions (splitArguments s.arguments)).2.filterMap Value.pair?

/-- The source that a statement names: the first option that says something counts. -/
def ownSource? (s : Statement) : Option Text := s.options.findSome? optionSource?

end Statement

namespace Gemfile

/-- What an option says is added to what the options in front of it say. -/
theorem Options.add_eq (o : Options) (option : Text × Value) :
    o.add option.1 option.2 =
      { groups := Text.union o.groups (if option.1 ∈ groupKeys then option.2.names else [])
        platforms :=
          Text.union o.platforms (if option.1 ∈ platformKeys then option.2.names else [])
        source := o.source <|> optionSource? option
        require := if option.1 = "require".toList then requireOf option.2 else o.require } := by
  obtain ⟨key, value⟩ := option
  have hpair : ∀ a b : Text, (key = a || key = b) = true ↔ key ∈ [a, b] := by simp
  have htriple : ∀ a b c : Text, (key = a || key = b || key = c) = true ↔ key ∈ [a, b, c] := by
    simp [or_assoc]
  have hplatforms : ["platform".toList, "platforms".toList] = platformKeys := rfl
  have hgroups : ["group".toList, "groups".toList] = groupKeys := rfl
  have hsources : ["source".toList, "git".toList, "path".toList] = sourceKeys := rfl
  have hsource : ∀ a : Option Text, (a <|> none) = a := by simp
  have hplatform : ∀ k ∈ platformKeys, k ∉ groupKeys ∧ k ∉ sourceKeys ∧ k ≠ "github".toList ∧
      k ≠ "require".toList := by decide
  have hgroup : ∀ k ∈ groupKeys, k ∉ sourceKeys ∧ k ≠ "github".toList ∧
      k ≠ "require".toList := by decide
  have horigin : ∀ k ∈ sourceKeys, k ≠ "require".toList := by decide
  have hgithub : "github".toList ≠ "require".toList := by decide
  unfold Options.add optionSource?
  simp only [hpair, htriple, hplatforms, hgroups, hsources]
  -- The keys are pairwise different, so each option reaches one field only.
  by_cases h₁ : key ∈ platformKeys
  · obtain ⟨hg, hs, hh, hr⟩ := hplatform key h₁
    rw [if_pos h₁, if_neg hg, if_pos h₁, if_neg hs, if_neg hh, if_neg hr, hsource]
    rfl
  · rw [if_neg h₁]
    by_cases h₂ : key ∈ groupKeys
    · obtain ⟨hs, hh, hr⟩ := hgroup key h₂
      rw [if_pos h₂, if_pos h₂, if_neg h₁, if_neg hs, if_neg hh, if_neg hr, hsource]
      rfl
    · rw [if_neg h₂]
      by_cases h₃ : key ∈ sourceKeys
      · rw [if_pos h₃, if_neg h₂, if_neg h₁, if_pos h₃, if_neg (horigin key h₃)]
        rfl
      · rw [if_neg h₃, if_neg h₂, if_neg h₁, if_neg h₃]
        by_cases h₄ : key = "github".toList
        · subst h₄
          rw [if_pos rfl, if_pos rfl, if_neg hgithub]
          rfl
        · rw [if_neg h₄, if_neg h₄, hsource]
          by_cases h₅ : key = "require".toList
          · rw [if_pos h₅, if_pos h₅]
            rfl
          · rw [if_neg h₅, if_neg h₅]
            rfl

/-- The options of a declaration are what the arguments say one after the other. -/
theorem Options.foldl_addArgument (arguments : List Text) (o : Options) :
    arguments.foldl Options.addArgument o =
      { groups := Text.union o.groups (optionNames groupKeys (arguments.filterMap Value.pair?))
        platforms :=
          Text.union o.platforms (optionNames platformKeys (arguments.filterMap Value.pair?))
        source := o.source <|> (arguments.filterMap Value.pair?).findSome? optionSource?
        require :=
          (requireValue? (arguments.filterMap Value.pair?)).elim o.require requireOf } := by
  induction arguments generalizing o with
  | nil =>
    obtain ⟨groups, platforms, source, require⟩ := o
    cases source <;> rfl
  | cons a as ih =>
    rw [List.foldl_cons, ih, Options.addArgument]
    cases hpair : Value.pair? a with
    | none => rw [List.filterMap_cons_none hpair]
    | some option =>
      obtain ⟨key, value⟩ := option
      dsimp only
      rw [List.filterMap_cons_some hpair, optionNames_cons, optionNames_cons, requireValue?_cons,
        Text.union_append, Text.union_append, Options.add_eq o (key, value), List.findSome?_cons]
      dsimp only
      congr 1
      · cases o.source with
        | some url => rfl
        | none => cases optionSource? (key, value) <;> rfl
      · cases requireValue? (as.filterMap Value.pair?) with
        | some v => rfl
        | none =>
          show _ = (if key = "require".toList then some value else none).elim o.require requireOf
          split <;> rfl

/-- A declaration, field by field. -/
theorem declaration_eq (s : State) (line : Nat) (stmt : Statement) :
    declaration s line stmt =
      { name := stmt.name
        versionRequirement := stmt.requirement
        source := stmt.ownSource? <|> s.blockSource? <|> s.serverSource?
        groups := Text.union s.groups (optionNames groupKeys stmt.options)
        platforms := Text.union s.platforms (optionNames platformKeys stmt.options)
        requireOption := (requireValue? stmt.options).bind Options.requireOf
        line := .ofNat line } := by
  unfold declaration
  dsimp only
  rw [Options.foldl_addArgument]
  dsimp only
  congr 1
  show (requireValue? stmt.options).elim none Options.requireOf = _
  cases requireValue? stmt.options <;> rfl

theorem State.groups_eq (s : State) :
    s.groups = Text.union [] (s.scopes.reverse.flatMap (·.groupNames)) :=
  Text.foldl_union ..

theorem State.platforms_eq (s : State) :
    s.platforms = Text.union [] (s.scopes.reverse.flatMap (·.platformNames)) :=
  Text.foldl_union ..

/-! ## Runs -/

/-- The state after some lines. -/
def State.run (s : State) (lines : List Text) : State :=
  lines.foldl (fun s l => s.after (Entry.ofLine l)) s

/-- The state before line `k` of a text. -/
def stateAt (lines : List Text) (k : Nat) : State := State.initial.run (lines.take k)

theorem State.run_append (s : State) (as bs : List Text) : s.run (as ++ bs) = (s.run as).run bs :=
  List.foldl_append

theorem stateAt_succ {lines : List Text} {k : Nat} {l : Text} (h : lines[k]? = some l) :
    stateAt lines (k + 1) = (stateAt lines k).after (Entry.ofLine l) := by
  rw [stateAt, List.take_add_one, h, Option.toList_some, State.run_append]
  rfl

/-- Does the line declare a gem? -/
def declaresGem (line : Text) : Bool := (Statement.readGem? line).isSome

theorem readLines_cons (s : State) (n : Nat) (l : Text) (ls : List Text) :
    readLines s n (l :: ls) =
      (((Statement.readGem? l).map (declaration s n)).toList ++
          (readLines (s.after (Entry.ofLine l)) (n + 1) ls).1,
        (readLines (s.after (Entry.ofLine l)) (n + 1) ls).2) := by
  cases hs : Statement.readGem? l with
  | some stmt =>
    rw [readLines, Entry.ofLine_eq_gem_iff.2 hs]
    rfl
  | none =>
    rw [readLines]
    split
    · rename_i stmt h
      rw [Entry.ofLine_eq_gem_iff, hs] at h
      cases h
    · rfl

theorem readLines_append (s : State) (n : Nat) (as bs : List Text) :
    readLines s n (as ++ bs) =
      ((readLines s n as).1 ++ (readLines (s.run as) (n + as.length) bs).1,
        (readLines (s.run as) (n + as.length) bs).2) := by
  induction as generalizing s n with
  | nil => rfl
  | cons a as ih =>
    have hlength : n + 1 + as.length = n + (a :: as).length := by
      rw [List.length_cons]
      omega
    rw [List.cons_append, readLines_cons, readLines_cons, ih, hlength, List.append_assoc]
    rfl

theorem readLines_snd (s : State) (n : Nat) (lines : List Text) :
    (readLines s n lines).2 = s.run lines := by
  induction lines generalizing s n with
  | nil => rfl
  | cons l ls ih =>
    rw [readLines_cons]
    exact ih _ _

/-- There is one declaration for each line that declares a gem. -/
theorem length_readLines (s : State) (n : Nat) (lines : List Text) :
    (readLines s n lines).1.length = lines.countP declaresGem := by
  induction lines generalizing s n with
  | nil => rfl
  | cons l ls ih =>
    rw [readLines_cons, List.length_append, ih, List.countP_cons, declaresGem]
    cases Statement.readGem? l with
    | none => simp
    | some stmt => simp [Nat.add_comm]

theorem readLines_fst (s : State) (n : Nat) (lines : List Text) :
    (readLines s n lines).1 = lines.zipIdx.filterMap fun p =>
      (Statement.readGem? p.1).map (declaration (s.run (lines.take p.2)) (n + p.2)) := by
  induction lines generalizing s n with
  | nil => rfl
  | cons l ls ih =>
    have hnext : ∀ p : Text × Nat, n + 1 + p.2 = n + (p.2 + 1) := fun p => by omega
    rw [readLines_cons, ih, List.zipIdx_cons', List.filterMap_cons, List.filterMap_map]
    simp only [hnext]
    cases Statement.readGem? l <;> rfl

/-- Each line that declares a gem makes its declaration in the state in front of it. -/
theorem declarations_eq (t : Text) :
    (read t).declarations = (Text.lines t).zipIdx.filterMap fun p =>
      (Statement.readGem? p.1).map (declaration (stateAt (Text.lines t) p.2) p.2) := by
  show (readLines .initial 0 (Text.lines t)).1 = _
  rw [readLines_fst]
  simp only [Nat.zero_add]
  rfl

end Gemfile

/-! ## Line numbers -/

/-- A declaration `k` lines further down. -/
def Declaration.moved (k : Nat) (d : Declaration) : Declaration :=
  { d with line := d.line + .ofNat k }

namespace Gemfile

theorem declaration_add (s : State) (n k : Nat) (stmt : Statement) :
    declaration s (n + k) stmt = (declaration s n stmt).moved k := by
  rw [declaration_eq, declaration_eq, Declaration.moved]
  dsimp only
  rw [UInt32.ofNat_add]

/-- Lines that are read from another number on say the same further down. -/
theorem readLines_add (s : State) (n k : Nat) (lines : List Text) :
    readLines s (n + k) lines =
      ((readLines s n lines).1.map (Declaration.moved k), (readLines s n lines).2) := by
  induction lines generalizing s n with
  | nil => rfl
  | cons l ls ih =>
    rw [readLines_cons, readLines_cons, Nat.add_right_comm, ih, List.map_append]
    cases Statement.readGem? l with
    | none => rfl
    | some stmt => simp [declaration_add]

end Gemfile

end GemDeps
