import GemDeps.Proofs.AddedDependency
import GemDeps.Proofs.DeclaredLines
import GemDeps.Proofs.OpenBlocks

/-!
# Documents that are read are well formed

Whatever a text says, its document is in order (`read_isWellFormed`): the declarations go down the
lines of the text, each with a name that stands on its line, groups and platforms without repeats
and a requirement that is not blank. Without a default server, a source is named by an option of the
declaration or by a block that is open on its line: a `source` statement without a block would have
set the default server (`State.currentSource_run`).
-/

namespace GemDeps

/-! ## Requirements -/

/-- Some text with no blank at either end. -/
structure IsRequirement (v : Text) : Prop where
  ne_nil : v ≠ []
  isTrimmed : Text.IsTrimmed v

theorem isRequirement_trim {v : Text} (h : Text.trim v ≠ []) : IsRequirement (Text.trim v) :=
  ⟨h, Text.isTrimmed_trim v⟩

theorem IsRequirement.append {v w : Text} (hv : IsRequirement v) (hw : IsRequirement w)
    (between : Text) : IsRequirement (v ++ (between ++ w)) where
  ne_nil h := hv.ne_nil (List.append_eq_nil_iff.1 h).1
  isTrimmed := by
    constructor
    · rw [List.head?_append_of_ne_nil _ hv.ne_nil]
      exact hv.isTrimmed.1
    · rw [← List.append_assoc, List.getLast?_append_of_ne_nil _ hw.ne_nil]
      exact hw.isTrimmed.2

theorem isRequirement_join {vs : List Text} (hne : vs ≠ []) (h : ∀ v ∈ vs, IsRequirement v)
    (sep : Text) : IsRequirement (Text.join sep vs) := by
  induction vs with
  | nil => exact absurd rfl hne
  | cons v vs ih =>
    obtain ⟨hv, hvs⟩ := List.forall_mem_cons.1 h
    cases vs with
    | nil => rwa [Text.join_singleton]
    | cons w vs =>
      rw [Text.join_cons_cons]
      exact hv.append (ih (List.cons_ne_nil w vs) hvs) sep

theorem isRequirement_of_joinVersions {vs : List Text} {v : Text}
    (h : joinVersions vs = some v) : IsRequirement v := by
  unfold joinVersions at h
  dsimp only at h
  split at h
  · cases h
  · rename_i hkept
    obtain rfl := Option.some.inj h
    apply isRequirement_join
    · simpa using hkept
    · intro w hw
      obtain ⟨hmem, hw⟩ := List.mem_filter.1 hw
      obtain ⟨u, -, rfl⟩ := List.mem_map.1 hmem
      exact isRequirement_trim (by simpa using hw)

namespace Gemspec

theorem isRequirement_of_requiredVersion? {code v : Text}
    (h : requiredVersion? code = some (some v)) : IsRequirement v := by
  obtain ⟨value, -, hvalue⟩ := Option.map_eq_some_iff.1 h
  exact isRequirement_of_joinVersions hvalue

/-- The language version of a gemspec is the one before it or a requirement. -/
theorem isRequirement_readLines {v : Option Text} (hv : ∀ w ∈ v, IsRequirement w) (n : Nat)
    (lines : List Text) : ∀ w ∈ (readLines v n lines).2, IsRequirement w := by
  induction lines generalizing v n with
  | nil => exact hv
  | cons l ls ih =>
    rw [readLines_cons]
    cases Statement.readDependency? l with
    | some stmt => exact ih hv (n + 1)
    | none =>
      apply ih
      cases hset : requiredVersion? (stripComment l) with
      | none => exact hv
      | some version =>
        rintro w rfl
        exact isRequirement_of_requiredVersion? hset

end Gemspec

/-! ## The lines of declarations -/

namespace Gemspec

theorem exists_line_of_mem {t : Text} {d : Declaration} (h : d ∈ (read t).declarations) :
    ∃ k l stmt, (Text.lines t)[k]? = some l ∧ Statement.readDependency? l = some stmt ∧
      declaration k stmt = d := by
  change d ∈ (readLines none 0 (Text.lines t)).1 at h
  rw [readLines_fst] at h
  exact mem_filterMap_lines.1 h

end Gemspec

namespace Gemfile

theorem exists_line_of_mem {t : Text} {d : Declaration} (h : d ∈ (read t).declarations) :
    ∃ k l stmt, (Text.lines t)[k]? = some l ∧ Statement.readGem? l = some stmt ∧
      declaration (stateAt (Text.lines t) k) k stmt = d := by
  rw [declarations_eq] at h
  exact mem_filterMap_lines (f := fun k => declaration (stateAt (Text.lines t) k) k).1 h

end Gemfile

/-- What is in order about a declaration that is read from some lines. -/
structure Declaration.IsWellFormed (d : Declaration) (lines : List Text) : Prop where
  line_lt : d.line.toNat < lines.length
  name_ne_nil : d.name ≠ []
  /-- No part of the name is computed when the manifest runs. -/
  name_static : ¬ ['#', '{'] <:+: d.name
  name_occurs : ∃ l, lines[d.line.toNat]? = some l ∧ d.name <:+: l
  groups_nodup : d.groups.Nodup
  platforms_nodup : d.platforms.Nodup
  requirement : ∀ v ∈ d.versionRequirement, IsRequirement v

/-- A declaration with the name, the requirement and the line of a statement is in order when its
lists are. -/
theorem Declaration.isWellFormed_of_reported {kind : Kind} {lines : List Text} {l : Text} {k : Nat}
    {s : Statement} {d : Declaration} (hsize : lines.length < UInt32.size)
    (hl : lines[k]? = some l) (hs : Statement.read? kind l = some s)
    (hd : d.reported = s.reported k) (hgroups : d.groups.Nodup) (hplatforms : d.platforms.Nodup) :
    d.IsWellFormed lines := by
  have hon := Statement.isOn_of_read? hs
  have hlt : k < lines.length := (List.getElem?_eq_some_iff.1 hl).1
  have hname : d.name = s.name := congrArg Prod.fst hd
  have hrequirement : d.versionRequirement = s.requirement := congrArg (·.2.1) hd
  have hline : d.line.toNat = k := by
    have hnumber : d.line = .ofNat k := congrArg (·.2.2) hd
    rw [hnumber, toNat_ofNat_line (Nat.le_of_lt hsize) hlt]
  refine ⟨?_, ?_, ?_, ?_, hgroups, hplatforms, ?_⟩
  · rwa [hline]
  · rw [hname]
    exact hon.name_ne_nil
  · rw [hname, ← Text.contains_iff_isInfix]
    exact ne_true_of_eq_false hon.static
  · rw [hname, hline]
    refine ⟨l, hl, s.indent ++ s.keyword ++ [s.quote.mark], s.quote.mark :: s.rest, ?_⟩
    conv => rhs; rw [hon.line_eq]
    simp only [List.append_assoc, List.cons_append, List.nil_append]
  · intro v hv
    rw [hrequirement] at hv
    exact isRequirement_of_joinVersions hv

theorem Gemfile.State.nodup_groups (s : State) : s.groups.Nodup := by
  rw [State.groups_eq]
  exact Text.nodup_union List.nodup_nil _

theorem Gemfile.State.nodup_platforms (s : State) : s.platforms.Nodup := by
  rw [State.platforms_eq]
  exact Text.nodup_union List.nodup_nil _

theorem isWellFormed_of_mem {kind : Kind} {t : Text} (hsize : (Text.lines t).length < UInt32.size)
    {d : Declaration} (hd : d ∈ (Document.read kind t).declarations) :
    d.IsWellFormed (Text.lines t) := by
  cases kind with
  | gemfile =>
    obtain ⟨k, l, stmt, hl, hstmt, rfl⟩ := Gemfile.exists_line_of_mem hd
    have hs : Statement.read? .gemfile l = some stmt := hstmt
    apply Declaration.isWellFormed_of_reported hsize hl hs rfl
    · rw [Gemfile.declaration_eq]
      exact Text.nodup_union (Gemfile.State.nodup_groups _) _
    · rw [Gemfile.declaration_eq]
      exact Text.nodup_union (Gemfile.State.nodup_platforms _) _
  | gemspec =>
    obtain ⟨k, l, stmt, hl, hstmt, rfl⟩ := Gemspec.exists_line_of_mem hd
    have hs : Statement.read? .gemspec l = some stmt := hstmt
    apply Declaration.isWellFormed_of_reported hsize hl hs rfl
    · unfold Gemspec.declaration
      dsimp only
      split
      · exact List.nodup_singleton _
      · exact List.nodup_nil
    · exact List.nodup_nil

theorem pairwise_lines {kind : Kind} {t : Text} (hsize : (Text.lines t).length < UInt32.size) :
    ((Document.read kind t).declarations.map (·.line.toNat)).Pairwise (· < ·) := by
  have hnumbers := congrArg (List.map Prod.snd) (@declarations_read kind t hsize.le)
  rw [List.map_map] at hnumbers
  change (Document.read kind t).declarations.map (·.line.toNat) = _ at hnumbers
  have hindices : ((Text.lines t).zipIdx.map Prod.snd).Pairwise (· < ·) := by
    rw [List.zipIdx_map_snd]
    exact List.pairwise_lt_range'
  rw [hnumbers, List.map_filterMap, List.pairwise_filterMap]
  refine (List.pairwise_map.1 hindices).imp ?_
  rintro ⟨l, i⟩ ⟨l', j⟩ hij a ha b hb
  simp only [Option.map_map, Option.map_eq_some_iff] at ha hb
  obtain ⟨-, -, rfl⟩ := ha
  obtain ⟨-, -, rfl⟩ := hb
  exact hij

/-! ## Sources -/

theorem Call.read?_cons (k : Text) (keywords : List Text) (code : Text) :
    read? (k :: keywords) code = (read? [k] code <|> read? keywords code) := by
  unfold read? afterKeyword?
  rw [List.findSome?_cons, List.findSome?_cons]
  cases (k.isPrefixOf? code).filter followsKeyword <;> rfl

namespace Entry

theorem opensBlock_of_ofSource {call : Call} {scope : Scope} (h : ofSource call = opens scope) :
    call.opensBlock = true := by
  unfold ofSource at h
  cases hopens : call.opensBlock with
  | true => rfl
  | false => split at h <;> simp_all

theorem ofRuby_ne_opens (call : Call) (scope : Scope) : ofRuby call ≠ opens scope := by
  unfold ofRuby
  split <;> simp

theorem eq_other_of_ofPlain {line code : Text} {scope : Scope}
    (h : ofPlain line code = opens scope) : scope = .other := by
  unfold ofPlain at h
  split at h
  · cases h
  · split at h
    · cases h
    · split at h <;> cases h
      rfl

/-- The code of a line that opens a block with a source calls one of these keywords. -/
theorem exists_blockCall?_of_ofLine {l url : Text} (h : ofLine l = opens (.source url)) :
    ∃ call, blockCall? ("source".toList :: sourceKeywords) (Text.trim (stripComment l)) =
      some call := by
  generalize hcode : Text.trim (stripComment l) = code
  rw [blockCall?, Call.read?_cons]
  rcases ofLine_cases hcode with ⟨-, he⟩ | ⟨call, -, he⟩ | ⟨call, hcall, he⟩ | ⟨call, -, he⟩ |
    ⟨call, -, he⟩ | ⟨call, hsource, hcall, -⟩ | he
  · cases he.symm.trans h
  · exact absurd (he.symm.trans h) (ofRuby_ne_opens call _)
  · rw [hcall]
    exact ⟨call, Option.filter_eq_some_iff.2 ⟨rfl, opensBlock_of_ofSource (he.symm.trans h)⟩⟩
  · cases he.symm.trans h
  · cases he.symm.trans h
  · rw [hsource]
    exact ⟨call, hcall⟩
  · cases eq_other_of_ofPlain (he.symm.trans h)

end Entry

namespace Gemfile

namespace State

/-- A default server stays, and without one no server was named. -/
theorem currentSource_after {s : State} (hs : s.defaultSource = none → s.currentSource = none)
    (e : Entry) (h : (s.after e).defaultSource = none) :
    s.defaultSource = none ∧ (s.after e).currentSource = none := by
  cases e with
  | server url =>
    change (s.defaultSource <|> some url) = none at h
    cases hdefault : s.defaultSource <;> simp [hdefault] at h
  | nothing | language _ | opens _ | closes | gem _ => exact ⟨h, hs h⟩

theorem currentSource_run {s : State} (hs : s.defaultSource = none → s.currentSource = none)
    (lines : List Text) (h : (s.run lines).defaultSource = none) :
    s.defaultSource = none ∧ (s.run lines).currentSource = none := by
  induction lines generalizing s with
  | nil => exact ⟨h, hs h⟩
  | cons l ls ih =>
    have hnext : (s.after (Entry.ofLine l)).defaultSource = none →
        s.defaultSource = none ∧ (s.after (Entry.ofLine l)).currentSource = none :=
      currentSource_after hs (Entry.ofLine l)
    obtain ⟨hdefault, hcurrent⟩ := ih (fun hl => (hnext hl).2) h
    exact ⟨(hnext hdefault).1, hcurrent⟩

end State

/-- In a text without a default server, no line has a server that was named above it. -/
theorem serverSource?_stateAt {t : Text} (h : (read t).defaultSource = none) (k : Nat) :
    (stateAt (Text.lines t) k).serverSource? = none := by
  have hlast : ((stateAt (Text.lines t) k).run ((Text.lines t).drop k)).defaultSource = none := by
    rw [stateAt, ← State.run_append, List.take_append_drop, ← readLines_snd .initial 0]
    exact h
  have hcurrent : (stateAt (Text.lines t) k).defaultSource = none →
      (stateAt (Text.lines t) k).currentSource = none := fun hdefault =>
    (State.currentSource_run (fun _ => rfl) _ hdefault).2
  have hdefault := (State.currentSource_run hcurrent _ hlast).1
  rw [State.serverSource?, hdefault, hcurrent hdefault]
  rfl

/-- An address is named for the declaration on line `k`. -/
inductive NamesSource (lines : List Text) (k : Nat) (url : Text) : Prop
  /-- By an option of its statement. -/
  | option {l : Text} {stmt : Statement} {option : Text × Value}
      (line : lines[k]? = some l) (read : Statement.readGem? l = some stmt)
      (mem : option ∈ stmt.options) (key : option.1 ∈ "github".toList :: sourceKeys)
      (names : optionSource? option = some url)
  /-- By a block that the reader has on its stack. -/
  | block {i : Nat} {opener : Text} {call : Call}
      (stack : .source url ∈ (stateAt lines k).scopes) (isOpen : i ∈ openLines lines k)
      (line : lines[i]? = some opener) (opens : Entry.ofLine opener = .opens (.source url))
      (keyword : Entry.blockCall? ("source".toList :: Entry.sourceKeywords)
        (Text.trim (stripComment opener)) = some call)

theorem mem_of_optionSource? {option : Text × Value} {url : Text}
    (h : optionSource? option = some url) : option.1 ∈ "github".toList :: sourceKeys := by
  by_contra hkey
  rw [optionSource?_of_notMem hkey] at h
  cases h

theorem namesSource_of_ownSource? {lines : List Text} {k : Nat} {l url : Text} {stmt : Statement}
    (hl : lines[k]? = some l) (hstmt : Statement.readGem? l = some stmt)
    (h : stmt.ownSource? = some url) : NamesSource lines k url := by
  obtain ⟨option, hmem, hnames⟩ := List.exists_of_findSome?_eq_some h
  exact .option hl hstmt hmem (mem_of_optionSource? hnames) hnames

theorem namesSource_of_blockSource? {lines : List Text} {k : Nat} {url : Text}
    (h : (stateAt lines k).blockSource? = some url) : NamesSource lines k url := by
  obtain ⟨scope, hscope, hurl⟩ := List.exists_of_findSome?_eq_some h
  obtain rfl : scope = .source url := by
    cases scope with
    | source u => exact congrArg Scope.source (Option.some.inj hurl)
    | groups _ | platforms _ | other => cases hurl
  have hstack : some (Scope.source url) ∈ (openLines lines k).map (scope? lines) :=
    scopes_stateAt lines k ▸ List.mem_map_of_mem hscope
  obtain ⟨i, hi, hopens⟩ := List.mem_map.1 hstack
  cases hl : lines[i]? with
  | none => simp [scope?, hl] at hopens
  | some opener =>
    have hentry : Entry.ofLine opener = .opens (.source url) := by
      rw [scope?_of_getElem? hl] at hopens
      split at hopens
      · rename_i scope hentry
        rw [hentry, Option.some.inj hopens]
      · cases hopens
    obtain ⟨call, hcall⟩ := Entry.exists_blockCall?_of_ofLine hentry
    exact .block hscope hi hl hentry hcall

theorem namesSource_of_mem {t : Text} (hsize : (Text.lines t).length < UInt32.size)
    (hdefault : (read t).defaultSource = none) {d : Declaration} (hd : d ∈ (read t).declarations)
    {url : Text} (hurl : d.source = some url) :
    NamesSource (Text.lines t) d.line.toNat url := by
  obtain ⟨k, l, stmt, hl, hstmt, rfl⟩ := exists_line_of_mem hd
  have hlt := (List.getElem?_eq_some_iff.1 hl).1
  rw [declaration_eq] at hurl ⊢
  dsimp only at hurl ⊢
  rw [toNat_ofNat_line hsize.le hlt]
  rw [serverSource?_stateAt hdefault] at hurl
  cases hown : stmt.ownSource? with
  | some u =>
    rw [hown] at hurl
    exact namesSource_of_ownSource? hl hstmt (hown.trans hurl)
  | none =>
    rw [hown] at hurl
    apply namesSource_of_blockSource?
    simpa using hurl

end Gemfile

/-! ## Documents -/

/-- What is in order about a document that is read from some lines. -/
structure Document.IsWellFormed (doc : Document) (lines : List Text) : Prop where
  /-- The declarations stand below one another. -/
  ordered : (doc.declarations.map (·.line.toNat)).Pairwise (· < ·)
  declarations : ∀ d ∈ doc.declarations, d.IsWellFormed lines
  language : doc.kind = .gemspec → ∀ v ∈ doc.languageVersion, IsRequirement v
  /-- Without a default server, a source is named by the declaration or by a block around it. -/
  sources : doc.kind = .gemfile → doc.defaultSource = none →
    ∀ d ∈ doc.declarations, ∀ url ∈ d.source, Gemfile.NamesSource lines d.line.toNat url

/-- Every document that is read is well formed. -/
theorem read_isWellFormed {kind : Kind} {t : Text} (hsize : (Text.lines t).length < UInt32.size) :
    (Document.read kind t).kind = kind ∧ (Document.read kind t).IsWellFormed (Text.lines t) := by
  have hordered := @pairwise_lines kind t hsize
  have hdeclarations := @isWellFormed_of_mem kind t hsize
  cases kind with
  | gemfile =>
    refine ⟨rfl, hordered, fun _ => hdeclarations, ?_, ?_⟩
    · rintro ⟨⟩
    · intro _ hdefault d hd url hurl
      exact Gemfile.namesSource_of_mem hsize hdefault hd hurl
  | gemspec =>
    refine ⟨rfl, hordered, fun _ => hdeclarations, ?_, ?_⟩
    · intro _
      exact Gemspec.isRequirement_readLines (fun _ h => by cases h) 0 (Text.lines t)
    · rintro ⟨⟩

/-- A block of a repository that nothing closes around a block of a group. -/
def unclosedRepository : Text :=
  ("git 'u' do\n  group :test do\n" ++
    "    gem 'a', ' >= 1', ['< 3 '], groups: [:test, :ci]\n  end\n").toList

theorem read_isWellFormed_unclosed :
    (Text.lines unclosedRepository).length < UInt32.size ∧
      (Document.read .gemfile unclosedRepository).defaultSource = none ∧
      ((Document.read .gemfile unclosedRepository).declarations.map fun d =>
        (d.name, d.line.toNat)) = [("a".toList, 2)] ∧
      (Document.read .gemfile unclosedRepository).IsWellFormed (Text.lines unclosedRepository) := by
  have hsize : (Text.lines unclosedRepository).length < UInt32.size := by decide
  refine ⟨hsize, by decide, ?_, (read_isWellFormed hsize).2⟩
  rw [declarations_read hsize.le]
  decide

end GemDeps
