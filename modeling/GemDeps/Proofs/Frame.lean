import GemDeps.Proofs.AddedLines
import GemDeps.Proofs.EditedLine

/-!
# What edits leave alone

Pinning and unpinning rewrite one piece of the text and keep its line end (`Rewrites`); adding puts
new pieces between the old ones, each with the line end of the first line (`Inserts`), and only
behind a last line without a line end does an old piece change: it gets that line end, and the last
new line goes without. This holds for every text and for all strings without line feeds
(`edits_keep_lines`).
-/

namespace GemDeps

/-! ## Rewritten and inserted pieces -/

/-- Piece `i` is rewritten up to its line end; the others are as they were. -/
structure Rewrites (i : Nat) (old new : List Text) : Prop where
  lt_length : i < old.length
  length_eq : new.length = old.length
  getElem?_eq : ∀ j, j ≠ i → new[j]? = old[j]?
  lineEnd_eq : new[i]?.map Text.lineEnd = old[i]?.map Text.lineEnd

/-- `n` pieces with line end `e` are put in front of piece `i`. Behind a last piece without a line
end, that piece gets it and the last new one has none. -/
inductive Inserts (e : LineEnd) (i n : Nat) (old new : List Text) : Prop
  | between (added : List Text)
      (hopen : ¬ (i = old.length ∧ ∃ p ∈ old.getLast?, Text.lineEnd p = .open))
      (hi : i ≤ old.length) (hn : added.length = n)
      (hends : ∀ p ∈ added, Text.lineEnd p = e)
      (hnew : new = old.take i ++ added ++ old.drop i)
  | behindOpen (kept : List Text) (last : Text) (added : List Text) (final : Text)
      (hold : old = kept ++ [last]) (hlast : Text.lineEnd last = .open)
      (hi : i = old.length) (hn : added.length + 1 = n)
      (hends : ∀ p ∈ added, Text.lineEnd p = e) (hfinal : Text.lineEnd final = .open)
      (hnew : new = kept ++ [last ++ e.text] ++ added ++ [final])

/-- A revision rewrites one line of a text. -/
def Revision.RewritesLineOf (r : Revision) (t : Text) : Prop :=
  r.endLine = r.firstLine + 1 ∧ Rewrites r.firstLine (Text.pieces t) (Text.pieces r.text)

/-- A revision inserts its lines into a text, with the line end of the text's first line. -/
def Revision.InsertsInto (r : Revision) (t : Text) : Prop :=
  Inserts (Text.newlineEnd t) r.firstLine (r.endLine - r.firstLine) (Text.pieces t)
    (Text.pieces r.text)

theorem rewrites_ofLine {t l : Text} {i : Nat} (hi : i < (Text.pieces t).length)
    (hl : FitsLine t i l) : (Revision.ofLine t i l).RewritesLineOf t := by
  have hpieces : Text.pieces (Revision.ofLine t i l).text =
      (Text.pieces t).modify i fun p => l ++ (splitLineEnd p).2.text :=
    LineBuffer.pieces_replace hl.newline hl.ne_nil i
  unfold Revision.RewritesLineOf
  rw [hpieces]
  refine ⟨rfl, hi, List.length_modify .., ?_, ?_⟩
  · intro j hj
    exact List.getElem?_modify_ne _ _ (Ne.symm hj)
  · have hget := List.getElem?_eq_getElem hi
    show ((Text.pieces t).modify i _)[i]?.map _ = (Text.pieces t)[i]?.map _
    simp [hget, ← splitLineEnd_snd, hl.splitLineEnd_eq hget]

/-- A text that makes one line: no line feed, and no carriage return that a line end would take. -/
def IsLine (l : Text) : Prop := '\n' ∉ l ∧ l.getLast? ≠ some '\r'

instance (l : Text) : Decidable (IsLine l) := inferInstanceAs (Decidable (_ ∧ _))

theorem IsLine.splitLineEnd_append {l : Text} (hl : IsLine l) (e : LineEnd) :
    splitLineEnd (l ++ e.text) = (l, e) :=
  splitLineEnd_append_text hl.1 fun _ => hl.2

theorem lineEnd_terminated {b : LineBuffer} {new : List Text} (hnew : ∀ l ∈ new, IsLine l) :
    ∀ p ∈ b.terminated new, Text.lineEnd p = b.newline := by
  intro p hp
  obtain ⟨l, hl, rfl⟩ := List.mem_map.1 hp
  rw [← splitLineEnd_snd, (hnew l hl).splitLineEnd_append]

theorem isOpen_iff_getLast? {t : Text} : (LineBuffer.ofText t).isOpen = true ↔
    ∃ p ∈ (Text.pieces t).getLast?, Text.lineEnd p = .open := by
  have hpieces : (LineBuffer.ofText t).pieces = Text.pieces t := rfl
  unfold LineBuffer.isOpen
  rw [hpieces]
  cases (Text.pieces t).getLast? <;> simp [splitLineEnd_snd]

/-- Lines of which the last is not empty, and none ends in a carriage return. -/
structure PlainEnds (new : List Text) : Prop where
  exists_concat : ∃ init l, new = init ++ [l] ∧ l ≠ []
  getLast? : ∀ k ∈ new, k.getLast? ≠ some '\r'

theorem plainEnds_concat {init : List Text} {l : Text}
    (hinit : ∀ k ∈ init, k.getLast? ≠ some '\r') (hl : EndsPlain l) : PlainEnds (init ++ [l]) :=
  ⟨⟨init, l, rfl, hl.1⟩, List.forall_mem_append.2 ⟨hinit, List.forall_mem_singleton.2 hl.2⟩⟩

theorem plainEnds_singleton {l : Text} (hl : EndsPlain l) : PlainEnds [l] :=
  plainEnds_concat (List.forall_mem_nil _) hl

/-- New lines with plain ends are inserted where they are put. -/
theorem inserts_ofInsertion {t : Text} {i : Nat} {new : List Text}
    (hi : i ≤ (Text.pieces t).length) (hends : PlainEnds new) (hline : ∀ k ∈ new, '\n' ∉ k) :
    (Revision.ofInsertion t i new).InsertsInto t := by
  obtain ⟨⟨new, l, rfl, hne⟩, hlast⟩ := hends
  have hall : ∀ k ∈ new ++ [l], IsLine k := fun k hk => ⟨hline k hk, hlast k hk⟩
  obtain ⟨hnew, hl⟩ := List.forall_mem_append.1 hall
  have hl := List.forall_mem_singleton.1 hl
  have hn : (Revision.ofInsertion t i (new ++ [l])).endLine - i = new.length + 1 := by
    simp [Revision.ofInsertion]
  show Inserts _ i ((Revision.ofInsertion t i (new ++ [l])).endLine - i) _ _
  rw [hn, ← LineBuffer.newline_ofText]
  by_cases hopen : i = (Text.pieces t).length ∧ (LineBuffer.ofText t).isOpen = true
  · obtain ⟨rfl, hopen⟩ := hopen
    obtain ⟨ps, p, hps, hp⟩ := LineBuffer.isOpen_iff.1 hopen
    have hfinal : Text.IsOpen l := ⟨hne, hl.1⟩
    refine .behindOpen ps p _ l hps (lineEnd_of_isOpen hp) rfl ?_ (lineEnd_terminated hnew)
      (lineEnd_of_isOpen hfinal)
      (LineBuffer.pieces_insert_of_isOpen hps hp hfinal fun k hk => (hnew k hk).1)
    simp [LineBuffer.terminated]
  · refine .between _ ?_ hi ?_ (lineEnd_terminated hall)
      (LineBuffer.pieces_insert hi hopen (by simp) fun k hk => (hall k hk).1)
    · rwa [← isOpen_iff_getLast?]
    · simp [LineBuffer.terminated]

/-! ## Pinning and unpinning -/

theorem DeclaredOn.lt_length {kind : Kind} {t name line : Text} {i : Nat} {s : Statement}
    (h : DeclaredOn kind t name i line s) : i < (Text.pieces t).length := by
  rw [← length_lines]
  exact (List.getElem?_eq_some_iff.1 h.line_eq).1

theorem rewritesLineOf_pin {kind : Kind} {t name constraint : Text} {style : Style} {r : Revision}
    (hconstraint : '\n' ∉ constraint) (h : pin t kind name constraint style = .ok r) :
    r.RewritesLineOf t := by
  obtain ⟨i, line, s, hs, rfl⟩ := pin_eq_ok_iff.1 h
  refine rewrites_ofLine hs.lt_length (hs.fitsLine (hs.isOn.isFinished_constraint _ _) ?_)
  rw [List.mem_append, List.mem_append, not_or, not_or]
  exact ⟨⟨hs.newline_notMem_headIn _, by decide⟩, newline_notMem_wrap _ hconstraint⟩

theorem rewritesLineOf_unpin {kind : Kind} {t name : Text} {r : Revision}
    (h : unpin t kind name = .ok (some r)) : r.RewritesLineOf t := by
  obtain ⟨i, line, s, hs, hr⟩ := unpin_eq_ok_iff.1 h
  obtain ⟨-, hr⟩ := Option.ite_none_right_eq_some.1 hr.symm
  obtain rfl := Option.some.inj hr
  exact rewrites_ofLine hs.lt_length hs.unpinned.1

/-! ## Adding -/

section Adding

variable {t name : Text} {o : DeclarationOptions} {style : Style} {r : Revision}

theorem newline_notMem_of_forall {l : Text} (h : ∀ c ∈ l, c ≠ '\n') : '\n' ∉ l :=
  fun hc => h _ hc rfl

theorem forall_ne_newline {l : Text} (h : '\n' ∉ l) : ∀ c ∈ l, c ≠ '\n' := by
  rintro c hc rfl
  exact h hc

theorem newline_notMem_of_isWord {w : Text} (hw : ∀ c ∈ w, Text.isWord c = true) : '\n' ∉ w := by
  intro h
  exact absurd (hw _ h) (by decide)

theorem newline_notMem_constraint (h : ∀ v ∈ o.version, '\n' ∉ v) :
    ∀ c ∈ o.constraint?, '\n' ∉ c := fun c hc => newline_notMem_of_forall <|
  forall_mem_constraint ne_newline_of_isPlain (fun v hv => forall_ne_newline (h v hv)) c hc

theorem newline_notMem_dependencyStatement {receiver : Text} (hname : '\n' ∉ name)
    (hconstraint : ∀ c ∈ o.constraint?, '\n' ∉ c) (hreceiver : IsReceiver receiver)
    (q : QuoteStyle) : '\n' ∉ dependencyStatement receiver name o q := by
  have hword := newline_notMem_of_isWord hreceiver.isWord
  exact newline_notMem_of_forall <| forall_mem_dependencyStatement ne_newline_of_isPlain q
    (forall_ne_newline hword) (forall_ne_newline hname) fun c hc =>
      forall_ne_newline (hconstraint c hc)

theorem newline_notMem_gemStatement (hname : '\n' ∉ name) (ho : ∀ s ∈ o.strings, '\n' ∉ s)
    (q : QuoteStyle) : '\n' ∉ gemStatement name o q :=
  newline_notMem_of_forall <| forall_mem_gemStatement ne_newline_of_isPlain q
    (forall_ne_newline hname) fun s hs => forall_ne_newline (ho s hs)

theorem newline_notMem_groupLine {groups : List Text} (h : ∀ g ∈ groups, '\n' ∉ g)
    (q : QuoteStyle) : '\n' ∉ groupLine groups q :=
  newline_notMem_of_forall <| forall_mem_groupLine ne_newline_of_isPlain q fun g hg =>
    forall_ne_newline (h g hg)

variable {indent : Text} {new : List Text}

theorem GemLines.plainEnds (h : GemLines name o indent new) : PlainEnds new := by
  have hends : ∀ b q, EndsPlain (b ++ gemStatement name o q) := fun b q =>
    (endsPlain_gemStatement name o q).append b
  cases h with
  | atEnd q => exact plainEnds_singleton (hends [] q)
  | inside margin q => exact plainEnds_singleton (hends _ q)
  | block apart q =>
    have hblock : newBlock apart o.groups indent (gemStatement name o q) q =
        ((if apart then [[]] else []) ++ [groupLine o.groups q, indent ++ gemStatement name o q]) ++
          ["end".toList] := by
      rw [List.append_assoc]
      rfl
    rw [hblock]
    refine plainEnds_concat ?_ ⟨by decide, by decide⟩
    rw [List.forall_mem_append, List.forall_mem_cons, List.forall_mem_singleton]
    exact ⟨forall_mem_apart (by decide) apart, (endsPlain_groupLine _ q).2, (hends indent q).2⟩

theorem DependencyLines.plainEnds (h : DependencyLines name o indent new) : PlainEnds new := by
  have hends : ∀ b receiver q, EndsPlain (b ++ dependencyStatement receiver name o q) :=
    fun b receiver q => (endsPlain_dependencyStatement receiver name o q).append b
  cases h with
  | behind margin receiver q => exact plainEnds_singleton (hends _ _ q)
  | inside apart margin receiver q =>
    exact plainEnds_concat (forall_mem_apart (by decide) apart) (hends _ _ q)

theorem GemLines.newline_notMem (hname : '\n' ∉ name) (ho : ∀ s ∈ o.strings, '\n' ∉ s)
    (hindent : '\n' ∉ indent) (h : GemLines name o indent new) : ∀ k ∈ new, '\n' ∉ k := by
  have hstatement := newline_notMem_gemStatement hname ho
  cases h with
  | atEnd q => exact List.forall_mem_singleton.2 (hstatement q)
  | inside margin q hmargin =>
    refine List.forall_mem_singleton.2 ?_
    simp [hmargin.newline, hindent, hstatement q]
  | block apart q =>
    have hgroups : '\n' ∉ groupLine o.groups q :=
      newline_notMem_groupLine (fun g hg => ho g (by simp [DeclarationOptions.strings, hg])) q
    rw [newBlock, List.forall_mem_append, List.forall_mem_cons, List.forall_mem_cons,
      List.forall_mem_singleton]
    exact ⟨forall_mem_apart List.not_mem_nil apart, hgroups, by simp [hindent, hstatement q],
      by decide⟩

theorem DependencyLines.newline_notMem (hname : '\n' ∉ name)
    (hconstraint : ∀ c ∈ o.constraint?, '\n' ∉ c) (hindent : '\n' ∉ indent)
    (h : DependencyLines name o indent new) : ∀ k ∈ new, '\n' ∉ k := by
  have hstatement : ∀ receiver q, IsReceiver receiver →
      '\n' ∉ dependencyStatement receiver name o q := fun receiver q hreceiver =>
    newline_notMem_dependencyStatement hname hconstraint hreceiver q
  cases h with
  | behind margin receiver q hmargin hreceiver =>
    refine List.forall_mem_singleton.2 ?_
    simp [hmargin.newline, hstatement receiver q hreceiver]
  | inside apart margin receiver q hmargin hreceiver =>
    rw [List.forall_mem_append, List.forall_mem_singleton]
    refine ⟨forall_mem_apart List.not_mem_nil apart, ?_⟩
    simp [hmargin.newline, hindent, hstatement receiver q hreceiver]

variable (hname : '\n' ∉ name) (ho : ∀ s ∈ o.strings, '\n' ∉ s) (hstyle : '\n' ∉ style.indent)

include hname ho hstyle

theorem insertsInto_addDeclaration (h : addDeclaration t name o style = .ok r) :
    r.InsertsInto t := by
  obtain ⟨i, new, hi, hnew, rfl⟩ := exists_gemLines h
  exact inserts_ofInsertion hi hnew.plainEnds (hnew.newline_notMem hname ho hstyle)

theorem insertsInto_addDependency (h : addDependency t name o style = .ok r) :
    r.InsertsInto t := by
  have hversion : ∀ v ∈ o.version, '\n' ∉ v := fun v hv =>
    ho v (by simp [DeclarationOptions.strings, Option.mem_def.1 hv])
  obtain ⟨i, new, hi, hnew, rfl⟩ := exists_dependencyLines h
  exact inserts_ofInsertion hi hnew.plainEnds
    (hnew.newline_notMem hname (newline_notMem_constraint hversion) hstyle)

end Adding

/-! ## Every edit -/

/-- Every edit keeps the pieces that it does not name: a rewritten piece keeps its line end, and
inserted pieces stand between the old ones with the line end of the first. -/
theorem edits_keep_lines {t name constraint : Text} {kind : Kind} {o : DeclarationOptions}
    {style : Style} (hname : '\n' ∉ name) (hconstraint : '\n' ∉ constraint)
    (ho : ∀ s ∈ o.strings, '\n' ∉ s) (hstyle : '\n' ∉ style.indent) :
    (∀ r, pin t kind name constraint style = .ok r → r.RewritesLineOf t) ∧
      (∀ r, unpin t kind name = .ok (some r) → r.RewritesLineOf t) ∧
      (∀ r, addDeclaration t name o style = .ok r → r.InsertsInto t) ∧
      ∀ r, addDependency t name o style = .ok r → r.InsertsInto t :=
  ⟨fun _ h => rewritesLineOf_pin hconstraint h, fun _ h => rewritesLineOf_unpin h,
    fun _ h => insertsInto_addDeclaration hname ho hstyle h,
    fun _ h => insertsInto_addDependency hname ho hstyle h⟩

/-- Gems behind the last line. The new line ends as the first one does, whatever ends the others; an
open last line gets that end and the new one has none. -/
theorem edits_keep_lines_open :
    (∃ r, addDeclaration "gem 'rack'\r\ngem 'rake'".toList "rspec".toList .none
        ⟨none, .single, []⟩ = .ok r ∧
      r.text = "gem 'rack'\r\ngem 'rake'\r\ngem 'rspec'".toList ∧
      r.InsertsInto "gem 'rack'\r\ngem 'rake'".toList) ∧
    ∃ r, addDeclaration "gem 'rack'\ngem 'rake'\r\n".toList "rspec".toList .none
        ⟨none, .single, []⟩ = .ok r ∧
      r.text = "gem 'rack'\ngem 'rake'\r\ngem 'rspec'\n".toList ∧
      Inserts .lf 2 1 ["gem 'rack'\n".toList, "gem 'rake'\r\n".toList]
        ["gem 'rack'\n".toList, "gem 'rake'\r\n".toList, "gem 'rspec'\n".toList] := by
  have hopen : addDeclaration "gem 'rack'\r\ngem 'rake'".toList "rspec".toList .none
      ⟨none, .single, []⟩ =
        .ok ⟨"gem 'rack'\r\ngem 'rake'\r\ngem 'rspec'".toList, 2, 3⟩ := by decide
  have hfull : addDeclaration "gem 'rack'\ngem 'rake'\r\n".toList "rspec".toList .none
      ⟨none, .single, []⟩ =
        .ok ⟨"gem 'rack'\ngem 'rake'\r\ngem 'rspec'\n".toList, 2, 3⟩ := by decide
  have hinserts := fun t r => (@edits_keep_lines t "rspec".toList [] .gemfile .none
    ⟨none, .single, []⟩ (by decide) (by decide) (by decide) (by decide)).2.2.1 r
  exact ⟨⟨_, hopen, rfl, hinserts _ _ hopen⟩, _, hfull, rfl, hinserts _ _ hfull⟩

end GemDeps
