import GemDeps.Proofs.Reading
import GemDeps.Revision.Addition

/-!
# Declarations and their lines

The declarations of a document are the statements on the lines of its text, each once, in their
order, with their names and line numbers (`declarations_read`). So every search for a line finds
what the reader reports, and an edit refuses a name for want of a declaration, or for having one,
exactly when the reader says so (`reader_agrees_with_edits`).
-/

namespace GemDeps

variable {kind : Kind} {t name : Text}

/-! ## Names and lines -/

theorem toNat_ofNat_line {n i : Nat} (hn : n ≤ UInt32.size) (hi : i < n) :
    (UInt32.ofNat i).toNat = i :=
  UInt32.toNat_ofNat_of_lt (Nat.lt_of_lt_of_le hi hn)

/-- Name and line of each declaration are those of a statement, in the order of the lines. -/
theorem declarations_read (h : (Text.lines t).length ≤ UInt32.size) :
    (Document.read kind t).declarations.map (fun d => (d.name, d.line.toNat)) =
      (Text.lines t).zipIdx.filterMap fun p =>
        (Statement.read? kind p.1).map fun s => (s.name, p.2) := by
  have hreported := congrArg (List.map fun r => (r.1, r.2.2.toNat)) (reported_read kind t)
  rw [List.map_map, List.map_filterMap] at hreported
  refine hreported.trans (List.filterMap_congr ?_)
  rintro ⟨l, i⟩ hmem
  have hi : i < (Text.lines t).length := by
    have := List.snd_lt_add_of_mem_zipIdx hmem
    omega
  rw [Option.map_map]
  refine congrArg (Option.map · (Statement.read? kind l)) ?_
  funext s
  show (s.name, (UInt32.ofNat i).toNat) = (s.name, i)
  rw [toNat_ofNat_line h hi]

/-- The declaration that is found for a name stands on the first line that declares it. -/
theorem line_find? (h : (Text.lines t).length ≤ UInt32.size) :
    ((Document.read kind t).find? name).map (·.line.toNat) = declarationLine? kind t name := by
  cases hline : declarationLine? kind t name with
  | none =>
    have hnone : ¬ ((Document.read kind t).find? name).isSome = true := by
      rw [← isSome_declarationLine?_iff, hline]
      exact Bool.false_ne_true
    rw [Option.not_isSome_iff_eq_none.1 hnone]
    rfl
  | some i =>
    obtain ⟨⟨l, hl, hdeclares⟩, -⟩ := declarationLine?_eq_some_iff.1 hline
    obtain ⟨s, hs, -⟩ := declares_iff.1 hdeclares
    obtain ⟨d, hd, hreported⟩ := Option.map_eq_some_iff.1 (reported_find? hline hl hs)
    have hnumber : d.line = .ofNat i := congrArg (fun r => r.2.2) hreported
    rw [hd, Option.map_some, hnumber,
      toNat_ofNat_line h (List.getElem?_eq_some_iff.1 hl).1]

/-! ## The last declaration -/

/-- The last line that is read as something, among all that are. -/
theorem lastIdx?_eq_getLast? {α : Type} (f : Text → Option α) (n : Nat) (lines : List Text) :
    lastIdx? (fun l => (f l).isSome) n lines =
      ((lines.zipIdx n).filterMap fun p => (f p.1).map fun _ => p.2).getLast? := by
  induction lines generalizing n with
  | nil => rfl
  | cons l ls ih =>
    rw [lastIdx?, ih, List.zipIdx_cons, List.filterMap_cons]
    cases f l with
    | none => simp
    | some a =>
      rw [Option.map_some, List.getLast?_cons]
      cases ((ls.zipIdx (n + 1)).filterMap fun p => (f p.1).map fun _ => p.2).getLast? <;> rfl

theorem line_getLast? (h : (Text.lines t).length ≤ UInt32.size) :
    (Document.read kind t).declarations.getLast?.map (·.line.toNat) =
      lastDeclarationLine? kind t := by
  have hnumbers := congrArg (List.map Prod.snd) (@declarations_read kind t h)
  rw [List.map_map, List.map_filterMap] at hnumbers
  simp only [Option.map_map, Function.comp_def] at hnumbers
  rw [lastDeclarationLine?, lastIdx?_eq_getLast?, ← hnumbers, List.getLast?_map]

/-! ## Refused edits -/

theorem declarationToEdit_notFound_iff {n : Text} :
    declarationToEdit kind t name = .error (.declarationNotFound n) ↔
      n = name ∧ declarationLine? kind t name = none := by
  unfold declarationToEdit
  cases hline : declarationLine? kind t name with
  | none => simp [eq_comm]
  | some i =>
    -- The line that was found holds a statement, so only a continued one is refused.
    obtain ⟨⟨l, hl, hdeclares⟩, -⟩ := declarationLine?_eq_some_iff.1 hline
    obtain ⟨s, hs, -⟩ := declares_iff.1 hdeclares
    simp only [LineBuffer.content_ofText hl, hs]
    split <;> simp

theorem pin_eq_error_iff {constraint : Text} {style : Style} {e : RevisionError} :
    pin t kind name constraint style = .error e ↔ declarationToEdit kind t name = .error e := by
  unfold pin
  cases declarationToEdit kind t name with
  | error e' => exact ⟨by rintro ⟨⟩; rfl, by rintro ⟨⟩; rfl⟩
  | ok d => exact iff_of_false (by rintro ⟨⟩) (by rintro ⟨⟩)

theorem unpin_eq_error_iff {e : RevisionError} :
    unpin t kind name = .error e ↔ declarationToEdit kind t name = .error e := by
  unfold unpin
  cases declarationToEdit kind t name with
  | error e' => exact ⟨by rintro ⟨⟩; rfl, by rintro ⟨⟩; rfl⟩
  | ok d =>
    obtain ⟨i, line, s⟩ := d
    refine iff_of_false ?_ (by rintro ⟨⟩)
    intro h
    change (if hasVersionArgument s.rest then _ else _) = _ at h
    split at h <;> cases h

theorem addDeclaration_alreadyDeclared_iff {o : DeclarationOptions} {style : Style} {n : Text} :
    addDeclaration t name o style = .error (.alreadyDeclared n) ↔
      n = name ∧ (declarationLine? .gemfile t name).isSome = true := by
  unfold addDeclaration
  by_cases h : (declarationLine? .gemfile t name).isSome = true
  · simp [h, eq_comm]
  · rw [if_neg h]
    refine iff_of_false ?_ fun hsome => h hsome.2
    split <;> simp

theorem addDependency_alreadyDeclared_iff {o : DeclarationOptions} {style : Style} {n : Text} :
    addDependency t name o style = .error (.alreadyDeclared n) ↔
      n = name ∧ (declarationLine? .gemspec t name).isSome = true := by
  unfold addDependency
  by_cases h : (declarationLine? .gemspec t name).isSome = true
  · simp [h, eq_comm]
  · rw [if_neg h]
    refine iff_of_false ?_ fun hsome => h hsome.2
    dsimp only
    split <;> simp

/-! ## The reader and the edits -/

/-- The reader and the edits see the same declarations: the reader reports the statements on the
lines with their names and numbers, the first declaration of a name and the last of all stand where
the searches find them, and an edit says that a name has no declaration, or has one already, exactly
when the reader finds none, or one. -/
theorem reader_agrees_with_edits (h : (Text.lines t).length < UInt32.size) :
    (Document.read kind t).declarations.map (fun d => (d.name, d.line.toNat)) =
        ((Text.lines t).zipIdx.filterMap fun p =>
          (Statement.read? kind p.1).map fun s => (s.name, p.2)) ∧
      (∀ name, ((Document.read kind t).find? name).map (·.line.toNat) =
        declarationLine? kind t name) ∧
      (Document.read kind t).declarations.getLast?.map (·.line.toNat) =
        lastDeclarationLine? kind t ∧
      (∀ name constraint style n,
        pin t kind name constraint style = .error (.declarationNotFound n) ↔
          n = name ∧ (Document.read kind t).find? name = none) ∧
      (∀ name n, unpin t kind name = .error (.declarationNotFound n) ↔
        n = name ∧ (Document.read kind t).find? name = none) ∧
      (∀ name o style n, addDeclaration t name o style = .error (.alreadyDeclared n) ↔
        n = name ∧ ((Document.read .gemfile t).find? name).isSome = true) ∧
      ∀ name o style n, addDependency t name o style = .error (.alreadyDeclared n) ↔
        n = name ∧ ((Document.read .gemspec t).find? name).isSome = true := by
  have hle := Nat.le_of_lt h
  have hnone : ∀ {name}, declarationLine? kind t name = none ↔
      (Document.read kind t).find? name = none := by
    intro name
    rw [← Option.not_isSome_iff_eq_none, ← Option.not_isSome_iff_eq_none,
      isSome_declarationLine?_iff]
  refine ⟨declarations_read hle, fun name => line_find? hle, line_getLast? hle, ?_, ?_, ?_, ?_⟩
  · intro name constraint style n
    rw [pin_eq_error_iff, declarationToEdit_notFound_iff, hnone]
  · intro name n
    rw [unpin_eq_error_iff, declarationToEdit_notFound_iff, hnone]
  · intro name o style n
    rw [addDeclaration_alreadyDeclared_iff, isSome_declarationLine?_iff]
  · intro name o style n
    rw [addDependency_alreadyDeclared_iff, isSome_declarationLine?_iff]

/-- Two gems, one of them declared twice, among lines that declare nothing. -/
theorem reader_agrees_with_edits_twice :
    (Text.lines "# gem 'c'\ngem 'a'\ngroup :test do\n  gem 'b'\nend\ngem 'a'".toList).length <
        UInt32.size ∧
      ((Document.read .gemfile
          "# gem 'c'\ngem 'a'\ngroup :test do\n  gem 'b'\nend\ngem 'a'".toList).declarations.map
        fun d => (d.name, d.line.toNat)) = [("a".toList, 1), ("b".toList, 3), ("a".toList, 5)] := by
  have hlines : (Text.lines
      "# gem 'c'\ngem 'a'\ngroup :test do\n  gem 'b'\nend\ngem 'a'".toList).length < UInt32.size := by
    decide
  refine ⟨hlines, ?_⟩
  rw [(reader_agrees_with_edits hlines).1]
  decide

end GemDeps
