import GemDeps.Proofs.JsonRecords

/-!
# Documents through JSON

A document is read back from the JSON text that is written for it, on one line as well as over
several (`Document.parse?_toJson`). Its parts are read back one by one: what is loaded for a gem,
a declaration, the list of declarations, and the document around it with or without a path.
-/

namespace GemDeps

open Json

/-! ## Declarations -/

namespace RequireOption

/-- Nothing to load and the file `false` are written differently, and neither is `null`. -/
theorem ofJson?_toJson (o : RequireOption) : ofJson? o.toJson = some o := by
  cases o with
  | disabled => rfl
  | path p =>
    change (unescape? (escape p)).map path = some (path p)
    rw [unescape?_escape, Option.map_some]

theorem toJson_ne_null (o : RequireOption) : o.toJson ≠ .null := by
  cases o <;> nofun

theorem isWritten_toJson (o : RequireOption) : o.toJson.IsWritten := by
  cases o with
  | disabled => trivial
  | path p => exact isWritten_ofText p

end RequireOption

namespace Declaration

/-- The names of a declaration's fields. -/
def fieldNames : List Text :=
  ["name", "versionRequirement", "source", "groups", "platforms", "requireOption", "line"].map
    String.toList

/-- What is written for the fields of a declaration: a value for each of them. -/
def fieldValues (d : Declaration) : List (Option Json) :=
  [some (ofText d.name), some (ofOption ofText d.versionRequirement),
    some (ofOption ofText d.source), some (ofTexts d.groups), some (ofTexts d.platforms),
    some (ofOption RequireOption.toJson d.requireOption), some (Json.ofNat d.line.toNat)]

theorem areFieldNames : AreFieldNames fieldNames := ⟨by decide, by decide⟩

theorem toJson_eq (d : Declaration) :
    d.toJson = .object (presentFields (fieldNames.zip d.fieldValues)) := rfl

theorem fields?_toJson (d : Declaration) : fields? fieldNames d.toJson = some d.fieldValues :=
  @fields?_presentFields (fieldNames.zip d.fieldValues) areFieldNames

theorem ofJson?_toJson (d : Declaration) : ofJson? d.toJson = some d := by
  unfold ofJson?
  dsimp only
  rw [← fieldNames, fields?_toJson]
  simp only [fieldValues, required?, text?_ofText, optional?_ofText, texts?_ofTexts, word32?_ofNat,
    optional?_ofOption RequireOption.ofJson?_toJson RequireOption.toJson_ne_null]
  rfl

theorem isWritten_toJson (d : Declaration) : d.toJson.IsWritten := by
  refine @isWritten_presentFields (fieldNames.zip d.fieldValues) areFieldNames
    fun j (hj : some j ∈ d.fieldValues) => ?_
  simp only [fieldValues, List.mem_cons, Option.some.injEq, List.not_mem_nil, or_false] at hj
  rcases hj with rfl | rfl | rfl | rfl | rfl | rfl | rfl
  · exact isWritten_ofText d.name
  · exact isWritten_ofOption isWritten_ofText d.versionRequirement
  · exact isWritten_ofOption isWritten_ofText d.source
  · exact isWritten_array isWritten_ofText d.groups
  · exact isWritten_array isWritten_ofText d.platforms
  · exact isWritten_ofOption RequireOption.isWritten_toJson d.requireOption
  · exact isNumber_decimal d.line.toNat

theorem listOfJson?_toJson (ds : List Declaration) :
    listOfJson? (.array (ds.map toJson)) = some ds :=
  mapM_map_eq_some ofJson?_toJson ds

end Declaration

/-! ## Documents -/

theorem Kind.escape_name (k : Kind) : escape k.name = k.name := by
  cases k <;> decide

theorem Kind.variant?_name (k : Kind) : variant? names (.string k.name) = some k := by
  cases k <;> rfl

namespace Document

/-- The names of a document's fields. -/
def fieldNames : List Text :=
  ["kind", "path", "languageVersion", "defaultSource", "declarations"].map String.toList

/-- What is written for the fields of a document. Only the path may be left out. -/
def fieldValues (d : Document) : List (Option Json) :=
  [some (.string d.kind.name), d.path.map fun p => ofText p.text,
    some (ofOption ofText d.languageVersion), some (ofOption ofText d.defaultSource),
    some (.array (d.declarations.map Declaration.toJson))]

theorem areFieldNames : AreFieldNames fieldNames := ⟨by decide, by decide⟩

theorem toJson_eq (d : Document) :
    d.toJson = .object (presentFields (fieldNames.zip d.fieldValues)) := by
  obtain ⟨kind, _ | path, languageVersion, defaultSource, declarations⟩ := d <;> rfl

theorem fields?_toJson (d : Document) : fields? fieldNames d.toJson = some d.fieldValues := by
  rw [toJson_eq]
  exact @fields?_presentFields (fieldNames.zip d.fieldValues) areFieldNames

theorem optional?_path (path : Option Path) :
    optional? (fun p => (text? p).map Path.mk) (path.map fun p => ofText p.text) = some path := by
  cases path with
  | none => rfl
  | some p =>
    change ((text? (ofText p.text)).map Path.mk).map some = some (some p)
    rw [text?_ofText, Option.map_some, Option.map_some]

theorem ofJson?_toJson (d : Document) : ofJson? d.toJson = some d := by
  unfold ofJson?
  dsimp only
  rw [← fieldNames, fields?_toJson]
  simp only [fieldValues, required?, Kind.variant?_name, optional?_path, optional?_ofText,
    Declaration.listOfJson?_toJson]
  rfl

theorem isWritten_toJson (d : Document) : d.toJson.IsWritten := by
  rw [toJson_eq]
  refine @isWritten_presentFields (fieldNames.zip d.fieldValues) areFieldNames
    fun j (hj : some j ∈ d.fieldValues) => ?_
  simp only [fieldValues, List.mem_cons, Option.some.injEq, List.not_mem_nil, or_false] at hj
  rcases hj with rfl | hpath | rfl | rfl | rfl
  · exact isLexeme_of_plain d.kind.escape_name
  · obtain ⟨p, -, rfl⟩ := Option.map_eq_some_iff.1 hpath.symm
    exact isWritten_ofText p.text
  · exact isWritten_ofOption isWritten_ofText d.languageVersion
  · exact isWritten_ofOption isWritten_ofText d.defaultSource
  · exact isWritten_array Declaration.isWritten_toJson d.declarations

/-- Nothing of a document is lost in its JSON text, on one line or over several. -/
theorem parse?_toJson (d : Document) :
    parse? d.toJson.compact = some d ∧ parse? (d.toJson.pretty 0) = some d := by
  have hcompact := parse?_compact d.isWritten_toJson
  have hpretty := parse?_pretty d.isWritten_toJson 0
  rw [parse?, parse?, hcompact, hpretty]
  exact ⟨d.ofJson?_toJson, d.ofJson?_toJson⟩

end Document

end GemDeps
