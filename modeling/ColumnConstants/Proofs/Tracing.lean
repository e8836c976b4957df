import ColumnConstants.Proofs.Gathering

namespace ColumnConstants

inductive FieldDecl.Skipped (style : Style) : FieldDecl → Record → Prop where
  | embedded (tag : Option String) : Skipped style ⟨[], tag⟩ (.skippedEmbedded tag)
  | untagged (name : String) (more : List String) :
      Skipped style ⟨name :: more, none⟩ (.skippedUntagged name)
  | columnless (name : String) (more : List String) {tag : String}
      (h : style.column? tag = none) :
      Skipped style ⟨name :: more, some tag⟩ (.skippedColumnless style name tag)

inductive Traced (style : Style) : List FieldDecl → List Field → List Record → Prop where
  | nil : Traced style [] [] []
  | kept {line : FieldDecl} {lines : List FieldDecl} {field : Field} {fields : List Field}
      {records : List Record} (h : line.columnField? style = some field)
      (rest : Traced style lines fields records) :
      Traced style (line :: lines) (field :: fields) records
  | skipped {line : FieldDecl} {lines : List FieldDecl} {fields : List Field} {record : Record}
      {records : List Record} (h : line.Skipped style record)
      (rest : Traced style lines fields records) :
      Traced style (line :: lines) fields (record :: records)

-- Whether the lines are traced by the records up to the first one that gives a field with a column
-- that is not accepted.
def StoppedAt (style : Style) (validation : Validation) (lines : List FieldDecl)
    (records : List Record) (field : Field) : Prop :=
  ∃ before line after fields, lines = before ++ line :: after ∧
    Traced style before fields records ∧
    (∀ other ∈ fields, validation.accepts other.column = true) ∧
    line.columnField? style = some field ∧ validation.accepts field.column = false

section

variable {style : Style} {validation : Validation} {line : FieldDecl} {lines more : List FieldDecl}
variable {field : Field} {fields found : List Field} {record : Record}
variable {records reported : List Record}

theorem FieldDecl.field_cases (style : Style) (line : FieldDecl) :
    (∃ record, line.field style = .error record ∧ line.Skipped style record) ∨
    (∃ field, line.field style = .ok field ∧ line.columnField? style = some field) := by
  match line with
  | ⟨[], tag⟩ => exact .inl ⟨_, rfl, .embedded tag⟩
  | ⟨name :: more, none⟩ => exact .inl ⟨_, rfl, .untagged name more⟩
  | ⟨name :: more, some tag⟩ =>
    cases hc : style.column? tag
    case none => exact .inl ⟨_, by simp [FieldDecl.field, hc], .columnless name more hc⟩
    case some column =>
      refine .inr ⟨⟨name, column⟩, by simp [FieldDecl.field, hc], ?_⟩
      simp [FieldDecl.columnField?, hc]

theorem FieldDecl.Skipped.columnField? (h : line.Skipped style record) :
    line.columnField? style = none := by
  cases h with
  | embedded | untagged => rfl
  | columnless _ _ h => simp [FieldDecl.columnField?, h]

theorem FieldDecl.Skipped.unique {other : Record} (h : line.Skipped style record)
    (ho : line.Skipped style other) : other = record := by
  cases h <;> cases ho <;> rfl

theorem FieldDecl.Skipped.debug (h : line.Skipped style record) : record.level = .debug := by
  cases h <;> rfl

theorem FieldDecl.columnField?_eq_none_iff :
    line.columnField? style = none ↔ ∃! record, line.Skipped style record := by
  constructor
  case mp =>
    intro hn
    cases line.field_cases style
    case inl h =>
      have ⟨record, _, hs⟩ := h
      exact ⟨record, hs, fun _ => hs.unique⟩
    case inr h =>
      have ⟨_, _, hc⟩ := h
      cases hn.symm.trans hc
  case mpr => exact fun ⟨_, hs, _⟩ => hs.columnField?

namespace Traced

theorem length (h : Traced style lines fields records) :
    fields.length + records.length = lines.length := by
  induction h with
  | nil => rfl
  | kept _ _ ih => simp [← ih]; omega
  | skipped _ _ ih => simp [← ih]; omega

theorem debug (h : Traced style lines fields records) : ∀ record ∈ records, record.level = .debug := by
  induction h with
  | nil => exact nofun
  | kept _ _ ih => exact ih
  | skipped h _ ih => exact List.forall_mem_cons.mpr ⟨h.debug, ih⟩

theorem append (h : Traced style lines fields records) (hm : Traced style more found reported) :
    Traced style (lines ++ more) (fields ++ found) (records ++ reported) := by
  induction h with
  | nil => exact hm
  | kept h _ ih => exact .kept h ih
  | skipped h _ ih => exact .skipped h ih

end Traced

namespace StoppedAt

theorem debug (h : StoppedAt style validation lines records field) :
    ∀ record ∈ records, record.level = .debug :=
  have ⟨_, _, _, _, _, ht, _⟩ := h
  ht.debug

theorem append (h : StoppedAt style validation lines records field) :
    StoppedAt style validation (lines ++ more) records field := by
  have ⟨before, line, after, fields, he, ht⟩ := h
  exact ⟨before, line, after ++ more, fields, by simp [he], ht⟩

theorem behind (h : StoppedAt style validation more reported field)
    (ht : Traced style lines fields records)
    (ha : ∀ other ∈ fields, validation.accepts other.column = true) :
    StoppedAt style validation (lines ++ more) (records ++ reported) field := by
  have ⟨before, line, after, found, he, hb, hf, hl⟩ := h
  refine ⟨lines ++ before, line, after, fields ++ found, by simp [he], ht.append hb, ?_, hl⟩
  exact List.forall_mem_append.mpr ⟨ha, hf⟩

end StoppedAt

inductive Extracted (style : Style) (validation : Validation) (lines : List FieldDecl) :
    Logged ExtractError (List Field) → Prop where
  | done {fields : List Field} {records : List Record} (h : Traced style lines fields records)
      (accepted : ∀ field ∈ fields, validation.accepts field.column = true) :
      Extracted style validation lines ⟨records, .ok fields⟩
  | stopped {records : List Record} {field : Field}
      (h : StoppedAt style validation lines records field) :
      Extracted style validation lines ⟨records, .error (.invalidColumn field.name field.column)⟩

theorem extracted_extractFields (style : Style) (validation : Validation) (lines : List FieldDecl) :
    Extracted style validation lines (extractFields style validation lines) := by
  induction lines with
  | nil => exact .done .nil nofun
  | cons line lines ih =>
    generalize hx : extractFields style validation lines = x at ih
    cases line.field_cases style
    case inl h =>
      obtain ⟨record, hf, hs⟩ := h
      have hl : Traced style [line] [] [record] := .skipped hs .nil
      simp only [extractFields, hf, hx, Logged.note, Logged.bind_mk_ok]
      cases ih with
      | done ht ha => exact .done (hl.append ht) ha
      | stopped hp => exact .stopped (hp.behind hl nofun)
    case inr h =>
      obtain ⟨field, hf, hc⟩ := h
      have hl : Traced style [line] [field] [] := .kept hc .nil
      simp only [extractFields, hf, hx, Logged.map_eq]
      cases ha : validation.accepts field.column
      case false => exact .stopped ⟨[], line, lines, [], rfl, .nil, nofun, hc, ha⟩
      case true =>
        have hf : ∀ other ∈ [field], validation.accepts other.column = true := by simpa using ha
        cases ih with
        | done ht hr => exact .done (hl.append ht) (List.forall_mem_append.mpr ⟨hf, hr⟩)
        | stopped hp => exact .stopped (hp.behind hl hf)

inductive Gathered (type : String) (style : Style) (validation : Validation)
    (decls : List TypeDecl) : Logged ExtractError (List Field) → Prop where
  | extracted {x : Logged ExtractError (List Field)}
      (h : Extracted style validation (decls.flatMap TypeDecl.lines) x) :
      Gathered type style validation decls x
  | other {front rest : List TypeDecl} {decl : TypeDecl} {fields : List Field}
      {records : List Record} (split : decls = front ++ decl :: rest)
      (structs : ∀ d ∈ front, d.IsStruct) (kind : decl.kind = .other)
      (h : Traced style (front.flatMap TypeDecl.lines) fields records) :
      Gathered type style validation decls ⟨records, .error (.notAStruct type)⟩

theorem gathered_extractDecls (type : String) (style : Style) (validation : Validation)
    (decls : List TypeDecl) :
    Gathered type style validation decls (extractDecls type style validation decls) := by
  induction decls with
  | nil => exact .extracted (.done .nil nofun)
  | cons decl decls ih =>
    cases hk : decl.kind
    case other =>
      simp only [extractDecls, hk]
      exact .other (show decl :: decls = [] ++ decl :: decls from rfl) (by simp) hk .nil
    case struct lines =>
      have hl : (decl :: decls).flatMap TypeDecl.lines = lines ++ decls.flatMap TypeDecl.lines := by
        simp [TypeDecl.lines, hk]
      have hx := extracted_extractFields style validation lines
      simp only [extractDecls, hk]
      generalize extractFields style validation lines = x at hx
      generalize extractDecls type style validation decls = y at ih
      cases hx with
      | stopped hp => exact .extracted (.stopped (hl ▸ hp.append))
      | done ht ha =>
        cases ih with
        | extracted hy =>
          cases hy with
          | done hr hb =>
            exact .extracted (.done (hl ▸ ht.append hr) (List.forall_mem_append.mpr ⟨ha, hb⟩))
          | stopped hp => exact .extracted (.stopped (hl ▸ hp.behind ht ha))
        | @other front rest _ _ _ hs hf ho hr =>
          have hd : ∀ d ∈ decl :: front, d.IsStruct := List.forall_mem_cons.mpr ⟨⟨lines, hk⟩, hf⟩
          have hf : (decl :: front).flatMap TypeDecl.lines =
              lines ++ front.flatMap TypeDecl.lines := by
            simp [TypeDecl.lines, hk]
          exact .other (congrArg (decl :: ·) hs) hd ho (hf ▸ ht.append hr)

-- What the extraction of a struct type comes to, with its log. The number of fields is reported if
-- there are any, behind all that is said about the lines.
inductive Reported (file : SourceFile) (type : String) (style : Style) (validation : Validation) :
    Logged ExtractError (List Field) → Prop where
  | found {fields : List Field} {skipped : List Record}
      (h : Traced style ((file.typesNamed type).flatMap TypeDecl.lines) fields skipped) :
      Reported file type style validation
        ⟨skipped ++ [.extracted fields.length file.package type style], .ok fields⟩
  | none {records : List Record}
      (h : Traced style ((file.typesNamed type).flatMap TypeDecl.lines) [] records) :
      Reported file type style validation ⟨records, .error (.noFields type)⟩
  | failed {records : List Record} {e : ExtractError}
      (h : Gathered type style validation (file.typesNamed type) ⟨records, .error e⟩) :
      Reported file type style validation ⟨records, .error e⟩

theorem reported_extractStruct (file : SourceFile) (type : String) (style : Style)
    (validation : Validation) :
    Reported file type style validation (extractStruct file type style validation) := by
  have hg := gathered_extractDecls type style validation (file.typesNamed type)
  simp only [extractStruct]
  generalize extractDecls type style validation (file.typesNamed type) = x at hg
  obtain ⟨records, result⟩ := x
  cases result
  case error e => exact .failed hg
  case ok fields =>
    cases hg with
    | extracted hx =>
      cases hx with
      | done ht _ =>
        cases fields
        case nil => simpa [Logged.fail] using Reported.none ht
        case cons field fields => simpa [Logged.note] using Reported.found ht

end

-- Every line that an extraction comes to is traced: it gives a field, or a record for one reason
-- alone. If the extraction succeeds, it has come to all lines; if it ends at a column that is not
-- accepted, to those in front of it and to that of the column. The extraction of a struct type comes
-- to the lines of all declarations of the type, and reports the number of fields if it succeeds.
theorem extractStruct_traced (file : SourceFile) (type : String) (style : Style)
    (validation : Validation) :
    (∀ line : FieldDecl, line.columnField? style = none ↔ ∃! record, line.Skipped style record) ∧
    (∀ lines : List FieldDecl,
      let extraction := extractFields style validation lines
      (∀ fields, extraction.result = .ok fields →
        Traced style lines fields extraction.records ∧
        fields.length + extraction.records.length = lines.length) ∧
      (∀ e, extraction.result = .error e →
        ∃ field, e = .invalidColumn field.name field.column ∧
          StoppedAt style validation lines extraction.records field) ∧
      ∀ record ∈ extraction.records, record.level = .debug) ∧
    let extraction := extractStruct file type style validation
    let lines := (file.typesNamed type).flatMap TypeDecl.lines
    (∀ fields, extraction.result = .ok fields →
      ∃ skipped, extraction.records =
          skipped ++ [.extracted fields.length file.package type style] ∧
        Traced style lines fields skipped ∧ fields.length + skipped.length = lines.length ∧
        ∀ record ∈ skipped, record.level = .debug) ∧
    (∀ name column, extraction.result = .error (.invalidColumn name column) →
      StoppedAt style validation lines extraction.records ⟨name, column⟩) ∧
    (∀ t, extraction.result = .error (.noFields t) → Traced style lines [] extraction.records) ∧
    (∀ t, extraction.result = .error (.notAStruct t) →
      ∃ front other rest fields, file.typesNamed type = front ++ other :: rest ∧
        (∀ decl ∈ front, decl.IsStruct) ∧ other.kind = .other ∧
        Traced style (front.flatMap TypeDecl.lines) fields extraction.records) ∧
    ((∃ record ∈ extraction.records, record.level = .info) ↔
      ∃ fields, extraction.result = .ok fields) := by
  have silent {records : List Record} (h : ∀ record ∈ records, record.level = .debug) :
      ¬∃ record ∈ records, record.level = .info := by
    intro ⟨record, hm, hi⟩
    cases (h record hm).symm.trans hi
  refine ⟨fun line => line.columnField?_eq_none_iff, fun lines => ?lines, ?struct⟩
  case lines =>
    have hx := extracted_extractFields style validation lines
    generalize extractFields style validation lines = x at hx
    cases hx with
    | done ht _ =>
      refine ⟨fun _ he => ?_, nofun, ht.debug⟩
      cases he
      exact ⟨ht, ht.length⟩
    | stopped hp =>
      refine ⟨nofun, fun _ he => ?_, hp.debug⟩
      cases he
      exact ⟨_, rfl, hp⟩
  case struct =>
    have hr := reported_extractStruct file type style validation
    generalize extractStruct file type style validation = x at hr ⊢
    intro extraction lines
    cases hr with
    | @found fields skipped ht =>
      refine ⟨fun _ he => ?_, nofun, nofun, nofun, fun _ => ⟨_, rfl⟩, fun _ => ?_⟩
      · cases he
        exact ⟨skipped, rfl, ht, ht.length, ht.debug⟩
      · exact ⟨_, List.mem_append_right _ List.mem_cons_self, rfl⟩
    | none ht =>
      exact ⟨nofun, nofun, fun _ _ => ht, nofun, fun h => absurd h (silent ht.debug), nofun⟩
    | failed hg =>
      cases hg with
      | extracted hx =>
        cases hx with
        | stopped hp =>
          refine ⟨nofun, fun _ _ he => ?_, nofun, nofun, fun h => absurd h (silent hp.debug), nofun⟩
          cases he
          exact hp
      | other hs hf ho ht =>
        refine ⟨nofun, nofun, nofun, fun _ _ => ?_, fun h => absurd h (silent ht.debug), nofun⟩
        exact ⟨_, _, _, _, hs, hf, ho, ht⟩

theorem extractStruct_traced_skipped :
    let first : List FieldDecl := [⟨[], some "`db:\"e\"`"⟩, ⟨["A", "B"], some "`db:\"a\"`"⟩]
    let second : List FieldDecl :=
      [⟨["C"], none⟩, ⟨["D"], some "`db`"⟩, ⟨["E"], some "`db:\"e e\"`"⟩, ⟨["F"], none⟩]
    let file : SourceFile := ⟨"p", structs "T" [first, second]⟩
    let lenient := extractStruct file "T" .firstPair .lenient
    let strict := extractStruct file "T" .firstPair .strict
    let fields : List Field := [⟨"A", "a"⟩, ⟨"E", "e e"⟩]
    lenient.result = .ok fields ∧
    (∃ skipped, lenient.records = skipped ++ [.extracted 2 "p" "T" .firstPair] ∧
      Traced .firstPair (first ++ second) fields skipped ∧ 2 + skipped.length = 6 ∧
      ∀ record ∈ skipped, record.level = .debug) ∧
    strict.result = .error (.invalidColumn "E" "e e") ∧
    StoppedAt .firstPair .strict (first ++ second) strict.records ⟨"E", "e e"⟩ ∧
    (extractFields .firstPair .strict first).result = .ok [⟨"A", "a"⟩] ∧
    Traced .firstPair first [⟨"A", "a"⟩] (extractFields .firstPair .strict first).records := by
  intro first second file lenient strict fields
  have hl : lenient.result = .ok fields := rfl
  have hs : strict.result = .error (.invalidColumn "E" "e e") := rfl
  have hf : (extractFields .firstPair .strict first).result = .ok [⟨"A", "a"⟩] := rfl
  have ⟨_, _, found, _⟩ := extractStruct_traced file "T" .firstPair .lenient
  have ⟨_, lines, _, stopped, _⟩ := extractStruct_traced file "T" .firstPair .strict
  exact ⟨hl, found fields hl, hs, stopped "E" "e e" hs, hf, ((lines first).1 _ hf).1⟩

end ColumnConstants
