import ColumnConstants.Column.Extract
import ColumnConstants.Outcome

namespace ColumnConstants

def givenFields (style : Style) (lines : List FieldDecl) : List Field :=
  lines.filterMap fun decl => (decl.field style).toOption

def Validation.check (validation : Validation) (fields : List Field) :
    Except ExtractError (List Field) :=
  (fields.find? fun field => !validation.accepts field.column).elim (.ok fields) fun field =>
    .error (.invalidColumn field.name field.column)

section

variable {style : Style} {validation : Validation} {lines more : List FieldDecl}
variable {fields : List Field} {field : Field} {type : String} {decls : List TypeDecl}

@[simp]
theorem givenFields_append :
    givenFields style (lines ++ more) = givenFields style lines ++ givenFields style more :=
  List.filterMap_append

theorem mem_givenFields_iff :
    field ∈ givenFields style lines ↔ ∃ decl ∈ lines, decl.field style = .ok field := by
  have toOption_eq_some (x : Except Record Field) : x.toOption = some field ↔ x = .ok field := by
    cases x <;> simp [Except.toOption]
  simp [givenFields, toOption_eq_some]

@[simp]
theorem check_nil : validation.check [] = .ok [] :=
  rfl

theorem check_lenient : Validation.lenient.check fields = .ok fields := by
  have hf : (fields.find? fun _ => false) = none := by simp
  simp [Validation.check, Validation.accepts, hf]

theorem check_strict :
    Validation.strict.check fields =
      (fields.find? fun field => !isColumnName field.column).elim (.ok fields) fun field =>
        .error (.invalidColumn field.name field.column) :=
  rfl

theorem check_eq_ok_iff {found : List Field} :
    validation.check fields = .ok found ↔
      fields = found ∧ ∀ field ∈ fields, validation.accepts field.column = true := by
  unfold Validation.check
  cases hf : fields.find? fun field => !validation.accepts field.column
  case some field =>
    have hm := List.mem_of_find?_eq_some hf
    have hp : validation.accepts field.column = false := by simpa using List.find?_some hf
    refine ⟨nofun, fun ⟨_, ha⟩ => ?_⟩
    exact absurd ((ha field hm).symm.trans hp) (by decide)
  case none =>
    have ha : ∀ field ∈ fields, validation.accepts field.column = true := by
      simpa [List.find?_eq_none] using hf
    simp only [Option.elim_none, Except.ok.injEq]
    exact ⟨fun h => ⟨h, ha⟩, And.left⟩

theorem check_cons_of_accepts (h : validation.accepts field.column = true) :
    validation.check (field :: fields) = (validation.check fields).map (field :: ·) := by
  simp only [Validation.check, List.find?_cons, h, Bool.not_true]
  cases fields.find? fun field => !validation.accepts field.column <;> rfl

theorem check_cons_of_not_accepts (h : validation.accepts field.column = false) :
    validation.check (field :: fields) = .error (.invalidColumn field.name field.column) := by
  simp [Validation.check, h]

theorem check_append {more : List Field} :
    validation.check (fields ++ more) =
      validation.check fields >>= fun fields => (validation.check more).map (fields ++ ·) := by
  induction fields with
  | nil =>
    cases hm : validation.check more <;> simp [hm, Except.map, bind, Except.bind]
  | cons field fields ih =>
    cases ha : validation.accepts field.column
    case false =>
      rw [List.cons_append, check_cons_of_not_accepts ha, check_cons_of_not_accepts ha]
      rfl
    case true =>
      rw [List.cons_append, check_cons_of_accepts ha, check_cons_of_accepts ha, ih]
      cases validation.check fields <;> cases validation.check more <;> rfl

theorem result_extractFields :
    (extractFields style validation lines).result = validation.check (givenFields style lines) := by
  induction lines with
  | nil => rfl
  | cons decl lines ih =>
    unfold extractFields
    cases hd : decl.field style
    case error record =>
      have hg : givenFields style (decl :: lines) = givenFields style lines := by
        simp [givenFields, hd, Except.toOption]
      rw [hg, ← ih]
      rfl
    case ok field =>
      have hg : givenFields style (decl :: lines) = field :: givenFields style lines := by
        simp [givenFields, hd, Except.toOption]
      rw [hg]
      cases ha : validation.accepts field.column
      case false => rw [check_cons_of_not_accepts ha]; simp [ha, Logged.fail]
      case true => simp [ha, check_cons_of_accepts ha, ih]

theorem structs_or_other (decls : List TypeDecl) :
    (∀ decl ∈ decls, decl.IsStruct) ∨
    ∃ front decl rest, decls = front ++ decl :: rest ∧ (∀ d ∈ front, d.IsStruct) ∧
      decl.kind = .other := by
  induction decls with
  | nil => exact .inl (by simp)
  | cons decl decls ih =>
    cases hk : decl.kind
    case other => exact .inr ⟨[], decl, decls, rfl, by simp, hk⟩
    case struct lines =>
      have hs : decl.IsStruct := ⟨lines, hk⟩
      obtain ha | ⟨front, other, rest, rfl, hf, ho⟩ := ih
      · exact .inl (by simpa [hs] using ha)
      · exact .inr ⟨decl :: front, other, rest, rfl, by simpa [hs] using hf, ho⟩

theorem result_extractDecls_append {rest : List TypeDecl} (h : ∀ decl ∈ decls, decl.IsStruct) :
    (extractDecls type style validation (decls ++ rest)).result =
      validation.check (givenFields style (decls.flatMap TypeDecl.lines)) >>= fun fields =>
        (extractDecls type style validation rest).result.map (fields ++ ·) := by
  induction decls with
  | nil => cases hr : (extractDecls type style validation rest).result <;> simp [hr] <;> rfl
  | cons decl decls ih =>
    obtain ⟨⟨lines, hk⟩, h⟩ : decl.IsStruct ∧ ∀ decl ∈ decls, decl.IsStruct := by simpa using h
    have hl : decl.lines = lines := by simp [TypeDecl.lines, hk]
    rw [List.cons_append, extractDecls, hk, List.flatMap_cons, hl, givenFields_append, check_append]
    simp only [Logged.result_bind, result_extractFields, Logged.map_eq, ih h]
    cases validation.check (givenFields style lines) <;>
      cases validation.check (givenFields style (decls.flatMap TypeDecl.lines)) <;>
      cases (extractDecls type style validation rest).result <;>
      simp [bind, Except.bind, Except.map]

end

section

variable {file : SourceFile} {type : String}

theorem result_extractStruct (style : Style) (validation : Validation)
    (h : ∀ decl ∈ file.typesNamed type, decl.IsStruct) :
    (extractStruct file type style validation).result =
      validation.check (givenFields style ((file.typesNamed type).flatMap TypeDecl.lines)) >>=
        fun fields => if fields.isEmpty then .error (.noFields type) else .ok fields := by
  have hn : (extractDecls type style validation []).result = .ok [] := rfl
  have hd : (extractDecls type style validation (file.typesNamed type ++ [])).result = _ :=
    result_extractDecls_append h
  rw [List.append_nil, hn] at hd
  rw [extractStruct, Logged.result_bind, hd]
  cases validation.check (givenFields style ((file.typesNamed type).flatMap TypeDecl.lines))
  case error => rfl
  case ok fields =>
    simp only [Except.map, bind, Except.bind, List.append_nil]
    cases fields <;> rfl

-- If there is another declaration, the columns in front of it are checked all the same.
theorem result_extractStruct_of_other (style : Style) (validation : Validation)
    {front rest : List TypeDecl} {decl : TypeDecl}
    (hd : file.typesNamed type = front ++ decl :: rest) (hf : ∀ d ∈ front, d.IsStruct)
    (hk : decl.kind = .other) :
    (extractStruct file type style validation).result =
      validation.check (givenFields style (front.flatMap TypeDecl.lines)) >>= fun _ =>
        .error (.notAStruct type) := by
  have hr : (extractDecls type style validation (decl :: rest)).result =
      .error (.notAStruct type) := by
    rw [extractDecls, hk]
    rfl
  rw [extractStruct, Logged.result_bind, hd, result_extractDecls_append hf, hr]
  cases validation.check (givenFields style (front.flatMap TypeDecl.lines)) <;> rfl

-- Strict validation adds a check of the columns to lenient validation, and nothing else. The first
-- column that is no column name is the fault, unless a declaration in front of it is no struct.
theorem extractStruct_strict (file : SourceFile) (type : String) (style : Style) :
    let lenient := (extractStruct file type style .lenient).result
    let strict := (extractStruct file type style .strict).result
    (∀ name column, lenient ≠ .error (.invalidColumn name column)) ∧
    (∀ fields, lenient = .ok fields →
      strict = (fields.find? fun field => !isColumnName field.column).elim (.ok fields) fun field =>
        .error (.invalidColumn field.name field.column)) ∧
    (∀ t, lenient = .error (.noFields t) → strict = .error (.noFields t)) ∧
    (∀ t, lenient = .error (.notAStruct t) →
      ∃ front decl rest fields, file.typesNamed type = front ++ decl :: rest ∧
        (∀ d ∈ front, d.IsStruct) ∧ decl.kind = .other ∧
        (extractFields style .lenient (front.flatMap TypeDecl.lines)).result = .ok fields ∧
        strict = (fields.find? fun field => !isColumnName field.column).elim
          (.error (.notAStruct t)) fun field =>
            .error (.invalidColumn field.name field.column)) := by
  intro lenient strict
  obtain h | ⟨front, decl, rest, hd, hf, hk⟩ := structs_or_other (file.typesNamed type)
  case inl =>
    have hl : lenient = _ := result_extractStruct style .lenient h
    have hs : strict = _ := result_extractStruct style .strict h
    generalize givenFields style ((file.typesNamed type).flatMap TypeDecl.lines) = given at hl hs
    rw [check_lenient] at hl
    rw [check_strict] at hs
    cases given
    case nil =>
      have hl : lenient = .error (.noFields type) := hl
      have hs : strict = .error (.noFields type) := hs
      rw [hl]
      refine ⟨nofun, nofun, fun t ht => ?_, nofun⟩
      cases ht
      exact hs
    case cons field fields =>
      have hl : lenient = .ok (field :: fields) := hl
      rw [hl]
      refine ⟨nofun, fun found hf => ?_, nofun, nofun⟩
      cases hf
      rw [hs]
      cases (field :: fields).find? fun field => !isColumnName field.column <;> rfl
  case inr =>
    have hl : lenient = _ := result_extractStruct_of_other style .lenient hd hf hk
    have hs : strict = _ := result_extractStruct_of_other style .strict hd hf hk
    have hr : (extractFields style .lenient (front.flatMap TypeDecl.lines)).result =
        .ok (givenFields style (front.flatMap TypeDecl.lines)) := by
      rw [result_extractFields, check_lenient]
    rw [check_lenient] at hl
    rw [check_strict] at hs
    have hl : lenient = .error (.notAStruct type) := hl
    rw [hl]
    refine ⟨nofun, nofun, nofun, fun t ht => ⟨front, decl, rest, _, hd, hf, hk, hr, ?_⟩⟩
    cases ht
    rw [hs]
    cases (givenFields style (front.flatMap TypeDecl.lines)).find? fun field =>
      !isColumnName field.column <;> rfl

theorem extractStruct_strict_other :
    let file : SourceFile := ⟨"p", [⟨"T", .struct [⟨["A"], some "`db:\"a b\"`"⟩]⟩, ⟨"T", .other⟩]⟩
    let strict := (extractStruct file "T" .firstPair .strict).result
    (extractStruct file "T" .firstPair .lenient).result = .error (.notAStruct "T") ∧
    strict = .error (.invalidColumn "A" "a b") ∧
    ∃ front decl rest fields, file.typesNamed "T" = front ++ decl :: rest ∧
      (∀ d ∈ front, d.IsStruct) ∧ decl.kind = .other ∧
      (extractFields .firstPair .lenient (front.flatMap TypeDecl.lines)).result = .ok fields ∧
      strict = (fields.find? fun field => !isColumnName field.column).elim
        (.error (.notAStruct "T")) fun field =>
          .error (.invalidColumn field.name field.column) := by
  intro file strict
  have h : (extractStruct file "T" .firstPair .lenient).result = .error (.notAStruct "T") := rfl
  exact ⟨h, rfl, (extractStruct_strict file "T" .firstPair).2.2.2 "T" h⟩

end

end ColumnConstants
