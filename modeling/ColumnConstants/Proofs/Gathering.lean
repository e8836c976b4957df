import ColumnConstants.Proofs.Fitness

namespace ColumnConstants

def FieldDecl.columnField? (style : Style) (line : FieldDecl) : Option Field := do
  let name ← line.names.head?
  let tag ← line.tag
  let column ← style.column? tag
  return ⟨name, column⟩

def structs (type : String) (bodies : List (List FieldDecl)) : List TypeDecl :=
  bodies.map fun lines => ⟨type, .struct lines⟩

section

variable {style : Style} {type : String} {bodies : List (List FieldDecl)} {decls : List TypeDecl}

theorem givenFields_eq_filterMap (style : Style) (lines : List FieldDecl) :
    givenFields style lines = lines.filterMap (·.columnField? style) := by
  apply List.filterMap_congr
  intro line _
  unfold FieldDecl.field FieldDecl.columnField?
  cases line.names
  case nil => rfl
  case cons name more =>
    cases line.tag
    case none => rfl
    case some tag => cases hc : style.column? tag <;> simp [hc, Except.toOption]

theorem isStruct_of_mem_structs : ∀ decl ∈ structs type bodies, decl.IsStruct := by
  intro decl hm
  obtain ⟨lines, _, rfl⟩ := List.mem_map.mp hm
  exact ⟨lines, rfl⟩

theorem flatMap_lines_structs : (structs type bodies).flatMap TypeDecl.lines = bodies.flatten := by
  induction bodies with
  | nil => rfl
  | cons lines bodies ih => exact congrArg (lines ++ ·) ih

theorem eq_structs (hs : ∀ decl ∈ decls, decl.IsStruct) (hn : ∀ decl ∈ decls, decl.name = type) :
    decls = structs type (decls.map TypeDecl.lines) := by
  induction decls with
  | nil => rfl
  | cons decl decls ih =>
    have ⟨⟨lines, hk⟩, hs⟩ := List.forall_mem_cons.mp hs
    have ⟨hd, hn⟩ := List.forall_mem_cons.mp hn
    have he : decl = ⟨type, .struct decl.lines⟩ := by
      have hl : decl.lines = lines := by rw [TypeDecl.lines, hk]
      rw [hl, ← hd, ← hk]
    have ht : decls = structs type (decls.map TypeDecl.lines) := ih hs hn
    exact congrArg₂ List.cons he ht

variable {file : SourceFile}

theorem name_of_mem_typesNamed {decl : TypeDecl} (h : decl ∈ file.typesNamed type) :
    decl.name = type := by
  simpa using (List.mem_filter.mp h).2

theorem result_extractStruct_congr {other : SourceFile} (validation : Validation)
    (h : other.typesNamed type = file.typesNamed type) :
    (extractStruct other type style validation).result =
      (extractStruct file type style validation).result := by
  simp only [extractStruct, Logged.result_bind, h]
  apply bind_congr
  intro fields
  split
  · rfl
  · rfl

-- A type is extracted from its own declarations alone, and as if their bodies were the body of one.
-- A declaration that is no struct is a fault, but one that is found only behind what stands in
-- front of it. No field is lost or added on the way, and all are in the order of their lines.
theorem extractStruct_gathered (file : SourceFile) (type : String) (style : Style)
    (validation : Validation) :
    let result := (extractStruct file type style validation).result
    let extracted (lines : List FieldDecl) := (extractFields style validation lines).result
    (∀ other : SourceFile, other.typesNamed type = file.typesNamed type →
      (extractStruct other type style validation).result = result) ∧
    (∀ bodies, file.typesNamed type = structs type bodies →
      result = extracted bodies.flatten >>= fun fields =>
        if fields.isEmpty then .error (.noFields type) else .ok fields) ∧
    (∀ bodies rest, file.typesNamed type = structs type bodies ++ ⟨type, .other⟩ :: rest →
      result = extracted bodies.flatten >>= fun _ => .error (.notAStruct type)) ∧
    (∀ fields, result = .ok fields →
      ∃ bodies, file.typesNamed type = structs type bodies ∧
        fields = bodies.flatten.filterMap (·.columnField? style)) := by
  intro result extracted
  refine ⟨fun other => result_extractStruct_congr validation, fun bodies hd => ?structs,
    fun bodies rest hd => ?other, fun fields hf => ?fields⟩
  case structs =>
    have hs : ∀ decl ∈ file.typesNamed type, decl.IsStruct := hd ▸ isStruct_of_mem_structs
    have hr := result_extractStruct style validation hs
    rwa [hd, flatMap_lines_structs, ← result_extractFields] at hr
  case other =>
    have hr := result_extractStruct_of_other style validation hd isStruct_of_mem_structs rfl
    rwa [flatMap_lines_structs, ← result_extractFields] at hr
  case fields =>
    have ⟨_, hs, _, hg⟩ := result_extractStruct_eq_ok hf
    have hd := eq_structs hs fun decl => name_of_mem_typesNamed
    refine ⟨_, hd, ?_⟩
    rw [hg, givenFields_eq_filterMap, List.flatMap_def]

theorem extractStruct_gathered_twice :
    let first : List FieldDecl := [⟨["A", "B"], some "`db:\"a\"`"⟩, ⟨[], some "`db:\"e\"`"⟩]
    let second : List FieldDecl := [⟨["C"], none⟩, ⟨["A"], some "`db:\"a\"`"⟩]
    let other : TypeDecl := ⟨"U", .struct [⟨["D"], some "`db:\"d\"`"⟩]⟩
    let file : SourceFile := ⟨"p", [⟨"T", .struct first⟩, other, ⟨"T", .struct second⟩]⟩
    let mixed : SourceFile := ⟨"p", [⟨"T", .struct first⟩, other, ⟨"T", .other⟩]⟩
    let result := (extractStruct file "T" .firstPair .strict).result
    let extracted (lines : List FieldDecl) := (extractFields .firstPair .strict lines).result
    file.typesNamed "T" = structs "T" [first, second] ∧
    result = .ok [⟨"A", "a"⟩, ⟨"A", "a"⟩] ∧
    (extractStruct ⟨"q", structs "T" [first, second]⟩ "T" .firstPair .strict).result = result ∧
    (result = extracted [first, second].flatten >>= fun fields =>
      if fields.isEmpty then .error (.noFields "T") else .ok fields) ∧
    mixed.typesNamed "T" = structs "T" [first] ++ ⟨"T", .other⟩ :: [] ∧
    (extractStruct mixed "T" .firstPair .strict).result =
      extracted [first].flatten >>= fun _ => .error (.notAStruct "T") := by
  intro first second other file mixed result extracted
  have hd : file.typesNamed "T" = structs "T" [first, second] := rfl
  have hm : mixed.typesNamed "T" = structs "T" [first] ++ ⟨"T", .other⟩ :: [] := rfl
  obtain ⟨ho, hs, _⟩ := extractStruct_gathered file "T" .firstPair .strict
  obtain ⟨_, _, hn, _⟩ := extractStruct_gathered mixed "T" .firstPair .strict
  refine ⟨hd, rfl, ?_, hs [first, second] hd, hm, hn [first] [] hm⟩
  exact ho ⟨"q", structs "T" [first, second]⟩ hd.symm

end

end ColumnConstants
