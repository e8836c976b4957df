import Mathlib
import ColumnConstants.Constants.Generate
import ColumnConstants.Proofs.Extraction
import ColumnConstants.Proofs.Naming
import ColumnConstants.Proofs.Rendering

namespace ColumnConstants

namespace Tag

variable {tag column : List Char}

theorem firstPairColumn?_eq_some (h : firstPairColumn? tag = some column) :
    column ≠ [] ∧ '"' ∉ column := by
  unfold firstPairColumn? at h
  split at h
  case h_2 => cases h
  case h_1 =>
    have ⟨hu, hn⟩ := Option.filter_eq_some_iff.mp h
    exact ⟨by simpa using hn, not_mem_of_upTo?_eq_some hu⟩

theorem suffix_of_settingColumn? {setting : List Char} (h : settingColumn? setting = some column) :
    column <:+ setting := by
  have hs := after?_eq_some_iff.mp h
  exact (hs ▸ List.suffix_append columnStart column).trans (List.dropWhile_suffix isBlank)

theorem gormColumn?_eq_some (h : gormColumn? tag = some column) :
    column ≠ [] ∧ '"' ∉ column ∧ ';' ∉ column := by
  have ⟨hc, hn⟩ := Option.filter_eq_some_iff.mp h
  obtain ⟨segment, hu, hs⟩ := Option.bind_eq_some_iff.mp hc
  obtain ⟨rest, _, hu⟩ := Option.bind_eq_some_iff.mp hu
  obtain ⟨setting, hm, hs⟩ := List.exists_of_findSome?_eq_some hs
  have hs := (suffix_of_settingColumn? hs).subset
  have hq := not_mem_of_upTo?_eq_some hu
  refine ⟨by simpa using hn, fun hm' => hq ?_, fun hm' => ?_⟩
  · exact (infix_of_mem_splitAtEach hm).subset (hs hm')
  · exact not_mem_of_mem_splitAtEach hm (hs hm')

end Tag

-- Whether a column is fit to be written, as one that a tag names by the conventions of the style
-- and that is accepted.
structure FitColumn (style : Style) (validation : Validation) (column : String) : Prop where
  ne_empty  : column ≠ ""
  unquoted  : '"' ∉ column.toList
  undivided : style = .gorm → ';' ∉ column.toList
  usual     : validation = .strict →
    isColumnName column = true ∧ columnLiteral column = "\"" ++ column ++ "\""

section

variable {style : Style} {validation : Validation} {source type tag column : String}

theorem column?_eq_some (h : style.column? tag = some column) :
    column ≠ "" ∧ '"' ∉ column.toList ∧ (style = .gorm → ';' ∉ column.toList) := by
  have ⟨cs, hc, he⟩ := Option.map_eq_some_iff.mp h
  subst he
  simp only [String.toList_ofList, ne_eq, String.ofList_eq_empty_iff]
  cases style
  case firstPair =>
    have ⟨hn, hq⟩ := Tag.firstPairColumn?_eq_some hc
    exact ⟨hn, hq, nofun⟩
  case gorm =>
    have ⟨hn, hq, hs⟩ := Tag.gormColumn?_eq_some hc
    exact ⟨hn, hq, fun _ => hs⟩

theorem escapeChar_of_isColumnChar {c : Char} (h : isColumnChar c = true) :
    StringLiteral.escapeChar c = [c] := by
  have hn (d : Char) (hd : isColumnChar d = false) : c ≠ d := by
    rintro rfl
    simp [hd] at h
  have hq := hn '"' (by decide)
  have hb := hn '\\' (by decide)
  have hl := hn '\n' (by decide)
  have ht := hn '\t' (by decide)
  simp [StringLiteral.escapeChar, hq, hb, hl, ht]

theorem columnLiteral_of_isColumnName (h : isColumnName column = true) :
    columnLiteral column = "\"" ++ column ++ "\"" := by
  have escape_of_forall (cs : List Char) (hc : ∀ c ∈ cs, isColumnChar c = true) :
      StringLiteral.escape cs = cs := by
    induction cs with
    | nil => rfl
    | cons c cs ih =>
      have ⟨hc, hcs⟩ : isColumnChar c = true ∧ ∀ d ∈ cs, isColumnChar d = true := by simpa using hc
      have he : StringLiteral.escape (c :: cs) =
          StringLiteral.escapeChar c ++ StringLiteral.escape cs := List.flatMap_cons
      rw [he, escapeChar_of_isColumnChar hc, ih hcs]
      rfl
  apply String.toList_injective
  simp [columnLiteral, escape_of_forall column.toList (List.all_eq_true.mp h)]

theorem fitColumn_of_column? (h : style.column? tag = some column)
    (ha : validation.accepts column = true) : FitColumn style validation column := by
  have ⟨hn, hq, hs⟩ := column?_eq_some h
  refine ⟨hn, hq, hs, fun hv => ?_⟩
  subst hv
  exact ⟨ha, columnLiteral_of_isColumnName ha⟩

theorem field_eq_ok {decl : FieldDecl} {field : Field} (h : decl.field style = .ok field) :
    field.name ∈ decl.names ∧ ∃ tag, style.column? tag = some field.column := by
  unfold FieldDecl.field at h
  split at h
  case h_1 | h_2 => cases h
  case h_3 name more tag hn _ =>
    split at h
    case h_1 => cases h
    case h_2 column hc =>
      cases h
      exact ⟨by simp [hn], tag, hc⟩

theorem mem_names_of_mem_typesNamed {file : SourceFile} {decl : TypeDecl} {name : String}
    (h : decl ∈ file.typesNamed type) (hn : name ∈ decl.names) : name ∈ file.names := by
  have hm := (List.mem_filter.mp h).1
  exact List.mem_cons_of_mem _ (List.mem_flatMap.mpr ⟨decl, hm, hn⟩)

theorem mem_names_of_mem_givenFields {file : SourceFile} {field : Field}
    (h : field ∈ givenFields style ((file.typesNamed type).flatMap TypeDecl.lines)) :
    type ∈ file.names ∧ field.name ∈ file.names ∧
      ∃ tag, style.column? tag = some field.column := by
  have ⟨line, hl, hf⟩ := mem_givenFields_iff.mp h
  have ⟨decl, hd, hl⟩ := List.mem_flatMap.mp hl
  have ⟨hn, hc⟩ := field_eq_ok hf
  have ht : decl.name = type := by simpa using (List.mem_filter.mp hd).2
  refine ⟨mem_names_of_mem_typesNamed hd ?_, mem_names_of_mem_typesNamed hd ?_, hc⟩
  · exact ht ▸ List.mem_cons_self
  · exact List.mem_cons_of_mem _ (List.mem_flatMap.mpr ⟨line, hl, hn⟩)

theorem result_extractStruct_eq_ok {file : SourceFile} {fields : List Field}
    (h : (extractStruct file type style validation).result = .ok fields) :
    fields ≠ [] ∧ (∀ decl ∈ file.typesNamed type, decl.IsStruct) ∧
    (∀ field ∈ fields, validation.accepts field.column = true) ∧
    fields = givenFields style ((file.typesNamed type).flatMap TypeDecl.lines) := by
  obtain hs | ⟨front, decl, rest, hd, hf, hk⟩ := structs_or_other (file.typesNamed type)
  case inr =>
    rw [result_extractStruct_of_other style validation hd hf hk] at h
    have ⟨_, _, h⟩ := bind_eq_ok.mp h
    cases h
  case inl =>
    rw [result_extractStruct style validation hs] at h
    have ⟨given, hg, h⟩ := bind_eq_ok.mp h
    have ⟨hg, ha⟩ := check_eq_ok_iff.mp hg
    cases given with
    | nil => cases h
    | cons first more =>
      cases h
      exact ⟨List.cons_ne_nil first more, hs, hg ▸ ha, hg.symm⟩

-- What is made of a source file is fit to be written: there are fields, everything is called by an
-- identifier, and the columns need no more than quotes around them. The type is one that the file
-- declares as a struct, and as nothing else.
theorem ofSource_fit {file : ConstantFile}
    (h : (ConstantFile.ofSource source type style validation).result = .ok file) :
    file.fields ≠ [] ∧ file.WellNamed ∧
    (∀ field ∈ file.fields, FitColumn style validation field.column) ∧
    ∃ src, SourceFile.ofText source.toList = .ok src ∧ file.package = src.package ∧
      file.type = type ∧ ∀ decl ∈ src.types, decl.name = file.type → decl.IsStruct := by
  rw [result_ofSource] at h
  have ⟨src, hs, h⟩ := bind_eq_ok.mp h
  have hs := mapError_eq_ok.mp hs
  have ⟨fields, hf, he⟩ := map_eq_ok.mp h
  have hf := mapError_eq_ok.mp hf
  cases he
  have ⟨hn, hd, ha, hg⟩ := result_extractStruct_eq_ok hf
  have hw := SourceFile.isWord_of_mem_names hs
  have given (field : Field) (hm : field ∈ fields) :=
    mem_names_of_mem_givenFields (hg ▸ hm)
  have ⟨field, hm⟩ := List.exists_mem_of_ne_nil fields hn
  have names : ConstantFile.WellNamed ⟨src.package, type, fields⟩ :=
    ⟨hw _ List.mem_cons_self, hw _ (given field hm).1, fun field hm => hw _ (given field hm).2.1⟩
  refine ⟨hn, names, fun field hm => ?_, src, hs, rfl, rfl, fun decl hm he => hd decl ?_⟩
  · have ⟨_, hc⟩ := (given field hm).2.2
    exact fitColumn_of_column? hc (ha field hm)
  · exact List.mem_filter.mpr ⟨hm, by simpa using he⟩

theorem ofSource_fit_repeated :
    let source :=
      "package p; func f() \x7b type T struct \x7b A, B int `gorm:\"x; column:a_1\"` \x7d \x7d\n" ++
      "type T struct \x7b *E; c int; D int \"gorm:\\\"column:d;x\\\"\" \x7d\n"
    let file : ConstantFile := ⟨"p", "T", [⟨"A", "a_1"⟩, ⟨"D", "d"⟩]⟩
    (ConstantFile.ofSource source "T" .gorm .strict).result = .ok file ∧
    file.fields ≠ [] ∧ file.WellNamed ∧
    (∀ field ∈ file.fields, FitColumn .gorm .strict field.column) ∧
    ∃ src, SourceFile.ofText source.toList = .ok src ∧ file.package = src.package ∧
      file.type = "T" ∧ ∀ decl ∈ src.types, decl.name = file.type → decl.IsStruct := by
  intro source file
  have h : (ConstantFile.ofSource source "T" .gorm .strict).result = .ok file := by
    simp only [source, file]
    cbv
  exact ⟨h, ofSource_fit h⟩

end

end ColumnConstants
