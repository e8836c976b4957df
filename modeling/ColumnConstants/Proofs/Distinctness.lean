import Mathlib
import ColumnConstants.Proofs.Fitness

namespace ColumnConstants

namespace TypeDecl

-- Whether the struct body declares no name twice. A blank field has no name of its own and may be
-- repeated.
def NamesOnce (decl : TypeDecl) : Prop :=
  ((decl.lines.flatMap FieldDecl.names).filter (· ≠ "_")).Nodup

def columnFields (style : Style) (decl : TypeDecl) : List String :=
  (givenFields style decl.lines).map Field.name

end TypeDecl

section

variable {style : Style} {validation : Validation} {source type : String} {file : ConstantFile}

theorem nodup_constantNames_iff :
    file.constantNames.Nodup ↔ (file.fields.map Field.name).Nodup := by
  have hn : file.constantNames = (file.fields.map Field.name).map (file.type ++ "_" ++ ·) := by
    simp [ConstantFile.constantNames, ConstantFile.constantName]
  rw [hn]
  apply List.nodup_map_iff
  intro first second h
  apply String.toList_injective
  simpa [String.ext_iff] using h

theorem listName_not_mem_constantNames (file : ConstantFile) :
    file.listName ∉ file.constantNames := by
  intro hm
  have ⟨field, _, he⟩ := List.mem_map.mp hm
  simp [ConstantFile.constantName, ConstantFile.listName, String.ext_iff] at he

theorem columnFields_sublist (style : Style) (decl : TypeDecl) :
    List.Sublist (decl.columnFields style) (decl.lines.flatMap FieldDecl.names) := by
  unfold TypeDecl.columnFields
  induction decl.lines with
  | nil => exact List.Sublist.slnil
  | cons line lines ih =>
    rw [List.flatMap_cons]
    cases hf : line.field style
    case error record =>
      have hg : givenFields style (line :: lines) = givenFields style lines := by
        simp [givenFields, hf, Except.toOption]
      rw [hg]
      exact ih.trans (List.sublist_append_right line.names _)
    case ok field =>
      have hg : givenFields style (line :: lines) = field :: givenFields style lines := by
        simp [givenFields, hf, Except.toOption]
      have hn : List.Sublist [field.name] line.names :=
        List.singleton_sublist.mpr (field_eq_ok hf).1
      rw [hg]
      exact hn.append ih

theorem TypeDecl.NamesOnce.nodup_columnFields_iff {decl : TypeDecl} (h : decl.NamesOnce) :
    (decl.columnFields style).Nodup ↔ (decl.columnFields style).count "_" ≤ 1 := by
  constructor
  case mp => exact fun hn => List.nodup_iff_count_le_one.mp hn "_"
  case mpr =>
    intro hb
    have hf : ((decl.columnFields style).filter (· ≠ "_")).Nodup :=
      List.Nodup.sublist ((columnFields_sublist style decl).filter _) h
    apply List.nodup_iff_count_le_one.mpr
    intro name
    by_cases hn : name = "_"
    case pos => exact hn ▸ hb
    case neg =>
      have hc := List.nodup_iff_count_le_one.mp hf name
      rwa [List.count_filter (by simpa using hn)] at hc

theorem map_name_givenFields (style : Style) (decls : List TypeDecl) :
    (givenFields style (decls.flatMap TypeDecl.lines)).map Field.name =
      (decls.map (TypeDecl.columnFields style)).flatten := by
  induction decls with
  | nil => rfl
  | cons decl decls ih =>
    rw [List.flatMap_cons, givenFields_append, List.map_append, ih]
    rfl

-- The names of the constants are different from that of the list. They are different from each
-- other as well if and only if no declaration of the type gives columns to two blank fields, and no
-- two declarations give columns to fields of the same name.
theorem ofSource_distinct_iff
    (h : (ConstantFile.ofSource source type style validation).result = .ok file) :
    file.listName ∉ file.constantNames ∧
    ∃ src, SourceFile.ofText source.toList = .ok src ∧
      ((∀ decl ∈ src.types, decl.NamesOnce) →
        let given := (src.typesNamed type).map (TypeDecl.columnFields style)
        (file.constantNames.Nodup ↔
          (∀ names ∈ given, names.count "_" ≤ 1) ∧ given.Pairwise List.Disjoint)) := by
  rw [result_ofSource] at h
  have ⟨src, hs, h⟩ := bind_eq_ok.mp h
  have ⟨fields, hf, he⟩ := map_eq_ok.mp h
  have ⟨_, _, _, hg⟩ := result_extractStruct_eq_ok (mapError_eq_ok.mp hf)
  subst he
  refine ⟨listName_not_mem_constantNames _, src, mapError_eq_ok.mp hs, fun ho => ?_⟩
  intro given
  have hn : fields.map Field.name = given.flatten := by rw [hg, map_name_givenFields]
  rw [nodup_constantNames_iff, hn, List.nodup_flatten]
  apply and_congr_left'
  apply forall₂_congr
  intro names hm
  obtain ⟨decl, hd, rfl⟩ := List.mem_map.mp hm
  exact (ho decl (List.mem_filter.mp hd).1).nodup_columnFields_iff

set_option maxRecDepth 4096 in
theorem ofSource_distinct_scopes :
    let source :=
      "package p\nfunc f() \x7b type T struct \x7b _ int `db:\"a\"`; _, A int `x` \x7d \x7d\n" ++
      "func g() \x7b type T struct \x7b A, B int `db:\"a\"`; _ int \x7d \x7d\n"
    let src : SourceFile := ⟨"p",
      [⟨"T", .struct [⟨["_"], some "`db:\"a\"`"⟩, ⟨["_", "A"], some "`x`"⟩]⟩,
        ⟨"T", .struct [⟨["A", "B"], some "`db:\"a\"`"⟩, ⟨["_"], none⟩]⟩]⟩
    let file : ConstantFile := ⟨"p", "T", [⟨"_", "a"⟩, ⟨"A", "a"⟩]⟩
    (ConstantFile.ofSource source "T" .firstPair .strict).result = .ok file ∧
    SourceFile.ofText source.toList = .ok src ∧ (∀ decl ∈ src.types, decl.NamesOnce) ∧
    file.listName ∉ file.constantNames ∧ file.constantNames.Nodup := by
  intro source src file
  have h : (ConstantFile.ofSource source "T" .firstPair .strict).result = .ok file := by
    simp only [source, file]
    cbv
  have hs : SourceFile.ofText source.toList = .ok src := by
    simp only [source, src]
    cbv
  have ho : ∀ decl ∈ src.types, decl.NamesOnce := by simp [src, TypeDecl.NamesOnce, TypeDecl.lines]
  have hg : (src.typesNamed "T").map (TypeDecl.columnFields .firstPair) = [["_"], ["A"]] := by
    simp only [src]
    cbv
  obtain ⟨hl, src', hs', hn⟩ := ofSource_distinct_iff h
  cases hs.symm.trans hs'
  refine ⟨h, hs, ho, hl, (hn ho).mpr ?_⟩
  simp [hg]

set_option maxRecDepth 4096 in
-- Two blank fields with columns have constants of one name, and so have fields of one name in two
-- declarations of a type.
theorem ofSource_repeated_names :
    let blanks := "package p; type T struct \x7b _ int `db:\"a\"`; _ int `db:\"b\"` \x7d"
    let src : SourceFile :=
      ⟨"p", [⟨"T", .struct [⟨["_"], some "`db:\"a\"`"⟩, ⟨["_"], some "`db:\"b\"`"⟩]⟩]⟩
    let file : ConstantFile := ⟨"p", "T", [⟨"_", "a"⟩, ⟨"_", "b"⟩]⟩
    let scopes :=
      "package p\nfunc f() \x7b type T struct \x7b A int `db:\"a\"` \x7d \x7d\n" ++
      "func g() \x7b type T struct \x7b A int `db:\"b\"` \x7d \x7d\n"
    let src' : SourceFile := ⟨"p",
      [⟨"T", .struct [⟨["A"], some "`db:\"a\"`"⟩]⟩, ⟨"T", .struct [⟨["A"], some "`db:\"b\"`"⟩]⟩]⟩
    let file' : ConstantFile := ⟨"p", "T", [⟨"A", "a"⟩, ⟨"A", "b"⟩]⟩
    (SourceFile.ofText blanks.toList = .ok src ∧ (∀ decl ∈ src.types, decl.NamesOnce) ∧
      (ConstantFile.ofSource blanks "T" .firstPair .strict).result = .ok file ∧
      ¬file.constantNames.Nodup) ∧
    (SourceFile.ofText scopes.toList = .ok src' ∧ (∀ decl ∈ src'.types, decl.NamesOnce) ∧
      (ConstantFile.ofSource scopes "T" .firstPair .strict).result = .ok file' ∧
      ¬file'.constantNames.Nodup) := by
  intro blanks src file scopes src' file'
  refine ⟨⟨?_, ?_, ?_, by decide⟩, ?_, ?_, ?_, by decide⟩
  · simp only [blanks, src]
    cbv
  · simp [src, TypeDecl.NamesOnce, TypeDecl.lines]
  · simp only [blanks, file]
    cbv
  · simp only [scopes, src']
    cbv
  · simp [src', TypeDecl.NamesOnce, TypeDecl.lines]
  · simp only [scopes, file']
    cbv

end

end ColumnConstants
