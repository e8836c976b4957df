import Mathlib
import ColumnConstants.Constants.Template
import ColumnConstants.Proofs.Rendering

namespace ColumnConstants

namespace ConstantFile

variable {file : ConstantFile} {field : Field}

theorem width_eq (file : ConstantFile) :
    file.width = (file.fields.map fun field => (file.constantName field).length).max?.getD 0 := by
  have hm : (file.fields.map fun field => (file.constantName field).length).foldl max 0 = _ :=
    List.foldl_max
  rw [Nat.zero_max, List.foldl_map] at hm
  rw [← hm, width, constantNames, List.foldl_map]

theorem isGreatest_width (h : file.fields ≠ []) :
    IsGreatest {n | ∃ field ∈ file.fields, (file.constantName field).length = n} file.width := by
  rw [width_eq]
  cases hm : (file.fields.map fun field => (file.constantName field).length).max?
  case none => simp [h] at hm
  case some n =>
    have ⟨hn, hl⟩ := List.max?_eq_some_iff.mp hm
    refine ⟨List.mem_map.mp hn, ?_⟩
    rintro _ ⟨field, hf, rfl⟩
    exact hl _ (List.mem_map_of_mem hf)

theorem length_le_width (h : field ∈ file.fields) :
    (file.constantName field).length ≤ file.width :=
  (isGreatest_width (List.ne_nil_of_mem h)).2 ⟨field, h, rfl⟩

theorem length_padding (file : ConstantFile) (field : Field) :
    (file.padding field).length = file.width - (file.constantName field).length := by
  simp [padding]

theorem length_padded (h : field ∈ file.fields) :
    (file.constantName field ++ file.padding field).length = file.width := by
  rw [String.length_append, length_padding]
  exact Nat.add_sub_of_le (length_le_width h)

theorem length_padding_le {spaces : Field → Nat} (hf : field ∈ file.fields)
    (hs : ∀ field ∈ file.fields, ∀ other ∈ file.fields,
      (file.constantName field).length + spaces field =
        (file.constantName other).length + spaces other) :
    (file.padding field).length ≤ spaces field := by
  have ⟨longest, hl, hw⟩ := (isGreatest_width (List.ne_nil_of_mem hf)).1
  have := hs field hf longest hl
  rw [length_padding]
  omega

theorem length_before_equals (h : field ∈ file.fields) :
    ("\t" ++ file.constantName field ++ file.padding field ++ " ").length = file.width + 2 := by
  rw [String.length_append, String.append_assoc, String.length_append, length_padded h]
  show 1 + file.width + 1 = file.width + 2
  omega

open Template

theorem fillBody_constantBody (file : ConstantFile) (field : Field) :
    fillBody file field constantBody = "\n" ++ file.constantLine field := by
  have ht : trimEnd "\n" = "" := by decide
  apply String.toList_injective
  simp [fillBody, constantBody, constantLine, ht]

theorem fillBody_entryBody (file : ConstantFile) (field : Field) :
    fillBody file field entryBody = "\n" ++ file.entryLine field := by
  have ht : trimEnd ",\n" = "," := by decide
  apply String.toList_injective
  simp [fillBody, entryBody, entryLine, ht]

theorem flatMap_lineBreak (fields : List Field) (item : Field → List Char) (rest : List Char) :
    fields.flatMap (fun field => '\n' :: item field) ++ '\n' :: rest =
      '\n' :: (fields.flatMap (fun field => item field ++ ['\n']) ++ rest) := by
  induction fields with
  | nil => rfl
  | cons field fields ih => simp [ih]

theorem render_eq (file : ConstantFile) :
    file.render =
      "// Code generated by fielder. DO NOT EDIT.\n\npackage " ++ file.package ++
      "\n\nconst (\n" ++
      String.join (file.fields.map fun field => file.constantLine field ++ "\n") ++
      ")\n\n// " ++ file.type ++ "Columns lists the column names of " ++ file.type ++
      " in declaration order.\nvar " ++ file.type ++ "Columns = []string\x7b\n" ++
      String.join (file.fields.map fun field => file.entryLine field ++ "\n") ++ "\x7d\n" := by
  apply String.toList_injective
  simp [render, lines, listName, String.toList_join, List.flatMap_map]

theorem fill_template (file : ConstantFile) : fill file template = file.render := by
  have hc : trimEnd "\n\nconst (\n" = "\n\nconst (" := by decide
  have hl : trimEnd "Columns = []string\x7b\n" = "Columns = []string\x7b" := by decide
  simp only [render_eq, template, fill, fillBody_constantBody, fillBody_entryBody, hc, hl]
  apply String.toList_injective
  simp [String.toList_join, List.flatMap_map, flatMap_lineBreak]

-- The declarations of the constants are aligned with as few spaces as possible, whatever the fields
-- are called. The file has nothing but a line for each of them in the one block and in the other, which
-- is what the template gives.
theorem render_aligned (file : ConstantFile) (h : file.fields ≠ []) :
    (∀ field ∈ file.fields,
      (file.constantName field).length ≤ file.width ∧
      (file.padding field).toList =
        List.replicate (file.width - (file.constantName field).length) ' ' ∧
      (file.constantName field ++ file.padding field).length = file.width ∧
      ("\t" ++ file.constantName field ++ file.padding field ++ " ").length = file.width + 2) ∧
    (∃ field ∈ file.fields, file.padding field = "" ∧
      ∀ other ∈ file.fields, (file.constantName other).length ≤ (file.constantName field).length) ∧
    (∀ spaces : Field → Nat,
      (∀ field ∈ file.fields, ∀ other ∈ file.fields,
        (file.constantName field).length + spaces field =
          (file.constantName other).length + spaces other) →
      ∀ field ∈ file.fields, (file.padding field).length ≤ spaces field) ∧
    file.render =
      "// Code generated by fielder. DO NOT EDIT.\n\npackage " ++ file.package ++
      "\n\nconst (\n" ++
      String.join (file.fields.map fun field =>
        "\t" ++ file.constantName field ++ file.padding field ++ " = " ++
          columnLiteral field.column ++ "\n") ++
      ")\n\n// " ++ file.type ++ "Columns lists the column names of " ++ file.type ++
      " in declaration order.\nvar " ++ file.type ++ "Columns = []string\x7b\n" ++
      String.join (file.fields.map fun field => "\t" ++ file.constantName field ++ ",\n") ++
      "\x7d\n" ∧
    fill file template = file.render := by
  refine ⟨fun field hf => ?each, ?longest, fun spaces hs field hf => length_padding_le hf hs, ?text,
    fill_template file⟩
  case each =>
    exact ⟨length_le_width hf, toList_pushn _, length_padded hf, length_before_equals hf⟩
  case longest =>
    have ⟨field, hf, hw⟩ := (isGreatest_width h).1
    refine ⟨field, hf, ?_, fun other ho => hw ▸ length_le_width ho⟩
    rw [padding, hw, Nat.sub_self]
    rfl
  case text =>
    rw [render_eq]
    simp [entryLine, constantLine, String.append_assoc]

theorem render_aligned_letters :
    let file : ConstantFile := ⟨"p", "T", [⟨"Été", "a"⟩, ⟨"λx", "b\""⟩, ⟨"名", "c"⟩]⟩
    let spaces (field : Field) : Nat := 9 - field.name.length
    file.fields ≠ [] ∧ file.width = 5 ∧
    (file.constantName ⟨"名", "c"⟩ ++ file.padding ⟨"名", "c"⟩).length = file.width ∧
    (∃ field ∈ file.fields, file.padding field = "" ∧
      ∀ other ∈ file.fields, (file.constantName other).length ≤ (file.constantName field).length) ∧
    (∀ field ∈ file.fields, ∀ other ∈ file.fields,
      (file.constantName field).length + spaces field =
        (file.constantName other).length + spaces other) ∧
    (∀ field ∈ file.fields, (file.padding field).length ≤ spaces field) ∧
    fill file template = file.render := by
  intro file spaces
  have h : file.fields ≠ [] := List.cons_ne_nil _ _
  have hs : ∀ field ∈ file.fields, ∀ other ∈ file.fields,
      (file.constantName field).length + spaces field =
        (file.constantName other).length + spaces other := by
    decide
  have ⟨each, longest, least, _, filled⟩ := render_aligned file h
  have hm : ⟨"名", "c"⟩ ∈ file.fields := by decide
  exact ⟨h, by decide, (each _ hm).2.2.1, longest, hs, least spaces hs, filled⟩

end ConstantFile

end ColumnConstants
