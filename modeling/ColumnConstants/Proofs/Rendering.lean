import ColumnConstants.Constants.File
import ColumnConstants.Proofs.Acceptance
import ColumnConstants.Proofs.Cutting
import ColumnConstants.Proofs.Emission

namespace ColumnConstants

theorem closeQuote_escape (cs rest : List Char) :
    Piece.closeQuote '"' (StringLiteral.escape cs ++ '"' :: rest) =
      some (StringLiteral.escape cs, rest) :=
  Piece.closeQuote_flatMap StringLiteral.spells_escapeChar cs rest

theorem toList_pushn (n : Nat) : ("".pushn ' ' n).toList = List.replicate n ' ' := by
  rw [String.pushn_eq_repeat_push]
  induction n with
  | zero => rfl
  | succ n ih => simp [Nat.repeat, ih, List.replicate_succ']

namespace ConstantFile

structure WellNamed (file : ConstantFile) : Prop where
  package : isWord file.package.toList = true
  type : isWord file.type.toList = true
  fields : ∀ field ∈ file.fields, isWord field.name.toList = true

def constantPieces (file : ConstantFile) (field : Field) : List Piece :=
  .blank '\t' :: .word (file.constantName field).toList ::
  List.replicate (file.width - (file.constantName field).length + 1) (.blank ' ') ++
  [.mark '=', .blank ' ', .string (StringLiteral.escape field.column.toList), .lineBreak]

def entryPieces (file : ConstantFile) (field : Field) : List Piece :=
  [.blank '\t', .word (file.constantName field).toList, .mark ',', .lineBreak]

def headPieces (file : ConstantFile) : List Piece :=
  [.lineComment " Code generated by fielder. DO NOT EDIT.".toList, .lineBreak, .lineBreak,
    .word "package".toList, .blank ' ', .word file.package.toList, .lineBreak, .lineBreak,
    .word "const".toList, .blank ' ', .mark '(', .lineBreak]

def middlePieces (file : ConstantFile) : List Piece :=
  [.mark ')', .lineBreak, .lineBreak,
    .lineComment (" " ++ file.listName ++ " lists the column names of " ++ file.type
      ++ " in declaration order.").toList, .lineBreak,
    .word "var".toList, .blank ' ', .word file.listName.toList, .blank ' ', .mark '=', .blank ' ',
    .mark '[', .mark ']', .word "string".toList, .mark '\x7b', .lineBreak]

def writtenPieces (file : ConstantFile) : List Piece :=
  file.headPieces ++ file.fields.flatMap file.constantPieces ++ file.middlePieces ++
    file.fields.flatMap file.entryPieces ++ [.mark '\x7d', .lineBreak]

variable {file : ConstantFile} {field : Field}

theorem text_constantPieces :
    (file.constantPieces field).flatMap Piece.text = (file.constantLine field ++ "\n").toList := by
  simp [constantPieces, constantLine, Piece.text, padding, columnLiteral, text_blanks,
    toList_pushn, List.replicate_succ']

theorem text_entryPieces :
    (file.entryPieces field).flatMap Piece.text = (file.entryLine field ++ "\n").toList := by
  simp [entryPieces, entryLine, Piece.text]

theorem text_writtenPieces : file.writtenPieces.flatMap Piece.text = file.render.toList := by
  simp [writtenPieces, List.flatMap_assoc, text_constantPieces, text_entryPieces, render, lines,
    headPieces, middlePieces, Piece.text, String.toList_join, List.flatMap_map]

theorem isWord_constantName (h : file.WellNamed) (hf : field ∈ file.fields) :
    isWord (file.constantName field).toList = true := by
  have hu : ∀ c ∈ "_".toList, continuesWord c = true := List.all_eq_true.mp (by decide)
  have hn := continuesWord_of_isWord (h.fields field hf)
  simpa [constantName] using isWord_append (isWord_append h.type hu) hn

theorem isWord_listName (h : file.WellNamed) : isWord file.listName.toList = true := by
  have hu : ∀ c ∈ "Columns".toList, continuesWord c = true := List.all_eq_true.mp (by decide)
  simpa [listName] using isWord_append h.type hu

theorem apart_constantPieces {rest : List Char} (h : file.WellNamed) (hf : field ∈ file.fields) :
    Apart (file.constantPieces field) rest := by
  have hw := isWord_constantName h hf
  have hc := closeQuote_escape field.column.toList ('\n' :: rest)
  refine apart_append.mpr ⟨⟨?_, ?_, apart_blanks⟩, ?_, ?_, ?_, ?_, trivial⟩
  · exact Piece.fits_blank (by decide) (by decide)
  · rw [List.replicate_succ]
    exact fits_word_blank hw
  · exact Piece.fits_mark (by decide)
  · exact Piece.fits_blank (by decide) (by decide)
  · exact Piece.fits_string (by simpa [Piece.text] using hc)
  · exact Piece.fits_lineBreak

theorem apart_entryPieces {rest : List Char} (h : file.WellNamed) (hf : field ∈ file.fields) :
    Apart (file.entryPieces field) rest := by
  have hw := isWord_constantName h hf
  refine ⟨?_, ?_, ?_, Piece.fits_lineBreak, trivial⟩
  · exact Piece.fits_blank (by decide) (by decide)
  · exact Piece.fits_word hw (by simp [Piece.text]; decide)
  · exact Piece.fits_mark (by decide)

theorem apart_headPieces {rest : List Char} (h : file.WellNamed) : Apart file.headPieces rest := by
  refine ⟨?comment, Piece.fits_lineBreak, Piece.fits_lineBreak, ?_, ?_, ?package,
    Piece.fits_lineBreak, Piece.fits_lineBreak, ?_, ?_, ?_, Piece.fits_lineBreak, trivial⟩
  case comment => exact Piece.fits_lineComment (by decide) (by simp [Piece.text])
  case package => exact Piece.fits_word h.package (by simp [Piece.text]; decide)
  · exact fits_word_blank (by decide)
  · exact Piece.fits_blank (by decide) (by decide)
  · exact fits_word_blank (by decide)
  · exact Piece.fits_blank (by decide) (by decide)
  · exact Piece.fits_mark (by decide)

theorem not_mem_comment (h : file.WellNamed) :
    '\n' ∉ (" " ++ file.listName ++ " lists the column names of " ++ file.type
      ++ " in declaration order.").toList := by
  have ht := not_mem_lineBreak_of_isWord h.type
  have hl := not_mem_lineBreak_of_isWord (isWord_listName h)
  simp [ht, hl]

theorem apart_middlePieces {rest : List Char} (h : file.WellNamed) :
    Apart file.middlePieces rest := by
  refine ⟨?_, Piece.fits_lineBreak, Piece.fits_lineBreak, ?comment, Piece.fits_lineBreak, ?_, ?_,
    fits_word_blank (isWord_listName h), ?_, ?_, ?_, ?_, ?_, ?string, ?_, Piece.fits_lineBreak,
    trivial⟩
  case comment => exact Piece.fits_lineComment (not_mem_comment h) (by simp [Piece.text])
  case string => exact Piece.fits_word (by decide) (by simp [Piece.text]; decide)
  · exact Piece.fits_mark (by decide)
  · exact fits_word_blank (by decide)
  · exact Piece.fits_blank (by decide) (by decide)
  · exact Piece.fits_blank (by decide) (by decide)
  · exact Piece.fits_mark (by decide)
  · exact Piece.fits_blank (by decide) (by decide)
  · exact Piece.fits_mark (by decide)
  · exact Piece.fits_mark (by decide)
  · exact Piece.fits_mark (by decide)

-- The text of the file is cut into the pieces that it was written from.
theorem pieces_render (h : file.WellNamed) :
    pieces file.render.toList = (file.writtenPieces, none) := by
  have ha : Apart file.writtenPieces [] := by
    simp only [writtenPieces, apart_append]
    refine ⟨⟨⟨⟨apart_headPieces h, ?_⟩, apart_middlePieces h⟩, ?_⟩, ?_⟩
    · exact apart_flatMap fun field hf rest => apart_constantPieces h hf
    · exact apart_flatMap fun field hf rest => apart_entryPieces h hf
    · exact ⟨Piece.fits_mark (by decide), Piece.fits_lineBreak, trivial⟩
  have hp := pieces_of_apart ha
  rwa [List.append_nil, text_writtenPieces, pieces_nil, List.append_nil] at hp

def constantTokens (file : ConstantFile) (field : Field) : List Token :=
  [.word (file.constantName field), .mark '=',
    .string (.interpreted (StringLiteral.escape field.column.toList)), .terminator]

def entryTokens (file : ConstantFile) (field : Field) : List Token :=
  [.word (file.constantName field), .mark ',']

def renderedTokens (file : ConstantFile) : List Token :=
  [.word "package", .word file.package, .terminator, .word "const", .opening .round] ++
  file.fields.flatMap file.constantTokens ++
  [.closing .round, .terminator, .word "var", .word file.listName, .mark '=', .opening .square,
    .closing .square, .word "string", .opening .curly] ++
  file.fields.flatMap file.entryTokens ++
  [.closing .curly, .terminator]

theorem emitted_constantPieces :
    emitted false (file.constantPieces field) = file.constantTokens field ∧
      readyBehind false (file.constantPieces field) = false := by
  have he : Token.ofMark '=' = .mark '=' := rfl
  simp [constantPieces, constantTokens, he]

theorem emitted_entryPieces :
    emitted false (file.entryPieces field) = file.entryTokens field ∧
      readyBehind false (file.entryPieces field) = false := by
  have hc : Token.ofMark ',' = .mark ',' := rfl
  simp [entryPieces, entryTokens, hc, Token.endsStatement]

theorem emitted_headPieces (file : ConstantFile) :
    emitted false file.headPieces =
        [.word "package", .word file.package, .terminator, .word "const", .opening .round] ∧
      readyBehind false file.headPieces = false := by
  have ho : Token.ofMark '(' = .opening .round := rfl
  have hc : '\n' ∉ " Code generated by fielder. DO NOT EDIT.".toList := by decide
  simp only [headPieces, emitted_cons, emitted_nil, readyBehind_cons, readyBehind_nil,
    Piece.emitted_lineComment hc, Piece.readyBehind_lineComment hc]
  simp [ho, Token.endsStatement]

theorem emitted_middlePieces (h : file.WellNamed) :
    emitted false file.middlePieces =
        [.closing .round, .terminator, .word "var", .word file.listName, .mark '=',
          .opening .square, .closing .square, .word "string", .opening .curly] ∧
      readyBehind false file.middlePieces = false := by
  have h1 : Token.ofMark ')' = .closing .round := rfl
  have h2 : Token.ofMark '=' = .mark '=' := rfl
  have h3 : Token.ofMark '[' = .opening .square := rfl
  have h4 : Token.ofMark ']' = .closing .square := rfl
  have h5 : Token.ofMark '\x7b' = .opening .curly := rfl
  have hc := not_mem_comment h
  simp only [middlePieces, emitted_cons, emitted_nil, readyBehind_cons, readyBehind_nil,
    Piece.emitted_lineComment hc, Piece.readyBehind_lineComment hc]
  simp [h1, h2, h3, h4, h5, Token.endsStatement]

theorem tokens_writtenPieces (h : file.WellNamed) :
    tokens false file.writtenPieces = file.renderedTokens := by
  have ⟨hh, hhr⟩ := emitted_headPieces file
  have ⟨hc, hcr⟩ : emitted false (file.fields.flatMap file.constantPieces) =
        file.fields.flatMap file.constantTokens ∧
      readyBehind false (file.fields.flatMap file.constantPieces) = false :=
    emitted_flatMap fun _ _ => emitted_constantPieces
  have ⟨hm, hmr⟩ := emitted_middlePieces h
  have ⟨he, her⟩ : emitted false (file.fields.flatMap file.entryPieces) =
        file.fields.flatMap file.entryTokens ∧
      readyBehind false (file.fields.flatMap file.entryPieces) = false :=
    emitted_flatMap fun _ _ => emitted_entryPieces
  have hl : Token.ofMark '\x7d' = .closing .curly := rfl
  rw [tokens_eq, writtenPieces]
  simp only [emitted_append, readyBehind_append, hh, hhr, hc, hcr, hm, hmr, he, her]
  simp [renderedTokens, hl, Token.endsStatement]

theorem nested_renderedTokens : Nested [] file.renderedTokens := by
  simp only [renderedTokens, List.append_assoc, List.cons_append, List.nil_append,
    Nested.word_iff, Nested.terminator_iff, Nested.opening_iff]
  rw [nested_flatMap_append fun field vs => .rfl]
  refine ⟨_, rfl, _, rfl, ?_⟩
  simp only [Nested.word_iff, Nested.opening_iff]
  rw [nested_flatMap_append fun field vs => .rfl]
  exact ⟨_, rfl, rfl⟩

theorem tokenize_render (h : file.WellNamed) :
    tokenize file.render.toList = .ok file.renderedTokens := by
  have hp := pieces_render h
  refine tokenize_eq_ok_iff.mpr ⟨by rw [hp], ?_, nested_renderedTokens⟩
  rw [hp, tokens_writtenPieces h]

theorem constantName_ne_type : file.constantName field ≠ "type" := by
  intro he
  have hm : '_' ∈ (file.constantName field).toList := by simp [constantName]
  exact absurd (he ▸ hm) (by decide)

theorem listName_ne_type : file.listName ≠ "type" := by
  intro he
  have hm : 'C' ∈ file.listName.toList := by simp [listName]
  exact absurd (he ▸ hm) (by decide)

theorem ofTokens_renderedTokens :
    SourceFile.ofTokens file.renderedTokens = .ok ⟨file.package, []⟩ := by
  have hp : PackageClause file.renderedTokens file.package (file.renderedTokens.drop 2) := rfl
  have ht : .word "type" ∉ file.renderedTokens.drop 2 := by
    simp [renderedTokens, constantTokens, entryTokens, constantName_ne_type.symm,
      listName_ne_type.symm]
  exact (SourceFile.ofTokens_eq_ok_iff hp).mpr ⟨rfl, [], repeatTurns_declTurn_of_not_mem ht⟩

theorem ofText_render (h : file.WellNamed) :
    SourceFile.ofText file.render.toList = .ok ⟨file.package, []⟩ :=
  (SourceFile.ofText_of_tokenize (tokenize_render h)).trans ofTokens_renderedTokens

end ConstantFile

def constantsOf : List Token → List (String × StringLiteral) × List Token
  | .word name :: .mark '=' :: .string l :: .terminator :: ts =>
    ((name, l) :: (constantsOf ts).1, (constantsOf ts).2)
  | ts => ([], ts)

-- The file of constants with the given tokens. The type is what the name of the list starts with, and
-- a field is what the name of its constant ends with.
def ConstantFile.ofTokens? : List Token → Option ConstantFile
  | .word "package" :: .word package :: .terminator :: .word "const" :: .opening .round :: ts =>
    match constantsOf ts with
    | (constants, .closing .round :: .terminator :: .word "var" :: .word list :: _) =>
      let type := list.toList.take (list.length - "Columns".length)
      some ⟨package, String.ofList type, constants.map fun (name, l) =>
        ⟨String.ofList (name.toList.drop (type.length + 1)), String.ofList l.value⟩⟩
    | _ => none
  | _ => none

namespace ConstantFile

variable {file : ConstantFile}

theorem constantsOf_append {fields : List Field} {ts : List Token} :
    constantsOf (fields.flatMap file.constantTokens ++ .closing .round :: ts) =
      (fields.map fun field => (file.constantName field,
        .interpreted (StringLiteral.escape field.column.toList)), .closing .round :: ts) := by
  induction fields with
  | nil => rfl
  | cons field fields ih => simp [constantTokens, constantsOf, ih]

theorem ofTokens?_renderedTokens : ofTokens? file.renderedTokens = some file := by
  have ht : file.listName.toList.take (file.listName.length - "Columns".length) =
      file.type.toList := by
    have hl : file.listName.toList = file.type.toList ++ "Columns".toList := by simp [listName]
    have hn : file.listName.length - "Columns".length = file.type.toList.length := by
      simp [listName, String.length_toList]
    rw [hl, hn, List.take_left]
  have hn (field : Field) : (file.constantName field).toList.drop (file.type.toList.length + 1) =
      field.name.toList := by
    have hc : (file.constantName field).toList = (file.type.toList ++ ['_']) ++ field.name.toList := by
      simp [constantName]
    have hl : file.type.toList.length + 1 = (file.type.toList ++ ['_']).length := by simp
    rw [hc, hl, List.drop_left]
  have hv (field : Field) :
      (StringLiteral.interpreted (StringLiteral.escape field.column.toList)).value =
        field.column.toList := StringLiteral.unescape_escape _
  simp only [ofTokens?, renderedTokens, List.append_assoc, List.cons_append, List.nil_append,
    constantsOf_append, ht, List.map_map, Function.comp_def, hn, hv, String.ofList_toList]
  simp

-- The text of a file of constants is a source file without declarations, and its tokens list what the
-- file consists of: a constant with a name and a literal for each field, and the same names again.
-- The literals stand for the columns, and the file is found in the tokens. So two files with the same
-- text are the same.
theorem render_lossless (h : file.WellNamed) :
    SourceFile.ofText file.render.toList = .ok ⟨file.package, []⟩ ∧
    tokenize file.render.toList = .ok file.renderedTokens ∧
    (∀ field ∈ file.fields,
      (StringLiteral.interpreted (StringLiteral.escape field.column.toList)).tag =
        "`" ++ field.column ++ "`") ∧
    ofTokens? file.renderedTokens = some file ∧
    (∀ other : ConstantFile, other.WellNamed → other.render = file.render → other = file) := by
  refine ⟨ofText_render h, tokenize_render h, fun field _ => ?tag, ofTokens?_renderedTokens,
    fun other ho he => ?injective⟩
  case tag =>
    have hv : (StringLiteral.interpreted (StringLiteral.escape field.column.toList)).value =
        field.column.toList := StringLiteral.unescape_escape _
    apply String.toList_injective
    simp [StringLiteral.tag, hv]
  case injective =>
    have ht := tokenize_render ho
    rw [he, tokenize_render h] at ht
    injection ht with ht
    have hf : ofTokens? other.renderedTokens = some other := ofTokens?_renderedTokens
    rw [← ht, ofTokens?_renderedTokens] at hf
    exact (Option.some.inj hf).symm

theorem render_lossless_quoted :
    let file : ConstantFile := ⟨"p", "T_", [⟨"A", "a\"\\\n\t"⟩, ⟨"_B", ""⟩]⟩
    file.WellNamed ∧
    SourceFile.ofText file.render.toList = .ok ⟨file.package, []⟩ ∧
    tokenize file.render.toList = .ok file.renderedTokens ∧
    (∀ field ∈ file.fields,
      (StringLiteral.interpreted (StringLiteral.escape field.column.toList)).tag =
        "`" ++ field.column ++ "`") ∧
    ofTokens? file.renderedTokens = some file ∧
    (∀ other : ConstantFile, other.WellNamed → other.render = file.render → other = file) := by
  intro file
  have h : file.WellNamed := ⟨by decide, by decide, by decide⟩
  exact ⟨h, render_lossless h⟩

end ConstantFile

end ColumnConstants
