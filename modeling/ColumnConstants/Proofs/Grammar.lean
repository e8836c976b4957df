import ColumnConstants.Proofs.Writing
import ColumnConstants.Source.Declaration

namespace ColumnConstants

inductive QualifiedName where
  | plain (name : Identifier)
  | qualified (package name : Identifier)

inductive UnaryOperator where
  | plus | minus | complement

inductive BinaryOperator where
  | add | sub | mul | div | rem | and | or | xor | andNot | shiftLeft | shiftRight

inductive Category where
  | commas (items : Category)
  | block (items : Category)
  | length
  | type
  | wordType
  | param
  | params
  | signature
  | alternatives
  | constraint
  | typeParam
  -- A list of type parameters that does not look like the length of an array.
  | typeParams
  | firstTypeParam
  | field
  | untagged
  | element
  | spec
  | decl

inductive Phrase : Category → Type where
  | only {c : Category} (p : Phrase c) : Phrase (.commas c)
  | comma {c : Category} (p : Phrase c) (ps : Phrase (.commas c)) : Phrase (.commas c)
  -- A separator may follow the last item of a block, and there may be more separators than items.
  | done {c : Category} : Phrase (.block c)
  | last {c : Category} (p : Phrase c) : Phrase (.block c)
  | item {c : Category} (p : Phrase c) (s : Separator) (ps : Phrase (.block c)) : Phrase (.block c)
  | skip {c : Category} (s : Separator) (ps : Phrase (.block c)) : Phrase (.block c)
  | number (n : Numeral) : Phrase .length
  | constant (name : QualifiedName) : Phrase .length
  | call (name : QualifiedName) (args : Phrase (.commas .length)) : Phrase .length
  | parens (n : Phrase .length) : Phrase .length
  | unary (op : UnaryOperator) (n : Phrase .length) : Phrase .length
  | binary (op : BinaryOperator) (m n : Phrase .length) : Phrase .length
  | named (name : QualifiedName) : Phrase .wordType
  | generic (name : QualifiedName) (args : Phrase (.commas .type)) : Phrase .wordType
  | map (key value : Phrase .type) : Phrase .wordType
  | channel (t : Phrase .type) : Phrase .wordType
  | sendChannel (t : Phrase .type) : Phrase .wordType
  | function (s : Phrase .signature) : Phrase .wordType
  | struct (body : Phrase (.block .field)) : Phrase .wordType
  | interface (body : Phrase (.block .element)) : Phrase .wordType
  | ofWord (t : Phrase .wordType) : Phrase .type
  | pointer (t : Phrase .type) : Phrase .type
  | slice (t : Phrase .type) : Phrase .type
  | array (n : Phrase .length) (t : Phrase .type) : Phrase .type
  | receiveChannel (t : Phrase .type) : Phrase .type
  | param (names : List Identifier) (isVariadic : Bool) (t : Phrase .type) : Phrase .param
  | noParams : Phrase .params
  | params (ps : Phrase (.commas .param)) : Phrase .params
  | signature (ps : Phrase .params) : Phrase .signature
  | signatureTo (ps : Phrase .params) (t : Phrase .type) : Phrase .signature
  | signatureToAll (ps rs : Phrase .params) : Phrase .signature
  | noAlternative : Phrase .alternatives
  | alternative (isApproximate : Bool) (t : Phrase .type) (more : Phrase .alternatives) :
    Phrase .alternatives
  | constraint (isApproximate : Bool) (t : Phrase .type) (more : Phrase .alternatives) :
    Phrase .constraint
  | typeParam (first : Identifier) (more : List Identifier) (c : Phrase .constraint) :
    Phrase .typeParam
  -- `K, V any`, `T ~int | string` and `T any`.
  | firstListed (first second : Identifier) (more : List Identifier) (c : Phrase .constraint) :
    Phrase .firstTypeParam
  | firstApproximate (name : Identifier) (t : Phrase .type) (more : Phrase .alternatives) :
    Phrase .firstTypeParam
  | firstWord (name : Identifier) (t : Phrase .wordType) (more : Phrase .alternatives) :
    Phrase .firstTypeParam
  | oneTypeParam (p : Phrase .firstTypeParam) : Phrase .typeParams
  | typeParams (p : Phrase .firstTypeParam) (ps : Phrase (.commas .typeParam)) : Phrase .typeParams
  -- `A, B [4]int`, `*p.T` and `p.T[A, B]`.
  | declared (first : Identifier) (more : List Identifier) (t : Phrase .type) : Phrase .untagged
  | embedded (isPointer : Bool) (name : QualifiedName) : Phrase .untagged
  | embeddedGeneric (isPointer : Bool) (name : QualifiedName) (args : Phrase (.commas .type)) :
    Phrase .untagged
  | field (line : Phrase .untagged) (tag : Option RawText) : Phrase .field
  | method (name : Identifier) (s : Phrase .signature) : Phrase .element
  | union (c : Phrase .constraint) : Phrase .element
  | spec (name : Identifier) (isAlias : Bool) (t : Phrase .type) : Phrase .spec
  | genericSpec (name : Identifier) (ps : Phrase .typeParams) (isAlias : Bool) (t : Phrase .type) :
    Phrase .spec
  | single (s : Phrase .spec) : Phrase .decl
  | group (specs : Phrase (.block .spec)) : Phrase .decl

namespace Writing

def optional (isThere : Bool) (w : Writing) : Writing :=
  if isThere then w else nothing

@[simp]
theorem optional_false {w : Writing} : optional false w = nothing :=
  rfl

@[simp]
theorem optional_true {w : Writing} : optional true w = w :=
  rfl

def names : List Identifier → Writing
  | [] => nothing
  | [n] => word n
  | n :: m :: ns => word n ++ mark ',' ++ blank ++ names (m :: ns)

def tag : Option RawText → Writing
  | none => nothing
  | some t => blank ++ rawString t

end Writing

open Writing (keyword mark blank grouped separator optional names)

def QualifiedName.writing : QualifiedName → Writing
  | plain name => .word name
  | qualified package name => .word package ++ mark '.' ++ .word name

def UnaryOperator.writing : UnaryOperator → Writing
  | plus => mark '+'
  | minus => mark '-'
  | complement => mark '^'

def BinaryOperator.writing : BinaryOperator → Writing
  | add => mark '+'
  | sub => mark '-'
  | mul => mark '*'
  | div => mark '/'
  | rem => mark '%'
  | and => mark '&'
  | or => mark '|'
  | xor => mark '^'
  | andNot => mark '&' ++ mark '^'
  | shiftLeft => mark '<' ++ mark '<'
  | shiftRight => mark '>' ++ mark '>'

def RawText.tag (t : RawText) : String :=
  "`" ++ String.ofList t.text ++ "`"

namespace Phrase

def writing {c : Category} : Phrase c → Writing
  | only p => p.writing
  | comma p ps => p.writing ++ mark ',' ++ blank ++ ps.writing
  | done => .nothing
  | last p => p.writing
  | item p s ps => p.writing ++ separator s ++ ps.writing
  | skip s ps => separator s ++ ps.writing
  | number n => .number n
  | constant name => name.writing
  | call name args => name.writing ++ grouped .round args.writing
  | parens n => grouped .round n.writing
  | unary op n => op.writing ++ n.writing
  | binary op m n => m.writing ++ blank ++ op.writing ++ blank ++ n.writing
  | named name => name.writing
  | generic name args => name.writing ++ grouped .square args.writing
  | map key value => keyword "map" ++ grouped .square key.writing ++ value.writing
  | channel t => keyword "chan" ++ blank ++ t.writing
  | sendChannel t => keyword "chan" ++ mark '<' ++ mark '-' ++ blank ++ t.writing
  | function s => keyword "func" ++ s.writing
  | struct body => keyword "struct" ++ blank ++ grouped .curly body.writing
  | interface body => keyword "interface" ++ blank ++ grouped .curly body.writing
  | ofWord t => t.writing
  | pointer t => mark '*' ++ t.writing
  | slice t => grouped .square .nothing ++ t.writing
  | array n t => grouped .square n.writing ++ t.writing
  | receiveChannel t => mark '<' ++ mark '-' ++ keyword "chan" ++ blank ++ t.writing
  | param ns isVariadic t =>
    optional (!ns.isEmpty) (names ns ++ blank) ++
      optional isVariadic (mark '.' ++ mark '.' ++ mark '.') ++ t.writing
  | noParams => .nothing
  | params ps => ps.writing
  | signature ps => grouped .round ps.writing
  | signatureTo ps t => grouped .round ps.writing ++ blank ++ t.writing
  | signatureToAll ps rs => grouped .round ps.writing ++ blank ++ grouped .round rs.writing
  | noAlternative => .nothing
  | alternative isApproximate t more =>
    blank ++ mark '|' ++ blank ++ optional isApproximate (mark '~') ++ t.writing ++ more.writing
  | constraint isApproximate t more => optional isApproximate (mark '~') ++ t.writing ++ more.writing
  | typeParam first more c => names (first :: more) ++ blank ++ c.writing
  | firstListed first second more c => names (first :: second :: more) ++ blank ++ c.writing
  | firstApproximate name t more => .word name ++ blank ++ mark '~' ++ t.writing ++ more.writing
  | firstWord name t more => .word name ++ blank ++ t.writing ++ more.writing
  | oneTypeParam p => p.writing
  | typeParams p ps => p.writing ++ mark ',' ++ blank ++ ps.writing
  | declared first more t => names (first :: more) ++ blank ++ t.writing
  | embedded isPointer name => optional isPointer (mark '*') ++ name.writing
  | embeddedGeneric isPointer name args =>
    optional isPointer (mark '*') ++ name.writing ++ grouped .square args.writing
  | field line tag => line.writing ++ .tag tag
  | method name s => .word name ++ s.writing
  | union c => c.writing
  | spec name isAlias t =>
    .word name ++ blank ++ optional isAlias (mark '=' ++ blank) ++ t.writing
  | genericSpec name ps isAlias t =>
    .word name ++ grouped .square ps.writing ++ blank ++ optional isAlias (mark '=' ++ blank) ++
      t.writing
  | single s => keyword "type" ++ blank ++ s.writing
  | group specs => keyword "type" ++ blank ++ grouped .round specs.writing

section

variable {c : Category}

@[simp]
theorem writing_done : (done : Phrase (.block c)).writing = .nothing :=
  rfl

@[simp]
theorem writing_last {p : Phrase c} : (last p).writing = p.writing :=
  rfl

@[simp]
theorem writing_item {p : Phrase c} {s : Separator} {ps : Phrase (.block c)} :
    (item p s ps).writing = p.writing ++ separator s ++ ps.writing :=
  rfl

@[simp]
theorem writing_skip {s : Separator} {ps : Phrase (.block c)} :
    (skip s ps).writing = separator s ++ ps.writing :=
  rfl

@[simp]
theorem writing_binary {op : BinaryOperator} {m n : Phrase .length} :
    (binary op m n).writing = m.writing ++ blank ++ op.writing ++ blank ++ n.writing :=
  rfl

@[simp]
theorem writing_struct {body : Phrase (.block .field)} :
    (struct body).writing = keyword "struct" ++ blank ++ grouped .curly body.writing :=
  rfl

@[simp]
theorem writing_ofWord {t : Phrase .wordType} : (ofWord t).writing = t.writing :=
  rfl

@[simp]
theorem writing_array {n : Phrase .length} {t : Phrase .type} :
    (array n t).writing = grouped .square n.writing ++ t.writing :=
  rfl

@[simp]
theorem writing_declared {first : Identifier} {more : List Identifier} {t : Phrase .type} :
    (declared first more t).writing = names (first :: more) ++ blank ++ t.writing :=
  rfl

@[simp]
theorem writing_field {line : Phrase .untagged} {tag : Option RawText} :
    (field line tag).writing = line.writing ++ .tag tag :=
  rfl

@[simp]
theorem writing_firstApproximate {name : Identifier} {t : Phrase .type}
    {more : Phrase .alternatives} :
    (firstApproximate name t more).writing =
      .word name ++ blank ++ mark '~' ++ t.writing ++ more.writing :=
  rfl

@[simp]
theorem writing_firstWord {name : Identifier} {t : Phrase .wordType}
    {more : Phrase .alternatives} :
    (firstWord name t more).writing = .word name ++ blank ++ t.writing ++ more.writing :=
  rfl

@[simp]
theorem writing_typeParams {p : Phrase .firstTypeParam} {ps : Phrase (.commas .typeParam)} :
    (typeParams p ps).writing = p.writing ++ mark ',' ++ blank ++ ps.writing :=
  rfl

@[simp]
theorem writing_spec {name : Identifier} {isAlias : Bool} {t : Phrase .type} :
    (spec name isAlias t).writing =
      .word name ++ blank ++ optional isAlias (mark '=' ++ blank) ++ t.writing :=
  rfl

@[simp]
theorem writing_genericSpec {name : Identifier} {ps : Phrase .typeParams} {isAlias : Bool}
    {t : Phrase .type} :
    (genericSpec name ps isAlias t).writing =
      .word name ++ grouped .square ps.writing ++ blank ++
        optional isAlias (mark '=' ++ blank) ++ t.writing :=
  rfl

@[simp]
theorem writing_single {s : Phrase .spec} :
    (single s).writing = keyword "type" ++ blank ++ s.writing :=
  rfl

@[simp]
theorem writing_group {specs : Phrase (.block .spec)} :
    (group specs).writing = keyword "type" ++ blank ++ grouped .round specs.writing :=
  rfl

end

def items {c : Category} : Phrase (.block c) → List (Phrase c)
  | done => []
  | last p => [p]
  | item p _ ps => p :: ps.items
  | skip _ ps => ps.items

def fieldNames : Phrase .untagged → List String
  | declared first more _ => (first :: more).map Identifier.name
  | embedded .. | embeddedGeneric .. => []

def fieldDecl : Phrase .field → FieldDecl
  | field line tag => ⟨line.fieldNames, tag.map RawText.tag⟩

def typeKind : Phrase .type → TypeKind
  | ofWord (struct body) => .struct (body.items.map fieldDecl)
  | _ => .other

def typeDecl : Phrase .spec → TypeDecl
  | spec name _ t => ⟨name.name, t.typeKind⟩
  | genericSpec name _ _ t => ⟨name.name, t.typeKind⟩

def typeDecls : Phrase .decl → List TypeDecl
  | single s => [s.typeDecl]
  | group specs => specs.items.map typeDecl

end Phrase

structure DeclarationFile where
  package : Identifier
  separator : Separator
  decls : Phrase (.block .decl)

namespace DeclarationFile

def writing (file : DeclarationFile) : Writing :=
  keyword "package" ++ blank ++ .word file.package ++ .separator file.separator ++
    file.decls.writing

def text (file : DeclarationFile) : List Char :=
  file.writing.text

def declared (file : DeclarationFile) : SourceFile :=
  ⟨file.package.name, file.decls.items.flatMap Phrase.typeDecls⟩

end DeclarationFile

end ColumnConstants
