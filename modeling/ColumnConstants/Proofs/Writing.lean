import ColumnConstants.Proofs.Spacing
import ColumnConstants.Proofs.Walk
import ColumnConstants.Source.FieldLine

namespace ColumnConstants

structure Identifier where
  name : String
  isWord : isWord name.toList = true

structure Numeral where
  digits : List Char
  isNumber : isNumber digits = true

structure RawText where
  text : List Char
  unquoted : '\x60' ∉ text

def signs : List Char :=
  ['=', ',', '.', '~', '|', '*', '/', '%', '+', '-', '<', '>', '&', '^']

structure Sign where
  char : Char
  mem : char ∈ signs

theorem Sign.plain (s : Sign) : isPlainMark s.char = true ∨ s.char = '/' := by
  have all : signs.all (fun c => isPlainMark c || c = '/') = true := by decide
  simpa using List.all_eq_true.mp all s.char s.mem

@[simp]
theorem Sign.ofMark_char (s : Sign) : Token.ofMark s.char = .mark s.char := by
  have all : signs.all (fun c => Token.ofMark c = .mark c) = true := by decide
  simpa using List.all_eq_true.mp all s.char s.mem

inductive Separator where
  | lineBreak (indent : Nat)
  | semicolon

-- What a source text can consist of, as a tree. Lexemes are cut apart again, and each bracket is closed
-- by its own kind.
inductive Writing where
  | nothing
  | blank
  | word (name : Identifier)
  | number (numeral : Numeral)
  | rawString (text : RawText)
  | sign (s : Sign)
  | separator (s : Separator)
  | grouped (b : Bracket) (inner : Writing)
  | append (first second : Writing)

instance : Append Writing := ⟨Writing.append⟩

def Writing.keyword (word : String) (h : isWord word.toList = true := by decide) : Writing :=
  .word ⟨word, h⟩

def Writing.mark (c : Char) (h : c ∈ signs := by decide) : Writing :=
  .sign ⟨c, h⟩

def Separator.pieces : Separator → List Piece
  | lineBreak indent => .lineBreak :: List.replicate indent (.blank '\t')
  | semicolon => [.mark ';', .blank ' ']

namespace Writing

def pieces : Writing → List Piece
  | nothing => []
  | blank => [.blank ' ']
  | word w => [.word w.name.toList]
  | number n => [.number n.digits]
  | rawString t => [.rawString t.text]
  | sign s => [.mark s.char]
  | separator s => s.pieces
  | grouped b w => .mark b.opener :: w.pieces ++ [.mark b.closer]
  | append w v => w.pieces ++ v.pieces

def OneLine : Writing → Prop
  | separator _ => False
  | append w v => w.OneLine ∧ v.OneLine
  | _ => True

def text (w : Writing) : List Char :=
  (spaced w.pieces).flatMap Piece.text

@[simp]
theorem pieces_append {w v : Writing} : (w ++ v).pieces = w.pieces ++ v.pieces :=
  rfl

theorem plain_of_mem_separator {s : Separator} {p : Piece} (hp : p ∈ s.pieces) : p.Plain := by
  cases s
  case lineBreak indent =>
    obtain rfl | hp := List.mem_cons.mp hp
    · trivial
    · rw [List.eq_of_mem_replicate hp]
      exact ⟨by decide, by decide⟩
  case semicolon =>
    obtain rfl | hp := List.mem_cons.mp hp
    · exact .inl (by decide)
    · rw [List.mem_singleton.mp hp]
      exact ⟨by decide, by decide⟩

theorem plain_of_mem {w : Writing} {p : Piece} (hp : p ∈ w.pieces) : p.Plain := by
  induction w with
  | nothing => cases hp
  | separator s => exact plain_of_mem_separator hp
  | append w v hw hv =>
    obtain hp | hp := List.mem_append.mp hp
    · exact hw hp
    · exact hv hp
  | grouped b w hw =>
    have bracket : isPlainMark b.opener = true ∧ isPlainMark b.closer = true := by
      cases b <;> decide
    obtain hp | hp := List.mem_append.mp hp
    · obtain rfl | hp := List.mem_cons.mp hp
      · exact .inl bracket.1
      · exact hw hp
    · rw [List.mem_singleton.mp hp]
      exact .inl bracket.2
  | blank =>
    rw [List.mem_singleton.mp hp]
    exact ⟨by decide, by decide⟩
  | word w =>
    rw [List.mem_singleton.mp hp]
    exact w.isWord
  | number n =>
    rw [List.mem_singleton.mp hp]
    exact n.isNumber
  | rawString t =>
    rw [List.mem_singleton.mp hp]
    exact t.unquoted
  | sign s =>
    rw [List.mem_singleton.mp hp]
    exact s.plain

theorem pieces_text (w : Writing) : ColumnConstants.pieces w.text = (spaced w.pieces, none) :=
  pieces_spaced fun _ => plain_of_mem

end Writing

section

variable {ready : Bool} {b : Bracket} {s : Separator}

@[simp]
theorem Token.ofMark_opener : Token.ofMark b.opener = .opening b := by
  cases b <;> rfl

@[simp]
theorem Token.ofMark_closer : Token.ofMark b.closer = .closing b := by
  cases b <;> rfl

@[simp]
theorem Separator.emitted_pieces_ready : emitted true s.pieces = [.terminator] := by
  have : Token.ofMark ';' = .terminator := rfl
  cases s <;> simp [pieces, this]

theorem Separator.emitted_pieces (ready : Bool) (s : Separator) :
    emitted ready s.pieces = [] ∨ emitted ready s.pieces = [.terminator] := by
  have : Token.ofMark ';' = .terminator := rfl
  cases s <;> cases ready <;> simp [pieces, this]

@[simp]
theorem Separator.readyBehind_pieces : readyBehind ready s.pieces = false := by
  have : Token.ofMark ';' = .terminator := rfl
  cases s <;> simp [pieces, this, Token.endsStatement]

end

namespace Writing

variable {ready : Bool} {depth : Nat} {st : List Bracket} {us : List Token}

@[simp]
theorem emitted_nothing : emitted ready nothing.pieces = [] :=
  rfl

@[simp]
theorem readyBehind_nothing : readyBehind ready nothing.pieces = ready :=
  rfl

@[simp]
theorem emitted_blank : emitted ready blank.pieces = [] := by
  simp [pieces]

@[simp]
theorem readyBehind_blank : readyBehind ready blank.pieces = ready := by
  simp [pieces]

@[simp]
theorem emitted_word {n : Identifier} : emitted ready (word n).pieces = [.word n.name] := by
  simp [pieces]

@[simp]
theorem readyBehind_word {n : Identifier} : readyBehind ready (word n).pieces = true :=
  rfl

@[simp]
theorem emitted_keyword {w : String} {h : isWord w.toList = true} :
    emitted ready (keyword w h).pieces = [.word w] :=
  emitted_word

@[simp]
theorem readyBehind_keyword {w : String} {h : isWord w.toList = true} :
    readyBehind ready (keyword w h).pieces = true :=
  rfl

@[simp]
theorem emitted_mark {c : Char} {h : c ∈ signs} : emitted ready (mark c h).pieces = [.mark c] := by
  simp [pieces, mark, Sign.ofMark_char ⟨c, h⟩]

@[simp]
theorem readyBehind_mark {c : Char} {h : c ∈ signs} :
    readyBehind ready (mark c h).pieces = false := by
  simp [pieces, mark, Sign.ofMark_char ⟨c, h⟩, Token.endsStatement]

@[simp]
theorem emitted_rawString {t : RawText} :
    emitted ready (rawString t).pieces = [.string (.raw t.text)] :=
  rfl

@[simp]
theorem emitted_separator {s : Separator} :
    emitted true (separator s).pieces = [.terminator] :=
  s.emitted_pieces_ready

@[simp]
theorem readyBehind_separator {s : Separator} : readyBehind ready (separator s).pieces = false :=
  s.readyBehind_pieces

@[simp]
theorem emitted_grouped {b : Bracket} {w : Writing} :
    emitted ready (grouped b w).pieces =
      .opening b :: (emitted false w.pieces ++ [.closing b]) := by
  simp [pieces, Token.endsStatement]

@[simp]
theorem readyBehind_grouped {b : Bracket} {w : Writing} :
    readyBehind ready (grouped b w).pieces = true := by
  simp [pieces, Token.endsStatement]

theorem nested_append (w : Writing) :
    Nested st (emitted ready w.pieces ++ us) ↔ Nested st us := by
  induction w generalizing ready st us with
  | separator s => obtain h | h := s.emitted_pieces ready <;> simp [pieces, h]
  | grouped b w hw => simp [hw]
  | append w v hw hv => simp [pieces, hw, hv]
  | sign s => simp [pieces]
  | nothing | blank | word w | number n | rawString t => simp [pieces]

theorem nested (ready : Bool) (w : Writing) : Nested [] (emitted ready w.pieces) := by
  rw [← List.append_nil (emitted ready w.pieces), nested_append]
  rfl

theorem afterGroup_append (w : Writing) :
    afterGroup (depth + 1) (emitted ready w.pieces ++ us) = afterGroup (depth + 1) us :=
  afterGroup_nested (w.nested ready)

theorem closesAtEnd_append (w : Writing) :
    FieldDecl.closesAtEnd (depth + 1) (emitted ready w.pieces ++ us) =
      FieldDecl.closesAtEnd (depth + 1) us := by
  induction w generalizing ready depth us with
  | separator s => obtain h | h := s.emitted_pieces ready <;> simp [pieces, h, FieldDecl.closesAtEnd]
  | grouped b w hw => cases b <;> simp [hw, FieldDecl.closesAtEnd]
  | append w v hw hv => simp [pieces, hw, hv]
  | sign s => simp [pieces, FieldDecl.closesAtEnd]
  | nothing | blank | word w | number n | rawString t => simp [pieces, FieldDecl.closesAtEnd]

theorem splitOutside_append {stop : Token → Bool}
    (hs : ∀ t, stop t = true → t = .terminator ∨ ∃ b, t = .closing b)
    (w : Writing) (hw : w.OneLine) :
    splitOutside stop 0 (emitted ready w.pieces ++ us) =
      (emitted ready w.pieces ++ (splitOutside stop 0 us).1, (splitOutside stop 0 us).2) := by
  have goOn {t : Token} (ht : t ≠ .terminator) (hc : ∀ b, t ≠ .closing b) : stop t = false :=
    Bool.eq_false_iff.mpr fun h => (hs t h).elim ht fun ⟨b, h⟩ => hc b h
  have pass {t : Token} {ts : List Token} (ht : t ≠ .terminator) (hc : ∀ b, t ≠ .closing b) :
      splitOutside stop 0 (t :: ts) =
        (t :: (splitOutside stop (t.depthAfter 0) ts).1,
          (splitOutside stop (t.depthAfter 0) ts).2) :=
    splitOutside_cons_of_not_stop (by simp [goOn ht hc])
  induction w generalizing ready us with
  | separator s => cases hw
  | grouped b w =>
    rw [emitted_grouped, List.cons_append, List.append_assoc, List.singleton_append,
      splitOutside_group b (w.nested false) (goOn (by simp) (by simp))]
    simp
  | append w v ihw ihv =>
    simp only [pieces, emitted_append, List.append_assoc]
    rw [ihw hw.1, ihv hw.2]
  | sign s => simp [pieces, pass, Token.depthAfter]
  | nothing | blank | word w | number n | rawString t => simp [pieces, pass, Token.depthAfter]

end Writing

end ColumnConstants
