namespace ColumnConstants

inductive StringLiteral where
  | raw (text : List Char)
  | interpreted (text : List Char)
  deriving DecidableEq, Repr

namespace StringLiteral

def escaped? (c : Char) : Option Char :=
  if c = 'n' then some '\n'
  else if c = 't' then some '\t'
  else if c = 'r' then some '\r'
  else if c = '"' ∨ c = '\\' ∨ c = '\'' then some c
  else none

-- The text that stands between double quotes as `cs`.
-- An escape of any other kind is not resolved: its backslash stays, and so does a last one.
def unescape : List Char → List Char
  | [] => []
  | '\\' :: c :: cs =>
    match escaped? c with
    | some d => d :: unescape cs
    | none => '\\' :: c :: unescape cs
  | c :: cs => c :: unescape cs

def escapeChar (c : Char) : List Char :=
  if c = '"' then ['\\', '"']
  else if c = '\\' then ['\\', '\\']
  else if c = '\n' then ['\\', 'n']
  else if c = '\t' then ['\\', 't']
  else [c]

def escape (cs : List Char) : List Char :=
  cs.flatMap escapeChar

def value : StringLiteral → List Char
  | raw t => t
  | interpreted t => unescape t

theorem unescape_cons {c : Char} {cs : List Char} (h : c ≠ '\\') :
    unescape (c :: cs) = c :: unescape cs := by
  cases cs <;> simp [unescape, h]

-- Whether `cs` stands for `c` between double quotes: an escape that means `c`, or `c` itself if it
-- means nothing else there.
inductive Spells : List Char → Char → Prop where
  | escape {c d : Char} (h : escaped? d = some c) : Spells ['\\', d] c
  | plain {c : Char} (hq : c ≠ '"') (hb : c ≠ '\\') (hn : c ≠ '\n') : Spells [c] c

theorem Spells.unescape_append {c : Char} {cs : List Char} (h : Spells cs c) (ds : List Char) :
    unescape (cs ++ ds) = c :: unescape ds := by
  cases h
  case escape h => simp [unescape, h]
  case plain _ hb _ => exact unescape_cons hb

theorem unescape_flatMap {spell : Char → List Char} (h : ∀ c, Spells (spell c) c)
    (cs : List Char) : unescape (cs.flatMap spell) = cs := by
  induction cs with
  | nil => rfl
  | cons c cs ih => rw [List.flatMap_cons, (h c).unescape_append, ih]

theorem spells_escapeChar (c : Char) : Spells (escapeChar c) c := by
  unfold escapeChar
  split
  case isTrue h => exact .escape (by simp [escaped?, h])
  split
  case isTrue h => exact .escape (by simp [escaped?, h])
  split
  case isTrue h => exact .escape (by simp [escaped?, h])
  split
  case isTrue h => exact .escape (by simp [escaped?, h])
  case isFalse hq hb hn _ => exact .plain hq hb hn

theorem unescape_escape (cs : List Char) : unescape (escape cs) = cs :=
  unescape_flatMap spells_escapeChar cs

end StringLiteral

end ColumnConstants
