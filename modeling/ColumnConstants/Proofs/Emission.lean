import ColumnConstants.Proofs.Nested

namespace ColumnConstants

-- The tokens of the piece; `ready` says whether a line break in front of it ends a statement.
def Piece.emitted (ready : Bool) (p : Piece) : List Token :=
  match p.token? with
  | some t => [t]
  | none => if ready && p.breaksLine then [.terminator] else []

def Piece.readyBehind (ready : Bool) (p : Piece) : Bool :=
  match p.token? with
  | some t => t.endsStatement
  | none => ready && !p.breaksLine

namespace Piece

variable {ready : Bool} {c : Char} {t : List Char}

@[simp]
theorem emitted_word : emitted ready (word t) = [.word (String.ofList t)] :=
  rfl

@[simp]
theorem readyBehind_word : readyBehind ready (word t) = true :=
  rfl

@[simp]
theorem emitted_number : emitted ready (number t) = [.constant] :=
  rfl

@[simp]
theorem readyBehind_number : readyBehind ready (number t) = true :=
  rfl

@[simp]
theorem emitted_string : emitted ready (string t) = [.string (.interpreted t)] :=
  rfl

@[simp]
theorem readyBehind_string : readyBehind ready (string t) = true :=
  rfl

@[simp]
theorem emitted_rawString : emitted ready (rawString t) = [.string (.raw t)] :=
  rfl

@[simp]
theorem readyBehind_rawString : readyBehind ready (rawString t) = true :=
  rfl

@[simp]
theorem emitted_mark : emitted ready (mark c) = [.ofMark c] :=
  rfl

@[simp]
theorem readyBehind_mark : readyBehind ready (mark c) = (Token.ofMark c).endsStatement :=
  rfl

@[simp]
theorem emitted_lineBreak : emitted ready lineBreak = if ready then [.terminator] else [] := by
  cases ready <;> rfl

@[simp]
theorem readyBehind_lineBreak : readyBehind ready lineBreak = false := by
  cases ready <;> rfl

@[simp]
theorem emitted_blank (h : c ≠ '\n') : emitted ready (blank c) = [] := by
  simp [emitted, token?, breaksLine, text, h.symm]

@[simp]
theorem readyBehind_blank (h : c ≠ '\n') : readyBehind ready (blank c) = ready := by
  simp [readyBehind, token?, breaksLine, text, h.symm]

@[simp]
theorem emitted_lineComment (h : '\n' ∉ t) : emitted ready (lineComment t) = [] := by
  simp [emitted, token?, breaksLine, text, h]

@[simp]
theorem readyBehind_lineComment (h : '\n' ∉ t) : readyBehind ready (lineComment t) = ready := by
  simp [readyBehind, token?, breaksLine, text, h]

end Piece

def emitted (ready : Bool) : List Piece → List Token
  | [] => []
  | p :: ps => p.emitted ready ++ emitted (p.readyBehind ready) ps

def readyBehind (ready : Bool) (ps : List Piece) : Bool :=
  ps.foldl Piece.readyBehind ready

section

variable {ready : Bool} {p : Piece} {ps qs : List Piece}

@[simp]
theorem emitted_nil : emitted ready [] = [] :=
  rfl

@[simp]
theorem emitted_cons :
    emitted ready (p :: ps) = p.emitted ready ++ emitted (p.readyBehind ready) ps :=
  rfl

@[simp]
theorem readyBehind_nil : readyBehind ready [] = ready :=
  rfl

@[simp]
theorem readyBehind_cons : readyBehind ready (p :: ps) = readyBehind (p.readyBehind ready) ps :=
  rfl

@[simp]
theorem readyBehind_append :
    readyBehind ready (ps ++ qs) = readyBehind (readyBehind ready ps) qs :=
  List.foldl_append

@[simp]
theorem emitted_append :
    emitted ready (ps ++ qs) = emitted ready ps ++ emitted (readyBehind ready ps) qs := by
  induction ps generalizing ready with
  | nil => rfl
  | cons p ps ih => simp [ih]

theorem emitted_flatMap {α : Type} {f : α → List Piece} {g : α → List Token} {xs : List α}
    (h : ∀ x ∈ xs, emitted ready (f x) = g x ∧ readyBehind ready (f x) = ready) :
    emitted ready (xs.flatMap f) = xs.flatMap g ∧ readyBehind ready (xs.flatMap f) = ready := by
  induction xs with
  | nil => exact ⟨rfl, rfl⟩
  | cons x xs ih =>
    have ⟨he, hr⟩ := h x List.mem_cons_self
    have ⟨ihe, ihr⟩ := ih fun y hy => h y (List.mem_cons_of_mem x hy)
    simp [he, hr, ihe, ihr]

@[simp]
theorem emitted_blanks {c : Char} {n : Nat} (h : c ≠ '\n') :
    emitted ready (List.replicate n (.blank c)) = [] := by
  induction n with
  | zero => rfl
  | succ n ih => simpa [List.replicate_succ, h] using ih

@[simp]
theorem readyBehind_blanks {c : Char} {n : Nat} (h : c ≠ '\n') :
    readyBehind ready (List.replicate n (.blank c)) = ready := by
  induction n with
  | zero => rfl
  | succ n ih => simpa [List.replicate_succ, h] using ih

theorem readyBehind_eq :
    readyBehind ready ps = ((emitted ready ps).getLast?.map Token.endsStatement).getD ready := by
  induction ps generalizing ready with
  | nil => rfl
  | cons p ps ih =>
    rw [readyBehind_cons, ih, emitted_cons, List.getLast?_append]
    cases (emitted (p.readyBehind ready) ps).getLast?
    case some t => rfl
    case none =>
      cases hp : p.token?
      case some t => simp [Piece.emitted, Piece.readyBehind, hp]
      case none =>
        cases ready <;> cases hb : p.breaksLine <;>
          simp [Piece.emitted, Piece.readyBehind, hp, hb, Token.endsStatement]

theorem tokens_eq :
    tokens ready ps = emitted ready ps ++ if readyBehind ready ps then [.terminator] else [] := by
  induction ps generalizing ready with
  | nil => rfl
  | cons p ps ih =>
    unfold tokens
    cases hp : p.token?
    case some t => simp [Piece.emitted, Piece.readyBehind, hp, ih]
    case none =>
      cases ready <;> cases hb : p.breaksLine <;>
        simp [Piece.emitted, Piece.readyBehind, hp, hb, ih]

end

end ColumnConstants
