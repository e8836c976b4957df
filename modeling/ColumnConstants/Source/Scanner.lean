import Mathlib.Data.PFun
import ColumnConstants.Source.Scan

namespace ColumnConstants

-- Reads the tokens of a file from a position on. Yields what it found, or an error, with the position
-- behind it; undefined if it never comes to an end.
abbrev Scanner : Type → Type :=
  ReaderT (List Token) (ExceptT SourceError (StateT Nat Part))

namespace Scanner

def run {α : Type} (x : Scanner α) (ts : List Token) (p : Nat) : Part (Except SourceError α × Nat) :=
  x ts p

-- Takes turns until one of them leaves the loop or fails; a turn that stays in the loop yields the state
-- for the next one.
def loop {σ α : Type} (turn : σ → Scanner (σ ⊕ α)) (s : σ) : Scanner α :=
  fun ts p => PFun.fix (fun (s, p) => ((turn s).run ts p).map next) (s, p)
where
  next : Except SourceError (σ ⊕ α) × Nat → (Except SourceError α × Nat) ⊕ (σ × Nat)
    | (.ok (.inl s), p) => .inr (s, p)
    | (.ok (.inr a), p) => .inl (.ok a, p)
    | (.error e, p) => .inl (.error e, p)

section

variable {σ α β : Type} {ts : List Token} {p q : Nat}

theorem run_bind (x : Scanner α) (f : α → Scanner β) :
    (x >>= f).run ts p = (x.run ts p).bind fun r => (ExceptT.bindCont (f · ts) r.1).run r.2 :=
  rfl

theorem run_bind_of_ok {x : Scanner α} {f : α → Scanner β} {a : α}
    (h : x.run ts p = .some (.ok a, q)) : (x >>= f).run ts p = (f a).run ts q := by
  rw [run_bind, h, Part.bind_some]
  rfl

theorem run_bind_of_error {x : Scanner α} {f : α → Scanner β} {e : SourceError}
    (h : x.run ts p = .some (.error e, q)) : (x >>= f).run ts p = .some (.error e, q) := by
  rw [run_bind, h, Part.bind_some]
  rfl

variable {turn : σ → Scanner (σ ⊕ α)} {s s' : σ}

theorem run_loop_of_stay (h : (turn s).run ts p = .some (.ok (.inl s'), q)) :
    (loop turn s).run ts p = (loop turn s').run ts q := by
  apply PFun.fix_fwd_eq
  simp only [h, Part.map_some]
  exact Part.mem_some _

theorem run_loop_of_leave {a : α} (h : (turn s).run ts p = .some (.ok (.inr a), q)) :
    (loop turn s).run ts p = .some (.ok a, q) := by
  apply Part.eq_some_iff.mpr
  apply PFun.fix_stop
  simp only [h, Part.map_some]
  exact Part.mem_some _

theorem run_loop_of_error {e : SourceError} (h : (turn s).run ts p = .some (.error e, q)) :
    (loop turn s).run ts p = .some (.error e, q) := by
  apply Part.eq_some_iff.mpr
  apply PFun.fix_stop
  simp only [h, Part.map_some]
  exact Part.mem_some _

end

def peekAt (offset : Nat) : Scanner (Option Token) :=
  fun ts p => .some (.ok ts[p + offset]?, p)

def peek : Scanner (Option Token) :=
  peekAt 0

def advance : Scanner Unit :=
  fun _ p => .some (.ok (), p + 1)

def bump : Scanner (Option Token) := do
  let t ← peek
  if t.isSome then advance
  return t

def eat (t : Token) : Scanner Bool := do
  if (← peek) = some t then
    advance
    return true
  else return false

def skipTerminators : Scanner Unit :=
  loop turn ()
where
  turn (_ : Unit) : Scanner (Unit ⊕ Unit) := do
    return if ← eat .terminator then .inl () else .inr ()

def splitOutside (stop : Token → Bool) : Scanner (List Token) :=
  loop turn (0, [])
where
  turn : Nat × List Token → Scanner ((Nat × List Token) ⊕ List Token)
    | (depth, passed) => do
      match ← peek with
      | none => return .inr passed
      | some t =>
        if depth = 0 ∧ stop t then return .inr passed
        else
          advance
          return .inl (t.depthAfter depth, passed ++ [t])

def skipGroup : Scanner Unit :=
  loop turn 0
where
  turn (depth : Nat) : Scanner (Nat ⊕ Unit) := do
    match ← bump with
    | none => return .inr ()
    | some (.closing _) => return if depth ≤ 1 then .inr () else .inl (depth - 1)
    | some t => return .inl (t.depthAfter depth)

def fieldTurn (fields : List FieldDecl) : Scanner (List FieldDecl ⊕ List FieldDecl) := do
  skipTerminators
  match ← peek with
  | none => throw .unexpectedEnd
  | some (.closing .curly) =>
    advance
    return .inr fields
  | some _ =>
    let line ← splitOutside Token.endsField
    return .inl (fields ++ (FieldDecl.ofLine? line).toList)

def structBody : Scanner (List FieldDecl) := do
  if ← eat (.opening .curly) then loop fieldTurn [] else throw .unexpectedEnd

def startsTypeParams : Scanner Bool := do
  match ← peek, ← peekAt 1, ← peekAt 2 with
  | some (.opening .square), some (.word _), some (.word _) => return true
  | some (.opening .square), some (.word _), some (.mark c) => return c = ',' || c = '~'
  | _, _, _ => return false

def startsStruct : Scanner Bool := do
  return (← peek) = some (.word "struct") && (← peekAt 1) = some (.opening .curly)

def skipTypeParams : Scanner Unit := do
  if ← startsTypeParams then skipGroup

def typeSpec : Scanner TypeDecl := do
  match ← bump with
  | some (.word name) =>
    skipTypeParams
    let _ ← eat (.mark '=')
    if ← startsStruct then
      advance
      return ⟨name, .struct (← structBody)⟩
    else
      let _ ← splitOutside Token.endsType
      return ⟨name, .other⟩
  | _ => throw .unexpectedEnd

def specTurn (decls : List TypeDecl) : Scanner (List TypeDecl ⊕ List TypeDecl) := do
  skipTerminators
  match ← peek with
  | none => throw .unexpectedEnd
  | some (.closing .round) =>
    advance
    return .inr decls
  | some (.word _) => return .inl (decls ++ [← typeSpec])
  | some _ =>
    let _ ← splitOutside Token.endsType
    return .inl decls

def typeDecls (decls : List TypeDecl) : Scanner (List TypeDecl) := do
  if ← eat (.opening .round) then loop specTurn decls else return decls ++ [← typeSpec]

def startsDecl : Scanner Bool := do
  match ← peek, ← peekAt 1 with
  | some t, some (.word _) => return t = .word "type"
  | some t, some (.opening .round) => return t = .word "type"
  | _, _ => return false

def declTurn (decls : List TypeDecl) : Scanner (List TypeDecl ⊕ List TypeDecl) := do
  match ← peek with
  | none => return .inr decls
  | some _ =>
    if ← startsDecl then
      advance
      return .inl (← typeDecls decls)
    else
      advance
      return .inl decls

def file : Scanner SourceFile := do
  skipTerminators
  if ← eat (.word "package") then
    match ← bump with
    | some (.word package) => return ⟨package, ← loop declTurn []⟩
    | _ => throw .missingPackage
  else throw .missingPackage

end Scanner

end ColumnConstants
