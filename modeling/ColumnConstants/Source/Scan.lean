import ColumnConstants.Source.TypeSpec

namespace ColumnConstants

def specTurn (ts : List Token) : Except SourceError (Turn TypeDecl) :=
  match skipTerminators ts with
  | [] => .error .unexpectedEnd
  | .closing .round :: rest => .ok (.leave rest)
  | .word name :: rest => do
    let (decl, rest) ← typeSpec name rest
    return .stay [decl] rest
  | ts => .ok (.stay [] (splitOutside Token.endsType 0 ts).2)

theorem specTurn_progress : Progress specTurn where
  suffix {ts t} h := by
    have hs := skipTerminators_suffix ts
    unfold specTurn at h
    split at h
    case h_1 => cases h
    case h_2 hts =>
      cases h
      exact (List.suffix_cons ..).trans (hts ▸ hs)
    case h_3 hts =>
      have ⟨⟨decl, r⟩, hd, he⟩ := bind_eq_ok.mp h
      cases he
      exact (typeSpec_suffix hd).trans ((List.suffix_cons ..).trans (hts ▸ hs))
    case h_4 =>
      cases h
      exact (splitOutside_suffix ..).trans hs
  shorter {ts found rest} h := by
    have hs := (skipTerminators_suffix ts).length_le
    unfold specTurn at h
    split at h
    case h_1 | h_2 => cases h
    case h_3 hts =>
      have ⟨⟨decl, r⟩, hd, he⟩ := bind_eq_ok.mp h
      cases he
      have := (typeSpec_suffix hd).length_le
      rw [hts, List.length_cons] at hs
      omega
    case h_4 ht hc hw =>
      cases h
      match hts : skipTerminators ts with
      | [] => exact absurd hts ht
      | t :: rest =>
        have hn := ne_terminator_of_skipTerminators hts
        have hc : t ≠ .closing .round := fun h => hc rest (h ▸ hts)
        have : t.endsType = false := by simp [Token.endsType, hn, hc]
        have := length_splitOutside_lt rest this
        rw [hts] at hs
        omega

def specGroup (ts : List Token) : Except SourceError (List TypeDecl × List Token) :=
  repeatTurns specTurn ts

-- The declarations behind the keyword `type`, and what follows them; none if the keyword does not
-- start a declaration here.
def typeDecls : List Token → Except SourceError (List TypeDecl × List Token)
  | .word name :: ts => do
    let (decl, rest) ← typeSpec name ts
    return ([decl], rest)
  | .opening .round :: ts => specGroup ts
  | ts => .ok ([], ts)

theorem typeDecls_suffix {ts rest : List Token} {decls : List TypeDecl}
    (h : typeDecls ts = .ok (decls, rest)) : rest <:+ ts := by
  unfold typeDecls at h
  split at h
  case h_1 =>
    have ⟨⟨decl, r⟩, hd, he⟩ := bind_eq_ok.mp h
    cases he
    exact (typeSpec_suffix hd).trans (List.suffix_cons ..)
  case h_2 => exact (repeatTurns_suffix specTurn_progress h).trans (List.suffix_cons ..)
  case h_3 =>
    cases h
    exact List.suffix_rfl

def declTurn : List Token → Except SourceError (Turn TypeDecl)
  | [] => .ok (.leave [])
  | t :: ts =>
    if t = .word "type" then do
      let (decls, rest) ← typeDecls ts
      return .stay decls rest
    else .ok (.stay [] ts)

theorem declTurn_progress : Progress declTurn where
  suffix {ts t} h := by
    unfold declTurn at h
    split at h
    case h_1 =>
      cases h
      exact List.suffix_rfl
    case h_2 =>
      split at h
      case isTrue =>
        have ⟨⟨decls, r⟩, hd, he⟩ := bind_eq_ok.mp h
        cases he
        exact (typeDecls_suffix hd).trans (List.suffix_cons ..)
      case isFalse =>
        cases h
        exact List.suffix_cons ..
  shorter {ts found rest} h := by
    unfold declTurn at h
    split at h
    case h_1 => cases h
    case h_2 =>
      split at h
      case isTrue =>
        have ⟨⟨decls, r⟩, hd, he⟩ := bind_eq_ok.mp h
        cases he
        have := (typeDecls_suffix hd).length_le
        rw [List.length_cons]
        omega
      case isFalse =>
        cases h
        simp

namespace SourceFile

def ofTokens (ts : List Token) : Except SourceError SourceFile :=
  match skipTerminators ts with
  | .word w :: .word package :: ts =>
    if w = "package" then do
      let (types, _) ← repeatTurns declTurn ts
      return ⟨package, types⟩
    else .error .missingPackage
  | _ => .error .missingPackage

def ofText (source : List Char) : Except SourceError SourceFile := do
  ofTokens (← tokenize source)

end SourceFile

end ColumnConstants
