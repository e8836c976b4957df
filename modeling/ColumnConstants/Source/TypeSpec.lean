import ColumnConstants.Source.FieldLine
import ColumnConstants.Source.Turn
import ColumnConstants.Source.Walk

namespace ColumnConstants

def Token.endsField (t : Token) : Bool :=
  t = .terminator || t = .closing .curly

def Token.endsType (t : Token) : Bool :=
  t = .terminator || t = .closing .round

def fieldTurn (ts : List Token) : Except SourceError (Turn FieldDecl) :=
  match skipTerminators ts with
  | [] => .error .unexpectedEnd
  | .closing .curly :: rest => .ok (.leave rest)
  | ts =>
    let (line, rest) := splitOutside Token.endsField 0 ts
    .ok (.stay (FieldDecl.ofLine? line).toList rest)

theorem ne_terminator_of_skipTerminators {t : Token} {ts rest : List Token}
    (h : skipTerminators ts = t :: rest) : t ≠ .terminator := by
  have := List.head?_dropWhile_not (fun t => decide (t = Token.terminator)) ts
  rw [skipTerminators] at h
  simpa [h] using this

theorem fieldTurn_progress : Progress fieldTurn where
  suffix {ts t} h := by
    have hs := skipTerminators_suffix ts
    unfold fieldTurn at h
    split at h
    case h_1 => cases h
    case h_2 hts =>
      cases h
      exact (List.suffix_cons ..).trans (hts ▸ hs)
    case h_3 =>
      cases h
      exact (splitOutside_suffix ..).trans hs
  shorter {ts found rest} h := by
    have hs := (skipTerminators_suffix ts).length_le
    unfold fieldTurn at h
    split at h
    case h_1 | h_2 => cases h
    case h_3 ht hc =>
      cases h
      match hts : skipTerminators ts with
      | [] => exact absurd hts ht
      | t :: rest =>
        have hn := ne_terminator_of_skipTerminators hts
        have hc : t ≠ .closing .curly := fun h => hc rest (h ▸ hts)
        have : t.endsField = false := by simp [Token.endsField, hn, hc]
        have := length_splitOutside_lt rest this
        rw [hts] at hs
        omega

def structFields (ts : List Token) : Except SourceError (List FieldDecl × List Token) :=
  repeatTurns fieldTurn ts

-- Whether the tokens start with a list of type parameters. `[T any]`, `[K, V any]` and `[T ~int]`
-- are such lists, while `[4]` and `[N]` give the length of an array.
def startsTypeParams : List Token → Bool
  | .opening .square :: .word _ :: .word _ :: _ => true
  | .opening .square :: .word _ :: .mark c :: _ => c = ',' || c = '~'
  | _ => false

def skipTypeParams (ts : List Token) : List Token :=
  if startsTypeParams ts then afterGroup 0 ts else ts

def skipEquals : List Token → List Token
  | .mark '=' :: ts => ts
  | ts => ts

def structBody? : List Token → Option (List Token)
  | .word w :: .opening .curly :: ts => if w = "struct" then some ts else none
  | _ => none

def typeSpec (name : String) (ts : List Token) : Except SourceError (TypeDecl × List Token) :=
  let ts := skipEquals (skipTypeParams ts)
  match structBody? ts with
  | some body => do
    let (fields, rest) ← structFields body
    return (⟨name, .struct fields⟩, rest)
  | none => .ok (⟨name, .other⟩, (splitOutside Token.endsType 0 ts).2)

theorem skipTypeParams_suffix (ts : List Token) : skipTypeParams ts <:+ ts := by
  unfold skipTypeParams
  split
  · exact afterGroup_suffix 0 ts
  · exact List.suffix_rfl

theorem skipEquals_suffix (ts : List Token) : skipEquals ts <:+ ts := by
  unfold skipEquals
  split
  · exact List.suffix_cons ..
  · exact List.suffix_rfl

theorem structBody?_suffix {ts body : List Token} (h : structBody? ts = some body) :
    body <:+ ts := by
  unfold structBody? at h
  split at h
  case h_1 =>
    split at h <;> cases h
    exact (List.suffix_cons ..).trans (List.suffix_cons ..)
  case h_2 => cases h

theorem typeSpec_suffix {name : String} {ts rest : List Token} {decl : TypeDecl}
    (h : typeSpec name ts = .ok (decl, rest)) : rest <:+ ts := by
  have hts := (skipEquals_suffix _).trans (skipTypeParams_suffix ts)
  unfold typeSpec at h
  simp only at h
  split at h
  case h_1 body hb =>
    have ⟨⟨fields, r⟩, hf, he⟩ := bind_eq_ok.mp h
    cases he
    have hr := repeatTurns_suffix fieldTurn_progress hf
    exact hr.trans ((structBody?_suffix hb).trans hts)
  case h_2 =>
    cases h
    exact (splitOutside_suffix ..).trans hts

end ColumnConstants
