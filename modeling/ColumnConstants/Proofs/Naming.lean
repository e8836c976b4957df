import ColumnConstants.Proofs.Boundary
import ColumnConstants.Source.Scan

namespace ColumnConstants

section

variable {name : String} {ready : Bool} {cs : List Char} {p : Piece} {ps : List Piece}

theorem whole_of_mem_pieces (h : p ∈ (pieces cs).1) : p.Whole := by
  fun_induction pieces cs with
  | case1 => cases h
  | case2 => cases h
  | case3 c cs q rest hq qs unclosed hs ih =>
    rw [hs] at ih
    obtain rfl | h := List.mem_cons.mp h
    · exact (Piece.whole_of_first hq).1
    · exact ih h

theorem token?_eq_word (h : p.token? = some (.word name)) : p = .word name.toList := by
  cases p
  case word t =>
    injection h with h
    injection h with h
    rw [← h, String.toList_ofList]
  case mark c =>
    injection h with h
    unfold Token.ofMark at h
    split at h
    case h_3 => split at h <;> cases h
    all_goals cases h
  all_goals cases h

theorem mem_of_word_mem_tokens (h : .word name ∈ tokens ready ps) :
    .word name.toList ∈ ps := by
  induction ps generalizing ready with
  | nil => cases ready <;> simp [tokens] at h
  | cons p ps ih =>
    unfold tokens at h
    split at h
    case h_1 t ht =>
      obtain rfl | h := List.mem_cons.mp h
      · rw [token?_eq_word ht]
        exact List.mem_cons_self
      · exact List.mem_cons_of_mem p (ih h)
    case h_2 =>
      split at h
      case isTrue =>
        obtain h | h := List.mem_cons.mp h
        · cases h
        · exact List.mem_cons_of_mem p (ih h)
      case isFalse => exact List.mem_cons_of_mem p (ih h)

theorem isWord_of_mem_tokenize {source : List Char} {ts : List Token}
    (ht : tokenize source = .ok ts) (h : .word name ∈ ts) : isWord name.toList = true := by
  obtain ⟨_, rfl, _⟩ := tokenize_eq_ok_iff.mp ht
  exact whole_of_mem_pieces (mem_of_word_mem_tokens h)

end

def NamedIn (ts : List Token) (names : List String) : Prop :=
  ∀ name ∈ names, .word name ∈ ts

section

variable {name : String} {names : List String} {ts us rest : List Token}

theorem NamedIn.mono (h : NamedIn us names) (hs : us ⊆ ts) : NamedIn ts names :=
  fun name hn => hs (h name hn)

theorem NamedIn.flatMap {α : Type} {f : α → List String} {xs : List α}
    (h : ∀ x ∈ xs, NamedIn ts (f x)) : NamedIn ts (xs.flatMap f) := by
  intro name hn
  have ⟨x, hx, hn⟩ := List.mem_flatMap.mp hn
  exact h x hx name hn

theorem namedIn_cons : NamedIn ts (name :: names) ↔ .word name ∈ ts ∧ NamedIn ts names := by
  simp [NamedIn]

theorem NamedIn.repeatTurns {α : Type} {turn : List Token → Except SourceError (Turn α)}
    {f : α → List String} {found : List α} (p : Progress turn)
    (step : ∀ {us rest items}, turn us = .ok (.stay items rest) → ∀ x ∈ items, NamedIn us (f x))
    (h : repeatTurns turn ts = .ok (found, rest)) : ∀ x ∈ found, NamedIn ts (f x) := by
  refine repeatTurns_forall p (fun us items rest hs ht x hx => ?_) h
  exact (step ht x hx).mono hs.subset

theorem namedIn_of_fieldTurn {found : List FieldDecl} (h : fieldTurn ts = .ok (.stay found rest)) :
    ∀ decl ∈ found, NamedIn ts decl.names := by
  unfold fieldTurn at h
  split at h
  case h_1 | h_2 => cases h
  case h_3 =>
    cases h
    intro decl hd name hn
    have hl := FieldDecl.word_mem_of_ofLine? (Option.mem_toList.mp hd) hn
    have hp : (splitOutside Token.endsField 0 (skipTerminators ts)).1 <+: skipTerminators ts :=
      ⟨_, splitOutside_append Token.endsField 0 (skipTerminators ts)⟩
    exact (skipTerminators_suffix ts).subset (hp.subset hl)

theorem namedIn_of_structFields {fields : List FieldDecl}
    (h : structFields ts = .ok (fields, rest)) : ∀ decl ∈ fields, NamedIn ts decl.names :=
  NamedIn.repeatTurns fieldTurn_progress namedIn_of_fieldTurn h

theorem namedIn_of_typeSpec {decl : TypeDecl} (h : typeSpec name ts = .ok (decl, rest)) :
    NamedIn (.word name :: ts) decl.names := by
  have hs := (skipEquals_suffix _).trans (skipTypeParams_suffix ts)
  unfold typeSpec at h
  simp only at h
  split at h
  case h_1 body hb =>
    have ⟨⟨fields, _⟩, hf, he⟩ := bind_eq_ok.mp h
    cases he
    refine namedIn_cons.mpr ⟨List.mem_cons_self, NamedIn.flatMap fun field hm => ?_⟩
    have hb := ((structBody?_suffix hb).trans hs).subset
    apply (namedIn_of_structFields hf field hm).mono
    exact List.Subset.trans hb (List.subset_cons_self _ _)
  case h_2 =>
    cases h
    exact namedIn_cons.mpr ⟨List.mem_cons_self, by simp [TypeDecl.lines, NamedIn]⟩

theorem namedIn_of_specTurn {found : List TypeDecl} (h : specTurn ts = .ok (.stay found rest)) :
    ∀ decl ∈ found, NamedIn ts decl.names := by
  unfold specTurn at h
  split at h
  case h_1 | h_2 => cases h
  case h_3 name us hu =>
    have ⟨⟨decl, _⟩, hd, he⟩ := bind_eq_ok.mp h
    cases he
    intro decl hm
    cases List.mem_singleton.mp hm
    exact (namedIn_of_typeSpec hd).mono (hu ▸ (skipTerminators_suffix ts).subset)
  case h_4 =>
    cases h
    simp

theorem namedIn_of_typeDecls {decls : List TypeDecl} (h : typeDecls ts = .ok (decls, rest)) :
    ∀ decl ∈ decls, NamedIn ts decl.names := by
  unfold typeDecls at h
  split at h
  case h_1 =>
    have ⟨⟨decl, _⟩, hd, he⟩ := bind_eq_ok.mp h
    cases he
    intro decl hm
    cases List.mem_singleton.mp hm
    exact namedIn_of_typeSpec hd
  case h_2 us =>
    have hg : ∀ decl ∈ decls, NamedIn us decl.names :=
      NamedIn.repeatTurns specTurn_progress namedIn_of_specTurn h
    exact fun decl hd => (hg decl hd).mono (List.subset_cons_self _ _)
  case h_3 =>
    cases h
    simp

theorem namedIn_of_declTurn {found : List TypeDecl} (h : declTurn ts = .ok (.stay found rest)) :
    ∀ decl ∈ found, NamedIn ts decl.names := by
  unfold declTurn at h
  split at h
  case h_1 => cases h
  case h_2 t us =>
    split at h
    case isTrue =>
      have ⟨⟨decls, _⟩, hd, he⟩ := bind_eq_ok.mp h
      cases he
      exact fun decl hm => (namedIn_of_typeDecls hd decl hm).mono (List.subset_cons_self _ _)
    case isFalse =>
      cases h
      simp

namespace SourceFile

variable {file : SourceFile}

theorem namedIn_of_ofTokens (h : ofTokens ts = .ok file) : NamedIn ts file.names := by
  unfold ofTokens at h
  split at h
  case h_2 => cases h
  case h_1 w package us hu =>
    split at h
    case isFalse => cases h
    case isTrue =>
      have ⟨⟨types, _⟩, ht, he⟩ := bind_eq_ok.mp h
      cases he
      have hs := hu ▸ (skipTerminators_suffix ts).subset
      have hd : ∀ decl ∈ types, NamedIn us decl.names :=
        NamedIn.repeatTurns declTurn_progress namedIn_of_declTurn ht
      refine namedIn_cons.mpr ⟨hs (by simp), NamedIn.flatMap fun decl hm => ?_⟩
      refine (hd decl hm).mono fun t ht => hs ?_
      exact List.mem_cons_of_mem _ (List.mem_cons_of_mem _ ht)

-- Every name in a file is an identifier or a keyword.
theorem isWord_of_mem_names {source : List Char} (h : ofText source = .ok file) :
    ∀ name ∈ file.names, isWord name.toList = true := by
  have ⟨ts, ht, hf⟩ := bind_eq_ok.mp h
  exact fun name hn => isWord_of_mem_tokenize ht (namedIn_of_ofTokens hf name hn)

end SourceFile

end

end ColumnConstants
