import ColumnConstants.Proofs.Acceptance
import ColumnConstants.Proofs.Shape

namespace ColumnConstants

open Writing (grouped mark blank keyword separator names optional)

section

variable {ready : Bool}

@[simp]
theorem RawText.tag_raw (t : RawText) : (StringLiteral.raw t.text).tag = t.tag := by
  apply String.toList_injective
  simp [StringLiteral.tag, StringLiteral.value, RawText.tag]

theorem ofLine?_tag {ts : List Token} (h : Complete ts) (tag : Option RawText) :
    FieldDecl.ofLine? (ts ++ emitted ready (Writing.tag tag).pieces) =
      some ⟨FieldDecl.namesOf ts, tag.map RawText.tag⟩ := by
  have hn := h.ne_nil
  cases tag
  case none => simp [Writing.tag, FieldDecl.ofLine?, h.splitTag, hn]
  case some t => simp [Writing.tag, FieldDecl.ofLine?, FieldDecl.splitTag, hn]

theorem listedNames_names (ready : Bool) (n : Identifier) (more : List Identifier)
    {ts : List Token} (ht : ts.head? ≠ some (.mark ',')) :
    FieldDecl.listedNames (emitted ready (names (n :: more)).pieces ++ ts) =
      (n :: more).map Identifier.name := by
  induction more generalizing n ready with
  | nil =>
    cases ts
    case nil => simp [names, FieldDecl.listedNames]
    case cons t ts =>
      have ht : t ≠ .mark ',' := by simpa using ht
      simp [names, FieldDecl.listedNames, ht]
  | cons m more ih => simp [names, FieldDecl.listedNames, ih]

theorem namesOf_embedded (name : QualifiedName) :
    FieldDecl.namesOf (emitted ready name.writing.pieces) = [] := by
  cases name <;> simp [QualifiedName.writing, FieldDecl.namesOf]

theorem namesOf_embeddedGeneric (name : QualifiedName) (w : Writing) :
    FieldDecl.namesOf (emitted ready (name.writing ++ grouped .square w).pieces) = [] := by
  cases name
  case plain n =>
    simp [QualifiedName.writing, FieldDecl.namesOf, FieldDecl.closesAtEnd, w.closesAtEnd_append]
  case qualified p n => simp [QualifiedName.writing, FieldDecl.namesOf]

theorem namesOf_line (p : Phrase .untagged) :
    FieldDecl.namesOf (emitted ready p.writing.pieces) = p.fieldNames := by
  match p with
  | .declared first [] t =>
    have ht : FieldDecl.namesOf (.word first.name :: emitted true t.writing.pieces) = [first.name] :=
      t.namesOf_type
    simpa [names]
  | .declared first (second :: more) t =>
    obtain ⟨s, ts, hs, _, hc⟩ := t.exists_head true
    have ht : (emitted true t.writing.pieces).head? ≠ some (.mark ',') := by simpa [hs]
    have hr : readyBehind ready (names (first :: second :: more)).pieces = true :=
      (Writing.complete_names first (second :: more)).readyBehind
    have hl := listedNames_names ready first (second :: more) ht
    rw [Phrase.writing_declared, Writing.pieces_append, Writing.pieces_append, emitted_append,
      emitted_append, readyBehind_append, Writing.emitted_blank, Writing.readyBehind_blank, hr,
      List.append_nil]
    exact hl
  | .embedded true name => rfl
  | .embedded false name => exact namesOf_embedded name
  | .embeddedGeneric true name args => rfl
  | .embeddedGeneric false name args => exact namesOf_embeddedGeneric name args.writing

theorem Phrase.ofLine?_field (p : Phrase .field) (ready : Bool) :
    FieldDecl.ofLine? (emitted ready p.writing.pieces) = some p.fieldDecl := by
  match p with
  | .field line tag =>
    rw [Phrase.writing_field, Writing.pieces_append, emitted_append,
      ofLine?_tag (line.complete rfl), namesOf_line]
    rfl

end

def StartsWith (stop : Token → Bool) (us : List Token) : Prop :=
  ∃ t vs, us = t :: vs ∧ stop t = true

theorem splitOutside_of_startsWith {stop : Token → Bool} {us : List Token}
    (h : StartsWith stop us) : splitOutside stop 0 us = ([], us) := by
  obtain ⟨t, vs, rfl, ht⟩ := h
  simp [splitOutside, ht]

theorem splitOutside_line {stop : Token → Bool} (ready : Bool) {w : Writing} {us : List Token}
    (hs : ∀ t, stop t = true → t = .terminator ∨ ∃ b, t = .closing b) (hw : w.OneLine)
    (hu : StartsWith stop us) :
    splitOutside stop 0 (emitted ready w.pieces ++ us) = (emitted ready w.pieces, us) := by
  rw [w.splitOutside_append hs hw, splitOutside_of_startsWith hu, List.append_nil]

theorem Token.endsField_cases {t : Token} (h : t.endsField = true) :
    t = .terminator ∨ ∃ b, t = .closing b := by
  have h : t = .terminator ∨ t = .closing .curly := by simpa [Token.endsField] using h
  exact h.imp_right fun h => ⟨.curly, h⟩

theorem Token.endsType_cases {t : Token} (h : t.endsType = true) :
    t = .terminator ∨ ∃ b, t = .closing b := by
  have h : t = .terminator ∨ t = .closing .round := by simpa [Token.endsType] using h
  exact h.imp_right fun h => ⟨.round, h⟩

section

variable {α : Type} {turn : List Token → Except SourceError (Turn α)} {ts us : List Token}

theorem repeatTurns_congr (p : Progress turn) (h : turn ts = turn us) :
    repeatTurns turn ts = repeatTurns turn us := by
  match hu : turn us with
  | .error e => rw [repeatTurns_of_error hu, repeatTurns_of_error (h.trans hu)]
  | .ok (.leave rest) => rw [repeatTurns_of_leave hu, repeatTurns_of_leave (h.trans hu)]
  | .ok (.stay found rest) => rw [repeatTurns_of_stay p hu, repeatTurns_of_stay p (h.trans hu)]

-- A loop over a block takes one turn for each item. It need not see the separators, but it has to
-- pass over them.
theorem repeatTurns_block {c : Category} {stop : Token → Bool} {found : Phrase c → List α}
    {tail rest : List Token} (p : Progress turn)
    (terminator : ∀ ts, repeatTurns turn (.terminator :: ts) = repeatTurns turn ts)
    (item : ∀ p ready us, StartsWith stop us →
      turn (emitted ready (Phrase.writing p).pieces ++ us) = .ok (.stay (found p) us))
    (complete : ∀ p ready, readyBehind ready (Phrase.writing (c := c) p).pieces = true)
    (stops : stop .terminator = true) (leave : repeatTurns turn tail = .ok ([], rest))
    (b : Phrase (.block c)) {ready : Bool}
    (ht : readyBehind ready b.writing.pieces = true → StartsWith stop tail) :
    repeatTurns turn (emitted ready b.writing.pieces ++ tail) =
      .ok (b.items.flatMap found, rest) := by
  match b with
  | .done => simpa [Phrase.items] using leave
  | .last q =>
    have hq := item q ready tail (ht (complete q ready))
    rw [Phrase.writing_last, repeatTurns_of_stay p hq, leave]
    simp [Phrase.items, Except.map]
  | .item q s b =>
    have ht : readyBehind false b.writing.pieces = true → StartsWith stop tail := by
      simpa using ht
    have ih := repeatTurns_block p terminator item complete stops leave b ht
    have hq := item q ready (.terminator :: (emitted false b.writing.pieces ++ tail))
      ⟨_, _, rfl, stops⟩
    have he : emitted ready (Phrase.item q s b).writing.pieces ++ tail =
        emitted ready q.writing.pieces ++
          .terminator :: (emitted false b.writing.pieces ++ tail) := by
      simp [complete]
    rw [he, repeatTurns_of_stay p hq, terminator, ih]
    simp [Phrase.items, Except.map]
  | .skip s b =>
    have ht : readyBehind false b.writing.pieces = true → StartsWith stop tail := by
      simpa using ht
    have ih := repeatTurns_block p terminator item complete stops leave b ht
    have he : emitted ready (Phrase.skip s b).writing.pieces ++ tail =
        emitted ready s.pieces ++ (emitted false b.writing.pieces ++ tail) := by
      simp [Writing.pieces]
    rw [he, Phrase.items]
    obtain hs | hs := s.emitted_pieces ready
    · rw [hs, List.nil_append, ih]
    · rw [hs, List.singleton_append, terminator, ih]

end

namespace Phrase

variable {ready : Bool} {us : List Token} {name : String}

theorem exists_lineHead (p : Phrase .untagged) (ready : Bool) :
    ∃ t ts, emitted ready p.writing.pieces = t :: ts ∧ t ≠ .terminator ∧ t ≠ .closing .curly := by
  match p with
  | declared first [] t | declared first (second :: more) t =>
    exact ⟨.word (String.ofList _), _, rfl, by simp, by simp⟩
  | embedded true _ | embeddedGeneric true _ _ => exact ⟨.mark '*', _, rfl, by simp, by simp⟩
  | embedded false (.plain _) | embedded false (.qualified ..)
  | embeddedGeneric false (.plain _) _ | embeddedGeneric false (.qualified ..) _ =>
    exact ⟨.word (String.ofList _), _, rfl, by simp, by simp⟩

theorem oneLine_field (p : Phrase .field) : p.writing.OneLine := by
  match p with
  | field line tag => exact ⟨line.oneLine rfl, Writing.oneLine_tag tag⟩

theorem readyBehind_field (p : Phrase .field) (ready : Bool) :
    readyBehind ready p.writing.pieces = true := by
  match p with
  | field line none => simp [Writing.tag, Writing.pieces, (line.complete rfl).readyBehind]
  | field line (some t) => simp [Writing.tag, Writing.pieces]

theorem fieldTurn_field (p : Phrase .field) (hu : StartsWith Token.endsField us) :
    fieldTurn (emitted ready p.writing.pieces ++ us) = .ok (.stay [p.fieldDecl] us) := by
  have hs : splitOutside Token.endsField 0 (emitted ready p.writing.pieces ++ us) =
      (emitted ready p.writing.pieces, us) :=
    splitOutside_line ready (fun _ => Token.endsField_cases) p.oneLine_field hu
  have ⟨t, ts, hp, ht, hc⟩ : ∃ t ts, emitted ready p.writing.pieces = t :: ts ∧
      t ≠ .terminator ∧ t ≠ .closing .curly := by
    match p with
    | field line tag =>
      have ⟨t, ts, hl, ht⟩ := line.exists_lineHead ready
      exact ⟨t, ts ++ emitted (readyBehind ready line.writing.pieces) (Writing.tag tag).pieces,
        by simp [hl], ht⟩
  have hk : skipTerminators (emitted ready p.writing.pieces ++ us) = t :: (ts ++ us) := by
    simp [hp, skipTerminators, ht]
  have hl := fieldTurn_of_line hk hc
  rw [← List.cons_append, ← hp, hs, p.ofLine?_field ready] at hl
  exact hl

theorem structFields_block (body : Phrase (.block .field)) {us : List Token} :
    structFields (emitted ready body.writing.pieces ++ .closing .curly :: us) =
      .ok (body.items.map fieldDecl, us) := by
  rw [List.map_eq_flatMap]
  refine repeatTurns_block fieldTurn_progress ?_ (fun p _ _ => p.fieldTurn_field) readyBehind_field
    rfl (repeatTurns_of_leave rfl) body fun _ => ⟨_, _, rfl, rfl⟩
  exact fun ts => repeatTurns_congr fieldTurn_progress (by simp [fieldTurn, skipTerminators])

theorem typeKind_cases (t : Phrase .type) :
    (∃ body, t = ofWord (struct body)) ∨ t.typeKind = .other := by
  match t with
  | ofWord (struct body) => exact .inl ⟨body, rfl⟩
  | ofWord (named _) | ofWord (generic ..) | ofWord (map ..) | ofWord (channel _)
  | ofWord (sendChannel _) | ofWord (function _) | ofWord (interface _)
  | pointer _ | slice _ | array .. | receiveChannel _ => exact .inr rfl

theorem typeSpec_of_skipped {ts : List Token} (ready : Bool) (t : Phrase .type)
    (hs : skipEquals (skipTypeParams ts) = emitted ready t.writing.pieces ++ us)
    (hu : StartsWith Token.endsType us) :
    typeSpec name ts = .ok (⟨name, t.typeKind⟩, us) := by
  unfold typeSpec
  obtain ⟨body, rfl⟩ | ht := t.typeKind_cases
  · simp only [hs, structBody?_struct]
    exact bind_eq_ok.mpr ⟨_, structFields_block body, rfl⟩
  · have hb : us.head? ≠ some (.opening .curly) := by
      obtain ⟨u, us, rfl, hu⟩ := hu
      rintro h
      cases h
      cases hu
    have hw := splitOutside_line ready (fun _ => Token.endsType_cases) (t.oneLine rfl) hu
    simp only [hs, structBody?_of_other ht hb, hw, ht]

theorem exists_typeSpec (p : Phrase .spec) (ready : Bool) (hu : StartsWith Token.endsType us) :
    ∃ name ts, emitted ready p.writing.pieces = .word name :: ts ∧
      typeSpec name (ts ++ us) = .ok (p.typeDecl, us) := by
  match p with
  | spec name false t =>
    refine ⟨name.name, emitted true t.writing.pieces, by simp, typeSpec_of_skipped true t ?_ hu⟩
    rw [skipTypeParams, t.startsTypeParams_type]
    exact t.skipEquals_type
  | spec name true t =>
    refine ⟨name.name, .mark '=' :: emitted false t.writing.pieces, by simp,
      typeSpec_of_skipped false t ?_ hu⟩
    rfl
  | genericSpec name ps isAlias t =>
    have group (vs : List Token) :
        skipTypeParams (.opening .square :: (emitted false ps.writing.pieces ++
          .closing .square :: vs)) = vs := by
      rw [skipTypeParams, ps.startsTypeParams_typeParams]
      simp [afterGroup, Token.depthAfter, ps.writing.afterGroup_append]
    cases isAlias
    case false =>
      refine ⟨name.name, .opening .square :: (emitted false ps.writing.pieces ++
        .closing .square :: emitted true t.writing.pieces), by simp, typeSpec_of_skipped true t ?_ hu⟩
      rw [List.cons_append, List.append_assoc, List.cons_append, group]
      exact t.skipEquals_type
    case true =>
      refine ⟨name.name, .opening .square :: (emitted false ps.writing.pieces ++
        .closing .square :: .mark '=' :: emitted false t.writing.pieces), by simp,
        typeSpec_of_skipped false t ?_ hu⟩
      rw [List.cons_append, List.append_assoc, List.cons_append, group]
      rfl

theorem readyBehind_spec (p : Phrase .spec) (ready : Bool) :
    readyBehind ready p.writing.pieces = true := by
  match p with
  | spec name isAlias t | genericSpec name ps isAlias t => simp [(t.complete rfl).readyBehind]

theorem specTurn_spec (p : Phrase .spec) (hu : StartsWith Token.endsType us) :
    specTurn (emitted ready p.writing.pieces ++ us) = .ok (.stay [p.typeDecl] us) := by
  have ⟨name, ts, hp, ht⟩ := p.exists_typeSpec ready hu
  refine specTurn_of_word ?_ ht
  simp [hp, skipTerminators]

theorem specGroup_block (specs : Phrase (.block .spec)) {us : List Token} :
    specGroup (emitted ready specs.writing.pieces ++ .closing .round :: us) =
      .ok (specs.items.map typeDecl, us) := by
  rw [List.map_eq_flatMap]
  refine repeatTurns_block specTurn_progress ?_ (fun p _ _ => p.specTurn_spec) readyBehind_spec
    rfl (repeatTurns_of_leave rfl) specs fun _ => ⟨_, _, rfl, rfl⟩
  exact fun ts => repeatTurns_congr specTurn_progress (by simp [specTurn, skipTerminators])

theorem readyBehind_decl (p : Phrase .decl) (ready : Bool) :
    readyBehind ready p.writing.pieces = true := by
  match p with
  | single s => simp [s.readyBehind_spec]
  | group specs => simp

theorem declTurn_decl (p : Phrase .decl) (hu : StartsWith (· = .terminator) us) :
    declTurn (emitted ready p.writing.pieces ++ us) = .ok (.stay p.typeDecls us) := by
  match p with
  | single s =>
    have hu : StartsWith Token.endsType us := by
      obtain ⟨t, vs, rfl, ht⟩ := hu
      exact ⟨t, vs, rfl, by simpa [Token.endsType] using .inl (of_decide_eq_true ht)⟩
    obtain ⟨name, ts, hs, ht⟩ := s.exists_typeSpec true hu
    have he : emitted ready (single s).writing.pieces ++ us =
        .word "type" :: .word name :: (ts ++ us) := by
      simp [hs]
    rw [he]
    exact declTurn_of_type (bind_eq_ok.mpr ⟨_, ht, rfl⟩)
  | group specs =>
    have he : emitted ready (group specs).writing.pieces ++ us =
        .word "type" :: .opening .round ::
          (emitted false specs.writing.pieces ++ .closing .round :: us) := by
      simp
    rw [he]
    exact declTurn_of_type specs.specGroup_block

theorem repeatTurns_decls (decls : Phrase (.block .decl))
    (hu : readyBehind ready decls.writing.pieces = true → StartsWith (· = .terminator) us)
    (hl : repeatTurns declTurn us = .ok ([], [])) :
    repeatTurns declTurn (emitted ready decls.writing.pieces ++ us) =
      .ok (decls.items.flatMap typeDecls, []) := by
  refine repeatTurns_block declTurn_progress ?_ (fun p _ _ => p.declTurn_decl) readyBehind_decl
    rfl hl decls hu
  intro ts
  rw [repeatTurns_of_stay declTurn_progress (declTurn_of_other (by simp))]
  cases repeatTurns declTurn ts <;> rfl

end Phrase

namespace DeclarationFile

def finalTokens (file : DeclarationFile) : List Token :=
  if readyBehind false file.decls.writing.pieces then [.terminator] else []

def tokens (file : DeclarationFile) : List Token :=
  .word "package" :: .word file.package.name :: .terminator ::
    (emitted false file.decls.writing.pieces ++ file.finalTokens)

variable (file : DeclarationFile)

theorem nested_tokens : Nested [] file.tokens := by
  have hf : Nested [] file.finalTokens := by
    unfold finalTokens
    split <;> simp
  simpa [tokens, file.decls.writing.nested_append] using hf

theorem tokenize_text : tokenize file.text = .ok file.tokens := by
  refine tokenize_eq_ok_iff.mpr ⟨?_, ?_, file.nested_tokens⟩
  · rw [text, Writing.pieces_text]
  · rw [text, Writing.pieces_text, tokens_spaced, tokens_eq]
    simp [writing, tokens, finalTokens]

-- The text of every file of type declarations is read as what the file declares.
theorem ofText_text (file : DeclarationFile) :
    SourceFile.ofText file.text = .ok file.declared := by
  have hp : PackageClause file.tokens file.package.name
      (.terminator :: (emitted false file.decls.writing.pieces ++ file.finalTokens)) := by
    simp [PackageClause, tokens, skipTerminators]
  have hl : repeatTurns declTurn file.finalTokens = .ok ([], []) := by
    unfold finalTokens
    split
    · rw [repeatTurns_of_stay declTurn_progress (declTurn_of_other (by simp)),
        repeatTurns_of_leave rfl]
      rfl
    · exact repeatTurns_of_leave rfl
  have hu : readyBehind false file.decls.writing.pieces = true →
      StartsWith (· = .terminator) file.finalTokens := by
    intro h
    exact ⟨.terminator, [], by simp [finalTokens, h], rfl⟩
  have hd := file.decls.repeatTurns_decls hu hl
  rw [SourceFile.ofText_of_tokenize file.tokenize_text]
  refine (SourceFile.ofTokens_eq_ok_iff hp).mpr ⟨rfl, [], ?_⟩
  rw [repeatTurns_of_stay declTurn_progress (declTurn_of_other (by simp)), hd]
  rfl

example :
    let name (s : String) (h : isWord s.toList = true) : Identifier := ⟨s, h⟩
    let int : Phrase .type := .ofWord (.named (.plain (name "int" (by decide))))
    let items : Phrase .untagged :=
      .declared (name "Items" (by decide)) [] (.array (.number ⟨['4'], by decide⟩) int)
    let base : Phrase .untagged :=
      .embeddedGeneric false (.plain (name "Base" (by decide))) (.only int)
    let fields : Phrase (.block .field) :=
      .item (.field items none) .semicolon (.last (.field base (some ⟨['b'], by decide⟩)))
    let file : DeclarationFile :=
      ⟨name "p" (by decide), .lineBreak 0,
        .last (.single (.spec (name "T" (by decide)) true (.ofWord (.struct fields))))⟩
    String.ofList file.text =
      "package p\ntype T = struct \x7bItems [4]int; Base[int] \x60b\x60\x7d" := by
  decide +kernel

end DeclarationFile

end ColumnConstants
