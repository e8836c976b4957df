import ColumnConstants.Constants.Generate
import ColumnConstants.Proofs.Acceptance
import ColumnConstants.Proofs.Boundary

namespace ColumnConstants

def Token.unspelled : Token → Token
  | string l => string (.raw l.value)
  | t => t

def Turn.unspelled {α : Type} : Turn α → Turn α
  | leave rest => leave (rest.map Token.unspelled)
  | stay found rest => stay found (rest.map Token.unspelled)

section

variable {stop : Token → Bool} {depth : Nat} {t : Token} {ts : List Token}

@[simp]
theorem Token.unspelled_eq_iff {u : Token} (hu : ∀ l, u ≠ .string l) :
    t.unspelled = u ↔ t = u := by
  cases t
  case string l => simp [unspelled, (hu _).symm]
  all_goals rfl

@[simp]
theorem Token.depthAfter_unspelled : t.unspelled.depthAfter depth = t.depthAfter depth := by
  cases t <;> rfl

@[simp]
theorem Token.endsField_unspelled : t.unspelled.endsField = t.endsField := by
  simp [endsField]

@[simp]
theorem Token.endsType_unspelled : t.unspelled.endsType = t.endsType := by
  simp [endsType]

theorem splitOutside_unspelled (hs : ∀ t, stop t.unspelled = stop t) :
    splitOutside stop depth (ts.map Token.unspelled) =
      ((splitOutside stop depth ts).1.map Token.unspelled,
        (splitOutside stop depth ts).2.map Token.unspelled) := by
  induction ts generalizing depth with
  | nil => rfl
  | cons t ts ih =>
    simp only [List.map_cons, splitOutside, hs, Token.depthAfter_unspelled, ih]
    split <;> rfl

theorem afterGroup_unspelled :
    afterGroup depth (ts.map Token.unspelled) = (afterGroup depth ts).map Token.unspelled := by
  induction ts generalizing depth with
  | nil => rfl
  | cons t ts ih =>
    cases t
    case closing b =>
      simp only [List.map_cons, Token.unspelled, afterGroup, ih]
      split <;> rfl
    all_goals exact ih

theorem skipTerminators_unspelled :
    skipTerminators (ts.map Token.unspelled) = (skipTerminators ts).map Token.unspelled := by
  simp [skipTerminators, List.dropWhile_map, Function.comp_def]

end

namespace FieldDecl

variable {depth : Nat} {ts : List Token}

theorem listedNames_unspelled : listedNames (ts.map Token.unspelled) = listedNames ts := by
  fun_induction listedNames ts with
  | case1 name ts ih => simpa [Token.unspelled, listedNames] using ih
  | case2 name ts ht =>
    match ts with
    | [] => rfl
    | t :: ts =>
      have ht : t ≠ .mark ',' := fun h => ht ts (h ▸ rfl)
      have hu : t.unspelled ≠ .mark ',' := by simpa
      change listedNames (.word name :: t.unspelled :: ts.map Token.unspelled) = [name]
      simp [listedNames, hu]
  | case3 ts _ ht =>
    match ts with
    | [] => rfl
    | t :: ts =>
      have ht : ∀ name, t ≠ .word name := fun name h => ht name ts (h ▸ rfl)
      have hu : ∀ name, t.unspelled ≠ .word name := by simpa
      simp [listedNames, hu]

theorem closesAtEnd_unspelled :
    closesAtEnd depth (ts.map Token.unspelled) = closesAtEnd depth ts := by
  induction ts generalizing depth with
  | nil => rfl
  | cons t ts ih =>
    cases t
    case opening b => cases b <;> exact ih
    case closing b => cases b <;> simp [Token.unspelled, closesAtEnd, ih]
    all_goals exact ih

theorem namesOf_unspelled : namesOf (ts.map Token.unspelled) = namesOf ts := by
  match ts with
  | [] | [.word _] | .opening _ :: _ | .closing _ :: _ | .string _ :: _ | .constant :: _
  | .mark _ :: _ | .terminator :: _ => rfl
  | .word name :: .mark c :: ts =>
    have hl : listedNames ((.word name :: .mark c :: ts).map Token.unspelled) =
        listedNames (.word name :: .mark c :: ts) := listedNames_unspelled
    simp only [List.map_cons, Token.unspelled] at hl
    simp only [List.map_cons, Token.unspelled, namesOf]
    split <;> simp_all
  | .word name :: .opening b :: ts =>
    have hc : closesAtEnd 0 ((.opening b :: ts).map Token.unspelled) =
        closesAtEnd 0 (.opening b :: ts) := closesAtEnd_unspelled
    simp only [List.map_cons, Token.unspelled] at hc
    cases b <;> simp [Token.unspelled, namesOf, hc]
  | .word _ :: .word _ :: _ | .word _ :: .string _ :: _ | .word _ :: .constant :: _
  | .word _ :: .closing _ :: _ | .word _ :: .terminator :: _ => rfl

theorem splitTag_unspelled :
    splitTag (ts.map Token.unspelled) =
      ((splitTag ts).1, (splitTag ts).2.map Token.unspelled) := by
  unfold splitTag
  rw [List.getLast?_map]
  cases ts.getLast?
  case none => rfl
  case some t => cases t <;> simp [Token.unspelled, StringLiteral.tag, StringLiteral.value]

theorem ofLine?_unspelled : ofLine? (ts.map Token.unspelled) = ofLine? ts := by
  simp [ofLine?, splitTag_unspelled, namesOf_unspelled]

end FieldDecl

section

variable {α : Type} {turn : List Token → Except SourceError (Turn α)} {ts : List Token}

theorem repeatTurns_unspelled
    (h : ∀ ts, turn (ts.map Token.unspelled) = (turn ts).map Turn.unspelled) (ts : List Token) :
    repeatTurns turn (ts.map Token.unspelled) =
      (repeatTurns turn ts).map (Prod.map id (·.map Token.unspelled)) := by
  have go (n : Nat) (ts : List Token) :
      repeatTurns.go turn n (ts.map Token.unspelled) =
        (repeatTurns.go turn n ts).map (Prod.map id (·.map Token.unspelled)) := by
    induction n generalizing ts with
    | zero => rfl
    | succ n ih =>
      simp only [repeatTurns.go, h]
      cases turn ts
      case error => rfl
      case ok t =>
        cases t
        case leave => rfl
        case stay found rest =>
          simp only [Except.map, Turn.unspelled, ih]
          cases repeatTurns.go turn n rest <;> rfl
  rw [repeatTurns, List.length_map, go]
  rfl

theorem fieldTurn_unspelled (ts : List Token) :
    fieldTurn (ts.map Token.unspelled) = (fieldTurn ts).map Turn.unspelled := by
  match h : skipTerminators ts with
  | [] => simp [fieldTurn, skipTerminators_unspelled, h, Except.map]
  | t :: rest =>
    have hs : skipTerminators (ts.map Token.unspelled) =
        t.unspelled :: rest.map Token.unspelled := by
      rw [skipTerminators_unspelled, h, List.map_cons]
    by_cases ht : t = .closing .curly
    case pos =>
      subst ht
      rw [fieldTurn_of_closing h, fieldTurn_of_closing hs]
      rfl
    case neg =>
      rw [fieldTurn_of_line h ht, fieldTurn_of_line hs (by simpa), ← List.map_cons,
        splitOutside_unspelled fun _ => Token.endsField_unspelled, FieldDecl.ofLine?_unspelled]
      rfl

theorem startsTypeParams_unspelled :
    startsTypeParams (ts.map Token.unspelled) = startsTypeParams ts := by
  match ts with
  | .opening .square :: .word _ :: t :: _ => cases t <;> rfl
  | [] | [.opening .square] | [.opening .square, .word _] | .opening .square :: .opening _ :: _
  | .opening .square :: .closing _ :: _ | .opening .square :: .string _ :: _
  | .opening .square :: .constant :: _ | .opening .square :: .mark _ :: _
  | .opening .square :: .terminator :: _ | .opening .round :: _ | .opening .curly :: _
  | .word _ :: _ | .string _ :: _ | .constant :: _ | .closing _ :: _ | .mark _ :: _
  | .terminator :: _ => rfl

theorem skipTypeParams_unspelled :
    skipTypeParams (ts.map Token.unspelled) = (skipTypeParams ts).map Token.unspelled := by
  unfold skipTypeParams
  rw [startsTypeParams_unspelled, afterGroup_unspelled]
  split <;> rfl

theorem skipEquals_unspelled :
    skipEquals (ts.map Token.unspelled) = (skipEquals ts).map Token.unspelled := by
  match ts with
  | [] => rfl
  | t :: ts =>
    by_cases ht : t = .mark '='
    case pos => subst ht; rfl
    case neg =>
      have hu : t.unspelled ≠ .mark '=' := by simpa
      simp [skipEquals, ht, hu]

theorem structBody?_unspelled :
    structBody? (ts.map Token.unspelled) = (structBody? ts).map (·.map Token.unspelled) := by
  match ts with
  | .word w :: .opening .curly :: ts =>
    by_cases hw : w = "struct" <;> simp [structBody?, Token.unspelled, hw]
  | [] | [.word _] | .word _ :: .opening .round :: _ | .word _ :: .opening .square :: _
  | .word _ :: .closing _ :: _ | .word _ :: .string _ :: _ | .word _ :: .constant :: _
  | .word _ :: .mark _ :: _ | .word _ :: .terminator :: _ | .word _ :: .word _ :: _
  | .opening _ :: _ | .string _ :: _ | .constant :: _ | .closing _ :: _ | .mark _ :: _
  | .terminator :: _ => rfl

theorem typeSpec_unspelled (name : String) (ts : List Token) :
    typeSpec name (ts.map Token.unspelled) =
      (typeSpec name ts).map (Prod.map id (·.map Token.unspelled)) := by
  unfold typeSpec
  simp only [skipTypeParams_unspelled, skipEquals_unspelled, structBody?_unspelled]
  cases structBody? (skipEquals (skipTypeParams ts))
  case none =>
    simp only [Option.map_none, splitOutside_unspelled fun _ => Token.endsType_unspelled]
    rfl
  case some body =>
    simp only [Option.map_some, structFields, repeatTurns_unspelled fieldTurn_unspelled]
    cases repeatTurns fieldTurn body <;> rfl

theorem specTurn_unspelled (ts : List Token) :
    specTurn (ts.map Token.unspelled) = (specTurn ts).map Turn.unspelled := by
  match h : skipTerminators ts with
  | [] => simp [specTurn, skipTerminators_unspelled, h, Except.map]
  | .word name :: rest =>
    simp only [specTurn, skipTerminators_unspelled, h, List.map_cons, Token.unspelled,
      typeSpec_unspelled]
    cases typeSpec name rest <;> rfl
  | .closing .round :: rest =>
    simp [specTurn, skipTerminators_unspelled, h, Token.unspelled, Except.map, Turn.unspelled]
  | .closing .square :: rest | .closing .curly :: rest | .opening _ :: rest | .string _ :: rest
  | .constant :: rest | .mark _ :: rest | .terminator :: rest =>
    have hs : skipTerminators (ts.map Token.unspelled) = (skipTerminators ts).map Token.unspelled :=
      skipTerminators_unspelled
    rw [h, List.map_cons] at hs
    rw [specTurn_of_other h (by simp) (by simp), specTurn_of_other hs (by simp) (by simp),
      ← List.map_cons, splitOutside_unspelled fun _ => Token.endsType_unspelled]
    rfl

theorem typeDecls_unspelled (ts : List Token) :
    typeDecls (ts.map Token.unspelled) =
      (typeDecls ts).map (Prod.map id (·.map Token.unspelled)) := by
  match ts with
  | .word name :: ts =>
    simp only [List.map_cons, Token.unspelled, typeDecls, typeSpec_unspelled]
    cases typeSpec name ts <;> rfl
  | .opening .round :: ts => exact repeatTurns_unspelled specTurn_unspelled ts
  | [] | .opening .square :: _ | .opening .curly :: _ | .string _ :: _ | .constant :: _
  | .closing _ :: _ | .mark _ :: _ | .terminator :: _ => rfl

theorem declTurn_unspelled (ts : List Token) :
    declTurn (ts.map Token.unspelled) = (declTurn ts).map Turn.unspelled := by
  match ts with
  | [] => rfl
  | t :: ts =>
    by_cases ht : t = .word "type"
    case pos =>
      subst ht
      simp only [List.map_cons, Token.unspelled, declTurn, typeDecls_unspelled]
      cases typeDecls ts <;> rfl
    case neg =>
      have hu : t.unspelled ≠ .word "type" := by simpa
      rw [List.map_cons, declTurn_of_other hu, declTurn_of_other ht]
      rfl

theorem SourceFile.ofTokens_unspelled : ofTokens (ts.map Token.unspelled) = ofTokens ts := by
  unfold ofTokens
  rw [skipTerminators_unspelled]
  match skipTerminators ts with
  | .word w :: .word package :: ts =>
    simp only [List.map_cons, Token.unspelled, repeatTurns_unspelled declTurn_unspelled]
    cases repeatTurns declTurn ts <;> rfl
  | [] | [.word _] | .word _ :: .opening _ :: _ | .word _ :: .closing _ :: _
  | .word _ :: .string _ :: _ | .word _ :: .constant :: _ | .word _ :: .mark _ :: _
  | .word _ :: .terminator :: _ | .opening _ :: _ | .closing _ :: _ | .string _ :: _
  | .constant :: _ | .mark _ :: _ | .terminator :: _ => rfl

end

def SourceError.withoutLine : SourceError → SourceError
  | unterminatedString _ => unterminatedString 0
  | unterminatedComment _ => unterminatedComment 0
  | unbalancedBracket _ b => unbalancedBracket 0 b
  | e => e

def GenerateError.withoutLine : GenerateError → GenerateError
  | source e => source e.withoutLine
  | e => e

-- The lines of a text count for nothing but the line of a fault.
theorem checkNesting_withoutLine {l l' : Nat} {opened opened' : List OpenBracket}
    {unclosed : Option Unclosed} {ps ps' : List Piece}
    (ho : opened.map OpenBracket.bracket = opened'.map OpenBracket.bracket)
    (hp : ps.map Piece.nesting = ps'.map Piece.nesting) :
    (checkNesting l opened unclosed ps).mapError SourceError.withoutLine =
      (checkNesting l' opened' unclosed ps').mapError SourceError.withoutLine := by
  induction ps generalizing l l' opened opened' ps' with
  | nil =>
    have hp : ps' = [] := by simpa [eq_comm] using hp
    subst hp
    match unclosed, opened, opened' with
    | some .comment, _, _ | some .literal, _, _ | none, [], [] => rfl
    | none, [], _ :: _ | none, _ :: _, [] => simp at ho
    | none, ⟨b, _⟩ :: _, ⟨b', _⟩ :: _ =>
      have hb : b = b' := by simpa using (List.cons.inj ho).1
      rw [hb]
      rfl
  | cons p ps ih =>
    match ps' with
    | [] => simp at hp
    | p' :: ps' =>
      obtain ⟨hn, hp⟩ : p.nesting = p'.nesting ∧ ps.map Piece.nesting = ps'.map Piece.nesting := by
        simpa using hp
      simp only [checkNesting, ← hn]
      cases p.nesting
      case opens b => exact ih (by simp [ho]) hp
      case keeps => exact ih ho hp
      case closes b =>
        cases opened
        case nil =>
          cases opened'
          case nil => rfl
          case cons => simp at ho
        case cons o opened =>
          cases opened'
          case nil => simp at ho
          case cons o' opened' =>
            obtain ⟨hb, ho⟩ := List.cons.inj ho
            simp only [hb]
            by_cases hb : o'.bracket = b
            case pos =>
              simp only [hb, if_true]
              exact ih ho hp
            case neg => simp [hb, mapError_eq, SourceError.withoutLine]

def unspelledTokens (source : List Char) : Except SourceError (List Token) :=
  ((tokenize source).map (·.map Token.unspelled)).mapError SourceError.withoutLine

theorem ofText_unspelled (source : List Char) :
    (SourceFile.ofText source).mapError SourceError.withoutLine =
      unspelledTokens source >>= fun ts =>
        (SourceFile.ofTokens ts).mapError SourceError.withoutLine := by
  unfold SourceFile.ofText unspelledTokens
  cases tokenize source
  case error => rfl
  case ok ts => exact congrArg _ SourceFile.ofTokens_unspelled.symm

theorem result_ofSource_congr {source other : String}
    (h : (SourceFile.ofText source.toList).mapError SourceError.withoutLine =
      (SourceFile.ofText other.toList).mapError SourceError.withoutLine)
    (type : String) (style : Style) (validation : Validation) :
    (ConstantFile.ofSource source type style validation).result.mapError
        GenerateError.withoutLine =
      (ConstantFile.ofSource other type style validation).result.mapError
        GenerateError.withoutLine := by
  rw [result_ofSource, result_ofSource]
  generalize SourceFile.ofText source.toList = x at h ⊢
  generalize SourceFile.ofText other.toList = y at h ⊢
  cases x <;> cases y
  case error.error => exact congrArg (Except.error ∘ GenerateError.source) (Except.error.inj h)
  case ok.ok => rw [Except.ok.inj h]
  all_goals cases h

namespace StringLiteral

def escapeCharFully (c : Char) : List Char :=
  if c = '\r' then ['\\', 'r'] else escapeChar c

def escapeFully (cs : List Char) : List Char :=
  cs.flatMap escapeCharFully

theorem spells_escapeCharFully (c : Char) : Spells (escapeCharFully c) c := by
  unfold escapeCharFully
  split
  case isTrue h => exact .escape (by simp [escaped?, h])
  case isFalse => exact spells_escapeChar c

theorem unescape_escapeFully (cs : List Char) : unescape (escapeFully cs) = cs :=
  unescape_flatMap spells_escapeCharFully cs

end StringLiteral

section

variable {ps : List Piece} {t post : List Char}

theorem unspelledTokens_congr {p q : Piece} (hp : Apart (ps ++ [p]) post)
    (hq : Apart (ps ++ [q]) post) (hn : p.nesting = q.nesting)
    (ht : ∀ ready, (p.emitted ready).map Token.unspelled = (q.emitted ready).map Token.unspelled ∧
      p.readyBehind ready = q.readyBehind ready) :
    unspelledTokens ((ps ++ [p]).flatMap Piece.text ++ post) =
      unspelledTokens ((ps ++ [q]).flatMap Piece.text ++ post) := by
  have hc : (checkNesting 1 [] (pieces post).2 (ps ++ [p] ++ (pieces post).1)).mapError
        SourceError.withoutLine =
      (checkNesting 1 [] (pieces post).2 (ps ++ [q] ++ (pieces post).1)).mapError
        SourceError.withoutLine :=
    checkNesting_withoutLine rfl (by simp [hn])
  have ht : (tokens false (ps ++ [p] ++ (pieces post).1)).map Token.unspelled =
      (tokens false (ps ++ [q] ++ (pieces post).1)).map Token.unspelled := by
    simp [tokens_eq, ht]
  unfold unspelledTokens tokenize
  rw [pieces_of_apart hp, pieces_of_apart hq]
  simp only
  generalize checkNesting 1 [] (pieces post).2 (ps ++ [p] ++ (pieces post).1) = x at hc ⊢
  generalize checkNesting 1 [] (pieces post).2 (ps ++ [q] ++ (pieces post).1) = y at hc ⊢
  cases x <;> cases y
  case ok.ok => exact congrArg Except.ok ht
  case error.error => exact congrArg Except.error (Except.error.inj hc)
  all_goals cases hc

theorem takesIn_quote (p : Piece) : p.takesIn '\x60' = p.takesIn '"' := by
  have hw : continuesWord '\x60' = false ∧ continuesWord '"' = false := by decide
  have hn : continuesNumber '\x60' = false ∧ continuesNumber '"' = false := by decide
  cases p <;> simp [Piece.takesIn, Piece.goesOn, hw, hn]

theorem unspelledTokens_string (ht : '\x60' ∉ t)
    (h : Apart ps ((Piece.rawString t).text ++ post) ∨
      Apart ps ((Piece.string (StringLiteral.escapeFully t)).text ++ post)) :
    unspelledTokens (ps.flatMap Piece.text ++ (Piece.rawString t).text ++ post) =
      unspelledTokens
        (ps.flatMap Piece.text ++ (Piece.string (StringLiteral.escapeFully t)).text ++ post) := by
  have hc := Piece.closeQuote_flatMap StringLiteral.spells_escapeCharFully t post
  have hr : Apart (ps ++ [.rawString t]) post := by
    simp only [apart_append, apart_cons, apart_nil, and_true, List.flatMap_singleton]
    refine ⟨h.elim id ?_, Piece.fits_rawString ht⟩
    exact Apart.congr_head fun p => (takesIn_quote p).symm
  have hs : Apart (ps ++ [.string (StringLiteral.escapeFully t)]) post := by
    simp only [apart_append, apart_cons, apart_nil, and_true, List.flatMap_singleton]
    refine ⟨h.elim ?_ id, Piece.fits_string hc⟩
    exact Apart.congr_head takesIn_quote
  have hv := StringLiteral.unescape_escapeFully t
  have he := unspelledTokens_congr hr hs rfl fun ready =>
    ⟨by simp [Token.unspelled, StringLiteral.value, hv], rfl⟩
  simpa using he

-- A string in backticks and the same text between double quotes are read alike, whatever stands
-- around them. The line of a fault can be another one, as only one of the strings has line breaks.
theorem ofText_string (ht : '\x60' ∉ t)
    (h : Apart ps ((Piece.rawString t).text ++ post) ∨
      Apart ps ((Piece.string (StringLiteral.escapeFully t)).text ++ post)) :
    let raw := ps.flatMap Piece.text ++ (Piece.rawString t).text ++ post
    let quoted := ps.flatMap Piece.text ++ (Piece.string (StringLiteral.escapeFully t)).text ++ post
    (SourceFile.ofText raw).mapError SourceError.withoutLine =
      (SourceFile.ofText quoted).mapError SourceError.withoutLine ∧
    ∀ type style validation,
      (ConstantFile.ofSource (String.ofList raw) type style validation).result.mapError
          GenerateError.withoutLine =
        (ConstantFile.ofSource (String.ofList quoted) type style validation).result.mapError
          GenerateError.withoutLine := by
  intro raw quoted
  have hf : (SourceFile.ofText raw).mapError SourceError.withoutLine =
      (SourceFile.ofText quoted).mapError SourceError.withoutLine := by
    rw [ofText_unspelled, ofText_unspelled, unspelledTokens_string ht h]
  refine ⟨hf, result_ofSource_congr ?_⟩
  simpa using hf

theorem ofText_string_tag :
    let ps : List Piece := [.word "package".toList, .blank ' ', .word ['p'], .mark ';',
      .word "type".toList, .blank ' ', .word ['T'], .blank ' ', .word "struct".toList,
      .mark '\x7b', .word ['A'], .blank ' ', .word "int".toList]
    let t := "a:\"\\\n\t\r".toList
    let raw := ps.flatMap Piece.text ++ (Piece.rawString t).text ++ "\x7d".toList
    let quoted := ps.flatMap Piece.text ++
      (Piece.string (StringLiteral.escapeFully t)).text ++ "\x7d".toList
    '\x60' ∉ t ∧ Apart ps ((Piece.rawString t).text ++ "\x7d".toList) ∧
      (SourceFile.ofText raw).mapError SourceError.withoutLine =
        (SourceFile.ofText quoted).mapError SourceError.withoutLine := by
  intro ps t raw quoted
  have ht : '\x60' ∉ t := by decide
  have h : Apart ps ((Piece.rawString t).text ++ "\x7d".toList) := by decide +kernel
  exact ⟨ht, h, (ofText_string ht (.inl h)).1⟩

end

end ColumnConstants
