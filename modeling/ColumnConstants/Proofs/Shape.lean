import ColumnConstants.Proofs.Grammar
import ColumnConstants.Source.TypeSpec

namespace ColumnConstants

def Complete (ts : List Token) : Prop :=
  ∃ us t, ts = us ++ [t] ∧ ((∃ w, t = .word w) ∨ ∃ b, t = .closing b)

namespace Complete

variable {ts : List Token}

theorem word {w : String} : Complete [.word w] :=
  ⟨[], .word w, rfl, .inl ⟨w, rfl⟩⟩

theorem append_left (h : Complete ts) (us : List Token) : Complete (us ++ ts) := by
  have ⟨vs, t, hv, ht⟩ := h
  exact ⟨us ++ vs, t, by simp [hv], ht⟩

theorem grouped {ready : Bool} {b : Bracket} {w : Writing} :
    Complete (emitted ready (Writing.grouped b w).pieces) := by
  rw [Writing.emitted_grouped]
  exact ⟨.opening b :: emitted false w.pieces, .closing b, rfl, .inr ⟨b, rfl⟩⟩

theorem ne_nil (h : Complete ts) : ts ≠ [] := by
  have ⟨us, t, hu, _⟩ := h
  simp [hu]

theorem readyBehind {ready : Bool} {ps : List Piece} (h : Complete (emitted ready ps)) :
    readyBehind ready ps = true := by
  have ⟨us, t, hu, ht⟩ := h
  rw [readyBehind_eq, hu]
  obtain ⟨w, rfl⟩ | ⟨b, rfl⟩ := ht <;> simp [Token.endsStatement]

theorem splitTag (h : Complete ts) : FieldDecl.splitTag ts = (none, ts) := by
  have ⟨us, t, hu, ht⟩ := h
  obtain ⟨w, rfl⟩ | ⟨b, rfl⟩ := ht <;> simp [FieldDecl.splitTag, hu]

end Complete

section

variable {ready : Bool}

theorem Writing.oneLine_optional {isThere : Bool} {w : Writing} (h : w.OneLine) :
    (optional isThere w).OneLine := by
  cases isThere
  case false => trivial
  case true => exact h

theorem Writing.oneLine_names (ns : List Identifier) : (names ns).OneLine := by
  match ns with
  | [] | [n] => trivial
  | n :: m :: ns => exact ⟨⟨⟨trivial, trivial⟩, trivial⟩, oneLine_names (m :: ns)⟩

theorem Writing.oneLine_tag (tag : Option RawText) : (Writing.tag tag).OneLine := by
  cases tag
  case none => trivial
  case some => exact ⟨trivial, trivial⟩

theorem Writing.complete_names (n : Identifier) (ns : List Identifier) :
    Complete (emitted ready (names (n :: ns)).pieces) := by
  induction ns generalizing n ready with
  | nil => exact .word
  | cons m ns ih =>
    rw [names, Writing.pieces_append, emitted_append]
    exact (ih m).append_left _

theorem QualifiedName.oneLine (name : QualifiedName) : name.writing.OneLine := by
  cases name
  case plain => trivial
  case qualified => exact ⟨⟨trivial, trivial⟩, trivial⟩

theorem QualifiedName.complete (name : QualifiedName) :
    Complete (emitted ready name.writing.pieces) := by
  cases name
  case plain n => exact .word
  case qualified p n => exact .append_left .word [.word _, .mark '.']

end

def Category.endsClosed : Category → Bool
  | type | wordType | signature | untagged => true
  | _ => false

open Writing (grouped names optional)

namespace Phrase

variable {c : Category} {ready : Bool}

theorem oneLine (p : Phrase c) (h : c.endsClosed = true) : p.writing.OneLine := by
  induction p with
  | named name => exact name.oneLine
  | generic name args => exact ⟨name.oneLine, trivial⟩
  | map key value _ hv => exact ⟨⟨trivial, trivial⟩, hv rfl⟩
  | channel t ht => exact ⟨⟨trivial, trivial⟩, ht rfl⟩
  | sendChannel t ht => exact ⟨⟨⟨⟨trivial, trivial⟩, trivial⟩, trivial⟩, ht rfl⟩
  | function s hs => exact ⟨trivial, hs rfl⟩
  | struct body | interface body => exact ⟨⟨trivial, trivial⟩, trivial⟩
  | ofWord t ht => exact ht rfl
  | pointer t ht => exact ⟨trivial, ht rfl⟩
  | slice t ht => exact ⟨trivial, ht rfl⟩
  | array n t _ ht => exact ⟨trivial, ht rfl⟩
  | receiveChannel t ht => exact ⟨⟨⟨⟨trivial, trivial⟩, trivial⟩, trivial⟩, ht rfl⟩
  | signature ps => trivial
  | signatureTo ps t _ ht => exact ⟨⟨trivial, trivial⟩, ht rfl⟩
  | signatureToAll ps rs => exact ⟨⟨trivial, trivial⟩, trivial⟩
  | declared first more t ht => exact ⟨⟨Writing.oneLine_names _, trivial⟩, ht rfl⟩
  | embedded isPointer name => exact ⟨Writing.oneLine_optional trivial, name.oneLine⟩
  | embeddedGeneric isPointer name args =>
    exact ⟨⟨Writing.oneLine_optional trivial, name.oneLine⟩, trivial⟩
  | _ => cases h

theorem complete (p : Phrase c) (h : c.endsClosed = true) :
    Complete (emitted ready p.writing.pieces) := by
  have append {w v : Writing} {r : Bool}
      (hv : ∀ r', Complete (emitted r' v.pieces)) : Complete (emitted r (w ++ v).pieces) := by
    rw [Writing.pieces_append, emitted_append]
    exact (hv _).append_left _
  induction p generalizing ready with
  | named name => exact name.complete
  | generic name args => exact append fun _ => .grouped
  | map key value _ hv => exact append fun _ => hv rfl
  | channel t ht | sendChannel t ht | function s ht => exact append fun _ => ht rfl
  | struct body | interface body => exact append fun _ => .grouped
  | ofWord t ht => exact ht rfl
  | pointer t ht | slice t ht | receiveChannel t ht => exact append fun _ => ht rfl
  | array n t _ ht => exact append fun _ => ht rfl
  | signature ps => exact .grouped
  | signatureTo ps t _ ht => exact append fun _ => ht rfl
  | signatureToAll ps rs => exact append fun _ => .grouped
  | declared first more t ht => exact append fun _ => ht rfl
  | embedded isPointer name => exact append fun _ => name.complete
  | embeddedGeneric isPointer name args => exact append fun _ => .grouped
  | _ => cases h

-- What starts with a length does not look like type parameters, unless a single name that is all of
-- the length does.
theorem startsTypeParams_length (n : Phrase .length) {us : List Token}
    (hu : ∀ w, startsTypeParams (.opening .square :: .word w :: us) = false) :
    startsTypeParams (.opening .square :: (emitted ready n.writing.pieces ++ us)) = false := by
  match n with
  | number _ => rfl
  | constant (.plain name) => exact hu _
  | constant (.qualified ..) => rfl
  | call (.plain _) _ => rfl
  | call (.qualified ..) _ => rfl
  | parens n => rfl
  | unary op n => cases op <;> rfl
  | binary op m n =>
    simp only [writing_binary, Writing.pieces_append, emitted_append, List.append_assoc]
    refine startsTypeParams_length m fun w => ?_
    rw [Writing.emitted_blank, List.nil_append]
    cases op <;> rfl

theorem exists_word (t : Phrase .wordType) (ready : Bool) :
    ∃ w ts, emitted ready t.writing.pieces = .word w :: ts := by
  match t with
  | named (.plain _) | named (.qualified ..) => exact ⟨_, _, rfl⟩
  | generic (.plain _) _ | generic (.qualified ..) _ => exact ⟨_, _, rfl⟩
  | map .. | channel _ | sendChannel _ | function _ | struct _ | interface _ => exact ⟨_, _, rfl⟩

theorem startsTypeParams_type (t : Phrase .type) {us : List Token} :
    startsTypeParams (emitted ready t.writing.pieces ++ us) = false := by
  match t with
  | ofWord t =>
    have ⟨w, ts, hw⟩ := t.exists_word ready
    rw [writing_ofWord, hw]
    rfl
  | pointer _ | receiveChannel _ => rfl
  | slice t => rfl
  | array n t =>
    rw [writing_array, Writing.pieces_append, emitted_append, Writing.emitted_grouped]
    simp only [List.cons_append, List.append_assoc]
    exact startsTypeParams_length n fun w => rfl

theorem exists_head (t : Phrase .type) (ready : Bool) :
    ∃ s ts, emitted ready t.writing.pieces = s :: ts ∧ s ≠ .mark '=' ∧ s ≠ .mark ',' := by
  match t with
  | ofWord t =>
    have ⟨w, ts, hw⟩ := t.exists_word ready
    exact ⟨.word w, ts, hw, by simp, by simp⟩
  | pointer _ => exact ⟨.mark '*', _, rfl, by simp, by simp⟩
  | receiveChannel _ => exact ⟨.mark '<', _, rfl, by simp, by simp⟩
  | slice _ | array .. => exact ⟨.opening .square, _, rfl, by simp, by simp⟩

theorem skipEquals_type (t : Phrase .type) {us : List Token} :
    skipEquals (emitted ready t.writing.pieces ++ us) = emitted ready t.writing.pieces ++ us := by
  have ⟨s, ts, hs, he, _⟩ := t.exists_head ready
  simp [hs, skipEquals, he]

theorem structBody?_of_ne {w : String} {ts : List Token} (h : w ≠ "struct") :
    structBody? (.word w :: ts) = none := by
  unfold structBody?
  split
  case h_1 he =>
    cases he
    exact if_neg h
  case h_2 => rfl

theorem structBody?_struct (body : Phrase (.block .field)) {us : List Token} :
    structBody? (emitted ready (ofWord (struct body)).writing.pieces ++ us) =
      some (emitted false body.writing.pieces ++ .closing .curly :: us) := by
  simp [structBody?]

theorem structBody?_of_other {t : Phrase .type} (h : t.typeKind = .other) {us : List Token}
    (hu : us.head? ≠ some (.opening .curly)) :
    structBody? (emitted ready t.writing.pieces ++ us) = none := by
  match t with
  | ofWord (struct body) => cases h
  | ofWord (named (.plain name)) =>
    cases us
    case nil => rfl
    case cons u us =>
      have hu : u ≠ .opening .curly := by simpa using hu
      change structBody? (.word (String.ofList name.name.toList) :: u :: us) = none
      simp [structBody?, hu]
  | ofWord (named (.qualified ..)) => rfl
  | ofWord (generic (.plain _) _) | ofWord (generic (.qualified ..) _) => rfl
  | ofWord (map ..) => exact structBody?_of_ne (by decide)
  | ofWord (channel _) | ofWord (sendChannel _) => exact structBody?_of_ne (by decide)
  | ofWord (function _) => exact structBody?_of_ne (by decide)
  | ofWord (interface _) => exact structBody?_of_ne (by decide)
  | pointer _ | slice _ | array .. | receiveChannel _ => rfl

theorem startsTypeParams_typeParams (ps : Phrase .typeParams) {us : List Token} :
    startsTypeParams (.opening .square :: (emitted ready ps.writing.pieces ++ us)) = true := by
  have first (p : Phrase .firstTypeParam) {us : List Token} :
      startsTypeParams (.opening .square :: (emitted ready p.writing.pieces ++ us)) = true := by
    match p with
    | firstListed .. => rfl
    | firstApproximate .. => simp [startsTypeParams]
    | firstWord name t more =>
      have ⟨w, ts, hw⟩ := t.exists_word true
      simp [startsTypeParams, hw]
  match ps with
  | oneTypeParam p => exact first p
  | typeParams p ps =>
    simp only [writing_typeParams, Writing.pieces_append, emitted_append, List.append_assoc]
    exact first p

theorem namesOf_brackets (w : Writing) (t : Phrase .type) {n : String} :
    FieldDecl.namesOf (.word n :: emitted ready (grouped .square w ++ t.writing).pieces) = [n] := by
  have ht (r : Bool) : emitted r t.writing.pieces ≠ [] := (t.complete rfl).ne_nil
  simp [FieldDecl.namesOf, FieldDecl.closesAtEnd, w.closesAtEnd_append, ht]

theorem namesOf_type (t : Phrase .type) {n : String} :
    FieldDecl.namesOf (.word n :: emitted ready t.writing.pieces) = [n] := by
  match t with
  | ofWord t =>
    have ⟨w, ts, hw⟩ := t.exists_word ready
    rw [writing_ofWord, hw]
    rfl
  | pointer _ | receiveChannel _ => rfl
  | slice t => exact namesOf_brackets .nothing t
  | array m t => exact namesOf_brackets m.writing t

end Phrase

end ColumnConstants
