import ColumnConstants.Proofs.Cutting
import ColumnConstants.Proofs.Emission

namespace ColumnConstants

namespace Piece

-- Whether the piece is cut off as it is from every text that does not go on with it.
def Plain : Piece → Prop
  | lineBreak => True
  | blank c => isBlank c = true ∧ c ≠ '\n'
  | rawString t => '\x60' ∉ t
  | word t => isWord t = true
  | number t => isNumber t = true
  | mark c => isPlainMark c = true ∨ c = '/'
  | lineComment _ | blockComment _ | string _ | rune _ => False

def goesOn (p : Piece) (c : Char) : Bool :=
  match p with
  | word _ => continuesWord c
  | number _ => continuesNumber c
  | mark m => m = '/' && (c = '/' || c = '*')
  | _ => false

variable {p q : Piece} {rest : List Char}

@[simp]
theorem goesOn_blank : p.goesOn ' ' = false := by
  have hw : continuesWord ' ' = false := by decide
  have hn : continuesNumber ' ' = false := by decide
  cases p <;> simp [goesOn, hw, hn]

theorem fits_slash (hr : ∀ d ∈ rest.head?, goesOn (mark '/') d = false) :
    Fits (mark '/') rest := by
  refine ⟨'/', rest, rfl, ?_⟩
  have hb : isBlank '/' = false := by decide
  have hw : startsWord '/' = false := by decide
  have hd : startsNumber '/' = false := by decide
  have hs : rest.head? ≠ some '/' := fun h => absurd (hr '/' h) (by decide)
  have ha : rest.head? ≠ some '*' := fun h => absurd (hr '*' h) (by decide)
  simp [first, hb, hw, hd, hs, ha]

theorem Plain.fits (h : p.Plain) (hr : ∀ d ∈ rest.head?, p.goesOn d = false) : p.Fits rest := by
  cases p
  case lineBreak => exact fits_lineBreak
  case blank c => exact fits_blank h.1 h.2
  case rawString t => exact fits_rawString h
  case word t => exact fits_word h hr
  case number t => exact fits_number h hr
  case mark c =>
    cases h
    case inl h => exact fits_mark h
    case inr h =>
      subst h
      exact fits_slash hr
  all_goals cases h

theorem Plain.text_ne_nil (h : p.Plain) : p.text ≠ [] := by
  cases p
  case word t =>
    rintro ht
    have ht : t = [] := ht
    simp [Plain, isWord, ht] at h
  case number t =>
    rintro ht
    have ht : t = [] := ht
    simp [Plain, isNumber, ht] at h
  all_goals simp [text]

def runsInto (p q : Piece) : Bool :=
  q.text.head?.any p.goesOn

end Piece

def spaced : List Piece → List Piece
  | [] => []
  | [p] => [p]
  | p :: q :: ps =>
    if p.runsInto q then p :: .blank ' ' :: spaced (q :: ps) else p :: spaced (q :: ps)

section

variable {ready : Bool} {p q : Piece} {ps : List Piece}

theorem exists_spaced_cons (p : Piece) (ps : List Piece) : ∃ qs, spaced (p :: ps) = p :: qs := by
  cases ps
  case nil => exact ⟨[], rfl⟩
  case cons q ps =>
    unfold spaced
    split
    · exact ⟨_, rfl⟩
    · exact ⟨_, rfl⟩

theorem head?_text_spaced (h : p.Plain) :
    ((spaced (p :: ps)).flatMap Piece.text).head? = p.text.head? := by
  have ⟨qs, hq⟩ := exists_spaced_cons p ps
  have ⟨c, cs, hc⟩ := List.exists_cons_of_ne_nil h.text_ne_nil
  rw [hq, List.flatMap_cons, hc]
  rfl

theorem apart_spaced (h : ∀ p ∈ ps, p.Plain) : Apart (spaced ps) [] := by
  fun_induction spaced ps with
  | case1 => exact apart_nil
  | case2 p => exact ⟨(h p List.mem_cons_self).fits (by simp), trivial⟩
  | case3 p q ps _ ih =>
    have hp := h p List.mem_cons_self
    refine ⟨hp.fits ?_, Piece.fits_blank (by decide) (by decide), ih ?_⟩
    · simp [Piece.text]
    · exact fun q hq => h q (List.mem_cons_of_mem p hq)
  | case4 p q ps hr ih =>
    have hp := h p List.mem_cons_self
    have hq := h q (List.mem_cons_of_mem p List.mem_cons_self)
    refine ⟨hp.fits ?_, ih ?_⟩
    · rw [List.append_nil, head?_text_spaced hq]
      exact (Option.any_eq_false ..).mp (Bool.eq_false_iff.mpr hr)
    · exact fun q hq => h q (List.mem_cons_of_mem p hq)

theorem pieces_spaced (h : ∀ p ∈ ps, p.Plain) :
    pieces ((spaced ps).flatMap Piece.text) = (spaced ps, none) := by
  have hp := pieces_of_apart (apart_spaced h)
  rwa [List.append_nil, pieces_nil, List.append_nil] at hp

@[simp]
theorem tokens_spaced : tokens ready (spaced ps) = tokens ready ps := by
  have blank (r : Bool) (qs : List Piece) : tokens r (.blank ' ' :: qs) = tokens r qs := by
    simp [tokens, Piece.token?, Piece.breaksLine, Piece.text]
  have cons (p : Piece) {qs rs : List Piece} (h : ∀ r, tokens r qs = tokens r rs) (r : Bool) :
      tokens r (p :: qs) = tokens r (p :: rs) := by
    simp only [tokens, h]
  fun_induction spaced ps generalizing ready with
  | case1 | case2 => rfl
  | case3 p q ps _ ih => exact cons p (fun r => (blank r _).trans ih) ready
  | case4 p q ps _ ih => exact cons p (fun r => ih) ready

end

end ColumnConstants
