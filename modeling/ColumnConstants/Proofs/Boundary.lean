import ColumnConstants.Proofs.Spacing

namespace ColumnConstants

namespace Piece

def Whole : Piece → Prop
  | lineBreak => True
  | blank c => isBlank c = true ∧ c ≠ '\n'
  | lineComment t => '\n' ∉ t
  | blockComment t => closeComment (t ++ ['*', '/']) = some (t, [])
  | rawString t => '\x60' ∉ t
  | string t => closeQuote '"' (t ++ ['"']) = some (t, [])
  | rune t => closeQuote '\'' (t ++ ['\'']) = some (t, [])
  | word t => isWord t = true
  | number t => isNumber t = true
  | mark c => isPlainMark c = true ∨ c = '/'

instance : DecidablePred Whole
  | lineBreak => isTrue trivial
  | blank c => inferInstanceAs (Decidable (isBlank c = true ∧ c ≠ '\n'))
  | lineComment t => inferInstanceAs (Decidable ('\n' ∉ t))
  | blockComment t => inferInstanceAs (Decidable (closeComment (t ++ ['*', '/']) = some (t, [])))
  | rawString t => inferInstanceAs (Decidable ('\x60' ∉ t))
  | string t => inferInstanceAs (Decidable (closeQuote '"' (t ++ ['"']) = some (t, [])))
  | rune t => inferInstanceAs (Decidable (closeQuote '\'' (t ++ ['\'']) = some (t, [])))
  | word t => inferInstanceAs (Decidable (isWord t = true))
  | number t => inferInstanceAs (Decidable (isNumber t = true))
  | mark c => inferInstanceAs (Decidable (isPlainMark c = true ∨ c = '/'))

-- Whether the piece is cut off in another way if `c` stands directly behind it. Nothing else that
-- follows matters.
def takesIn (p : Piece) (c : Char) : Bool :=
  match p with
  | lineComment _ => c ≠ '\n'
  | p => p.goesOn c

variable {c : Char} {t cs rest : List Char} {p : Piece}

theorem closeComment_self (h : closeComment cs = some (t, rest)) :
    closeComment (t ++ ['*', '/']) = some (t, []) := by
  induction cs generalizing t with
  | nil => cases h
  | cons c cs ih =>
    rw [closeComment_cons] at h
    by_cases hc : c = '*' ∧ cs.head? = some '/'
    case pos =>
      rw [if_pos hc] at h
      cases h
      rfl
    case neg =>
      rw [if_neg hc] at h
      have ⟨⟨u, r⟩, hu, he⟩ := Option.map_eq_some_iff.mp h
      cases he
      -- What stands behind `c` starts alike, whether the text goes on or not.
      have hh : (u ++ ['*', '/']).head? = cs.head? := by
        rw [closeComment_eq_some hu]
        cases u <;> rfl
      rw [List.cons_append, closeComment_cons, hh, if_neg hc, ih hu]
      rfl

theorem not_mem_of_closeRaw (h : closeRaw cs = some (t, rest)) : '\x60' ∉ t := by
  fun_induction closeRaw cs generalizing t with
  | case1 =>
    cases h
    simp
  | case2 c cs hc ih =>
    obtain ⟨⟨u, r⟩, hu, he⟩ := Option.map_eq_some_iff.mp h
    cases he
    have hn : '\x60' ≠ c := fun he => hc he.symm
    simp [hn, ih hu]
  | case3 => cases h

theorem closeQuote_self {quote : Char} (h : closeQuote quote cs = some (t, rest)) :
    closeQuote quote (t ++ [quote]) = some (t, []) := by
  fun_induction closeQuote quote cs generalizing t with
  | case1 c cs ih =>
    obtain ⟨⟨u, r⟩, hu, he⟩ := Option.map_eq_some_iff.mp h
    cases he
    simp [closeQuote, ih hu]
  | case2 => cases h
  | case3 => cases h
  | case4 cs hb hbn hn =>
    cases h
    have hq : quote ≠ '\\' := fun hq => by cases rest <;> simp_all
    rw [List.nil_append, closeQuote_cons hq, if_neg hn, if_pos rfl]
  | case5 c cs hb hbn hn hq ih =>
    obtain ⟨⟨u, r⟩, hu, he⟩ := Option.map_eq_some_iff.mp h
    cases he
    have hc : c ≠ '\\' := fun hc => by cases cs <;> simp_all
    rw [List.cons_append, closeQuote_cons hc, if_neg hn, if_neg hq, ih hu]
    rfl
  | case6 => cases h

theorem whole_of_first (h : first c cs = .ok (p, rest)) :
    p.Whole ∧ ∀ d ∈ rest.head?, p.takesIn d = false := by
  have left (q : Char → Bool) (cs : List Char) : ∀ d ∈ (cs.dropWhile q).head?, q d = false := by
    intro d hd
    have := List.head?_dropWhile_not q cs
    rwa [Option.mem_def.mp hd] at this
  have all (q : Char → Bool) : (cs.takeWhile q).all q = true := List.all_takeWhile
  unfold first at h
  split at h
  case isTrue => cases h; simp [Whole, takesIn, goesOn]
  split at h
  case isTrue hn hb => cases h; simp [Whole, takesIn, goesOn, hn, hb]
  split at h
  case isTrue =>
    cases h
    have hn : '\n' ∉ cs.tail.takeWhile (· ≠ '\n') := fun hm => by
      simpa using List.all_eq_true.mp List.all_takeWhile _ hm
    exact ⟨hn, left (· ≠ '\n') cs.tail⟩
  split at h
  case isTrue =>
    obtain ⟨t, ht, hp⟩ := closing_eq_ok h
    subst hp
    exact ⟨closeComment_self ht, by simp [takesIn, goesOn]⟩
  split at h
  case isTrue =>
    obtain ⟨t, ht, hp⟩ := closing_eq_ok h
    subst hp
    exact ⟨not_mem_of_closeRaw ht, by simp [takesIn, goesOn]⟩
  split at h
  case isTrue =>
    obtain ⟨t, ht, hp⟩ := closing_eq_ok h
    subst hp
    exact ⟨closeQuote_self ht, by simp [takesIn, goesOn]⟩
  split at h
  case isTrue =>
    obtain ⟨t, ht, hp⟩ := closing_eq_ok h
    subst hp
    exact ⟨closeQuote_self ht, by simp [takesIn, goesOn]⟩
  split at h
  case isTrue hw =>
    cases h
    exact ⟨by simp [Whole, isWord, hw, all], left continuesWord cs⟩
  split at h
  case isTrue hn =>
    cases h
    exact ⟨by simp [Whole, isNumber, hn, all], left continuesNumber cs⟩
  case isFalse hs hc hr hq ha hw hn =>
    cases h
    by_cases hm : c = '/'
    case pos =>
      subst hm
      refine ⟨.inr rfl, fun d hd => ?_⟩
      have hd := Option.mem_def.mp hd
      have hs : d ≠ '/' := by rintro rfl; exact hs ⟨rfl, hd⟩
      have hc : d ≠ '*' := by rintro rfl; exact hc ⟨rfl, hd⟩
      simp [takesIn, goesOn, hs, hc]
    case neg => simp_all [Whole, isPlainMark, takesIn, goesOn]

theorem whole_of_fits (h : Fits p rest) : p.Whole ∧ ∀ d ∈ rest.head?, p.takesIn d = false := by
  have ⟨_, _, _, hf⟩ := h
  exact whole_of_first hf

theorem Whole.fits (h : p.Whole) (hr : ∀ d ∈ rest.head?, p.takesIn d = false) : p.Fits rest := by
  cases p
  case lineBreak => exact fits_lineBreak
  case blank c => exact fits_blank h.1 h.2
  case lineComment t => exact fits_lineComment h (by simpa [takesIn] using hr)
  case blockComment t =>
    have hc : closeComment (t ++ ['*', '/'] ++ rest) = some (t, [] ++ rest) := closeComment_append h
    refine ⟨'/', '*' :: t ++ ['*', '/'] ++ rest, rfl, ?_⟩
    simp only [List.append_assoc, List.cons_append, List.nil_append] at hc
    have hb : isBlank '/' = false := by decide
    simp [first, hb, hc, closing]
  case rawString t => exact fits_rawString h
  case string t =>
    have hc : closeQuote '"' (t ++ ['"'] ++ rest) = some (t, [] ++ rest) := closeQuote_append h
    simp only [List.append_assoc, List.singleton_append, List.nil_append] at hc
    exact fits_string hc
  case rune t =>
    have hc : closeQuote '\'' (t ++ ['\''] ++ rest) = some (t, [] ++ rest) := closeQuote_append h
    refine ⟨'\'', t ++ '\'' :: rest, by simp [text], ?_⟩
    simp only [List.append_assoc, List.singleton_append, List.nil_append] at hc
    have hb : isBlank '\'' = false := by decide
    simp [first, hb, hc, closing]
  case word t => exact fits_word h hr
  case number t => exact fits_number h hr
  case mark c =>
    cases h
    case inl h => exact fits_mark h
    case inr h =>
      subst h
      exact fits_slash hr

theorem fits_iff : p.Fits rest ↔ p.Whole ∧ ∀ d ∈ rest.head?, p.takesIn d = false :=
  ⟨whole_of_fits, fun h => h.1.fits h.2⟩

instance : Decidable (p.Fits rest) :=
  decidable_of_iff (p.Whole ∧ rest.head?.all (!p.takesIn ·)) <| by
    rw [fits_iff]
    cases rest <;> simp

theorem Fits.text_ne_nil (h : p.Fits rest) : p.text ≠ [] := by
  have ⟨_, _, _, hf⟩ := h
  exact text_ne_nil_of_first hf

end Piece

instance Apart.decidable : (ps : List Piece) → (rest : List Char) → Decidable (Apart ps rest)
  | [], _ => isTrue trivial
  | _ :: ps, rest =>
    have := Apart.decidable ps rest
    inferInstanceAs (Decidable (_ ∧ _))

-- Pieces stay apart if what follows them starts with another character that no piece minds more.
theorem Apart.congr_head {c d : Char} {ps : List Piece} {cs ds : List Char}
    (hp : ∀ p : Piece, p.takesIn c = p.takesIn d) (h : Apart ps (c :: cs)) :
    Apart ps (d :: ds) := by
  induction ps with
  | nil => exact apart_nil
  | cons p ps ih =>
    have ⟨hw, hr⟩ := Piece.fits_iff.mp h.1
    refine ⟨hw.fits fun e he => ?_, ih h.2⟩
    cases ht : ps.flatMap Piece.text
    case nil =>
      have he : d = e := by simpa [ht] using he
      rw [← he, ← hp]
      exact hr c (by simp [ht])
    case cons f fs => exact hr e (by simpa [ht] using he)

end ColumnConstants
