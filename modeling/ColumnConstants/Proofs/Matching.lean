import Mathlib
import ColumnConstants.Tag.Pattern
import ColumnConstants.Text.Split

namespace ColumnConstants

namespace Position

variable {accepts : Char → Bool} {grouped : List Char}

theorem exists_passed_eq_cons (accepts : Char → Bool) (grouped : List Char) (atStart : Bool)
    (cs : List Char) :
    ∃ atStart' more,
      passed accepts grouped atStart cs = ⟨atStart', cs.dropWhile accepts, grouped⟩ :: more ∧
      ∀ position ∈ more, ∃ c, position.rest.head? = some c ∧ accepts c = true := by
  induction cs generalizing atStart with
  | nil => exact ⟨atStart, [], rfl, nofun⟩
  | cons c cs ih =>
    cases hc : accepts c
    case false => exact ⟨atStart, [], by simp [passed, hc], nofun⟩
    case true =>
      obtain ⟨atStart', more, he, hm⟩ := ih false
      refine ⟨atStart', more ++ [⟨atStart, c :: cs, grouped⟩], by simp [passed, hc, he], ?_⟩
      intro position hp
      cases List.mem_append.mp hp
      case inl hp => exact hm position hp
      case inr hp =>
        cases List.mem_singleton.mp hp
        exact ⟨c, rfl, hc⟩

end Position

namespace Pattern

-- Whether the preferred match of the pattern groups what `g` says, at every position.
def Yields (pattern : Pattern) (g : List Char → Option (List Char)) : Prop :=
  ∀ position : Position, (pattern.ends position).head?.map Position.grouped = g position.rest

def Avoids (pattern : Pattern) (accepts : Char → Bool) : Prop :=
  ∀ position : Position, (∃ c, position.rest.head? = some c ∧ accepts c = true) →
    pattern.ends position = []

section

variable {accepts opens : Char → Bool} {pattern : Pattern} {g : List Char → Option (List Char)}

-- A pattern that avoids the characters matches behind all of them or not at all.
theorem Yields.many_seq (h : pattern.Yields g) (ha : pattern.Avoids accepts) :
    (seq (many accepts) pattern).Yields fun cs => g (cs.dropWhile accepts) := by
  intro position
  obtain ⟨atStart, more, he, hm⟩ :=
    Position.exists_passed_eq_cons accepts position.grouped position.atStart position.rest
  have hn : more.flatMap pattern.ends = [] := by
    apply List.flatMap_eq_nil_iff.mpr
    exact fun p hp => ha p (hm p hp)
  have hf : (seq (many accepts) pattern).ends position =
      pattern.ends ⟨atStart, position.rest.dropWhile accepts, position.grouped⟩ := by
    simp [ends, he, hn]
  rw [hf]
  exact h _

theorem Yields.literal_seq (h : pattern.Yields g) (text : List Char) :
    (seq (literal text) pattern).Yields fun cs => (after? text cs).bind g := by
  intro position
  cases ht : after? text position.rest
  case none => simp [ends, ht]
  case some rest =>
    simpa [ends, ht] using h ⟨position.atStart && text.isEmpty, rest, position.grouped⟩

theorem Yields.one_seq (h : pattern.Yields g) (accepts : Char → Bool) :
    (seq (one accepts) pattern).Yields fun cs =>
      cs.head?.bind fun c => if accepts c then g cs.tail else none := by
  intro position
  cases hr : position.rest
  case nil => simp [ends, hr]
  case cons c cs =>
    cases hc : accepts c
    case false => simp [ends, hr, hc]
    case true => simpa [ends, hr, hc] using h ⟨false, cs, position.grouped⟩

theorem avoids_literal_seq {c : Char} {text : List Char} (h : accepts c = false) :
    (seq (literal (c :: text)) pattern).Avoids accepts := by
  intro position ⟨d, hd, ha⟩
  have ⟨cs, hr⟩ := List.head?_eq_some_iff.mp hd
  have hc : c ≠ d := by
    rintro rfl
    exact absurd (h.symm.trans ha) (by decide)
  simp [ends, hr, after?, hc]

theorem take_length_sub_dropWhile (cs : List Char) :
    cs.take (cs.length - (cs.dropWhile accepts).length) = cs.takeWhile accepts := by
  induction cs with
  | nil => rfl
  | cons c cs ih =>
    cases hc : accepts c
    case false => simp [hc]
    case true =>
      have hl := (List.dropWhile_suffix accepts (l := cs)).length_le
      simp [hc, Nat.succ_sub hl, ih]

theorem yields_group_many :
    (group (many accepts)).Yields fun cs => some (cs.takeWhile accepts) := by
  intro position
  obtain ⟨atStart, more, he, _⟩ :=
    Position.exists_passed_eq_cons accepts position.grouped position.atStart position.rest
  simp [ends, he, take_length_sub_dropWhile]

theorem yields_group_stop (stop : Char) :
    (seq (group (many (· ≠ stop))) (one (· = stop))).Yields (upTo? stop) := by
  intro position
  obtain ⟨atStart, more, he, hm⟩ :=
    Position.exists_passed_eq_cons (· ≠ stop) position.grouped position.atStart position.rest
  have hn : ∀ p ∈ more, (one (· = stop)).ends { p with
      grouped := position.rest.take (position.rest.length - p.rest.length) } = [] := by
    intro p hp
    have ⟨c, hc, hs⟩ := hm p hp
    have ⟨cs, hr⟩ := List.head?_eq_some_iff.mp hc
    simpa [ends, hr] using hs
  have hf : (seq (group (many (· ≠ stop))) (one (· = stop))).ends position =
      (one (· = stop)).ends
        ⟨atStart, position.rest.dropWhile (· ≠ stop), position.rest.takeWhile (· ≠ stop)⟩ := by
    have hg := List.flatMap_eq_nil_iff.mpr hn
    simp only [ends, he, List.map_cons, List.flatMap_cons, List.flatMap_map] at hg ⊢
    rw [hg, take_length_sub_dropWhile, List.append_nil]
  rw [hf]
  by_cases hs : stop ∈ position.rest
  case pos =>
    obtain ⟨front, rest, hr, hs⟩ := List.eq_append_cons_of_mem hs
    have hf : ∀ c ∈ front, decide (c ≠ stop) = true := by
      intro c hc
      simpa using ne_of_mem_of_not_mem hc hs
    rw [hr, List.dropWhile_append_of_pos hf, List.takeWhile_append_of_pos hf, upTo?_append hs]
    simp [ends]
  case neg =>
    have hd : position.rest.dropWhile (· ≠ stop) = [] := by
      apply List.dropWhile_eq_nil_iff.mpr
      intro c hc
      simpa using ne_of_mem_of_not_mem hc hs
    rw [hd, upTo?, if_neg hs]
    rfl

theorem Yields.find?_start (h : pattern.Yields g) (cs : List Char) :
    (seq start pattern).find? cs = g cs := by
  have later (cs : List Char) : (seq start pattern).search false cs = none := by
    induction cs with
    | nil => simp [Pattern.search, Pattern.grouped?, ends]
    | cons c cs ih => simp [Pattern.search, Pattern.grouped?, ends, ih]
  have hs := h ⟨true, cs, []⟩
  cases cs with
  | nil => simpa [Pattern.find?, Pattern.search, Pattern.grouped?, ends] using hs
  | cons c cs => simpa [Pattern.find?, Pattern.search, Pattern.grouped?, ends, later] using hs

def behind? (opens : Char → Bool) (g : List Char → Option (List Char)) :
    List Char → Option (List Char)
  | [] => none
  | c :: cs => (if opens c then g cs else none).or (behind? opens g cs)

theorem Yields.grouped? (h : pattern.Yields g) (opens : Char → Bool) (atStart : Bool)
    (cs : List Char) :
    (seq (either start (one opens)) pattern).grouped? atStart cs =
      (if atStart then g cs else none).or
        (cs.head?.bind fun c => if opens c then g cs.tail else none) := by
  have hs := h ⟨atStart, cs, []⟩
  have ho := h ⟨false, cs.tail, []⟩
  simp only [Pattern.grouped?, ends, List.flatMap_append, List.head?_append, Option.map_or]
  cases cs
  case nil => cases atStart <;> simp_all
  case cons c cs => cases atStart <;> cases hc : opens c <;> simp_all

-- A search for a pattern at the start of the text or behind certain characters.
theorem Yields.search (h : pattern.Yields g) (opens : Char → Bool) (cs : List Char) :
    (seq (either start (one opens)) pattern).search false cs = behind? opens g cs := by
  induction cs with
  | nil => simp [Pattern.search, h.grouped?, behind?]
  | cons c cs ih => simp [Pattern.search, h.grouped?, behind?, ih]

theorem Yields.find? (h : pattern.Yields g) (opens : Char → Bool) (cs : List Char) :
    (seq (either start (one opens)) pattern).find? cs = (g cs).or (behind? opens g cs) := by
  cases cs with
  | nil => simp [Pattern.find?, Pattern.search, h.grouped?, behind?]
  | cons c cs =>
    simp [Pattern.find?, Pattern.search, h.grouped?, h.search, behind?, Option.or_assoc]

end

end Pattern

end ColumnConstants
