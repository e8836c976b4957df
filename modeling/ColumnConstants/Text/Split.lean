namespace ColumnConstants

def after? : List Char → List Char → Option (List Char)
  | [], cs => some cs
  | _ :: _, [] => none
  | s :: start, c :: cs => if s = c then after? start cs else none

def upTo? (stop : Char) (cs : List Char) : Option (List Char) :=
  if stop ∈ cs then some (cs.takeWhile (· ≠ stop)) else none

def splitAtEach (separator : Char) : List Char → List (List Char)
  | [] => [[]]
  | c :: cs =>
    if c = separator then [] :: splitAtEach separator cs
    else
      match splitAtEach separator cs with
      | part :: parts => (c :: part) :: parts
      | [] => [[c]]

theorem after?_eq_some_iff {start cs rest : List Char} :
    after? start cs = some rest ↔ cs = start ++ rest := by
  fun_induction after? start cs with
  | case1 => simp [eq_comm]
  | case2 => simp
  | case3 start c cs ih => simp_all
  | case4 s start c cs hc =>
    simp only [List.cons_append, List.cons.injEq, not_and, false_iff, reduceCtorEq]
    exact fun h => absurd h.symm hc

theorem after?_eq_none_iff {start cs : List Char} : after? start cs = none ↔ ¬ start <+: cs := by
  simp [Option.eq_none_iff_forall_ne_some, after?_eq_some_iff, List.IsPrefix, eq_comm]

theorem splitAtEach_ne_nil (separator : Char) (cs : List Char) :
    splitAtEach separator cs ≠ [] := by
  cases cs with
  | nil => simp [splitAtEach]
  | cons c cs =>
    unfold splitAtEach
    repeat' split
    all_goals simp

theorem upTo?_append {stop : Char} {cs : List Char} (h : stop ∉ cs) (rest : List Char) :
    upTo? stop (cs ++ stop :: rest) = some cs := by
  have hc : ∀ c ∈ cs, decide (c ≠ stop) = true := by
    intro c hm
    have hn : c ≠ stop := fun he => h (he ▸ hm)
    simpa using hn
  have hm : stop ∈ cs ++ stop :: rest := List.mem_append_right cs List.mem_cons_self
  rw [upTo?, if_pos hm, List.takeWhile_append_of_pos hc]
  simp

theorem upTo?_eq_some_iff {stop : Char} {cs found : List Char} :
    upTo? stop cs = some found ↔ ∃ rest, cs = found ++ stop :: rest ∧ stop ∉ found := by
  constructor
  case mp =>
    intro h
    by_cases hm : stop ∈ cs
    case pos =>
      obtain ⟨front, rest, rfl, hf⟩ := List.eq_append_cons_of_mem hm
      rw [upTo?_append hf, Option.some.injEq] at h
      exact ⟨rest, by rw [h], h ▸ hf⟩
    case neg => simp [upTo?, hm] at h
  case mpr =>
    rintro ⟨rest, rfl, hf⟩
    exact upTo?_append hf rest

theorem splitAtEach_of_not_mem {separator : Char} {cs : List Char} (h : separator ∉ cs) :
    splitAtEach separator cs = [cs] := by
  induction cs with
  | nil => rfl
  | cons c cs ih =>
    have hc : c ≠ separator := (List.ne_of_not_mem_cons h).symm
    rw [splitAtEach, if_neg hc, ih (List.not_mem_of_not_mem_cons h)]

theorem splitAtEach_append (separator : Char) (front rest : List Char) :
    splitAtEach separator (front ++ separator :: rest) =
      splitAtEach separator front ++ splitAtEach separator rest := by
  induction front with
  | nil => simp [splitAtEach]
  | cons c front ih =>
    simp only [List.cons_append, splitAtEach, ih]
    by_cases hc : c = separator
    case pos => simp [hc]
    case neg =>
      cases hs : splitAtEach separator front with
      | nil => exact absurd hs (splitAtEach_ne_nil separator front)
      | cons part parts => simp [hc]

theorem not_mem_of_upTo?_eq_some {stop : Char} {cs t : List Char} (h : upTo? stop cs = some t) :
    stop ∉ t := by
  unfold upTo? at h
  split at h
  case isTrue =>
    cases h
    exact fun hm => by simpa using List.all_eq_true.mp List.all_takeWhile stop hm
  case isFalse => cases h

theorem not_mem_of_mem_splitAtEach {separator : Char} {cs part : List Char}
    (h : part ∈ splitAtEach separator cs) : separator ∉ part := by
  fun_induction splitAtEach separator cs generalizing part with
  | case1 => simp_all
  | case2 cs ih =>
    obtain rfl | h := List.mem_cons.mp h
    · simp
    · exact ih h
  | case3 c cs hc first parts hs ih =>
    rw [hs] at ih
    obtain rfl | h := List.mem_cons.mp h
    · simpa [Ne.symm hc] using ih List.mem_cons_self
    · exact ih (List.mem_cons_of_mem _ h)
  | case4 => simp_all [splitAtEach_ne_nil]

theorem head?_splitAtEach (separator : Char) (cs : List Char) :
    (splitAtEach separator cs).head? = some (cs.takeWhile (· ≠ separator)) := by
  fun_induction splitAtEach separator cs with
  | case1 => rfl
  | case2 => simp
  | case3 c cs hc first parts hs ih => simp_all
  | case4 => simp_all [splitAtEach_ne_nil]

theorem infix_of_mem_splitAtEach {separator : Char} {cs part : List Char}
    (h : part ∈ splitAtEach separator cs) : part <:+: cs := by
  fun_induction splitAtEach separator cs generalizing part with
  | case1 => simp_all
  | case2 cs ih =>
    obtain rfl | h := List.mem_cons.mp h
    · exact List.nil_infix
    · exact (ih h).trans (List.suffix_cons _ cs).isInfix
  | case3 c cs _ first parts hs ih =>
    rw [hs] at ih
    obtain rfl | h := List.mem_cons.mp h
    · -- The first part goes on in front of the text.
      have hf := head?_splitAtEach separator cs
      rw [hs, List.head?_cons, Option.some.injEq] at hf
      have hp : first <+: cs := hf ▸ List.takeWhile_prefix _
      exact (List.prefix_cons_inj c |>.mpr hp).isInfix
    · exact (ih (List.mem_cons_of_mem _ h)).trans (List.suffix_cons _ cs).isInfix
  | case4 => simp_all [splitAtEach_ne_nil]

end ColumnConstants
