import ColumnConstants.Path.Target

namespace ColumnConstants.Path

structure IsName (name : List Char) : Prop where
  ne_nil   : name ≠ []
  ne_point : name ≠ ['.']
  noSlash  : '/' ∉ name

-- Whether a name can follow without a slash in between.
def Open (front : List Char) : Prop :=
  front = [] ∨ front.getLast? = some '/'

section

variable {front name path rest : List Char} {c : Char}

theorem open_of_cons (h : Open (c :: front)) : Open front := by
  cases front with
  | nil => exact Or.inl rfl
  | cons => exact h.imp nofun id

theorem open_slash_cons (h : Open front) : Open ('/' :: front) := by
  cases h with
  | inl h => exact Or.inr (by simp [h])
  | inr h => exact Or.inr (by simp [List.getLast?_cons, h])

theorem open_cons_slash_cons (h : Open front) : Open (c :: '/' :: front) := by
  have hl := (open_slash_cons h).resolve_left (List.cons_ne_nil _ _)
  exact Or.inr (by rwa [List.getLast?_cons_cons])

theorem dropIdle_dropIdle (path : List Char) : dropIdle (dropIdle path) = dropIdle path := by
  fun_induction dropIdle path with
  | case1 _ ih | case2 _ ih => exact ih
  | case3 => rfl
  | case4 rest h₁ h₂ h₃ => rw [dropIdle.eq_4 rest h₁ h₂ h₃]

theorem head?_dropIdle (path : List Char) : (dropIdle path).head? ≠ some '/' := by
  fun_induction dropIdle path with
  | case1 _ ih | case2 _ ih => exact ih
  | case3 => nofun
  | case4 rest h₁ _ _ =>
    cases rest with
    | nil => nofun
    | cons c rest =>
      intro h
      cases h
      exact h₁ rest rfl

theorem dropIdle_split (path : List Char) (h : dropIdle path ≠ []) :
    ∃ idle, path = idle ++ dropIdle path ∧ Open idle := by
  fun_induction dropIdle path with
  | case1 rest ih =>
    have ⟨idle, he, ho⟩ := ih h
    exact ⟨'/' :: idle, congrArg _ he, open_slash_cons ho⟩
  | case2 rest ih =>
    have ⟨idle, he, ho⟩ := ih h
    exact ⟨'.' :: '/' :: idle, congrArg (['.', '/'] ++ ·) he, open_cons_slash_cons ho⟩
  | case3 => exact absurd rfl h
  | case4 rest => exact ⟨[], rfl, Or.inl rfl⟩

theorem dropIdle_append (h : IsName name) (rest : List Char) :
    dropIdle (name.reverse ++ rest) = name.reverse ++ rest := by
  have hs : '/' ∉ name.reverse := by simpa using h.noSlash
  cases hr : name.reverse with
  | nil => exact absurd (List.reverse_eq_nil_iff.mp hr) h.ne_nil
  | cons c cs =>
    have hc : c ≠ '/' := by
      rintro rfl
      simp [hr] at hs
    cases cs with
    | nil =>
      have hp : c ≠ '.' := by
        rintro rfl
        exact h.ne_point (List.reverse_eq_iff.mp hr)
      apply dropIdle.eq_4
      all_goals simp [hc, hp]
    | cons d cs =>
      have hd : d ≠ '/' := by
        rintro rfl
        simp [hr] at hs
      apply dropIdle.eq_4
      all_goals simp [hc, hd]

theorem span_reverse_append (hn : '/' ∉ name) (hf : Open front) :
    (name.reverse ++ front.reverse).takeWhile (· ≠ '/') = name.reverse ∧
    (name.reverse ++ front.reverse).dropWhile (· ≠ '/') = front.reverse := by
  have hn : ∀ c ∈ name.reverse, decide (c ≠ '/') = true := by
    intro c hc
    have hs : c ≠ '/' := by
      rintro rfl
      exact hn (List.mem_reverse.mp hc)
    simpa using hs
  rw [List.takeWhile_append_of_pos hn, List.dropWhile_append_of_pos hn]
  cases hf with
  | inl hf => simp [hf]
  | inr hf =>
    have ⟨_, hf⟩ := List.getLast?_eq_some_iff.mp hf
    simp [hf]

theorem exists_eq_start_append (hn : IsName name) (hf : Open front) :
    ∃ inner, Open inner ∧ front = start (front ++ name) ++ inner := by
  have hs {rest : List Char} (h : name = '/' :: rest) : False :=
    hn.noSlash (h ▸ List.mem_cons_self)
  unfold start
  split
  case h_1 rest he =>
    cases front with
    | nil => exact absurd he hs
    | cons c front =>
      have ⟨hc, _⟩ := List.cons_eq_cons.mp he
      exact ⟨front, open_of_cons hf, congrArg (· :: front) hc⟩
  case h_2 he =>
    cases front with
    | nil => exact absurd he hn.ne_point
    | cons c front =>
      have ⟨_, he⟩ := List.cons_eq_cons.mp he
      exact absurd (List.append_eq_nil_iff.mp he).2 hn.ne_nil
  case h_3 rest he =>
    cases front with
    | nil =>
      have hm : '/' ∈ name := by simp [show name = '.' :: '/' :: rest from he]
      exact absurd hm hn.noSlash
    | cons c front =>
      have ⟨hc, _⟩ := List.cons_eq_cons.mp he
      exact ⟨front, open_of_cons hf, congrArg (· :: front) hc⟩
  case h_4 => exact ⟨front, hf, rfl⟩

theorem start_append_body (path : List Char) : start path ++ body path = path := by
  unfold body start
  split
  all_goals rfl

theorem reversedNames_append (hn : IsName name) (hf : Open front) :
    ∃ inner, Open inner ∧ front = start (front ++ name) ++ inner ∧
      reversedNames (front ++ name) = name.reverse ++ inner.reverse := by
  have ⟨inner, ho, he⟩ := exists_eq_start_append hn hf
  have hb : body (front ++ name) = inner ++ name := by
    apply List.append_cancel_left
    rw [start_append_body, ← List.append_assoc, ← he]
  refine ⟨inner, ho, he, ?_⟩
  rw [reversedNames, hb, List.reverse_append, dropIdle_append hn]

theorem fileName?_append (hn : IsName name) (hp : name ≠ ['.', '.']) (hf : Open front) :
    fileName? (front ++ name) = some name := by
  have ⟨inner, ho, _, hr⟩ := reversedNames_append hn hf
  have hne : ¬ (name = [] ∨ name = ['.', '.']) := not_or.mpr ⟨hn.ne_nil, hp⟩
  simp only [fileName?, hr, (span_reverse_append hn.noSlash ho).1, List.reverse_reverse,
    if_neg hne]

theorem directory_append (hn : IsName name) (hf : Open front) :
    ∃ inner, front = start (front ++ name) ++ inner ∧
      directory (front ++ name) = start (front ++ name) ++ (dropIdle inner.reverse).reverse := by
  have ⟨inner, ho, he, hr⟩ := reversedNames_append hn hf
  have hne : name.reverse ++ inner.reverse ≠ [] := by simp [hn.ne_nil]
  refine ⟨inner, he, ?_⟩
  simp only [directory, hr, if_neg hne, (span_reverse_append hn.noSlash ho).2]

def parent (path : List Char) : List Char :=
  dropIdle ((reversedNames path).dropWhile (· ≠ '/'))

theorem dropIdle_parent (path : List Char) : dropIdle (parent path) = parent path :=
  dropIdle_dropIdle _

theorem directory_eq (h : reversedNames path ≠ []) :
    directory path = start path ++ (parent path).reverse := by
  simp only [directory, if_neg h, parent]

theorem dropIdle_cons_split (h : dropIdle ('/' :: rest) ≠ []) :
    ∃ front, '/' :: rest = front ++ '/' :: dropIdle ('/' :: rest) := by
  have ⟨idle, he, ho⟩ := dropIdle_split ('/' :: rest) h
  cases ho
  case inl hi =>
    have hh := head?_dropIdle ('/' :: rest)
    rw [hi, List.nil_append] at he
    rw [← he] at hh
    exact absurd rfl hh
  case inr hi =>
    have ⟨front, hf⟩ := List.getLast?_eq_some_iff.mp hi
    exact ⟨front, by simpa [hf] using he⟩

-- Behind the directory of a path there is a slash. What else may stand between the directory and
-- the last name, or behind that name, means nothing.
theorem exists_reverse_body_eq (h : parent path ≠ []) :
    ∃ front, (body path).reverse = front ++ '/' :: parent path := by
  have hr : reversedNames path ≠ [] := by
    intro hr
    simp [parent, hr, dropIdle] at h
  have ⟨idle, hi, _⟩ := dropIdle_split (body path).reverse hr
  have ⟨front, hf⟩ : ∃ front, (reversedNames path).dropWhile (· ≠ '/') =
      front ++ '/' :: parent path := by
    unfold parent at h ⊢
    cases hd : (reversedNames path).dropWhile (· ≠ '/') with
    | nil =>
      rw [hd] at h
      exact absurd rfl h
    | cons c rest =>
      have hc := List.head?_dropWhile_not (· ≠ '/') (reversedNames path)
      rw [hd] at hc h
      have hc : c = '/' := by simpa using hc
      subst hc
      exact dropIdle_cons_split h
  refine ⟨idle ++ (reversedNames path).takeWhile (· ≠ '/') ++ front, ?_⟩
  rw [List.append_assoc, ← hf, List.append_assoc, List.takeWhile_append_dropWhile]
  exact hi

theorem exists_eq_append_slash (h : parent path ≠ []) :
    ∃ rest, path = (start path ++ (parent path).reverse) ++ '/' :: rest := by
  have ⟨front, hf⟩ := exists_reverse_body_eq h
  have hb : body path = (parent path).reverse ++ '/' :: front.reverse := by
    rw [← List.reverse_reverse (body path), hf]
    simp
  refine ⟨front.reverse, ?_⟩
  rw [List.append_assoc, ← hb, start_append_body]

theorem start_cases (path : List Char) :
    start path = [] ∨ start path = ['/'] ∨ start path = ['.'] := by
  unfold start
  split
  all_goals simp

theorem start_cons_cons (c d : Char) (rest more : List Char) :
    start (c :: d :: rest) = start (c :: d :: more) := by
  unfold start
  repeat' split
  all_goals simp_all

theorem start_append_slash (h : path ≠ []) (rest more : List Char) :
    start (path ++ '/' :: rest) = start (path ++ '/' :: more) := by
  match path with
  | [] => exact absurd rfl h
  | [c] => exact start_cons_cons c '/' rest more
  | c :: d :: path => exact start_cons_cons c d _ _

theorem join_split (directory name : List Char) :
    ∃ front, Open front ∧ join directory name = front ++ name ∧
      (front = directory ∨ front = directory ++ ['/']) := by
  unfold join
  split
  case isTrue h => exact ⟨directory, h, rfl, Or.inl rfl⟩
  case isFalse => exact ⟨directory ++ ['/'], Or.inr (by simp), by simp, Or.inr rfl⟩

theorem fileName?_join (hn : IsName name) (hp : name ≠ ['.', '.']) (directory : List Char) :
    fileName? (join directory name) = some name := by
  have ⟨front, ho, he, _⟩ := join_split directory name
  rw [he, fileName?_append hn hp ho]

theorem start_join (hn : IsName name) (h : reversedNames path ≠ []) :
    start (join (directory path) name) = start path := by
  rw [directory_eq h]
  by_cases hk : parent path = []
  case pos =>
    have ⟨inner, _, hi⟩ := exists_eq_start_append hn (Or.inl rfl)
    have hn : start name = [] := (List.append_eq_nil_iff.mp hi.symm).1
    rw [hk]
    obtain hs | hs | hs := start_cases path
    all_goals rw [hs]
    · exact hn
    · rfl
    · rfl
  case neg =>
    have ⟨rest, hr⟩ := exists_eq_append_slash hk
    have hd : start path ++ (parent path).reverse ≠ [] := by simp [hk]
    have hl : (start path ++ (parent path).reverse).getLast? ≠ some '/' := by
      have hh := List.head?_eq_some_head hk
      rw [List.getLast?_append, List.getLast?_reverse, hh, Option.some_or, ← hh]
      exact head?_dropIdle _
    rw [join, if_neg (not_or.mpr ⟨hd, hl⟩), start_append_slash hd name rest, ← hr]

theorem directory_join (hn : IsName name) (h : reversedNames path ≠ []) :
    directory (join (directory path) name) = directory path := by
  have ⟨front, ho, he, hf⟩ := join_split (directory path) name
  have ⟨inner, hi, hd⟩ := directory_append hn ho
  rw [← he, start_join hn h] at hi hd
  have hk : dropIdle inner.reverse = parent path := by
    rw [directory_eq h] at hf
    cases hf
    case inl hf =>
      have hi : inner = (parent path).reverse := List.append_cancel_left (hi.symm.trans hf)
      rw [hi, List.reverse_reverse, dropIdle_parent]
    case inr hf =>
      rw [List.append_assoc] at hf
      have hi : inner = (parent path).reverse ++ ['/'] := List.append_cancel_left (hi.symm.trans hf)
      simp [hi, dropIdle, dropIdle_parent]
  rw [hd, hk, directory_eq h]

theorem getLast?_splitAtEach (hn : '/' ∉ name) (hf : Open front) :
    (splitAtEach '/' (front ++ name)).getLast? = some name := by
  cases hf
  case inl hf => simp [hf, splitAtEach_of_not_mem hn]
  case inr hf =>
    have ⟨front, hf⟩ := List.getLast?_eq_some_iff.mp hf
    rw [hf, List.append_assoc, List.singleton_append, splitAtEach_append,
      splitAtEach_of_not_mem hn, List.getLast?_concat]

theorem exists_open_append (path : List Char) :
    ∃ front name, path = front ++ name ∧ Open front ∧ '/' ∉ name := by
  by_cases hm : '/' ∈ path
  case neg => exact ⟨[], path, rfl, Or.inl rfl, hm⟩
  case pos =>
    have ⟨name, front, he, hn⟩ := List.eq_append_cons_of_mem (List.mem_reverse.mpr hm)
    refine ⟨front.reverse ++ ['/'], name.reverse, ?_, Or.inr (by simp), by simpa using hn⟩
    rw [← List.reverse_reverse path, he]
    simp

theorem fileName?_of_getLast? (h : (splitAtEach '/' path).getLast? = some name) (hn : IsName name)
    (hp : name ≠ ['.', '.']) : fileName? path = some name := by
  have ⟨front, last, he, hf, hl⟩ := exists_open_append path
  rw [he, getLast?_splitAtEach hl hf] at h
  cases h
  rw [he, fileName?_append hn hp hf]

def targetName (name : List Char) : List Char :=
  stem name ++ targetEnding

theorem two_lt_length_targetName (name : List Char) : 2 < (targetName name).length := by
  have he : targetEnding.length = 10 := by decide
  rw [targetName, List.length_append]
  omega

theorem isName_targetName (h : '/' ∉ name) : IsName (targetName name) := by
  have hl := two_lt_length_targetName name
  refine ⟨?_, ?_, ?_⟩
  · intro he
    simp [he] at hl
  · intro he
    simp [he] at hl
  · intro hm
    cases List.mem_append.mp hm
    case inl hm => exact h ((List.takeWhile_prefix _).subset hm)
    case inr hm => exact absurd hm (by decide)

theorem targetName_ne_parent (name : List Char) : targetName name ≠ ['.', '.'] := by
  intro he
  have hl := two_lt_length_targetName name
  simp [he] at hl

theorem targetName_ne (name : List Char) : targetName name ≠ name := by
  intro h
  have hp : ∀ c ∈ stem name, decide (c ≠ '.') = true := by
    intro c hc
    exact List.all_eq_true.mp List.all_takeWhile c hc
  have hs : stem (targetName name) = stem name ++ "_fields".toList := by
    unfold targetName
    rw [stem, List.takeWhile_append_of_pos hp]
    rfl
  rw [h] at hs
  exact absurd (List.self_eq_append_right.mp hs) (by decide)

theorem fileName?_eq_some (h : fileName? path = some name) :
    reversedNames path ≠ [] ∧ '/' ∉ name := by
  simp only [fileName?] at h
  split at h
  case isTrue => cases h
  case isFalse hn =>
    cases h
    constructor
    case left =>
      intro hr
      simp [hr] at hn
    case right =>
      intro hm
      have hs := List.all_eq_true.mp List.all_takeWhile '/' (List.mem_reverse.mp hm)
      simp at hs

end

theorem toList_target {path : String} {name : List Char}
    (h : fileName? path.toList = some name) :
    (target path).toList = join (directory path.toList) (targetName name) := by
  simp [target, targetName, h]

theorem target_sibling {path : String} {name : List Char}
    (h : fileName? path.toList = some name) :
    directory (target path).toList = directory path.toList ∧
    fileName? (target path).toList = some (targetName name) := by
  have ⟨hr, hs⟩ := fileName?_eq_some h
  have hn := isName_targetName hs
  rw [toList_target h]
  exact ⟨directory_join hn hr, fileName?_join hn (targetName_ne_parent name) _⟩

end ColumnConstants.Path
