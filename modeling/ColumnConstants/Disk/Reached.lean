import ColumnConstants.Disk.Written

namespace ColumnConstants.Disk

def Rooted (disk : Disk) (place : Place) : Prop :=
  ∀ front, front <+: place → front ≠ place → disk.get? front = some .directory

variable {disk : Disk} {start place : Place} {name path : String} {names : List String}

theorem rooted_nil (disk : Disk) : disk.Rooted [] :=
  fun _ hp hn => absurd (List.prefix_nil.mp hp) hn

theorem step_eq_ok (h : disk.step start name = .ok place) :
    disk.get? start = some .directory ∧
      (place = start ∨ place = start.dropLast ∨
        name ∉ ["", ".", ".."] ∧ place = start ++ [name]) := by
  unfold step at h
  split at h
  case h_2 => cases h
  case h_1 hs =>
    refine ⟨hs, ?_⟩
    repeat' split at h
    all_goals simp_all

theorem Rooted.step (hr : disk.Rooted start) (h : disk.step start name = .ok place) :
    disk.Rooted place := by
  have ⟨hs, hp⟩ := step_eq_ok h
  obtain rfl | rfl | ⟨_, rfl⟩ := hp
  · exact hr
  · intro front hp hn
    apply hr front (hp.trans (List.dropLast_prefix start))
    rintro rfl
    exact hn (hp.eq_of_length_le (by simp))
  · intro front hp hn
    by_cases he : front = start
    case pos => rw [he, hs]
    case neg => exact hr front ((List.prefix_concat_iff.mp hp).resolve_left hn) he

theorem Rooted.walk (hr : disk.Rooted start) (h : disk.walk start names = .ok place) :
    disk.Rooted place := by
  induction names generalizing start with
  | nil =>
    cases h
    exact hr
  | cons name names ih =>
    have ⟨next, hs, hw⟩ := bind_eq_ok.mp h
    exact ih (hr.step hs) hw

-- A walk goes through directories only, so a file is reached by its own name, and not by a step that
-- leads back.
theorem Rooted.eq_append_of_step {content : ByteArray} (hr : disk.Rooted start)
    (h : disk.step start name = .ok place) (hf : disk.get? place = some (.file content)) :
    name ∉ ["", ".", ".."] ∧ place = start ++ [name] := by
  have ⟨hs, hp⟩ := step_eq_ok h
  have not_directory (hd : disk.get? place = some .directory) : False := by
    rw [hd] at hf
    cases hf
  obtain rfl | rfl | hp := hp
  · exact (not_directory hs).elim
  · apply (not_directory _).elim
    by_cases he : start = []
    case pos => rw [he]; rfl
    case neg =>
      apply hr _ (List.dropLast_prefix start)
      intro hd
      have hl := congrArg List.length hd
      have hp := List.length_pos_iff.mpr he
      rw [List.length_dropLast] at hl
      omega
  · exact hp

theorem eq_append_of_locate {content : ByteArray} (h : disk.locate path = .ok place)
    (hf : disk.get? place = some (.file content)) :
    ∃ start name, (pathNames path).getLast? = some name ∧ name ∉ ["", ".", ".."] ∧
      place = start ++ [name] := by
  have ⟨_, _, hw⟩ := bind_eq_ok.mp h
  obtain hn | ⟨front, name, hn⟩ := List.eq_nil_or_concat (pathNames path)
  · exact absurd hn (pathNames_ne_nil path)
  · rw [hn, List.concat_eq_append, walk_append] at hw
    have ⟨start, hw, hs⟩ := bind_eq_ok.mp hw
    have ⟨last, hs, he⟩ := bind_eq_ok.mp hs
    cases he
    have ⟨hp, he⟩ := ((rooted_nil disk).walk hw).eq_append_of_step hs hf
    exact ⟨start, name, by simp [hn], hp, he⟩

end ColumnConstants.Disk
