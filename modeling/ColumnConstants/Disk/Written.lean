import ColumnConstants.Disk.Basic
import ColumnConstants.Outcome

namespace ColumnConstants.Disk

-- The file at an absolute path has the given text on the disk `after`, and nothing but that file is
-- different from the disk `before`.
def Wrote (before after : Disk) (path text : String) : Prop :=
  ∃ place, after.locate path = .ok place ∧ after.get? place = some (.file text.toUTF8) ∧
    ∀ other, other ≠ place → after.get? other = before.get? other

variable {disk after : Disk} {start place target : Place} {path text name : String}

theorem step_put {content : ByteArray} (ht : target ≠ []) (hd : disk.get? target ≠ some .directory)
    (h : disk.step start name = .ok place) :
    (disk.put target content).step start name = .ok place := by
  unfold step at h ⊢
  split at h
  case h_2 => cases h
  case h_1 hs =>
    have hst : start ≠ target := by
      intro he
      exact hd (he ▸ hs)
    rw [get?_put_of_ne disk content hst, hs]
    have isSome_put (h : (disk.get? (start ++ [name])).isSome) :
        ((disk.put target content).get? (start ++ [name])).isSome := by
      by_cases he : start ++ [name] = target
      case pos => rw [he, get?_put disk content ht]; rfl
      case neg => rwa [get?_put_of_ne disk content he]
    repeat' split at h
    all_goals simp_all

theorem walk_put {content : ByteArray} {names : List String} (ht : target ≠ [])
    (hd : disk.get? target ≠ some .directory) (h : disk.walk start names = .ok place) :
    (disk.put target content).walk start names = .ok place := by
  induction names generalizing start with
  | nil => exact h
  | cons name names ih =>
    have ⟨next, hs, hw⟩ := bind_eq_ok.mp h
    exact bind_eq_ok.mpr ⟨next, step_put ht hd hs, ih hw⟩

theorem fileIn_eq_ok (h : disk.fileIn start name = .ok place) :
    disk.get? start = some .directory ∧ place = start ++ [name] ∧ name ∉ ["", ".", ".."] ∧
      name.utf8ByteSize ≤ maxNameSize ∧ disk.get? place ≠ some .directory := by
  unfold fileIn at h
  repeat' split at h
  all_goals simp_all

theorem step_file {content : ByteArray} (hs : disk.get? start = some .directory)
    (hn : name ∉ ["", ".", ".."]) (hl : name.utf8ByteSize ≤ maxNameSize)
    (hf : disk.get? (start ++ [name]) = some (.file content)) :
    disk.step start name = .ok (start ++ [name]) := by
  have ⟨he, hc, hp⟩ : name ≠ "" ∧ name ≠ "." ∧ name ≠ ".." := by simpa using hn
  simp [step, hs, he, hc, hp, hl, hf]

theorem walk_append (names more : List String) :
    disk.walk start (names ++ more) = disk.walk start names >>= fun place => disk.walk place more :=
  List.foldlM_append

theorem pathNames_ne_nil (path : String) : pathNames path ≠ [] := by
  simp [pathNames, splitAtEach_ne_nil]

theorem fileIn_put {content : ByteArray} (h : disk.fileIn start name = .ok place) :
    (disk.put place content).fileIn start name = .ok place := by
  have ⟨hs, hp, hn, hl, _⟩ := fileIn_eq_ok h
  subst hp
  have hst : start ≠ start ++ [name] := by simp
  have hne : start ++ [name] ≠ [] := by simp
  have hf := get?_put disk content hne
  rw [fileIn, get?_put_of_ne disk content hst, hs]
  simp only [if_neg hn, if_neg (Nat.not_lt.mpr hl), hf]
  exact if_neg nofun

theorem write_eq_ok (h : disk.write path text = .ok after) :
    checkPath path = .ok () ∧ ∃ start place, disk.walk [] (pathNames path).dropLast = .ok start ∧
      disk.fileIn start ((pathNames path).getLast?.getD "") = .ok place ∧
      after = disk.put place text.toUTF8 := by
  have ⟨_, hc, h⟩ := bind_eq_ok.mp h
  have ⟨start, hw, h⟩ := bind_eq_ok.mp h
  have ⟨place, hf, h⟩ := bind_eq_ok.mp h
  cases h
  exact ⟨hc, start, place, hw, hf, rfl⟩

theorem locate_put {content : ByteArray} (ht : target ≠ [])
    (hd : disk.get? target ≠ some .directory) (h : disk.locate path = .ok place) :
    (disk.put target content).locate path = .ok place := by
  have ⟨_, hc, hw⟩ := bind_eq_ok.mp h
  exact bind_eq_ok.mpr ⟨_, hc, walk_put ht hd hw⟩

theorem wrote_of_write (h : disk.write path text = .ok after) : Wrote disk after path text := by
  have ⟨hc, start, place, hw, hf, he⟩ := write_eq_ok h
  subst he
  have ⟨hs, hp, hn, hl, hd⟩ := fileIn_eq_ok hf
  have ht : place ≠ [] := by simp [hp]
  have hg : (disk.put place text.toUTF8).get? place = some (.file text.toUTF8) := get?_put disk _ ht
  refine ⟨place, ?located, hg, fun other ho => get?_put_of_ne disk _ ho⟩
  case located =>
    -- The way to the directory is as before, and the file is found there.
    have hst : start ≠ place := by simp [hp]
    have hs : (disk.put place text.toUTF8).get? start = some .directory := by
      rw [get?_put_of_ne disk _ hst, hs]
    have hstep := step_file hs hn hl (by rw [← hp, hg])
    have hnames : pathNames path =
        (pathNames path).dropLast ++ [(pathNames path).getLast?.getD ""] := by
      rw [List.getLast?_eq_some_getLast (pathNames_ne_nil path), Option.getD_some,
        List.dropLast_concat_getLast]
    refine bind_eq_ok.mpr ⟨_, hc, ?_⟩
    rw [hnames, walk_append]
    exact bind_eq_ok.mpr ⟨start, walk_put ht hd hw, bind_eq_ok.mpr ⟨_, hstep, by rw [hp]; rfl⟩⟩

-- A write that is repeated finds the file, and leaves the disk as it is.
theorem write_write (h : disk.write path text = .ok after) : after.write path text = .ok after := by
  have ⟨hc, start, place, hw, hf, he⟩ := write_eq_ok h
  subst he
  have ⟨_, hp, _, _, hd⟩ := fileIn_eq_ok hf
  have hw : (disk.put place text.toUTF8).walk [] (pathNames path).dropLast = .ok start :=
    walk_put (by simp [hp]) hd hw
  have hf : (disk.put place text.toUTF8).fileIn start _ = .ok place := fileIn_put hf
  refine bind_eq_ok.mpr ⟨_, hc, bind_eq_ok.mpr ⟨start, hw, bind_eq_ok.mpr ⟨place, hf, ?_⟩⟩⟩
  rw [put_put]
  rfl

theorem fromUTF8?_toUTF8 (text : String) : String.fromUTF8? text.toUTF8 = some text := by
  unfold String.fromUTF8?
  split
  case isTrue => rfl
  case isFalse h => exact absurd text.isValidUTF8 h

theorem Wrote.read {before : Disk} (h : Wrote before after path text) :
    after.read path = .ok text := by
  have ⟨place, hl, hg, _⟩ := h
  simp only [Disk.read, hl, hg, fromUTF8?_toUTF8]

end ColumnConstants.Disk
