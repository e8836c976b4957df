import ColumnConstants.Disk.Reached
import ColumnConstants.Proofs.Atomicity
import ColumnConstants.Proofs.Siblings

namespace ColumnConstants

namespace Disk

variable {disk after : Disk} {path source text : String}

theorem read_eq_ok (h : disk.read path = .ok source) :
    ∃ place content, disk.locate path = .ok place ∧ disk.get? place = some (.file content) ∧
      String.fromUTF8? content = some source := by
  unfold read at h
  repeat' split at h
  all_goals simp_all

theorem fileName?_of_locate {place : Place} {content : ByteArray} (h : disk.locate path = .ok place)
    (hf : disk.get? place = some (.file content)) :
    ∃ start name, Path.fileName? path.toList = some name ∧
      place = start ++ [String.ofList name] := by
  obtain ⟨start, _, hl, hn, hp⟩ := eq_append_of_locate h hf
  rw [pathNames, List.getLast?_map] at hl
  obtain ⟨name, hm, rfl⟩ := Option.map_eq_some_iff.mp hl
  have ne_of_mem (other : List Char) (ho : String.ofList other ∈ ["", ".", ".."]) :
      name ≠ other := by
    rintro rfl
    exact hn ho
  have hname : Path.IsName name :=
    ⟨ne_of_mem [] (by decide), ne_of_mem ['.'] (by decide),
      not_mem_of_mem_splitAtEach (List.mem_of_getLast? hm)⟩
  exact ⟨start, name, Path.fileName?_of_getLast? hm hname (ne_of_mem ['.', '.'] (by decide)), hp⟩

theorem getLast?_pathNames_target {name : List Char}
    (h : Path.fileName? path.toList = some name) :
    (pathNames (Path.target path)).getLast? = some (String.ofList (Path.targetName name)) := by
  have ⟨front, ho, he, _⟩ :=
    Path.join_split (Path.directory path.toList) (Path.targetName name)
  have hs := (Path.isName_targetName (Path.fileName?_eq_some h).2).noSlash
  rw [pathNames, Path.toList_target h, he, List.getLast?_map, Path.getLast?_splitAtEach hs ho]
  rfl

-- The target is not the source, whose name is another.
theorem read_source (hs : disk.read path = .ok source)
    (hw : disk.write (Path.target path) text = .ok after) : after.read path = .ok source := by
  have ⟨place, content, hl, hf, ht⟩ := read_eq_ok hs
  have ⟨start, name, hn, hp⟩ := fileName?_of_locate hl hf
  have ⟨_, front, target, _, hi, he⟩ := write_eq_ok hw
  have ⟨_, htarget, _, _, hd⟩ := fileIn_eq_ok hi
  subst he
  rw [getLast?_pathNames_target hn, Option.getD_some] at htarget
  have hne : place ≠ target := by
    rw [hp, htarget]
    intro he
    have he := (List.concat_inj.mp (by simpa using he)).2
    exact Path.targetName_ne name (String.ofList_injective he).symm
  have hl : (disk.put target text.toUTF8).locate path = .ok place :=
    locate_put (by simp [htarget]) hd hl
  simp only [read, hl, get?_put_of_ne disk _ hne, hf, ht]

end Disk

namespace Session

variable {r : Refusals} {o : Options} {s after : Session} {path : String} {file : ConstantFile}
  {written : Option String}

theorem prepare_congr (hd : after.directory = s.directory)
    (hr : ∀ path, s.absolutePath r o.src = .ok path → after.disk.read path = s.disk.read path) :
    after.prepare r o = s.prepare r o := by
  have ha : after.absolutePath r o.src = s.absolutePath r o.src := by
    unfold absolutePath
    rw [hd]
  unfold prepare
  rw [ha]
  cases hp : s.absolutePath r o.src
  case error => rfl
  case ok path =>
    have hr : after.read r path = s.read r path := by
      unfold read
      rw [hr path hp]
    simp only [Logged.ofExcept, Logged.bind_mk_ok, hr]

theorem run_generate_eq_ok (h : run r (generate o) s = (.ok written, after)) :
    ∃ path file, (s.prepare r o).result = .ok (path, file) ∧ after.directory = s.directory ∧
      ((o.dryRun = true ∧ written = none ∧ after.disk = s.disk) ∨
        (o.dryRun = false ∧ written = some (Path.target path) ∧
          r.writing (Path.target path) file.render = none ∧
          s.disk.write (Path.target path) file.render = .ok after.disk)) := by
  match hp : (s.prepare r o).result with
  | .error _ => cases (run_generate_of_error hp).symm.trans h
  | .ok (path, file) =>
    refine ⟨path, file, rfl, ?_⟩
    match hd : o.dryRun with
    | true =>
      cases (run_generate_dry hd hp).symm.trans h
      exact ⟨rfl, Or.inl ⟨rfl, rfl, rfl⟩⟩
    | false =>
      obtain ⟨_, hr, _⟩ | ⟨_, hr, _, hs, hw⟩ := run_generate_real hd hp
      case inl => cases hr.symm.trans h
      case inr =>
        cases hr.symm.trans h
        exact ⟨hs, Or.inr ⟨rfl, rfl, hw⟩⟩

theorem run_generate_of_write {disk : Disk} (hd : o.dryRun = false)
    (hp : (s.prepare r o).result = .ok (path, file))
    (hr : r.writing (Path.target path) file.render = none)
    (hw : s.disk.write (Path.target path) file.render = .ok disk) :
    ∃ after, run r (generate o) s = (.ok (some (Path.target path)), after) ∧ after.disk = disk := by
  obtain ⟨fault, _, hf⟩ | ⟨after, he, _, _, _, hd⟩ := run_generate_real hd hp
  case inl =>
    cases hf
    case inl hf => cases hr.symm.trans hf
    case inr hf => cases hw.symm.trans hf
  case inr =>
    cases hw.symm.trans hd
    exact ⟨after, he, rfl⟩

-- The target of a source is in the same directory as the source, under another name. So a run that
-- succeeds leaves its source as it is, and running once more yields the same and changes no file.
theorem generate_repeated :
    (∀ path name, Path.fileName? path.toList = some name →
      Path.directory (Path.target path).toList = Path.directory path.toList ∧
      ∃ other, Path.fileName? (Path.target path).toList = some other ∧ other ≠ name) ∧
    ∀ (r : Refusals) (o : Options) (s : Session) (written : Option String) (after : Session),
      run r (generate o) s = (.ok written, after) →
      (∃ path source, Path.absolute? s.directory o.src = some path ∧
        s.disk.read path = .ok source ∧ after.disk.read path = .ok source) ∧
      ∃ again, run r (generate o) after = (.ok written, again) ∧ again.disk = after.disk := by
  constructor
  case left =>
    intro path name h
    have ⟨hd, hf⟩ := Path.target_sibling h
    exact ⟨hd, _, hf, Path.targetName_ne name⟩
  case right =>
    intro r o s written after h
    have ⟨path, file, hp, hd, hc⟩ := run_generate_eq_ok h
    have ⟨ha, source, hs, _⟩ := prepare_eq_ok hp
    have hkept : after.disk.read path = .ok source := by
      obtain ⟨_, _, he⟩ | ⟨_, _, _, hw⟩ := hc
      · rw [he, hs]
      · exact Disk.read_source hs hw
    refine ⟨⟨path, source, ha, hs, hkept⟩, ?_⟩
    have hsame : after.prepare r o = s.prepare r o := by
      apply prepare_congr hd
      intro other ho
      cases ha.symm.trans (absolute?_of_absolutePath ho)
      rw [hkept, hs]
    rw [← hsame] at hp
    obtain ⟨hdry, rfl, _⟩ | ⟨hreal, rfl, hr, hw⟩ := hc
    case inl => exact ⟨_, run_generate_dry hdry hp, rfl⟩
    case inr => exact run_generate_of_write hreal hp hr (Disk.write_write hw)

theorem generate_repeated_on_target :
    let source := "package p\ntype U struct \x7b A int `db:\"a\"` \x7d\n"
    let disk : Disk := ⟨[(["p"], .directory), (["p", "u_fields.go"], .file source.toUTF8)]⟩
    let options : Options := ⟨"u_fields.go", "U", .firstPair, .strict, false⟩
    let made := run .none (generate options) ⟨disk, "/p", "", []⟩
    made.1 = .ok (some "/p/u_fields_fields.go") ∧
    ∃ again, run .none (generate options) made.2 = (made.1, again) ∧ again.disk = made.2.disk := by
  intro source disk options made
  have hw : made.1 = .ok (some "/p/u_fields_fields.go") := by
    have ho : made.1.toOption = some (some "/p/u_fields_fields.go") := by decide +kernel
    cases hm : made.1
    case error => simp [hm, Except.toOption] at ho
    case ok => simpa [hm, Except.toOption] using ho
  have ⟨_, again⟩ :=
    generate_repeated.2 .none options ⟨disk, "/p", "", []⟩ _ made.2 (Prod.ext hw rfl)
  rw [hw]
  exact ⟨rfl, again⟩

end Session

end ColumnConstants
