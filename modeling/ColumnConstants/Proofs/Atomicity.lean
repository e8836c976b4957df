import ColumnConstants.Disk.Written
import ColumnConstants.Run.Refusal

namespace ColumnConstants.Session

section

variable {r : Refusals} {o : Options} {s : Session} {path : String} {file : ConstantFile}

theorem absolute?_of_absolutePath (h : s.absolutePath r o.src = .ok path) :
    Path.absolute? s.directory o.src = some path := by
  unfold absolutePath at h
  split at h
  case h_1 => cases h
  case h_2 => cases ha : Path.absolute? s.directory o.src <;> simp_all

theorem read_disk_of_read {source : String} (h : s.read r path = .ok source) :
    s.disk.read path = .ok source := by
  unfold read at h
  cases hr : r.reading path <;> simp_all

theorem prepare_eq_ok (h : (s.prepare r o).result = .ok (path, file)) :
    Path.absolute? s.directory o.src = some path ∧
    ∃ source, s.disk.read path = .ok source ∧
      (ConstantFile.ofSource source o.type o.style o.validation).result = .ok file := by
  unfold prepare at h
  rw [Logged.result_bind] at h
  have ⟨_, ha, h⟩ := bind_eq_ok.mp h
  rw [Logged.result_bind] at h
  have ⟨source, hs, h⟩ := bind_eq_ok.mp h
  have ⟨_, hf, he⟩ := map_eq_ok.mp h
  cases he
  exact ⟨absolute?_of_absolutePath ha, source, read_disk_of_read (mapError_eq_ok.mp hs),
    mapError_eq_ok.mp hf⟩

theorem tryWrite_cases (r : Refusals) (s : Session) (path text : String) :
    (∃ fault, s.tryWrite r path text = (.error fault, s) ∧
      (r.writing path text = some fault ∨ s.disk.write path text = .error fault)) ∨
    ∃ disk, s.tryWrite r path text = (.ok (), { s with disk }) ∧
      r.writing path text = none ∧ s.disk.write path text = .ok disk := by
  unfold tryWrite write
  cases r.writing path text
  case some fault => exact .inl ⟨fault, rfl, .inl rfl⟩
  case none =>
    cases hw : s.disk.write path text
    case error fault => exact .inl ⟨fault, rfl, .inr rfl⟩
    case ok disk => exact .inr ⟨disk, rfl, rfl, rfl⟩

theorem run_generate_of_error {f : Failure} (h : (s.prepare r o).result = .error f) :
    run r (generate o) s = (.error f, s.recordAll (s.prepare r o).records) := by
  simp only [run_generate, h]

theorem run_generate_dry (hd : o.dryRun = true) (h : (s.prepare r o).result = .ok (path, file)) :
    run r (generate o) s =
      (.ok none, (s.recordAll (s.prepare r o).records).print file.render) := by
  simp only [run_generate, h, run_output, hd, if_true]

theorem run_generate_real (hd : o.dryRun = false) (h : (s.prepare r o).result = .ok (path, file)) :
    let target := Path.target path
    (∃ fault, run r (generate o) s =
        (.error (.writing target fault), s.recordAll (s.prepare r o).records) ∧
      (r.writing target file.render = some fault ∨
        s.disk.write target file.render = .error fault)) ∨
    ∃ after, run r (generate o) s = (.ok (some target), after) ∧ after.printed = s.printed ∧
      after.directory = s.directory ∧ r.writing target file.render = none ∧
      s.disk.write target file.render = .ok after.disk := by
  intro target
  simp only [run_generate, h, run_output, hd, run_writeTarget, Bool.false_eq_true, if_false]
  have hc := tryWrite_cases r (s.recordAll (s.prepare r o).records) target file.render
  obtain ⟨fault, hw, hf⟩ | ⟨disk, hw, hd⟩ := hc
  case inl =>
    rw [hw]
    exact .inl ⟨fault, rfl, hf⟩
  case inr =>
    rw [hw]
    exact .inr ⟨_, rfl, rfl, rfl, hd⟩

theorem run_generate_error {f : Failure} {after : Session}
    (h : run r (generate o) s = (.error f, after)) :
    after = s.recordAll (s.prepare r o).records := by
  match hp : (s.prepare r o).result with
  | .error _ =>
    cases (run_generate_of_error hp).symm.trans h
    rfl
  | .ok (path, file) =>
    match hd : o.dryRun with
    | true => cases (run_generate_dry hd hp).symm.trans h
    | false =>
      obtain ⟨_, hr, _⟩ | ⟨_, hr, _⟩ := run_generate_real hd hp
      case inl =>
        cases hr.symm.trans h
        rfl
      case inr => cases hr.symm.trans h

end

-- A run that fails leaves nothing behind but its log. A dry run prints the file of constants that
-- is asked for, and a real run writes what the dry run prints, to the target and nowhere else. Up to
-- the write, both fail alike.
theorem generate_all_or_nothing (r : Refusals) (o : Options) (s : Session) :
    let dry := run r (generate { o with dryRun := true }) s
    let real := run r (generate { o with dryRun := false }) s
    (∀ f after, run r (generate o) s = (.error f, after) →
      after.disk = s.disk ∧ after.printed = s.printed) ∧
    (∀ written after, dry = (.ok written, after) →
      written = none ∧ after.disk = s.disk ∧
      ∃ path source file, Path.absolute? s.directory o.src = some path ∧
        s.disk.read path = .ok source ∧
        (ConstantFile.ofSource source o.type o.style o.validation).result = .ok file ∧
        after.printed = s.printed ++ file.render) ∧
    (∀ written after, real = (.ok written, after) →
      ∃ path text, Path.absolute? s.directory o.src = some path ∧
        written = some (Path.target path) ∧ after.printed = s.printed ∧
        s.disk.Wrote after.disk (Path.target path) text ∧
        dry.1 = .ok none ∧ dry.2.printed = s.printed ++ text) ∧
    (∀ f, dry.1 = .error f → real = dry) ∧
    (∀ written, dry.1 = .ok written →
      ∃ path text, Path.absolute? s.directory o.src = some path ∧
        dry.2.printed = s.printed ++ text ∧
        (real.1 = .ok (some (Path.target path)) ∨
          ∃ fault, real.1 = .error (.writing (Path.target path) fault) ∧
            (r.writing (Path.target path) text = some fault ∨
              s.disk.write (Path.target path) text = .error fault))) := by
  intro dry real
  have failing (f : Failure) (after : Session) (h : run r (generate o) s = (.error f, after)) :
      after.disk = s.disk ∧ after.printed = s.printed := by
    rw [run_generate_error h]
    exact ⟨rfl, rfl⟩
  match hp : (s.prepare r o).result with
  | .error f =>
    have hd : dry = (.error f, s.recordAll (s.prepare r o).records) := run_generate_of_error hp
    have hr : real = (.error f, s.recordAll (s.prepare r o).records) := run_generate_of_error hp
    rw [hd, hr]
    exact ⟨failing, nofun, nofun, fun _ _ => rfl, nofun⟩
  | .ok (path, file) =>
    have ⟨ha, source, hs, hf⟩ := prepare_eq_ok hp
    have hd : dry = (.ok none, (s.recordAll (s.prepare r o).records).print file.render) :=
      run_generate_dry rfl hp
    have hr := run_generate_real (o := { o with dryRun := false }) rfl hp
    refine ⟨failing, ?dry, ?real, ?alike, ?predicted⟩
    case dry =>
      intro _ _ h
      cases hd.symm.trans h
      exact ⟨rfl, rfl, path, source, file, ha, hs, hf, rfl⟩
    case real =>
      intro _ _ h
      obtain ⟨_, hr, _⟩ | ⟨_, hr, hp, _, _, hw⟩ := hr
      case inl => cases hr.symm.trans h
      case inr =>
        cases hr.symm.trans h
        rw [hd]
        exact ⟨path, file.render, ha, rfl, hp, Disk.wrote_of_write hw, rfl, rfl⟩
    case alike =>
      intro _ h
      rw [hd] at h
      cases h
    case predicted =>
      intro _ _
      refine ⟨path, file.render, ha, by rw [hd]; rfl, ?_⟩
      obtain ⟨fault, hr, hw⟩ | ⟨_, hr, _⟩ := hr
      case inl => exact .inr ⟨fault, congrArg Prod.fst hr, hw⟩
      case inr => exact .inl (congrArg Prod.fst hr)

example :
    let source := "package p\ntype U struct \x7b A int `db:\"a\"` \x7d\n"
    let disk : Disk := ⟨[(["p"], .directory), (["p", "u.go"], .file source.toUTF8)]⟩
    let (written, after) := run .none (generate ⟨"u.go", "U", .firstPair, .strict, false⟩)
      ⟨disk, "/p", "", []⟩
    written.toOption = some (some "/p/u_fields.go") ∧
      (after.disk.read "/p/u_fields.go").toOption.isSome := by
  decide +kernel

end ColumnConstants.Session
