import ColumnConstants.Run.Session

namespace ColumnConstants

-- Calls that fail for reasons that a disk does not show.
structure Refusals where
  currentDirectory : Option Fault
  reading (path : String) : Option ReadFault
  writing (path text : String) : Option Fault

def Refusals.none : Refusals where
  currentDirectory := .none
  reading _        := .none
  writing _ _      := .none

instance {m : Type → Type} [Monad m] [Host m] : Host (ReaderT Refusals m) where
  currentDirectory r := r.currentDirectory.elim Host.currentDirectory fun f => pure (.error f)
  read path r        := (r.reading path).elim (Host.read path) fun f => pure (.error f)
  write path text r  := (r.writing path text).elim (Host.write path text) fun f => pure (.error f)
  print text _       := Host.print text
  record x _         := Host.record x

namespace Refusals

section

variable {m : Type → Type} [Monad m] {ε α β : Type}

def Agrees (x : ExceptT ε (ReaderT Refusals m) α) (y : ExceptT ε m α) : Prop :=
  x.run.run none = y.run

theorem Agrees.bind {x : ExceptT ε (ReaderT Refusals m) α} {y : ExceptT ε m α}
    {f : α → ExceptT ε (ReaderT Refusals m) β} {g : α → ExceptT ε m β} (hx : Agrees x y)
    (hf : ∀ a, Agrees (f a) (g a)) : Agrees (x >>= f) (y >>= g) := by
  unfold Agrees
  rw [ExceptT.run_bind, ReaderT.run_bind, hx, ExceptT.run_bind]
  refine bind_congr fun a => ?_
  cases a
  case error => rfl
  case ok a => exact hf a

variable [Host m]

theorem agrees_report (x : Logged ε α) : Agrees (report x) (report (m := m) x) := by
  have agrees_forM (rs : List Record) :
      Agrees (rs.forM Host.record) (rs.forM Host.record : ExceptT ε m Unit) := by
    induction rs
    case nil => rfl
    case cons hi => exact Agrees.bind rfl fun _ => hi
  exact (agrees_forM x.records).bind fun _ => rfl

theorem agrees_absolutePath (path : String) :
    Agrees (absolutePath path) (absolutePath (m := m) path) := by
  refine Agrees.bind ?_ fun directory => ?_
  · unfold directoryOf
    cases Path.isRelative path <;> rfl
  · cases Path.absolute? directory path <;> rfl

theorem agrees_writeTarget (path : String) (file : ConstantFile) :
    Agrees (writeTarget path file) (writeTarget (m := m) path file) :=
  Agrees.bind rfl fun _ => Agrees.bind rfl fun _ => rfl

theorem agrees_output (path : String) (file : ConstantFile) (dryRun : Bool) :
    Agrees (output path file dryRun) (output (m := m) path file dryRun) := by
  cases dryRun
  case true => exact Agrees.bind rfl fun _ => rfl
  case false => exact (agrees_writeTarget path file).bind fun _ => rfl

theorem agrees_generate (o : Options) : Agrees (generate o) (generate (m := m) o) :=
  (agrees_absolutePath o.src).bind fun path =>
    (Agrees.bind rfl fun _ => agrees_report _).bind fun file => agrees_output path file o.dryRun

end

end Refusals

namespace Session

section

variable (r : Refusals) (s : Session)

def absolutePath (path : String) : Except Failure String :=
  match r.currentDirectory, Path.isRelative path with
  | some fault, true => .error (.resolving path fault)
  | _, _ => (Path.absolute? s.directory path).elim (.error .emptyPath) .ok

def read (path : String) : Except ReadFault String :=
  (r.reading path).elim (s.disk.read path) .error

def prepare (o : Options) : Logged Failure (String × ConstantFile) := do
  let path ← .ofExcept (s.absolutePath r o.src)
  let source ← .ofExcept ((s.read r path).mapError (.ofRead path))
  (path, ·) <$>
    (ConstantFile.ofSource source o.type o.style o.validation).mapError (.generating path)

def tryWrite (path text : String) : Except Fault Unit × Session :=
  (r.writing path text).elim (s.write path text) fun f => (.error f, s)

end

def run {ε α : Type} (r : Refusals) (x : ExceptT ε (ReaderT Refusals (StateM Session)) α)
    (s : Session) : Except ε α × Session :=
  ((x.run.run r).run s).run

section

variable {δ ε α β : Type} (r : Refusals) (s : Session)

theorem run_pure (a : α) : run (ε := ε) r (pure a) s = (.ok a, s) :=
  rfl

theorem run_bind (x : ExceptT ε (ReaderT Refusals (StateM Session)) α)
    (f : α → ExceptT ε (ReaderT Refusals (StateM Session)) β) :
    run r (x >>= f) s =
      match run r x s with
      | (.ok a, s)    => run r (f a) s
      | (.error e, s) => (.error e, s) := by
  simp only [run, ExceptT.run_bind, ReaderT.run_bind, StateT.run_bind, Id.run_bind]
  match ((x.run.run r).run s).run with
  | (.ok _, _)    => rfl
  | (.error _, _) => rfl

theorem run_call (call : ReaderT Refusals (StateM Session) (Except δ α)) (f : δ → ε) :
    run r (ExceptT.mk ((·.mapError f) <$> call)) s =
      (((call.run r).run s).run.1.mapError f, ((call.run r).run s).run.2) :=
  rfl

theorem run_currentDirectory :
    (((Host.currentDirectory : ReaderT Refusals (StateM Session) _).run r).run s).run
      = (r.currentDirectory.elim (.ok s.directory) .error, s) := by
  change Id.run (StateT.run (r.currentDirectory.elim Host.currentDirectory _) s) = _
  cases r.currentDirectory <;> rfl

theorem run_read (path : String) :
    (((Host.read path : ReaderT Refusals (StateM Session) _).run r).run s).run
      = (s.read r path, s) := by
  change Id.run (StateT.run ((r.reading path).elim (Host.read path) _) s)
    = ((r.reading path).elim _ _, s)
  cases r.reading path <;> rfl

theorem run_write (path text : String) :
    (((Host.write path text : ReaderT Refusals (StateM Session) _).run r).run s).run
      = s.tryWrite r path text := by
  change Id.run (StateT.run ((r.writing path text).elim (Host.write path text) _) s)
    = (r.writing path text).elim _ _
  cases r.writing path text <;> rfl

theorem run_absolutePath (path : String) :
    run r (ColumnConstants.absolutePath path) s = (s.absolutePath r path, s) := by
  unfold ColumnConstants.absolutePath absolutePath directoryOf
  rw [run_bind]
  cases hr : Path.isRelative path
  case false =>
    rw [Path.absolute?_of_not_relative hr s.directory "/", if_neg Bool.false_ne_true, run_pure]
    dsimp only
    cases r.currentDirectory <;> cases Path.absolute? "/" path <;> rfl
  case true =>
    rw [if_pos rfl, run_call, run_currentDirectory]
    cases r.currentDirectory
    case none =>
      simp only [Option.elim_none, mapError_eq]
      cases Path.absolute? s.directory path <;> rfl
    case some => rfl

theorem run_report (x : Logged ε α) :
    run r (report x) s = (x.result, s.recordAll x.records) := by
  have run_forM (rs : List Record) (s : Session) :
      run r (rs.forM Host.record : ExceptT ε _ Unit) s = (.ok (), s.recordAll rs) := by
    induction rs generalizing s
    case nil => simp [recordAll]; rfl
    case cons x rs hi =>
      rw [List.forM, run_bind]
      exact (hi (s.record x)).trans (by simp [record, recordAll])
  unfold report
  rw [run_bind, run_forM]
  rfl

theorem run_generateFrom (path : String) (o : Options) :
    run r (generateFrom path o) s =
      match s.read r path with
      | .error f => (.error (.ofRead path f), s)
      | .ok source =>
        let made := ConstantFile.ofSource source o.type o.style o.validation
        (made.result.mapError (.generating path), s.recordAll made.records) := by
  unfold generateFrom
  rw [run_bind, run_call, run_read]
  match s.read r path with
  | .error _ => rfl
  | .ok source => exact run_report r s _

theorem run_writeTarget (path : String) (file : ConstantFile) :
    run r (writeTarget path file) s =
      let target := Path.target path
      match s.tryWrite r target file.render with
      | (.ok (), s)   => (.ok target, s.record (.wrote file.fields.length file.type target))
      | (.error f, s) => (.error (.writing target f), s) := by
  simp only [writeTarget]
  rw [run_bind, run_call, run_write]
  match s.tryWrite r (Path.target path) file.render with
  | (.ok (), _)   => rfl
  | (.error _, _) => rfl

theorem run_output (path : String) (file : ConstantFile) (dryRun : Bool) :
    run r (output path file dryRun) s =
      if dryRun then (.ok none, s.print file.render)
      else
        let (written, s) := run r (writeTarget path file) s
        (written.map some, s) := by
  cases dryRun
  case true => rfl
  case false =>
    rw [output, if_neg Bool.false_ne_true, if_neg Bool.false_ne_true, map_eq_pure_bind, run_bind]
    match run r (writeTarget path file) s with
    | (.ok _, _)    => rfl
    | (.error _, _) => rfl

-- What a run does to a session. Up to the last step, nothing but the log changes.
theorem run_generate (o : Options) :
    run r (generate o) s =
      let made := s.prepare r o
      let s := s.recordAll made.records
      match made.result with
      | .error f => (.error f, s)
      | .ok (path, file) => run r (output path file o.dryRun) s := by
  have recordAll_nil : s.recordAll [] = s := by simp [recordAll]
  unfold generate prepare
  rw [run_bind, run_absolutePath]
  match s.absolutePath r o.src with
  | .error f => simp [Logged.ofExcept, recordAll_nil]
  | .ok path =>
    simp only [Logged.ofExcept, Logged.bind_mk_ok]
    rw [run_bind, run_generateFrom]
    match s.read r path with
    | .error f => simp [mapError_eq, recordAll_nil]
    | .ok source =>
      simp only [mapError_eq, Logged.mapError, Logged.bind_mk_ok, Logged.map_eq, List.nil_append]
      cases (ConstantFile.ofSource source o.type o.style o.validation).result <;> rfl

-- On a system that refuses nothing, a run is one on the session itself.
theorem run_generate_none (o : Options) :
    run .none (generate o) s = ((generate (m := StateM Session) o).run.run s).run :=
  congrArg (fun x : StateM Session _ => (x.run s).run) (Refusals.agrees_generate o)

end

end Session

end ColumnConstants
