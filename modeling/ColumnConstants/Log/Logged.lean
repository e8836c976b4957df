import ColumnConstants.Log.Record

namespace ColumnConstants

-- What was reported before a failure stays in the log.
structure Logged (ε α : Type) where
  records : List Record
  result : Except ε α

namespace Logged

variable {ε ε' α β : Type}

def note (r : Record) : Logged ε Unit :=
  ⟨[r], .ok ()⟩

def fail (e : ε) : Logged ε α :=
  ⟨[], .error e⟩

def ofExcept (result : Except ε α) : Logged ε α :=
  ⟨[], result⟩

def mapError (f : ε → ε') (x : Logged ε α) : Logged ε' α :=
  ⟨x.records, x.result.mapError f⟩

instance : Monad (Logged ε) where
  pure a := ⟨[], .ok a⟩
  map f x := ⟨x.records, x.result.map f⟩
  bind x f :=
    match x.result with
    | .error e => ⟨x.records, .error e⟩
    | .ok a => ⟨x.records ++ (f a).records, (f a).result⟩

@[simp]
theorem pure_eq (a : α) : (pure a : Logged ε α) = ⟨[], .ok a⟩ :=
  rfl

@[simp]
theorem map_eq (f : α → β) (x : Logged ε α) : f <$> x = ⟨x.records, x.result.map f⟩ :=
  rfl

@[simp]
theorem bind_mk_ok (rs : List Record) (a : α) (f : α → Logged ε β) :
    (⟨rs, .ok a⟩ : Logged ε α) >>= f = ⟨rs ++ (f a).records, (f a).result⟩ :=
  rfl

@[simp]
theorem bind_mk_error (rs : List Record) (e : ε) (f : α → Logged ε β) :
    (⟨rs, .error e⟩ : Logged ε α) >>= f = ⟨rs, .error e⟩ :=
  rfl

theorem result_bind (x : Logged ε α) (f : α → Logged ε β) :
    (x >>= f).result = x.result >>= fun a => (f a).result := by
  cases x with
  | mk rs r => cases r <;> rfl

end Logged

end ColumnConstants
