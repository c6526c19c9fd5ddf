import ProcCall.Call.Step

/-! # Running steps on a database

A run is a function of the database: it gives a result and the database after it. The
equations below take a run apart into the runs of its parts.
-/

namespace ProcCall

variable {ε ε' α β : Type}

@[simp] theorem mapError_ok (g : ε → ε') (x : α) :
    (Except.ok x : Except ε α).mapError g = .ok x := rfl

@[simp] theorem mapError_error (g : ε → ε') (e : ε) :
    (Except.error e : Except ε α).mapError g = .error (g e) := rfl

theorem mapError_eq_error {g : ε → ε'} {o : Except ε α} {e : ε'} :
    o.mapError g = .error e ↔ ∃ e₀, o = .error e₀ ∧ g e₀ = e := by
  cases o <;> simp

theorem bind_eq_ok {a : Except ε α} {f : α → Except ε β} {y : β} :
    a >>= f = .ok y ↔ ∃ x, a = .ok x ∧ f x = .ok y := by
  constructor
  · intro h
    cases a with
    | error e => cases h
    | ok x => exact ⟨x, rfl, h⟩
  · rintro ⟨x, rfl, h⟩
    exact h

theorem map_eq_ok {a : Except ε α} {f : α → β} {y : β} :
    a.map f = .ok y ↔ ∃ x, a = .ok x ∧ f x = y := by
  cases a <;> simp [Except.map]

theorem map_eq_error {a : Except ε α} {f : α → β} {e : ε} :
    a.map f = .error e ↔ a = .error e := by
  cases a <;> simp [Except.map]

namespace Database

def run (db : Database) (s : StateM Database α) : α × Database := StateT.run s db

@[simp] theorem run_pure (db : Database) (x : α) : db.run (pure x) = (x, db) := rfl

@[simp] theorem run_bind (db : Database) (s : StateM Database α) (f : α → StateM Database β) :
    db.run (s >>= f) = (db.run s).2.run (f (db.run s).1) := rfl

end Database

namespace Action

/-- The outcome of an action and the database after it. -/
def on (a : Action ε α) (db : Database) : Except ε α × Database := db.run a.run

@[simp] theorem run_run (a : Action ε α) (db : Database) : db.run a.run = a.on db := rfl

@[simp] theorem on_pure (x : α) (db : Database) : (pure x : Action ε α).on db = (.ok x, db) := rfl

@[simp] theorem on_ofExcept (outcome : Except CallError α) (db : Database) :
    (ofExcept outcome).on db = (outcome, db) := rfl

@[simp] theorem on_get (db : Database) : (get : Action ε Database).on db = (.ok db, db) := rfl

@[simp] theorem on_set (db' db : Database) :
    (set db' : Action ε PUnit).on db = (.ok (), db') := rfl

@[simp] theorem on_modify (f : Database → Database) (db : Database) :
    (modify f : Action ε PUnit).on db = (.ok (), f db) := rfl

@[simp] theorem on_lift (s : StateM Database α) (db : Database) :
    (liftM s : Action ε α).on db = (.ok (db.run s).1, (db.run s).2) := rfl

@[simp] theorem on_bind (a : Action ε α) (f : α → Action ε β) (db : Database) :
    (a >>= f).on db =
      match a.on db with
      | (.ok x, db') => (f x).on db'
      | (.error e, db') => (.error e, db') := by
  change db.run (a.run >>= ExceptT.bindCont f) = _
  rw [Database.run_bind, run_run]
  rcases a.on db with ⟨_ | _, _⟩ <;> rfl

theorem on_bind_ok {a : Action ε α} {x : α} {db db' : Database} (h : a.on db = (.ok x, db'))
    (f : α → Action ε β) : (a >>= f).on db = (f x).on db' := by
  rw [on_bind, h]

@[simp] theorem on_adapt (g : ε → ε') (a : Action ε α) (db : Database) :
    on (ExceptT.adapt g a) db = ((a.on db).1.mapError g, (a.on db).2) := rfl

@[simp] theorem on_asCall (a : Action BackendError α) (db : Database) :
    a.asCall.on db = ((a.on db).1.mapError CallError.backend, (a.on db).2) := rfl

@[simp] theorem on_thenRelease (work : Action CallError α) (release : Action CallError Unit)
    (db : Database) :
    (work.thenRelease release).on db =
      (mergeRelease (work.on db).1 (release.on (work.on db).2).1,
        (release.on (work.on db).2).2) := rfl

end Action

end ProcCall
