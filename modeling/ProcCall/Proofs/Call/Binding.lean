import ProcCall.Call.Binder
import ProcCall.Proofs.Scripted.Steps

/-! # What binding records

Whatever the binder, binding is one loop over the arguments, each bound through its array if the
binder expects arrays and there is one. A binder leaves one entry for each argument that has a
slot, in order, up to the first argument it refuses. On the scripted driver these entries are
all that binding changes.
-/

namespace ProcCall

def Binding.ofValue (type : Option SqlType) (v : Value) : Binding :=
  match type with
  | none => .value v
  | some t => if v = .null then .null t else .typed v t

namespace Binder

/-! ## One loop -/

def usesArrays : Binder → Bool
  | resourceBacked _ => true
  | _ => false

section Loop

variable (d : Driver) (stmt : Statement) (b : Binder) (leases : List ArrayLease)

def bindThrough (array : Option ArrayHandle) (i : Nat) (a : Argument) : Action CallError Unit :=
  match array with
  | some array => b.bindArray d stmt i array
  | none => b.bindArgument d stmt i a

/-- Binds the arguments from the ith on, each through its array if it has one. -/
def bindFrom : Nat → List Argument → Action CallError Unit :=
  bindEach fun i a => b.bindThrough d stmt (ArrayLease.arrayFor? leases i) i a

theorem bindFrom_cons (i : Nat) (a : Argument) (rest : List Argument) :
    b.bindFrom d stmt leases i (a :: rest) =
      b.bindThrough d stmt (ArrayLease.arrayFor? leases i) i a >>= fun _ =>
        b.bindFrom d stmt leases (i + 1) rest := rfl

theorem bindEach_pure {step : Nat → Argument → Action CallError Unit}
    (h : ∀ i a, step i a = pure ()) (i : Nat) (args : List Argument) :
    bindEach step i args = pure () := by
  induction args generalizing i with
  | nil => rfl
  | cons a rest ih => rw [bindEach, h, pure_bind, ih]

/-- The binder without parameters has nothing to bind and does not look at the arguments. The
others bind in one loop, through arrays or by values. -/
theorem bind_eq (args : List Argument) :
    b.bind d stmt args leases = b.bindFrom d stmt (if b.usesArrays then leases else []) 0 args := by
  cases b with
  | noParameters => exact (bindEach_pure (fun _ _ => rfl) 0 args).symm
  | resourceBacked inner =>
    have hstep : ∀ i, (ArrayLease.Holding.ofLeases leases).arrayFor? i =
        ArrayLease.arrayFor? leases i := ArrayLease.Holding.arrayFor?_ofLeases leases
    simp only [bind, hstep]
    rfl
  | _ => rfl

end Loop

/-! ## Entries -/

def entryAt (slot : Slot) (b : Binding) : Except CallError (Slot × Binding) :=
  if slot = .index 0 then .error (.backend ⟨.query, "parameter index 0 is out of range"⟩)
  else .ok (slot, b)

/-- The entry of an argument, or why it is refused; nothing if it is not bound. -/
def entry (b : Binder) (array : Option ArrayHandle) (i : Nat) (a : Argument) :
    Except CallError (Option (Slot × Binding)) :=
  match b.slot? i with
  | none => .ok none
  | some slot =>
    match array, a with
    | some array, _ => (entryAt slot (.array array.data.typeName)).map some
    | none, .value v => (entryAt slot (.ofValue (b.sqlType? i) v)).map some
    | none, .mapper _ => .error (.fault (.argumentShape i "value"))

/-- The entries of the arguments from the ith on, up to the first that is refused. -/
def entriesFrom (b : Binder) (leases : List ArrayLease) (i : Nat) :
    List Argument → List (Slot × Binding) × Option CallError
  | [] => ([], none)
  | a :: rest =>
    match b.entry (ArrayLease.arrayFor? leases i) i a with
    | .error e => ([], some e)
    | .ok e =>
      (e.toList ++ (b.entriesFrom leases (i + 1) rest).1, (b.entriesFrom leases (i + 1) rest).2)

def entries (b : Binder) (args : List Argument) (leases : List ArrayLease) :
    List (Slot × Binding) × Option CallError :=
  b.entriesFrom (if b.usesArrays then leases else []) 0 args

theorem entry_eq_error {b : Binder} {array : Option ArrayHandle} {i : Nat} {a : Argument}
    (h₀ : b.slot? i ≠ some (.index 0)) {e : CallError} :
    b.entry array i a = .error e ↔ (b.slot? i).isSome = true ∧ array = none ∧
      (∃ m, a = .mapper m) ∧ e = .fault (.argumentShape i "value") := by
  unfold entry
  rcases hs : b.slot? i with _ | slot
  · simp
  · have hslot : slot ≠ .index 0 := fun h => h₀ (hs.trans (congrArg some h))
    rcases array with _ | array <;> rcases a with v | m <;>
      simp [entryAt, hslot, Except.map, eq_comm]

/-- Binding stops at the first argument that is refused. -/
theorem exists_refused {b : Binder} {leases : List ArrayLease} {i : Nat} {args : List Argument}
    {e : CallError} (h : (b.entriesFrom leases i args).2 = some e) :
    ∃ j a, args[j]? = some a ∧
      b.entry (ArrayLease.arrayFor? leases (i + j)) (i + j) a = .error e ∧
      b.entriesFrom leases i (args.take j) = ((b.entriesFrom leases i args).1, none) := by
  induction args generalizing i with
  | nil => cases h
  | cons a rest ih =>
    rw [entriesFrom] at h ⊢
    rcases he : b.entry (ArrayLease.arrayFor? leases i) i a with e' | first <;> rw [he] at h
    · obtain rfl := Option.some.inj h
      exact ⟨0, a, rfl, he, rfl⟩
    · obtain ⟨j, c, hj, hc, ht⟩ := ih h
      refine ⟨j + 1, c, hj, ?_, ?_⟩
      · rw [Nat.add_right_comm] at hc
        exact hc
      · rw [List.take_succ_cons, entriesFrom, he, ht]

variable (b : Binder) (stmt : Statement)

theorem bindValue_on (slot : Slot) (type : Option SqlType) (v : Value) (db : Database) :
    (bindValue Scripted.driver stmt slot type v).on db =
      (Scripted.bind stmt slot (.ofValue type v)).on db := by
  cases type with
  | none => rfl
  | some t =>
    by_cases hv : v = .null
    · subst hv; rfl
    · simp only [bindValue, Binding.ofValue, if_neg hv]; rfl

theorem asCall_bind_on (slot : Slot) (e : Binding) (db : Database) :
    (Scripted.bind stmt slot e).asCall.on db =
      match entryAt slot e with
      | .error e => (.error e, db)
      | .ok e =>
        (.ok (), db.update stmt.call fun r => { r with bindings := r.bindings ++ [e] }) := by
  rw [Action.on_asCall, Scripted.bind_on, entryAt]
  split <;> rfl

theorem update_same (db : Database) (i : Nat) : (db.update i fun r => { r with }) = db :=
  db.update_id i

theorem bindThrough_on (array : Option ArrayHandle) (i : Nat) (a : Argument) (db : Database) :
    (b.bindThrough Scripted.driver stmt array i a).on db =
      match b.entry array i a with
      | .error e => (.error e, db)
      | .ok e =>
        (.ok (), db.update stmt.call fun r => { r with bindings := r.bindings ++ e.toList }) := by
  unfold bindThrough bindArray bindArgument entry
  cases b.slot? i with
  | none =>
    cases array <;>
      exact Prod.ext rfl (by simp only [Option.toList_none, List.append_nil, update_same]; rfl)
  | some slot =>
    rcases array with _ | array <;> rcases a with v | m <;> dsimp only
    · rw [Action.on_asCall, bindValue_on, ← Action.on_asCall, asCall_bind_on]
      cases entryAt slot (.ofValue (b.sqlType? i) v) <;> rfl
    · rfl
    all_goals
      change (Scripted.bind stmt slot (.array array.data.typeName)).asCall.on db = _
      rw [asCall_bind_on]
      cases entryAt slot (.array array.data.typeName) <;> rfl

/-- The outcome of a step that only says why it failed, if it did. -/
def outcome : Option CallError → Except CallError Unit
  | some e => .error e
  | none => .ok ()

theorem outcome_eq_ok {o : Option CallError} : outcome o = .ok () ↔ o = none := by
  cases o <;> simp [outcome]

theorem outcome_eq_error {o : Option CallError} {e : CallError} :
    outcome o = .error e ↔ o = some e := by
  cases o <;> simp [outcome]

/-- Binding leaves the entries up to the first refusal and fails with that refusal. -/
theorem bindFrom_on (leases : List ArrayLease) (i : Nat) (args : List Argument) (db : Database) :
    (b.bindFrom Scripted.driver stmt leases i args).on db =
      (outcome (b.entriesFrom leases i args).2,
        db.update stmt.call fun r =>
          { r with bindings := r.bindings ++ (b.entriesFrom leases i args).1 }) := by
  induction args generalizing i db with
  | nil =>
    simp only [bindFrom, bindEach, entriesFrom, List.append_nil]
    rw [Action.on_pure, update_same]; rfl
  | cons a rest ih =>
    rw [bindFrom_cons, Action.on_bind, bindThrough_on, entriesFrom]
    cases b.entry (ArrayLease.arrayFor? leases i) i a with
    | error e => simp only [List.append_nil]; rw [update_same]; rfl
    | ok e =>
      simp only [ih, Database.update_update, Function.comp_def, List.append_assoc]

theorem bind_on (args : List Argument) (leases : List ArrayLease) (db : Database) :
    (b.bind Scripted.driver stmt args leases).on db =
      (outcome (b.entries args leases).2,
        db.update stmt.call fun r =>
          { r with bindings := r.bindings ++ (b.entries args leases).1 }) := by
  rw [bind_eq]
  exact b.bindFrom_on stmt _ 0 args db

end Binder

end ProcCall
