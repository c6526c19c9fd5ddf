import ProcCall.Proofs.Call.Binding

/-! # Binders around binders

A binder that binds arrays leaves everything else to the binder inside. Without arrays it is
that binder, and another one around it changes nothing. However binders are nested, binding
records the arguments in order and stops at the first that is refused.
-/

namespace ProcCall.Binder

/-! ## Nesting -/

section Nesting

def core : Binder → Binder
  | resourceBacked inner => inner.core
  | b => b

theorem slot?_core (b : Binder) (i : Nat) : b.core.slot? i = b.slot? i := by
  induction b with
  | resourceBacked inner ih => exact ih
  | _ => rfl

theorem usesArrays_core (b : Binder) : b.core.usesArrays = false := by
  induction b with
  | resourceBacked inner ih => exact ih
  | _ => rfl

theorem sqlType?_core (b : Binder) (i : Nat) : b.core.sqlType? i = b.sqlType? i := by
  induction b with
  | resourceBacked inner ih => exact ih
  | _ => rfl

variable (d : Driver) (stmt : Statement) (b : Binder) (leases : List ArrayLease)

theorem bindThrough_core (array : Option ArrayHandle) (i : Nat) (a : Argument) :
    b.core.bindThrough d stmt array i a = b.bindThrough d stmt array i a := by
  simp only [bindThrough, bindArray, bindArgument, slot?_core, sqlType?_core]

/-- Slots and types are those of the innermost binder, so it does not matter how deep it is
once it is known which arrays count. -/
theorem bindFrom_core (i : Nat) (args : List Argument) :
    b.core.bindFrom d stmt leases i args = b.bindFrom d stmt leases i args := by
  simp only [bindFrom, bindThrough_core]

theorem bind_resourceBacked (args : List Argument) :
    (resourceBacked b).bind d stmt args leases = b.bindFrom d stmt leases 0 args := by
  have houter := (resourceBacked b).bindFrom_core d stmt leases 0 args
  rw [bind_eq, ← b.bindFrom_core d stmt leases]
  exact houter.symm

theorem bind_nil (args : List Argument) :
    b.bind d stmt args [] = b.bindFrom d stmt [] 0 args := by
  rw [bind_eq, ite_self]

theorem bind_core (args : List Argument) :
    b.core.bind d stmt args leases = b.core.bind d stmt args [] := by
  rw [bind_eq, bind_eq, usesArrays_core]
  rfl

end Nesting

/-! ## Refusals -/

section Refusals

variable (b : Binder) (leases : List ArrayLease)

def arrayOf (i : Nat) : Option ArrayHandle :=
  ArrayLease.arrayFor? (if b.usesArrays then leases else []) i

/-- The entries of the arguments from the ith on that are not refused, each taken by itself. -/
def acceptedFrom (i : Nat) (args : List Argument) : List (Slot × Binding) :=
  (args.zipIdx i).filterMap fun (a, j) => (b.entry (b.arrayOf leases j) j a).toOption.join

def accepted (args : List Argument) : List (Slot × Binding) := b.acceptedFrom leases 0 args

/-- How binding ends, and what it has recorded then. -/
inductive Ends (args : List Argument) : Except CallError Unit → List (Slot × Binding) → Prop
  | bound (h : ∀ i a, args[i]? = some a → ∃ e, b.entry (b.arrayOf leases i) i a = .ok e) :
      Ends args (.ok ()) (b.accepted leases args)
  | refused (i : Nat) (a : Argument) (f : CallError) (ha : args[i]? = some a)
      (hf : b.entry (b.arrayOf leases i) i a = .error f)
      (h : ∀ j a, j < i → args[j]? = some a → ∃ e, b.entry (b.arrayOf leases j) j a = .ok e) :
      Ends args (.error f) (b.accepted leases (args.take i))

variable {b leases}

theorem entry_of_no_slot {i : Nat} (h : b.slot? i = none) (array : Option ArrayHandle)
    (a : Argument) : b.entry array i a = .ok none := by
  rw [entry, h]

theorem acceptedFrom_cons {i : Nat} {a : Argument} {e : Option (Slot × Binding)}
    (h : b.entry (b.arrayOf leases i) i a = .ok e) (rest : List Argument) :
    b.acceptedFrom leases i (a :: rest) = e.toList ++ b.acceptedFrom leases (i + 1) rest := by
  simp only [acceptedFrom, List.zipIdx_cons, List.filterMap_cons, h]
  cases e <;> rfl

theorem entriesFrom_accepted {i : Nat} {args : List Argument}
    (h : (b.entriesFrom (if b.usesArrays then leases else []) i args).2 = none) :
    (∀ j a, args[j]? = some a →
      ∃ e, b.entry (b.arrayOf leases (i + j)) (i + j) a = .ok e) ∧
    (b.entriesFrom (if b.usesArrays then leases else []) i args).1 =
      b.acceptedFrom leases i args := by
  induction args generalizing i with
  | nil => exact ⟨nofun, rfl⟩
  | cons a rest ih =>
    rw [entriesFrom, ← arrayOf] at h ⊢
    rcases he : b.entry (b.arrayOf leases i) i a with f | first <;> rw [he] at h
    · cases h
    · obtain ⟨hrest, hentries⟩ := ih h
      constructor
      · rintro (_ | j) c hc
        · obtain rfl := Option.some.inj hc
          exact ⟨first, he⟩
        · obtain ⟨e, hj⟩ := hrest j c hc
          rw [Nat.add_right_comm] at hj
          exact ⟨e, hj⟩
      · rw [acceptedFrom_cons he, ← hentries]

theorem ends_entries (args : List Argument) :
    b.Ends leases args (outcome (b.entries args leases).2) (b.entries args leases).1 := by
  rcases he : (b.entries args leases).2 with _ | f
  · obtain ⟨haccepted, hentries⟩ := entriesFrom_accepted he
    rw [entries, hentries]
    refine .bound fun i a ha => ?_
    have hi := haccepted i a ha
    rwa [Nat.zero_add] at hi
  · obtain ⟨i, a, ha, hf, htake⟩ := exists_refused he
    obtain ⟨haccepted, hentries⟩ := entriesFrom_accepted (congrArg Prod.snd htake)
    rw [Nat.zero_add] at hf
    rw [entries, ← congrArg Prod.fst htake, hentries]
    refine .refused i a f ha hf fun j c hj hc => ?_
    have hearlier := haccepted j c (by rw [List.getElem?_take_of_lt hj, hc])
    rwa [Nat.zero_add] at hearlier

end Refusals

/-- Without arrays a binder that binds arrays is the binder inside, which takes no notice of
arrays if it is the innermost. With any arrays one around another is that other. Arguments are
recorded in order up to the first that is refused, and those without a slot are passed over. -/
theorem wrapper_transparent (b : Binder) (args : List Argument) (leases : List ArrayLease) :
    (∀ d stmt, (resourceBacked b).bind d stmt args [] = b.bind d stmt args [] ∧
      (resourceBacked b.core).bind d stmt args [] = b.core.bind d stmt args leases ∧
      (resourceBacked (resourceBacked b)).bind d stmt args leases =
        (resourceBacked b).bind d stmt args leases) ∧
    (∀ i a, b.slot? i = none → b.entry (b.arrayOf leases i) i a = .ok none) ∧
    ∀ stmt db, ∃ outcome recorded, b.Ends leases args outcome recorded ∧
      (b.bind Scripted.driver stmt args leases).on db =
        (outcome, db.update stmt.call fun r => { r with bindings := r.bindings ++ recorded }) := by
  refine ⟨fun d stmt => ⟨?_, ?_, ?_⟩, fun i a hs => ?_, fun stmt db => ?_⟩
  · rw [bind_resourceBacked, bind_nil]
  · rw [bind_resourceBacked, bind_core, bind_nil]
  · rw [bind_resourceBacked, bind_resourceBacked, ← bindFrom_core]
    exact b.bindFrom_core d stmt leases 0 args
  · exact entry_of_no_slot hs _ a
  · exact ⟨_, _, ends_entries args, b.bind_on stmt args leases db⟩

/-- The types run out, the second argument has no slot, and the third is refused. -/
theorem wrapper_transparent_stopping :
    let b : Binder := .resourceBacked (.byIndexAndType [some 2, none, some 1, some 3] [.varchar])
    let mapper : Argument := .mapper (.plain fun row => .ok row.first)
    let args : List Argument := [.value .null, mapper, mapper, .value .null]
    let stmt : Statement := ⟨0, {}⟩
    let db : Database := { calls := [{ call := "c" }] }
    b.slot? 1 = none ∧ b.entry (b.arrayOf [] 1) 1 mapper = .ok none ∧
      (b.bind Scripted.driver stmt args []).on db =
        (.error (.fault (.argumentShape 2 "value")),
          { calls := [{ call := "c", bindings := [(.index 2, .null .varchar)] }] }) ∧
      ∃ outcome recorded, b.Ends [] args outcome recorded ∧
        (b.bind Scripted.driver stmt args []).on db =
          (outcome, db.update stmt.call fun r => { r with bindings := r.bindings ++ recorded }) := by
  intro b mapper args stmt db
  obtain ⟨-, hpassed, hends⟩ := wrapper_transparent b args []
  exact ⟨rfl, hpassed 1 mapper rfl, rfl, hends stmt db⟩

end ProcCall.Binder
