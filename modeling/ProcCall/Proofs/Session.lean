import ProcCall.Caller
import ProcCall.Proofs.Call.Record

/-! # Sessions

A session is a sequence of requests to one caller. Whatever is asked of it, every array
of the scripted database has been released exactly once and every call is closed when a
request has been served.
-/

namespace ProcCall

inductive Request where
  | plan (method : String)
  | invoke (method : String) (args : List Argument)

namespace Caller

def serve (d : Driver) (c : Caller) : Request → StateM Database Caller
  | .plan method => pure (c.descriptor method).2
  | .invoke method args => Prod.snd <$> c.invoke d method args

def serveAll (d : Driver) (c : Caller) : List Request → StateM Database Caller
  | [] => pure c
  | r :: rest => do (← c.serve d r).serveAll d rest

theorem run_invoke (d : Driver) (c : Caller) (method : String) (args : List Argument)
    (db : Database) :
    db.run (c.invoke d method args) =
      ((((call d method args (c.descriptor method).1).on db).1, (c.descriptor method).2),
        ((call d method args (c.descriptor method).1).on db).2) := rfl

/-- The record that a call of a method adds, given what was found of the method. -/
def callRecord? (args : List Argument) (db : Database) :
    Except ConfigError Descriptor → Option CallRecord
  | .error _ => none
  | .ok x => if args.length = x.parameterCount then x.invocationRecord? args db else none

theorem settles_call (method : String) (args : List Argument) (db : Database)
    (found : Except ConfigError Descriptor) :
    db.Settles (callRecord? args db found).toList
      ((call Scripted.driver method args found).on db).2 := by
  cases found with
  | error e => exact .refl db
  | ok x =>
    by_cases hn : args.length = x.parameterCount
    · simp only [call, callRecord?, if_pos hn]
      exact x.settles_invoke args db
    · simp only [call, callRecord?, if_neg hn]
      exact .refl db

theorem closed_of_mem_callRecord? {args : List Argument} {db : Database}
    {found : Except ConfigError Descriptor} {r : CallRecord} (h : r ∈ callRecord? args db found) :
    r.closed = true := by
  unfold callRecord? at h
  split at h
  · cases h
  · split at h
    · obtain ⟨leases, _, _, rfl⟩ := Descriptor.eq_record_of_mem _ _ h
      rfl
    · cases h

end Caller

namespace Database

/-- Every array has been released exactly once, and every call is closed. -/
structure Settled (db : Database) : Prop where
  arrays : ∀ a ∈ db.arrays, a.freeCount = 1
  calls : ∀ r ∈ db.calls, r.closed = true

/-- At most one call was added, and no earlier record was touched. -/
structure ExtendsByCall (db db' : Database) : Prop where
  length_calls : db'.calls.length ≤ db.calls.length + 1
  calls : db.calls <+: db'.calls
  arrays : db.arrays <+: db'.arrays

theorem Settles.extendsByCall {db db' : Database} {record : Option CallRecord}
    (h : db.Settles record.toList db') : db.ExtendsByCall db' := by
  obtain ⟨hc, new, _, ha⟩ := h
  refine ⟨?_, ⟨_, hc.symm⟩, ⟨new, ha.symm⟩⟩
  rw [hc, List.length_append]
  exact Nat.add_le_add_left Option.length_toList_le _

theorem Settles.settled {db db' : Database} {records : List CallRecord}
    (h : db.Settles records db') (hr : ∀ r ∈ records, r.closed = true) (hd : db.Settled) :
    db'.Settled := by
  obtain ⟨hc, new, hn, ha⟩ := h
  constructor
  · intro a hm
    rw [ha] at hm
    exact (List.mem_append.mp hm).elim (hd.arrays a) (hn a)
  · intro r hm
    rw [hc] at hm
    exact (List.mem_append.mp hm).elim (hd.calls r) (hr r)

end Database

namespace Caller

theorem settled_invoke (c : Caller) (method : String) (args : List Argument) {db : Database}
    (h : db.Settled) : (db.run (c.invoke Scripted.driver method args)).2.Settled :=
  (settles_call method args db (c.descriptor method).1).settled
    (fun _ hr => closed_of_mem_callRecord? (Option.mem_toList.mp hr)) h

theorem settled_serve (c : Caller) (r : Request) {db : Database} (h : db.Settled) :
    (db.run (c.serve Scripted.driver r)).2.Settled := by
  cases r with
  | plan method => exact h
  | invoke method args => exact c.settled_invoke method args h

theorem settled_serveAll (requests : List Request) (c : Caller) {db : Database} (h : db.Settled) :
    (db.run (c.serveAll Scripted.driver requests)).2.Settled := by
  induction requests generalizing c db with
  | nil => exact h
  | cons r rest ih => exact ih _ (c.settled_serve r h)

/-- After any session on a fresh database nothing is held, and no invocation adds more than
one call or touches an earlier record, whatever the database holds. -/
theorem session_settles (interface : Interface) (config : CallerConfig)
    (scripts : List (String × Script)) (freeFailures : List (Nat × String))
    (arrayCreationFailure : Option (Nat × String)) (untyped : Bool) :
    (∀ requests : List Request,
      let fresh : Database := { scripts, freeFailures, arrayCreationFailure, untyped }
      (fresh.run (serveAll Scripted.driver { interface, config } requests)).2.Settled) ∧
    ∀ (c : Caller) (db : Database) (method : String) (args : List Argument),
      db.ExtendsByCall (db.run (c.invoke Scripted.driver method args)).2 := by
  constructor
  · intro requests
    exact settled_serveAll requests _ ⟨by simp, by simp⟩
  · intro c db method args
    exact (settles_call method args db (c.descriptor method).1).extendsByCall

end Caller

end ProcCall
