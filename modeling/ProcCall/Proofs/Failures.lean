import ProcCall.Call.Descriptor
import ProcCall.Proofs.Running

/-! # The failures in an error

An error stands for the failures it was put together from, in the order in which they
happened. Merging the outcome of a release puts its failures after the earlier ones, and
wrapping an error changes the first one alone.
-/

namespace ProcCall

variable {α β : Type}

namespace CallError

mutual

/-- All failures of an error, in order. -/
def flatten : CallError → List Fault
  | fault f => [f]
  | suppressed p others => p.flatten ++ flattenAll others

def flattenAll : List CallError → List Fault
  | [] => []
  | e :: es => e.flatten ++ flattenAll es

end

def first : CallError → Fault
  | fault f => f
  | suppressed p _ => p.first

theorem flatten_eq_first_cons : (e : CallError) → ∃ later, e.flatten = e.first :: later
  | fault f => ⟨[], rfl⟩
  | suppressed p others => by
    obtain ⟨later, h⟩ := flatten_eq_first_cons p
    exact ⟨later ++ flattenAll others, by rw [flatten, h]; rfl⟩

theorem flattenAll_append (es more : List CallError) :
    flattenAll (es ++ more) = flattenAll es ++ flattenAll more := by
  induction es with
  | nil => rfl
  | cons e es ih => rw [List.cons_append, flattenAll, flattenAll, ih, List.append_assoc]

theorem flattenAll_map_fault (fs : List Fault) : flattenAll (fs.map CallError.fault) = fs := by
  induction fs with
  | nil => rfl
  | cons f fs ih => exact congrArg (f :: ·) ih

theorem flattenAll_map_backend (bs : List BackendError) :
    flattenAll (bs.map CallError.backend) = bs.map Fault.backend := by
  rw [← flattenAll_map_fault (bs.map Fault.backend), List.map_map]
  rfl

@[simp] theorem primary_withSuppressed (e : CallError) (more : List CallError) :
    (e.withSuppressed more).primary = e.primary := by
  cases more <;> rfl

@[simp] theorem others_withSuppressed (e : CallError) (more : List CallError) :
    (e.withSuppressed more).others = e.others ++ more := by
  cases more with
  | nil => exact (List.append_nil _).symm
  | cons l late => rfl

theorem failures_withSuppressed (e : CallError) (more : List CallError) :
    (e.withSuppressed more).failures = e.failures ++ more := by
  simp only [failures, primary_withSuppressed, others_withSuppressed, List.cons_append]

theorem flatten_withSuppressed (e : CallError) (more : List CallError) :
    (e.withSuppressed more).flatten = e.flatten ++ flattenAll more := by
  cases more with
  | nil => exact (List.append_nil _).symm
  | cons l late =>
    cases e with
    | fault f => rfl
    | suppressed p others =>
      change p.flatten ++ flattenAll (others ++ l :: late) = _
      rw [flattenAll_append, flatten, List.append_assoc]

/-- The failures that are taken out of the outcome of a release. -/
def unpacked : Except CallError Unit → List CallError
  | .ok () => []
  | .error e => e.failures

/-- What the failures of a release were put together to gives them back, all and in order. -/
theorem unpacked_ofFailures (bs : List BackendError) :
    unpacked (ofFailures (bs.map backend)) = bs.map backend := by
  cases bs with
  | nil => rfl
  | cons first late => exact failures_withSuppressed (backend first) (late.map backend)

end CallError

def failuresOf : Except CallError α → List Fault
  | .ok _ => []
  | .error e => e.flatten

theorem failuresOf_mergeRelease (o : Except CallError α) (r : Except CallError Unit) :
    failuresOf (mergeRelease o r) = failuresOf o ++ failuresOf r := by
  rcases o with e | a <;> rcases r with late | ⟨⟩
  · rw [mergeRelease, failuresOf, CallError.flatten_withSuppressed, CallError.flattenAll,
      CallError.flattenAll]
    exact congrArg _ (List.append_nil _)
  · exact (List.append_nil _).symm
  · rfl
  · rfl

theorem failuresOf_ofFailures (es : List CallError) :
    failuresOf (CallError.ofFailures es) = CallError.flattenAll es := by
  cases es with
  | nil => rfl
  | cons e more => exact CallError.flatten_withSuppressed e more

namespace Descriptor

variable (x : Descriptor)

theorem flatten_wrapPrimary : (e : CallError) →
    (x.wrapPrimary e).flatten = e.flatten.modifyHead x.wrapFault
  | .fault f => rfl
  | .suppressed p others => by
    obtain ⟨later, h⟩ := p.flatten_eq_first_cons
    rw [wrapPrimary, CallError.flatten, CallError.flatten, flatten_wrapPrimary p, h]
    rfl

theorem flatten_wrap {e : CallError} {f : Fault} {later : List Fault} (h : e.flatten = f :: later) :
    (x.wrap e).flatten.map CallError.fault = x.wrap (.fault f) :: later.map CallError.fault := by
  rw [wrap, wrap]
  split
  · rw [flatten_wrapPrimary, h]
    rfl
  · rw [h]
    rfl

theorem primary_wrap (e : CallError) : (x.wrap e).primary = x.wrap e.primary := by
  unfold wrap
  split
  · cases e <;> rfl
  · rfl

theorem others_wrap (e : CallError) : (x.wrap e).others = e.others := by
  unfold wrap
  split
  · cases e <;> rfl
  · rfl

end Descriptor

/-! ## Outcomes with one failure -/

def failureOf : Except CallError α → Option Fault
  | .ok _ => none
  | .error e => some e.first

/-- The outcome is a success or has one failure. -/
def OneFault (o : Except CallError α) : Prop := ∀ e, o = .error e → ∃ f, e = .fault f

theorem OneFault.failuresOf_eq {o : Except CallError α} (h : OneFault o) :
    failuresOf o = (failureOf o).toList := by
  cases o with
  | ok x => rfl
  | error e =>
    obtain ⟨f, rfl⟩ := h e rfl
    rfl

def Fault.isWrapped : Fault → Bool
  | callFailed .. => true
  | _ => false

/-- The outcome is a success or has one failure, which does not name its call. -/
def Unwrapped (o : Except CallError α) : Prop :=
  ∀ e, o = .error e → ∃ f, e = .fault f ∧ f.isWrapped = false

theorem unwrapped_ok (x : α) : Unwrapped (.ok x : Except CallError α) := nofun

theorem unwrapped_fault {f : Fault} (h : f.isWrapped = false) :
    Unwrapped (.error (.fault f) : Except CallError α) := by
  rintro e ⟨⟩
  exact ⟨f, rfl, h⟩

theorem Unwrapped.error {e : CallError} (h : Unwrapped (.error e : Except CallError α)) :
    Unwrapped (.error e : Except CallError β) :=
  fun e' he => h e' (congrArg _ (Except.error.inj he))

theorem Unwrapped.bind {o : Except CallError α} {g : α → Except CallError β} (h : Unwrapped o)
    (hg : ∀ x, Unwrapped (g x)) : Unwrapped (o >>= g) := by
  cases o with
  | error e => exact h.error
  | ok x => exact hg x

theorem unwrapped_mapError (o : Except BackendError α) :
    Unwrapped (o.mapError CallError.backend) := by
  cases o with
  | error e => exact unwrapped_fault rfl
  | ok x => exact unwrapped_ok x

theorem Unwrapped.oneFault {o : Except CallError α} (h : Unwrapped o) : OneFault o :=
  fun e he => (h e he).imp fun _ hf => hf.1

namespace Action

def OneFault (a : Action CallError α) : Prop := ∀ db, ProcCall.OneFault (a.on db).1

def Unwrapped (a : Action CallError α) : Prop := ∀ db, ProcCall.Unwrapped (a.on db).1

theorem Unwrapped.oneFault {a : Action CallError α} (h : a.Unwrapped) : a.OneFault :=
  fun db => (h db).oneFault

theorem unwrapped_pure (x : α) : (pure x : Action CallError α).Unwrapped :=
  fun _ => unwrapped_ok x

theorem unwrapped_fault {f : Fault} (h : f.isWrapped = false) :
    (fault f : Action CallError α).Unwrapped := fun _ => ProcCall.unwrapped_fault h

theorem unwrapped_ofExcept {o : Except CallError α} (h : ProcCall.Unwrapped o) :
    (ofExcept o).Unwrapped := fun _ => h

theorem unwrapped_get : (get : Action CallError Database).Unwrapped := fun db => unwrapped_ok db

theorem unwrapped_asCall (a : Action BackendError α) : a.asCall.Unwrapped :=
  fun db => unwrapped_mapError (a.on db).1

theorem Unwrapped.bind {a : Action CallError α} {f : α → Action CallError β} (h : a.Unwrapped)
    (hf : ∀ x, (f x).Unwrapped) : (a >>= f).Unwrapped := by
  intro db
  have ha := h db
  rw [on_bind]
  rcases ho : a.on db with ⟨e | x, db'⟩ <;> rw [ho] at ha
  · exact ha.error
  · exact hf x db'

end Action

end ProcCall
