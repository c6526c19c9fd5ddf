import Mathlib.Logic.Function.Basic
import ProcCall.Proofs.Scripted.Locality

/-! # Interleaved calls

Several clients use one database, each with its own prepared call. However their acts are
interleaved, each client gets the replies that it would get alone and leaves the record that
it would leave alone, and the records stand in the order in which the calls were prepared.
-/

namespace ProcCall

/-! ## Clients -/

structure Client where
  statement : Option Statement := none
  /-- In the order in which they were handed out. -/
  rowSets : List RowSet := []

inductive Act where
  /-- Once for each client. -/
  | prepare (call : String)
  | operate (op : Operation)
  /-- The next row of a row set that was handed out. -/
  | nextRow (rowSet : Nat)

def Client.act (d : Driver) (c : Client) : Act → StateM Database (Reply × Client)
  | .prepare call =>
    match c.statement with
    | some _ => pure (.missing, c)
    | none => do
      match ← (d.prepare call).run with
      | .ok stmt => pure (.done (.ok ()), { c with statement := some stmt })
      | .error e => pure (.done (.error e), c)
  | .operate op =>
    match c.statement with
    | some stmt => do
      let reply ← op.perform d stmt
      pure (reply, { c with rowSets := c.rowSets ++ reply.rowSet?.toList })
    | none => pure (.missing, c)
  | .nextRow n =>
    match c.rowSets[n]? with
    | some rows =>
      pure (.row (d.next rows).1, { c with rowSets := c.rowSets.set n (d.next rows).2 })
    | none => pure (.missing, c)

structure Entry (ι : Type) where
  client : ι
  act : Act
  reply : Reply

variable {ι : Type}

/-- The acts of the clients one after the other, with their replies. -/
def actAll [DecidableEq ι] (d : Driver) (clients : ι → Client) :
    List (ι × Act) → StateM Database (List (Entry ι) × (ι → Client))
  | [] => pure ([], clients)
  | (i, a) :: rest => do
    let (reply, c) ← (clients i).act d a
    let (log, clients) ← actAll d (Function.update clients i c) rest
    pure (⟨i, a, reply⟩ :: log, clients)

def Client.number? (c : Client) : Option Nat := c.statement.map Statement.call

def Client.record? (c : Client) (db : Database) : Option CallRecord := c.number?.bind db.record?

def Entry.prepared? : Entry ι → Option (ι × String)
  | ⟨i, .prepare call, .done (.ok ())⟩ => some (i, call)
  | _ => none

theorem Entry.prepared?_eq_none {i : ι} {a : Act} {reply : Reply}
    (h : ∀ call, a = .prepare call → reply ≠ .done (.ok ())) :
    (Entry.mk i a reply).prepared? = none := by
  unfold prepared?
  split
  · rename_i he
    cases he
    exact absurd rfl (h _ rfl)
  · rfl

/-! ## One act -/

/-- What an act does: it prepares a call, or else it keeps to the record of its client. -/
inductive Acted (c : Client) (db : Database) : Act → Reply → Client → Database → Prop
  | prepared {call : String} (hc : c.statement = none)
      (hs : (db.script call).prepareError = none) :
      Acted c db (.prepare call) (.done (.ok ()))
        { c with statement := some ⟨db.calls.length, db.script call⟩ } (db.begun call)
  | kept {a : Act} {reply : Reply} {rowSets : List RowSet} {db' : Database}
      (hp : ∀ call, a = .prepare call → reply ≠ .done (.ok ())) (setup : db.SameSetup db')
      (preparedCalls : db'.preparedCalls = db.preparedCalls)
      (others : ∀ k, c.number? ≠ some k → db'.record? k = db.record? k) :
      Acted c db a reply { c with rowSets } db'

theorem Acted.record?_eq {c c' : Client} {db db' : Database} {a : Act} {reply : Reply}
    (h : Acted c db a reply c' db') {k : Nat} (hk : k < db.calls.length)
    (hc : c.number? ≠ some k) : db'.record? k = db.record? k := by
  cases h with
  | prepared _ _ => exact List.getElem?_append_left hk
  | kept _ _ _ others => exact others k hc

theorem Acted.setup {c c' : Client} {db db' : Database} {a : Act} {reply : Reply}
    (h : Acted c db a reply c' db') : db.SameSetup db' := by
  cases h with
  | prepared _ _ => exact db.sameSetup_recorded _
  | kept _ setup _ _ => exact setup

namespace Client

variable {c : Client} {db : Database}

theorem prepare_run (hc : c.statement = none) (call : String) :
    db.run (c.act Scripted.driver (.prepare call)) =
      match (db.script call).prepareError with
      | some e => ((.done (.error e), c), db)
      | none =>
        ((.done (.ok ()), { c with statement := some ⟨db.calls.length, db.script call⟩ }),
          db.begun call) := by
  simp only [act, hc, Database.run_bind, Action.run_run, Scripted.prepare_on]
  cases (db.script call).prepareError <;> rfl

theorem operate_run {stmt : Statement} (hc : c.statement = some stmt) (op : Operation) :
    db.run (c.act Scripted.driver (.operate op)) =
      (((db.run (op.perform Scripted.driver stmt)).1, { c with
          rowSets := c.rowSets ++ (db.run (op.perform Scripted.driver stmt)).1.rowSet?.toList }),
        (db.run (op.perform Scripted.driver stmt)).2) := by
  simp only [act, hc, Database.run_bind, Database.run_pure]

theorem acted (c : Client) (a : Act) (db : Database) :
    Acted c db a (db.run (c.act Scripted.driver a)).1.1 (db.run (c.act Scripted.driver a)).1.2
      (db.run (c.act Scripted.driver a)).2 := by
  cases a with
  | prepare call =>
    rcases hc : c.statement with _ | stmt
    · rw [prepare_run hc]
      rcases hs : (db.script call).prepareError with _ | e
      · exact .prepared hc hs
      · exact .kept (by simp) (.refl db) rfl fun _ _ => rfl
    · simp only [act, hc, Database.run_pure]
      exact .kept (by simp) (.refl db) rfl fun _ _ => rfl
  | operate op =>
    rcases hc : c.statement with _ | stmt
    · simp only [act, hc, Database.run_pure]
      exact .kept (by simp) (.refl db) rfl fun _ _ => rfl
    · rw [operate_run hc]
      have htouches := op.local_perform.touches stmt db
      refine .kept (by simp) htouches.setup htouches.preparedCalls fun k hk => ?_
      refine htouches.others k fun h => hk ?_
      rw [Client.number?, hc, h]
      rfl
  | nextRow n =>
    rcases hn : c.rowSets[n]? with _ | rows
    · simp only [act, hn, Database.run_pure]
      exact .kept (by simp) (.refl db) rfl fun _ _ => rfl
    · simp only [act, hn, Database.run_pure]
      exact .kept (by simp) (.refl db) rfl fun _ _ => rfl

end Client

/-! ## A client alone -/

/-- Two clients that cannot be told apart, each on its database. -/
structure Mirrors (c : Client) (db : Database) (c' : Client) (db' : Database) : Prop where
  rowSets : c.rowSets = c'.rowSets
  scripts : db.scripts = db'.scripts
  untyped : db.untyped = db'.untyped
  statement : Option.Rel (fun stmt stmt' => stmt.script = stmt'.script ∧
    db.record? stmt.call = db'.record? stmt'.call) c.statement c'.statement

namespace Mirrors

variable {c c' : Client} {db db' : Database}

theorem record?_eq (h : Mirrors c db c' db') : c.record? db = c'.record? db' := by
  obtain ⟨statement, rowSets⟩ := c
  obtain ⟨statement', rowSets'⟩ := c'
  cases h.statement with
  | none => rfl
  | some hstmt => exact hstmt.2

theorem frame (h : Mirrors c db c' db') {db₁ : Database} (hs : db.SameSetup db₁)
    (hr : ∀ k, c.number? = some k → db₁.record? k = db.record? k) :
    Mirrors c db₁ c' db' := by
  obtain ⟨statement, rowSets⟩ := c
  obtain ⟨statement', rowSets'⟩ := c'
  refine ⟨h.rowSets, hs.scripts.trans h.scripts, hs.untyped.trans h.untyped, ?_⟩
  cases h.statement with
  | none => exact .none
  | some hstmt => exact .some ⟨hstmt.1, (hr _ rfl).trans hstmt.2⟩

theorem act (h : Mirrors c db c' db') (a : Act) :
    (db.run (c.act Scripted.driver a)).1.1 = (db'.run (c'.act Scripted.driver a)).1.1 ∧
      Mirrors (db.run (c.act Scripted.driver a)).1.2 (db.run (c.act Scripted.driver a)).2
        (db'.run (c'.act Scripted.driver a)).1.2 (db'.run (c'.act Scripted.driver a)).2 := by
  obtain ⟨statement, rowSets⟩ := c
  obtain ⟨statement', rowSets'⟩ := c'
  obtain ⟨hrows, hscripts, huntyped, hstatement⟩ := h
  obtain rfl : rowSets = rowSets' := hrows
  cases a with
  | prepare call =>
    cases hstatement with
    | none =>
      have hscript := Database.script_congr hscripts call
      rw [Client.prepare_run rfl, Client.prepare_run rfl, ← hscript]
      rcases (db.script call).prepareError with _ | e
      · refine ⟨rfl, rfl, hscripts, huntyped, .some ⟨rfl, ?_⟩⟩
        exact (db.record?_recorded { call }).trans (db'.record?_recorded { call }).symm
      · exact ⟨rfl, rfl, hscripts, huntyped, .none⟩
    | some hstmt => exact ⟨rfl, rfl, hscripts, huntyped, .some hstmt⟩
  | operate op =>
    cases hstatement with
    | none => exact ⟨rfl, rfl, hscripts, huntyped, .none⟩
    | @some stmt stmt' hstmt =>
      obtain ⟨hreply, hrecord⟩ := op.local_perform.same hstmt.1 huntyped hstmt.2
      have hsetup := (op.local_perform.touches stmt db).setup
      have hsetup' := (op.local_perform.touches stmt' db').setup
      rw [Client.operate_run rfl, Client.operate_run rfl, hreply]
      exact ⟨rfl, rfl, hsetup.scripts.trans (hscripts.trans hsetup'.scripts.symm),
        hsetup.untyped.trans (huntyped.trans hsetup'.untyped.symm), .some ⟨hstmt.1, hrecord⟩⟩
  | nextRow n =>
    simp only [Client.act]
    rcases rowSets[n]? with _ | rows
    · exact ⟨rfl, rfl, hscripts, huntyped, hstatement⟩
    · exact ⟨rfl, rfl, hscripts, huntyped, hstatement⟩

end Mirrors

/-! ## Clients together -/

section Numbers

variable {first count : Nat} {numbers : ι → Option Nat} {i : ι}

/-- The clients have different numbers, from the first one on and less than `count`. -/
structure Separate (first count : Nat) (numbers : ι → Option Nat) : Prop where
  inRange : ∀ i k, numbers i = some k → first ≤ k ∧ k < count
  distinct : ∀ i j k, numbers i = some k → numbers j = some k → i = j

theorem Separate.update [DecidableEq ι] (h : Separate first count numbers)
    (hfirst : first ≤ count) (i : ι) :
    Separate first (count + 1) (Function.update numbers i (some count)) := by
  constructor
  · intro j k hj
    rw [Function.update_apply] at hj
    split at hj
    · cases hj
      exact ⟨hfirst, Nat.lt_succ_self _⟩
    · exact (h.inRange j k hj).imp_right Nat.lt_succ_of_lt
  · intro j l k hj hl
    rw [Function.update_apply] at hj hl
    split at hj <;> split at hl
    · exact ‹j = i›.trans ‹l = i›.symm
    · cases hj
      exact absurd (h.inRange l _ hl).2 (Nat.lt_irrefl _)
    · cases hl
      exact absurd (h.inRange j _ hj).2 (Nat.lt_irrefl _)
    · exact h.distinct j l k hj hl

theorem map_update_concat [DecidableEq ι] {clients : List ι}
    (h : clients.map numbers = (List.range' first count).map some) (hi : numbers i = none) :
    (clients ++ [i]).map (Function.update numbers i (some (first + count))) =
      (List.range' first (count + 1)).map some := by
  have hothers : clients.map (Function.update numbers i (some (first + count))) =
      clients.map numbers := by
    refine List.map_congr_left fun j hj => Function.update_of_ne ?_ _ _
    rintro rfl
    -- All clients of the list have a number.
    have hsome := List.mem_map_of_mem (f := numbers) hj
    rw [h, hi] at hsome
    obtain ⟨_, _, hn⟩ := List.mem_map.mp hsome
    cases hn
  rw [List.map_append, hothers, h, List.range'_1_concat, List.map_append]
  simp

end Numbers

variable {clients : ι → Client} {db₀ db db' : Database} {i : ι} {a : Act} {reply : Reply}
  {c : Client}

theorem number?_update [DecidableEq ι] (clients : ι → Client) (i : ι) (c : Client) :
    (fun j => (Function.update clients i c j).number?) =
      Function.update (fun j => (clients j).number?) i c.number? := by
  funext j
  rw [Function.update_apply, Function.update_apply, apply_ite Client.number?]

/-- The calls that were prepared are recorded in order after the first ones, which are left as
they were. -/
structure InOrder (db₀ : Database) (prepared : List (ι × String)) (clients : ι → Client)
    (db : Database) : Prop where
  separate : Separate db₀.calls.length db.calls.length fun i => (clients i).number?
  calls : db.preparedCalls = db₀.preparedCalls ++ prepared.map Prod.snd
  numbers : (prepared.map Prod.fst).map (fun i => (clients i).number?) =
    (List.range' db₀.calls.length prepared.length).map some
  first : ∀ k < db₀.calls.length, db.record? k = db₀.record? k

namespace InOrder

variable {prepared : List (ι × String)}

theorem fresh (db : Database) : InOrder db ([] : List (ι × String)) (fun _ => {}) db where
  separate := ⟨fun _ _ h => (by cases h), fun _ _ _ h => (by cases h)⟩
  calls := (List.append_nil _).symm
  numbers := rfl
  first := fun _ _ => rfl

theorem length_calls (h : InOrder db₀ prepared clients db) :
    db.calls.length = db₀.calls.length + prepared.length := by
  simpa [Database.preparedCalls] using congrArg List.length h.calls

theorem record?_eq (h : InOrder db₀ prepared clients db)
    (hacted : Acted (clients i) db a reply c db') {j : ι} (hj : j ≠ i) {k : Nat}
    (hk : (clients j).number? = some k) : db'.record? k = db.record? k :=
  hacted.record?_eq (h.separate.inRange j k hk).2 fun hi => hj (h.separate.distinct j i k hk hi)

theorem act [DecidableEq ι] (h : InOrder db₀ prepared clients db)
    (hacted : Acted (clients i) db a reply c db') :
    InOrder db₀ (prepared ++ (Entry.mk i a reply).prepared?.toList) (Function.update clients i c)
      db' := by
  have hlength := h.length_calls
  have hle : db₀.calls.length ≤ db.calls.length := hlength ▸ Nat.le_add_right _ _
  have hfirst : ∀ k < db₀.calls.length, db'.record? k = db₀.record? k := by
    intro k hk
    rw [hacted.record?_eq (Nat.lt_of_lt_of_le hk hle), h.first k hk]
    intro hi
    exact Nat.not_lt.mpr (h.separate.inRange i k hi).1 hk
  cases hacted with
  | @prepared call hc _ =>
    have hnone : (clients i).number? = none := by rw [Client.number?, hc]; rfl
    have hentry : (Entry.mk i (.prepare call) (.done (.ok ()))).prepared? = some (i, call) := rfl
    rw [hentry, Option.toList_some]
    refine ⟨?_, ?_, ?_, hfirst⟩
    · rw [number?_update]
      have hcount : (db.begun call).calls.length = db.calls.length + 1 := List.length_append
      rw [hcount]
      exact h.separate.update hle i
    · have hbegun : (db.begun call).preparedCalls = db.preparedCalls ++ [call] := List.map_append
      rw [hbegun, h.calls, List.map_append, List.append_assoc]
      rfl
    · rw [number?_update, List.map_append, List.length_append]
      exact hlength ▸ map_update_concat h.numbers hnone
  | @kept _ _ rowSets _ hp _ preparedCalls _ =>
    have hcount : db'.calls.length = db.calls.length := by
      simpa [Database.preparedCalls] using congrArg List.length preparedCalls
    have hnumbers := number?_update clients i { clients i with rowSets }
    rw [show Client.number? { clients i with rowSets } = (clients i).number? from rfl,
      Function.update_eq_self] at hnumbers
    rw [Entry.prepared?_eq_none hp, Option.toList_none, List.append_nil]
    refine ⟨?_, preparedCalls.trans h.calls, ?_, hfirst⟩
    · rw [hnumbers, hcount]
      exact h.separate
    · rw [hnumbers]
      exact h.numbers

end InOrder

/-! ## Runs -/

variable [DecidableEq ι] {prepared : List (ι × String)}

theorem actAll_cons_run (d : Driver) (clients : ι → Client) (i : ι) (a : Act)
    (rest : List (ι × Act)) (db : Database) :
    db.run (actAll d clients ((i, a) :: rest)) =
      let acted := db.run ((clients i).act d a)
      let after := acted.2.run (actAll d (Function.update clients i acted.1.2) rest)
      ((⟨i, a, acted.1.1⟩ :: after.1.1, after.1.2), after.2) := rfl

theorem acts_actAll (d : Driver) (events : List (ι × Act)) (clients : ι → Client)
    (db : Database) :
    (db.run (actAll d clients events)).1.1.map (fun e => (e.client, e.act)) = events := by
  induction events generalizing clients db with
  | nil => rfl
  | cons event rest ih =>
    rw [actAll_cons_run, List.map_cons, ih]

theorem inOrder_actAll (events : List (ι × Act)) (h : InOrder db₀ prepared clients db) :
    InOrder db₀
      (prepared ++ (db.run (actAll Scripted.driver clients events)).1.1.filterMap Entry.prepared?)
      (db.run (actAll Scripted.driver clients events)).1.2
      (db.run (actAll Scripted.driver clients events)).2 := by
  induction events generalizing prepared clients db with
  | nil =>
    rw [show (db.run (actAll Scripted.driver clients [])).1.1 = [] from rfl,
      List.filterMap_nil, List.append_nil]
    exact h
  | cons event rest ih =>
    obtain ⟨i, a⟩ := event
    have hrest := ih (h.act ((clients i).acted a db))
    rw [actAll_cons_run]
    dsimp only
    rw [List.append_assoc] at hrest
    rw [List.filterMap_cons]
    rcases hp : (Entry.mk i a (db.run ((clients i).act Scripted.driver a)).1.1).prepared? with _ | p
    · rw [hp] at hrest
      exact hrest
    · rw [hp] at hrest
      exact hrest

/-- Alone, a client gets the same replies and leaves the same record. -/
theorem mirrors_actAll (events : List (ι × Act)) (clients clients' : ι → Client)
    (h : InOrder db₀ prepared clients db) (hm : Mirrors (clients i) db (clients' i) db') :
    let together := db.run (actAll Scripted.driver clients events)
    let alone := db'.run (actAll Scripted.driver clients' (events.filter (·.1 = i)))
    together.1.1.filter (·.client = i) = alone.1.1 ∧
      Mirrors (together.1.2 i) together.2 (alone.1.2 i) alone.2 := by
  induction events generalizing prepared clients db clients' db' with
  | nil => exact ⟨rfl, hm⟩
  | cons event rest ih =>
    obtain ⟨j, a⟩ := event
    have hacted := (clients j).acted a db
    rw [actAll_cons_run]
    by_cases hj : j = i
    · subst hj
      obtain ⟨hreply, hmirrors⟩ := hm.act a
      rw [List.filter_cons_of_pos (by simp), actAll_cons_run]
      dsimp only
      rw [List.filter_cons_of_pos (by simp), hreply]
      obtain ⟨hlog, hafter⟩ := ih (Function.update clients j _) (Function.update clients' j _)
        (h.act hacted) (by rw [Function.update_self, Function.update_self]; exact hmirrors)
      exact ⟨congrArg _ hlog, hafter⟩
    · have hmirrors : Mirrors (Function.update clients j
          (db.run ((clients j).act Scripted.driver a)).1.2 i)
          (db.run ((clients j).act Scripted.driver a)).2 (clients' i) db' := by
        rw [Function.update_of_ne (Ne.symm hj)]
        exact hm.frame hacted.setup fun k hk => h.record?_eq hacted (Ne.symm hj) hk
      rw [List.filter_cons_of_neg (by simpa using hj)]
      dsimp only
      rw [List.filter_cons_of_neg (by simpa using hj)]
      exact ih _ clients' (h.act hacted) hmirrors

/-- However the acts of the clients are interleaved, there is a reply to each act, a client gets
the replies and leaves the record that it would alone, and the calls that were prepared are
recorded in order after the earlier ones, which are left as they were. -/
theorem interleaved_calls_independent (events : List (ι × Act)) (db : Database) :
    let together := db.run (actAll Scripted.driver (fun _ => {}) events)
    let prepared := together.1.1.filterMap Entry.prepared?
    together.1.1.map (fun e => (e.client, e.act)) = events ∧
    (∀ i,
      let alone := db.run (actAll Scripted.driver (fun _ => {}) (events.filter (·.1 = i)))
      together.1.1.filter (·.client = i) = alone.1.1 ∧
        (together.1.2 i).record? together.2 = (alone.1.2 i).record? alone.2) ∧
    together.2.preparedCalls = db.preparedCalls ++ prepared.map Prod.snd ∧
    (prepared.map Prod.fst).map (fun i => (together.1.2 i).number?) =
      (List.range' db.calls.length prepared.length).map some ∧
    ∀ k < db.calls.length, together.2.record? k = db.record? k := by
  intro together prepared
  have hfresh : InOrder db [] (fun _ : ι => {}) db := .fresh db
  have horder := inOrder_actAll events hfresh
  refine ⟨acts_actAll _ _ _ _, fun i => ?_, horder.calls, horder.numbers, horder.first⟩
  obtain ⟨hlog, hmirrors⟩ := mirrors_actAll events (fun _ => {}) (fun _ => {}) hfresh
    (⟨rfl, rfl, rfl, .none⟩ : Mirrors ((fun _ => {}) i) db ((fun _ => {}) i) db)
  exact ⟨hlog, hmirrors.record?_eq⟩

/-- Two clients that bind and read the same slot of the same call. -/
example :
    let acts (text : String) : List Act :=
      [.prepare "\x7bcall echo(?)\x7d", .operate (.setValue (.index 1) (.ofText text)),
        .operate (.register (.index 1) .varchar), .operate (.outUntyped (.index 1))]
    let events := (List.zipWith (fun a b => [(false, a), (true, b)]) (acts "a") (acts "b")).flatten
    ((Database.run {} (actAll Scripted.driver (fun _ => {}) events)).1.1.drop 6).map Entry.reply =
      [.value (.ok (.ofText "a")), .value (.ok (.ofText "b"))] := rfl

end ProcCall
