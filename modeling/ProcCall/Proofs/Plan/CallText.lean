import Mathlib.Data.List.Basic
import ProcCall.Call.Placeholder

/-! # Call texts

The database knows a routine by the text of the call alone. When dots and opening brackets
occur only where the text puts them, no two calls have the same text.
-/

namespace ProcCall.CallText

def written (qualifiers : List (Option String)) : List String :=
  qualifiers.filterMap fun q => q.filter (· ≠ "")

/-- A part that cannot be taken for two parts, or for the end of the name. -/
def IsPlain (s : String) : Prop := '.' ∉ s.toList ∧ '(' ∉ s.toList

instance : DecidablePred IsPlain := fun _ => inferInstanceAs (Decidable (_ ∧ _))

def path (parts : List String) : List Char := ['.'].intercalate (parts.map String.toList)

def lead (function : Bool) : List Char :=
  if function then "\x7b ? = call ".toList else "\x7bcall ".toList

def marks (count : Nat) : List Char := (List.replicate count '?').intersperse ','

/-- What the text has between its first opening bracket and its end. -/
def Encloses (text : String) (between : List Char) : Prop :=
  ∃ front, '(' ∉ front ∧ text.toList = front ++ '(' :: (between ++ [')', '\x7d'])

/-! ## The text in parts -/

@[simp] theorem path_singleton (s : String) : path [s] = s.toList := by
  simp [path]

theorem path_cons {parts : List String} (h : parts ≠ []) (s : String) :
    path (s :: parts) = s.toList ++ '.' :: path parts := by
  obtain ⟨next, rest, rfl⟩ := List.exists_cons_of_ne_nil h
  simp [path]

theorem written_cons (q : Option String) (rest : List (Option String)) :
    written (q :: rest) = (q.filter (· ≠ "")).toList ++ written rest := by
  rw [written, List.filterMap_cons]
  cases q.filter (· ≠ "") <;> rfl

theorem path_written (qualifiers : List (Option String)) (name : String) :
    path (written qualifiers ++ [name]) =
      (qualifiers.flatMap fun q => (qualifier q).toList) ++ name.toList := by
  induction qualifiers with
  | nil => exact path_singleton name
  | cons q rest ih =>
    rw [written_cons, List.append_assoc, List.flatMap_cons, List.append_assoc, ← ih]
    rcases q with _ | q
    · rfl
    · by_cases hq : q = ""
      · subst hq
        rfl
      · have hfilter : (some q).filter (· ≠ "") = some q := by simp [Option.filter, hq]
        rw [hfilter, Option.toList_some, List.singleton_append, path_cons (by simp), qualifier,
          if_neg hq]
        simp

theorem marks_succ_succ (n : Nat) : marks (n + 2) = '?' :: ',' :: marks (n + 1) := rfl

theorem toList_placeholders (count : Nat) : (placeholders count).toList = marks count := by
  induction count with
  | zero => rfl
  | succ n ih =>
    cases n with
    | zero => rfl
    | succ n =>
      rw [placeholders, List.replicate_succ] at ih ⊢
      rw [List.replicate_succ, String.intercalate_cons_cons, marks_succ_succ, ← ih]
      simp

theorem toList_callString (package schema : Option String) (name : String) (count : Nat)
    (function : Bool) :
    (callString package schema name count function).toList =
      lead function ++ path (written [package, schema] ++ [name]) ++
        '(' :: (marks count ++ [')', '\x7d']) := by
  rw [path_written]
  cases function <;> simp [callString, lead, toList_placeholders]

/-! ## The parts of a text -/

section Brackets

variable {function function' : Bool} {parts parts' : List String} {count count' : Nat}

theorem mem_marks {c : Char} (h : c ∈ marks count) : c = '?' ∨ c = ',' := by
  induction count with
  | zero => simp [marks] at h
  | succ n ih =>
    cases n with
    | zero => simpa [marks] using Or.inl h
    | succ n =>
      rw [marks_succ_succ] at h
      rcases List.mem_cons.mp h with h | h
      · exact .inl h
      · rcases List.mem_cons.mp h with h | h
        · exact .inr h
        · exact ih h

theorem length_marks (count : Nat) : (marks count).length = 2 * count - 1 := by
  rw [marks, List.length_intersperse, List.length_replicate]

theorem marks_injective (h : marks count = marks count') : count = count' := by
  have hlength := congrArg List.length h
  rw [length_marks, length_marks] at hlength
  omega

theorem mem_path {c : Char} (h : c ∈ path parts) : c = '.' ∨ ∃ s ∈ parts, c ∈ s.toList := by
  induction parts with
  | nil => simp [path] at h
  | cons s rest ih =>
    by_cases hr : rest = []
    · subst hr
      rw [path_singleton] at h
      exact .inr ⟨s, List.mem_cons_self, h⟩
    · rw [path_cons hr, List.mem_append, List.mem_cons] at h
      rcases h with h | h | h
      · exact .inr ⟨s, List.mem_cons_self, h⟩
      · exact .inl h
      · exact (ih h).imp_right fun ⟨t, ht, hc⟩ => ⟨t, List.mem_cons_of_mem _ ht, hc⟩

theorem bracket_notMem_front (h : ∀ s ∈ parts, IsPlain s) : '(' ∉ lead function ++ path parts := by
  intro hmem
  rcases List.mem_append.mp hmem with hl | hp
  · cases function <;> simp [lead] at hl
  · rcases mem_path hp with hdot | ⟨s, hs, hc⟩
    · cases hdot
    · exact (h s hs).2 hc

theorem bracket_notMem_back : '(' ∉ marks count ++ [')', '\x7d'] := by
  intro hmem
  rcases List.mem_append.mp hmem with hm | he
  · rcases mem_marks hm with h | h <;> cases h
  · simp at he

/-- The second character tells functions and procedures apart. -/
theorem lead_append_inj {xs ys : List Char} (h : lead function ++ xs = lead function' ++ ys) :
    function = function' ∧ xs = ys := by
  cases function <;> cases function' <;> simp_all [lead]

theorem path_injective (hne : parts ≠ []) (hne' : parts' ≠ [])
    (h : ∀ s ∈ parts, IsPlain s) (h' : ∀ s ∈ parts', IsPlain s)
    (heq : path parts = path parts') : parts = parts' := by
  have hsplit : ∀ {ps : List String}, ps ≠ [] → (∀ s ∈ ps, IsPlain s) →
      (path ps).splitOn '.' = ps.map String.toList := by
    intro ps hps hplain
    refine List.splitOn_intercalate '.' ?_ (by simpa using hps)
    intro l hl
    obtain ⟨s, hs, rfl⟩ := List.mem_map.mp hl
    exact (hplain s hs).1
  have hmap := hsplit hne h
  rw [heq, hsplit hne' h'] at hmap
  exact (List.map_injective_iff.mpr (fun _ _ => String.toList_inj.mp) hmap).symm

end Brackets

/-- Texts are equal only if they have the same parts. The placeholders stand between the
brackets. -/
theorem call_text_unambiguous (package schema package' schema' : Option String)
    (name name' : String) (count count' : Nat) (function function' : Bool)
    (h : ∀ s ∈ written [package, schema] ++ [name], IsPlain s)
    (h' : ∀ s ∈ written [package', schema'] ++ [name'], IsPlain s) :
    (callString package schema name count function =
        callString package' schema' name' count' function' ↔
      function = function' ∧ written [package, schema] = written [package', schema'] ∧
        name = name' ∧ count = count') ∧
    ∀ between, Encloses (callString package schema name count function) between ↔
      between = marks count := by
  refine ⟨?_, fun between => ?_⟩
  · rw [← String.toList_inj, toList_callString, toList_callString,
      List.append_cons_inj_of_notMem (bracket_notMem_front h) bracket_notMem_back]
    constructor
    · rintro ⟨hfront, -, hback⟩
      obtain ⟨hfunction, hpath⟩ := lead_append_inj hfront
      have hparts := path_injective (by simp) (by simp) h h' hpath
      obtain ⟨hwritten, hname⟩ := List.append_inj' hparts rfl
      exact ⟨hfunction, hwritten, List.singleton_inj.mp hname,
        marks_injective (List.append_cancel_right hback)⟩
    · rintro ⟨rfl, hwritten, rfl, rfl⟩
      rw [hwritten]
      exact ⟨rfl, rfl, rfl⟩
  · rw [Encloses, toList_callString]
    constructor
    · rintro ⟨front, -, heq⟩
      rw [List.append_cons_inj_of_notMem (bracket_notMem_front h) bracket_notMem_back] at heq
      exact (List.append_cancel_right heq.2.2).symm
    · rintro rfl
      exact ⟨_, bracket_notMem_front h, rfl⟩

/-- A qualifier that is empty is one that is absent. -/
theorem call_text_unambiguous_empty :
    (∀ s ∈ written [some "", some "app"] ++ ["plus"], IsPlain s) ∧
    (∀ s ∈ written [some "app", none] ++ ["plus"], IsPlain s) ∧
    callString (some "") (some "app") "plus" 2 true =
      callString (some "app") none "plus" 2 true ∧
    Encloses (callString (some "") (some "app") "plus" 2 true) ['?', ',', '?'] := by
  have hplain : ∀ s ∈ written [some "", some "app"] ++ ["plus"], IsPlain s := by decide
  have hplain' : ∀ s ∈ written [some "app", none] ++ ["plus"], IsPlain s := by decide
  obtain ⟨hsame, hbetween⟩ := call_text_unambiguous (some "") (some "app") (some "app") none
    "plus" "plus" 2 2 true true hplain hplain'
  exact ⟨hplain, hplain', hsame.mpr ⟨rfl, rfl, rfl, rfl⟩, (hbetween _).mpr rfl⟩

/-- A dot in a qualifier hides where it ends. -/
example : callString (some "a.b") none "c" 1 false = callString (some "a") (some "b") "c" 1 false :=
  rfl

end ProcCall.CallText
