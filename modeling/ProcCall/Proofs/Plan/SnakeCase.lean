import Mathlib.Tactic.MkIffOfInductiveProp
import ProcCall.Call.Plan
import ProcCall.Proofs.Words

/-! # Snake case as a normal form

Writing a name in snake case keeps its words, because in one case no boundary is left inside
them. So a name in snake case is converted to any other style as the name that it was made
from.
-/

namespace ProcCall.Naming

open Unicode

def IsSnakeCase (case : NameCase) : Prop := case = .snake ∨ case = .upperSnake

instance : DecidablePred IsSnakeCase := fun _ => inferInstanceAs (Decidable (_ ∨ _))

def IsWordCase (case : NameCase) : Prop := IsSnakeCase case ∨ case = .camel ∨ case = .pascal

instance : DecidablePred IsWordCase := fun _ => inferInstanceAs (Decidable (_ ∨ _ ∨ _))

/-- The same character but for its case. -/
@[mk_iff]
structure Recased (c d : Char) : Prop where
  isNameChar : IsNameChar d
  separator : isSeparator [d] = isSeparator [c]
  digit : isDigit [d] = isDigit [c]
  cased : (isLower [d] || isUpper [d]) = (isLower [c] || isUpper [c])
  lower : d.toLower = c.toLower
  upper : d.toUpper = c.toUpper

instance (c d : Char) : Decidable (Recased c d) := decidable_of_iff _ (recased_iff c d).symm

/-- A change of case that brings all letters to one case. -/
structure Recasing (f : Char → Char) : Prop where
  recased : ∀ {c}, IsNameChar c → Recased c (f c)
  oneCase : (∀ {c}, IsNameChar c → isLower [f c] = false) ∨
    ∀ {c}, IsNameChar c → isUpper [f c] = false

theorem recasing_toLower : Recasing Char.toLower where
  recased := forall_nameChar (p := fun c => Recased c c.toLower) (by decide)
  oneCase := .inr (forall_nameChar (p := fun c => isUpper [c.toLower] = false) (by decide))

theorem recasing_toUpper : Recasing Char.toUpper where
  recased := forall_nameChar (p := fun c => Recased c c.toUpper) (by decide)
  oneCase := .inl (forall_nameChar (p := fun c => isLower [c.toUpper] = false) (by decide))

/-! ## Words in another case -/

section Recase

variable {f : Char → Char} (hf : Recasing f) {w : List Char}

include hf

theorem Recasing.isNameChar_map (h : ∀ c ∈ w, IsNameChar c) : ∀ c ∈ w.map f, IsNameChar c :=
  List.forall_mem_map.mpr fun c hc => (hf.recased (h c hc)).isNameChar

theorem Recasing.endsWord_map {c : Char} (hc : IsNameChar c) (hw : ∀ d ∈ w, IsNameChar d)
    (h : endsWord [c] (singles w) = false) : endsWord [f c] (singles (w.map f)) = false := by
  cases w with
  | nil => rfl
  | cons d ds =>
    obtain ⟨hd, hds⟩ := List.forall_mem_cons.mp hw
    have hccased := (hf.recased hc).cased
    have hdcased := (hf.recased hd).cased
    simp only [singles, List.map_cons, endsWord, Bool.or_eq_false_iff, Bool.and_eq_false_iff] at h ⊢
    -- In one case only digits end words, and they end them in either case.
    rcases hf.oneCase with hlower | hupper
    · have hnext : (((ds.map f).map fun c => [c]).head?.map isLower).getD false = false := by
        cases ds with
        | nil => rfl
        | cons e es => exact hlower (hds e List.mem_cons_self)
      rw [hlower hc, Bool.false_or] at hccased
      rw [hlower hd, Bool.false_or] at hdcased
      rw [hlower hc, hlower hd, hnext, (hf.recased hc).digit, (hf.recased hd).digit, hccased, hdcased]
      grind
    · rw [hupper hc, Bool.or_false] at hccased
      rw [hupper hd, Bool.or_false] at hdcased
      rw [hupper hc, hupper hd, (hf.recased hc).digit, (hf.recased hd).digit, hccased, hdcased]
      grind

theorem Recasing.unbroken (hw : ∀ c ∈ w, IsNameChar c) (h : Unbroken w) :
    Unbroken (w.map f) := by
  induction w with
  | nil => trivial
  | cons c cs ih =>
    obtain ⟨hc, hcs⟩ := List.forall_mem_cons.mp hw
    obtain ⟨hsep, hend, hrest⟩ := h
    exact ⟨(hf.recased hc).separator.trans hsep, hf.endsWord_map hc hcs hend, ih hcs hrest⟩

theorem Recasing.isWord (h : IsWord w) : IsWord (w.map f) where
  ne_nil := fun hnil => h.ne_nil (List.map_eq_nil_iff.mp hnil)
  unbroken := hf.unbroken h.isNameChar h.unbroken
  isNameChar := hf.isNameChar_map h.isNameChar

theorem Recasing.lower_map (h : ∀ c ∈ w, IsNameChar c) : lower (w.map f) = lower w := by
  rw [lower_name (hf.isNameChar_map h), lower_name h, List.map_map]
  exact List.map_congr_left fun c hc => (hf.recased (h c hc)).lower

theorem Recasing.upper_map (h : ∀ c ∈ w, IsNameChar c) : upper (w.map f) = upper w := by
  rw [upper_name (hf.isNameChar_map h), upper_name h, List.map_map]
  exact List.map_congr_left fun c hc => (hf.recased (h c hc)).upper

theorem Recasing.capital_map (h : ∀ c ∈ w, IsNameChar c) : capital (w.map f) = capital w := by
  rw [capital, capital, clusters_name (hf.isNameChar_map h), clusters_name h]
  cases w with
  | nil => rfl
  | cons c cs =>
    obtain ⟨hc, hcs⟩ := List.forall_mem_cons.mp h
    have hupper : upper [f c] = upper [c] :=
      hf.upper_map (w := [c]) (List.forall_mem_singleton.mpr hc)
    rw [List.map_cons, singles_cons, singles_cons]
    dsimp only
    rw [flatten_singles, flatten_singles, hupper, hf.lower_map hcs]

variable {s : List Char} {ws : List (List Char)}

theorem Recasing.convert_eq (hs : words s = ws.map (·.map f)) {t : List Char} (ht : words t = ws)
    (hws : ∀ w ∈ ws, IsWord w) {case : NameCase} (hcase : IsWordCase case) :
    convert case s = convert case t := by
  have hlower : (ws.map (·.map f)).map lower = ws.map lower := by
    rw [List.map_map]
    exact List.map_congr_left fun w hw => hf.lower_map (hws w hw).isNameChar
  have hupper : (ws.map (·.map f)).map upper = ws.map upper := by
    rw [List.map_map]
    exact List.map_congr_left fun w hw => hf.upper_map (hws w hw).isNameChar
  have hcapital : ∀ {vs : List (List Char)}, (∀ v ∈ vs, IsWord v) →
      (vs.map (·.map f)).flatMap capital = vs.flatMap capital := by
    intro vs hvs
    rw [List.flatMap_map]
    exact List.flatMap_congr fun v hv => hf.capital_map (hvs v hv).isNameChar
  cases case with
  | snake => rw [convert, convert, hs, ht, hlower]
  | upperSnake => rw [convert, convert, hs, ht, hupper]
  | pascal => rw [convert, convert, hs, ht, hcapital hws]
  | camel =>
    rw [convert, convert, hs, ht]
    cases ws with
    | nil => rfl
    | cons w rest =>
      obtain ⟨hw, hrest⟩ := List.forall_mem_cons.mp hws
      rw [List.map_cons, camel, camel, hf.lower_map hw.isNameChar, hcapital hrest]
  | identity | lower | upper => exact absurd hcase (by decide)

end Recase

/-- Snake case is a change of case of the words, joined with underscores. -/
theorem convert_snake {base : NameCase} (hbase : IsSnakeCase base) :
    ∃ f, Recasing f ∧ ∀ {s : List Char}, (∀ c ∈ s, IsNameChar c) →
      convert base s = joinSnake ((words s).map (·.map f)) := by
  cases base with
  | snake =>
    refine ⟨_, recasing_toLower, fun hs => congrArg joinSnake (List.map_congr_left fun w hw => ?_)⟩
    exact lower_name (isWord_of_mem_words hs hw).isNameChar
  | upperSnake =>
    refine ⟨_, recasing_toUpper, fun hs => congrArg joinSnake (List.map_congr_left fun w hw => ?_)⟩
    exact upper_name (isWord_of_mem_words hs hw).isNameChar
  | identity | camel | pascal | lower | upper => exact absurd hbase (by decide)

theorem convert_convert {base case : NameCase} (hbase : IsSnakeCase base)
    (hcase : IsWordCase case) {s : List Char} (hs : ∀ c ∈ s, IsNameChar c) :
    convert case (convert base s) = convert case s := by
  obtain ⟨f, hf, hsnake⟩ := convert_snake hbase
  have hwords : ∀ w ∈ words s, IsWord w := fun w => isWord_of_mem_words hs
  refine hf.convert_eq ?_ rfl hwords hcase
  rw [hsnake hs]
  exact words_joinSnake (List.forall_mem_map.mpr fun w hw => hf.isWord (hwords w hw))

end ProcCall.Naming

namespace ProcCall.NamingStrategy

open Naming

theorem toList_apply (s : NamingStrategy) (name : String) :
    (s.apply name).toList = (s.lead.getD "").toList ++ convert s.case name.toList := by
  rw [apply, String.toList_append, String.toList_ofList]

theorem apply_apply {base case : NameCase} (hbase : IsSnakeCase base) (hcase : IsWordCase case)
    (lead : Option String) {name : String} (hname : ∀ c ∈ name.toList, IsNameChar c) :
    (⟨case, lead⟩ : NamingStrategy).apply ((⟨base, none⟩ : NamingStrategy).apply name) =
      (⟨case, lead⟩ : NamingStrategy).apply name := by
  have hspelling : ((⟨base, none⟩ : NamingStrategy).apply name).toList = convert base name.toList :=
    toList_apply ⟨base, none⟩ name
  rw [← String.toList_inj, toList_apply, hspelling, toList_apply,
    convert_convert hbase hcase hname]

/-- A name of letters, digits and separators is converted from its spelling in snake case as it is
converted itself. So snake case is idempotent, and a parameter that is declared as the database
spells it gets the name that its source would give it. -/
theorem snake_case_normal (base case : NameCase) (hbase : IsSnakeCase base)
    (hcase : IsWordCase case) (lead : Option String) (name : String)
    (hname : ∀ c ∈ name.toList, IsNameChar c) :
    let spelling := (⟨base, none⟩ : NamingStrategy).apply name
    (⟨case, lead⟩ : NamingStrategy).apply spelling = (⟨case, lead⟩ : NamingStrategy).apply name ∧
    (⟨base, none⟩ : NamingStrategy).apply spelling = spelling ∧
    ∀ (config : CallerConfig) (m : Method) (i : Nat) (p : Parameter),
      config.parameterNaming = ⟨case, lead⟩ →
      Plan.parameterName config m i { p with name := some spelling } =
        Plan.parameterName config m i { p with name := some name } := by
  refine ⟨apply_apply hbase hcase lead hname, apply_apply hbase (.inl hbase) none hname, ?_⟩
  intro config m i p hnaming
  cases hbackend : p.metadata.name with
  | some backend => simp only [Plan.parameterName, hbackend]
  | none =>
    simp only [Plan.parameterName, hbackend]
    rw [hnaming, apply_apply hbase hcase lead hname]

/-- A name with an acronym, a number and two kinds of separators. -/
theorem snake_case_normal_acronym :
    let source := "HTTPServer-2 id"
    let config : CallerConfig := { parameterNaming := ⟨.camel, some "p_"⟩ }
    let m : Method := { name := "ping" }
    let p : Parameter := { type := .scalar .text }
    IsSnakeCase .upperSnake ∧ IsWordCase .camel ∧ (∀ c ∈ source.toList, IsNameChar c) ∧
    (⟨.upperSnake, none⟩ : NamingStrategy).apply source = "HTTP_SERVER_2_ID" ∧
    (⟨.camel, some "p_"⟩ : NamingStrategy).apply "HTTP_SERVER_2_ID" =
      (⟨.camel, some "p_"⟩ : NamingStrategy).apply source ∧
    (⟨.upperSnake, none⟩ : NamingStrategy).apply "HTTP_SERVER_2_ID" = "HTTP_SERVER_2_ID" ∧
    Plan.parameterName config m 0 { p with name := some "HTTP_SERVER_2_ID" } =
      Plan.parameterName config m 0 { p with name := some source } := by
  intro source config m p
  have hchars : ∀ c ∈ source.toList, IsNameChar c := by
    have hall : source.toList.all (fun c => decide (IsNameChar c)) = true := by decide
    exact fun c hc => of_decide_eq_true (List.all_eq_true.mp hall c hc)
  have hspelling : (⟨.upperSnake, none⟩ : NamingStrategy).apply source = "HTTP_SERVER_2_ID" := by
    decide
  obtain ⟨hcamel, hsame, hparameter⟩ := snake_case_normal .upperSnake .camel (by decide) (by decide)
    (some "p_") source hchars
  rw [hspelling] at hcamel hsame
  exact ⟨by decide, by decide, hchars, hspelling, hcamel, hsame,
    hspelling ▸ hparameter config m 0 p rfl⟩

/-- A letter that is neither capital nor small becomes one of the two and then ends the number
before it. -/
example : (⟨.snake, none⟩ : NamingStrategy).apply "1\u01c5" = "1\u01c6" ∧
    (⟨.snake, none⟩ : NamingStrategy).apply "1\u01c6" = "1_\u01c6" := by
  decide +kernel

end ProcCall.NamingStrategy
