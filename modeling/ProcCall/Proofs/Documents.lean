import ProcCall.Interface.Notation

/-! # Interfaces read back

Reading a document that was written from an interface gives the interface back. A part of
a document is restored if reading undoes writing it; lists, optional fields, choices and
records are restored if their parts are.
-/

namespace ProcCall

namespace Json

def Restores {α : Type} (read : Json → Option α) (write : α → Json) : Prop :=
  ∀ a, read (write a) = some a

/-! ## Parts of documents -/

section Parts

variable {α : Type} {read : Json → Option α} {write : α → Json}

theorem restores_string : Restores string? .str := fun _ => rfl

theorem natBelow?_int {bound n : Nat} (h : n < bound) : natBelow? bound (.int n) = some n := by
  have hn : (0 : Int) ≤ n ∧ (n : Int) < bound := by omega
  rw [natBelow?, if_pos hn, Int.toNat_natCast]

theorem restores_uint32 : Restores uint32? ofUInt32 := by
  intro n
  have hn : n.toNat < 1 <<< 32 := n.toNat_lt
  rw [uint32?, ofUInt32, natBelow?_int hn, Option.map_some, UInt32.ofNat_toNat]

theorem restores_uint64 : Restores uint64? ofUInt64 := by
  intro n
  have hn : n.toNat < 1 <<< 64 := n.toNat_lt
  rw [uint64?, ofUInt64, natBelow?_int hn, Option.map_some, UInt64.ofNat_toNat]

theorem Restores.list (h : Restores read write) :
    Restores (list? read) fun as => .arr (as.map write) := by
  intro as
  change (as.map write).mapM read = some as
  induction as with
  | nil => rfl
  | cons a as ih =>
    rw [List.map_cons, List.mapM_cons, h a, ih]
    rfl

theorem Restores.optional (h : Restores read write) (hn : ∀ a, write a ≠ .null) (o : Option α) :
    optional read (some (ofOption write o)) = some o := by
  cases o with
  | none => rfl
  | some a =>
    have ho : Json.optional read (some (write a)) = (read (write a)).map some := by
      rw [Json.optional]
      exact hn a
    rw [ofOption, ho, h a, Option.map_some]

end Parts

end Json

open Json

variable (form : Form)

/-! ## Names and types -/

theorem Json.optional_string (s : Option String) :
    optional string? (some (ofOption .str s)) = some s :=
  restores_string.optional (fun _ => nofun) s

theorem Json.optional_uint32 (n : Option UInt32) :
    optional uint32? (some (ofOption ofUInt32 n)) = some n :=
  restores_uint32.optional (fun _ => nofun) n

theorem ScalarKind.restores : Restores (ScalarKind.ofJson? form) ScalarKind.toJson := by
  intro k
  exact k.ofTag?_tag

theorem ScalarKind.optional_restores (k : Option ScalarKind) :
    optional (ScalarKind.ofJson? form) (some (ofOption ScalarKind.toJson k)) = some k :=
  (ScalarKind.restores form).optional (fun _ => nofun) k

theorem SqlType.restores : Restores (SqlType.ofJson? form) SqlType.toJson := by
  intro t
  cases t with
  | vendor c => exact congrArg (Option.map SqlType.vendor) (Integer.ofInt?_val c)
  | _ => rfl

theorem SqlType.toJson_ne_null (t : SqlType) : t.toJson ≠ .null := by
  cases t <;> nofun

theorem SqlType.optional_restores (t : Option SqlType) :
    optional (SqlType.ofJson? form) (some (ofOption SqlType.toJson t)) = some t :=
  (SqlType.restores form).optional SqlType.toJson_ne_null t

/-! ## Records and choices -/

@[simp] theorem Json.record?_obj (names : List String) (fields : List (String × Json)) :
    form.record? names (.obj fields) = some (names.map fun n => field? n fields) := rfl

@[simp] theorem Json.field?_cons (n k : String) (j : Json) (fields : List (String × Json)) :
    field? n ((k, j) :: fields) = if n = k then some j else field? n fields := by
  rw [field?, List.lookup_cons]
  by_cases h : n = k
  · rw [if_pos h, beq_iff_eq.mpr h]
  · rw [if_neg h, beq_eq_false_iff_ne.mpr h, field?]

theorem ArrayElement.restores : Restores (ArrayElement.ofJson? form) ArrayElement.toJson := by
  intro e
  simp [ofJson?, toJson, required, defaulted, bool?, ScalarKind.restores form e.kind]

theorem ParamType.restores : Restores (ParamType.ofJson? form) ParamType.toJson := by
  intro t
  cases t with
  | scalar k => exact congrArg (Option.map ParamType.scalar) (ScalarKind.restores form k)
  | array e => exact congrArg (Option.map ParamType.array) (ArrayElement.restores form e)
  | list k => exact congrArg (Option.map ParamType.list) (ScalarKind.optional_restores form k)
  | rowMapper => rfl
  | indexedRowMapper => rfl

theorem ReturnType.restores : Restores (ReturnType.ofJson? form) ReturnType.toJson := by
  intro t
  cases t with
  | unit => rfl
  | scalar k => exact congrArg (Option.map ReturnType.scalar) (ScalarKind.restores form k)
  | list k => exact congrArg (Option.map ReturnType.list) (ScalarKind.optional_restores form k)
  | array e => exact congrArg (Option.map ReturnType.array) (ArrayElement.restores form e)

theorem ParameterMetadata.restores :
    Restores (ParameterMetadata.ofJson? form) ParameterMetadata.toJson := by
  intro m
  simp [ofJson?, toJson, optional_string, SqlType.optional_restores]

theorem Parameter.restores : Restores (Parameter.ofJson? form) Parameter.toJson := by
  intro p
  have htype := ParamType.restores form p.type
  have hmetadata := ParameterMetadata.restores form p.metadata
  simp [ofJson?, toJson, required, defaulted, optional_string, htype, hmetadata]

theorem OutParameter.restores : Restores (OutParameter.ofJson? form) OutParameter.toJson := by
  intro o
  have hindex := restores_uint64.optional (fun _ => nofun) o.index
  simp [ofJson?, toJson, hindex, optional_string, SqlType.optional_restores]

theorem ReturnValue.restores : Restores (ReturnValue.ofJson? form) ReturnValue.toJson := by
  intro r
  simp [ofJson?, toJson, optional_string, SqlType.optional_restores]

theorem MethodMetadata.restores :
    Restores (MethodMetadata.ofJson? form) MethodMetadata.toJson := by
  intro m
  have hout := (OutParameter.restores form).optional (fun _ => nofun) m.outParameter
  have hreturn := (ReturnValue.restores form).optional (fun _ => nofun) m.returnValue
  simp [ofJson?, toJson, optional_string, optional_uint32, hout, hreturn]

theorem Method.restores : Restores (Method.ofJson? form) Method.toJson := by
  intro m
  have hparameters := (Parameter.restores form).list m.parameters
  have hreturns := ReturnType.restores form m.returns
  have hmetadata := MethodMetadata.restores form m.metadata
  simp [ofJson?, toJson, required, defaulted, string?, bool?, hparameters, hreturns, hmetadata]

theorem InterfaceMetadata.restores :
    Restores (InterfaceMetadata.ofJson? form) InterfaceMetadata.toJson := by
  intro m
  simp [ofJson?, toJson, optional_string, optional_uint32]

theorem Interface.restores : Restores (Interface.ofJson? form) Interface.toJson := by
  intro i
  have hmethods := (Method.restores form).list i.methods
  have hmetadata := InterfaceMetadata.restores form i.metadata
  simp [ofJson?, toJson, required, defaulted, string?, hmethods, hmetadata]

/-- Every interface and every single method can be read from its document. -/
theorem interface_document_restored :
    (∀ i : Interface, Interface.ofJson? jsonForm i.toJson = some i) ∧
      ∀ m : Method, Method.ofJson? jsonForm m.toJson = some m :=
  ⟨Interface.restores jsonForm, Method.restores jsonForm⟩

end ProcCall
