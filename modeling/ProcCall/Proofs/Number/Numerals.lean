import ProcCall.Number.Integer

/-! # Whole numbers as text

What is written of a whole number reads back as that number. Of the digits that read as a
number only those without a zero in front are its text.
-/

namespace ProcCall.Numeral

theorem digitValue?_of_isDigit {c : Char} (h : c.isDigit = true) :
    digitValue? c = some (c.toNat - '0'.toNat) := by
  simp only [Char.isDigit, Bool.and_eq_true, decide_eq_true_eq] at h
  exact if_pos h

variable {cs : List Char}

theorem readOn_digits (h : ∀ c ∈ cs, c.isDigit = true) (n : Nat) :
    readOn n cs = some (Nat.ofDigitChars 10 cs n) := by
  induction cs generalizing n with
  | nil => rfl
  | cons c cs ih =>
    obtain ⟨hc, hcs⟩ := List.forall_mem_cons.mp h
    rw [readOn, digitValue?_of_isDigit hc, Option.bind_some, ih hcs]
    rfl

theorem readNat_digits (h : ∀ c ∈ cs, c.isDigit = true) (hne : cs ≠ []) :
    readNat cs = some (Nat.ofDigitChars 10 cs 0) := by
  cases cs with
  | nil => exact absurd rfl hne
  | cons c cs => exact readOn_digits h 0

theorem readInt_digits (h : ∀ c ∈ cs, c.isDigit = true) :
    readInt cs = (readNat cs).map Int.ofNat := by
  unfold readInt
  split
  · exact absurd (h '-' List.mem_cons_self) (by decide)
  · exact absurd (h '+' List.mem_cons_self) (by decide)
  · rfl

theorem isDigit_of_mem_writeNat {n : Nat} {c : Char} (h : c ∈ writeNat n) : c.isDigit = true :=
  Nat.isDigit_of_mem_toDigits (by decide) (by decide) h

theorem readNat_writeNat (n : Nat) : readNat (writeNat n) = some n := by
  rw [readNat_digits (fun _ => isDigit_of_mem_writeNat) Nat.toDigits_ne_nil]
  exact congrArg some (Nat.ofDigitChars_toDigits (by decide) (by decide))

theorem readInt_writeInt (n : Int) : readInt (writeInt n) = some n := by
  cases n with
  | ofNat n =>
    rw [writeInt, readInt_digits fun _ => isDigit_of_mem_writeNat, readNat_writeNat]
    rfl
  | negSucc n =>
    rw [writeInt, readInt, readNat_writeNat]
    rfl

/-! ## One text for each number -/

/-- A decimal text that has no zero in front of other digits. -/
def IsCanonical (ds : List Char) : Prop :=
  ds ≠ [] ∧ (∀ c ∈ ds, c.isDigit = true) ∧ (ds.head? = some '0' → ds = ['0'])

theorem writeNat_ne_nil (n : Nat) : writeNat n ≠ [] := Nat.toDigits_ne_nil

theorem writeNat_of_lt {d : Nat} (h : d < 10) : writeNat d = [d.digitChar] :=
  Nat.toDigits_of_lt_base h

theorem writeNat_add_digit {n d : Nat} (hn : 0 < n) (hd : d < 10) :
    writeNat (10 * n + d) = writeNat n ++ [d.digitChar] := by
  rw [← writeNat_of_lt hd]
  exact (Nat.toDigits_append_toDigits (by decide) hn hd).symm

theorem isCanonical_writeNat (n : Nat) : IsCanonical (writeNat n) := by
  refine ⟨writeNat_ne_nil n, fun _ => isDigit_of_mem_writeNat, ?_⟩
  -- Of several digits the first is that of a smaller number, and this number is not zero.
  induction n using Nat.base_induction 10 (by decide) with
  | single d hd =>
    rw [writeNat_of_lt hd, List.head?_cons, Option.some.injEq]
    intro h
    rw [h]
  | digit n d hd hn ih =>
    obtain ⟨c, rest, hc⟩ := List.exists_cons_of_ne_nil (writeNat_ne_nil n)
    rw [writeNat_add_digit hn hd, hc, List.cons_append, List.head?_cons]
    rw [hc, List.head?_cons, ← hc] at ih
    intro h
    have hzero := congrArg readNat (ih h)
    rw [readNat_writeNat] at hzero
    exact absurd (Option.some.inj hzero) (Nat.ne_of_gt hn)

theorem digitChar_of_isDigit {c : Char} (h : c.isDigit = true) :
    c.toNat - '0'.toNat < 10 ∧ Nat.digitChar (c.toNat - '0'.toNat) = c := by
  simp only [Char.isDigit, Bool.and_eq_true, decide_eq_true_eq] at h
  have hlow : 48 ≤ c.toNat := h.1
  have hhigh : c.toNat ≤ 57 := h.2
  have hlt : c.toNat - '0'.toNat < 10 := by
    change c.toNat - 48 < 10
    omega
  refine ⟨hlt, Char.toNat_inj.mp ?_⟩
  rw [Nat.toNat_digitChar_of_lt_ten hlt]
  change 48 + (c.toNat - 48) = c.toNat
  omega

/-- Digits behind those of a number are those of the number read on. -/
theorem writeNat_append {n : Nat} (hn : 0 < n) (h : ∀ c ∈ cs, c.isDigit = true) :
    writeNat n ++ cs = writeNat (Nat.ofDigitChars 10 cs n) := by
  induction cs generalizing n with
  | nil => rw [List.append_nil, Nat.ofDigitChars_nil]
  | cons c cs ih =>
    obtain ⟨hc, hcs⟩ := List.forall_mem_cons.mp h
    obtain ⟨hlt, hchar⟩ := digitChar_of_isDigit hc
    rw [Nat.ofDigitChars_cons, ← ih (by omega) hcs, writeNat_add_digit hn hlt, hchar,
      List.append_assoc, List.singleton_append]

theorem writeNat_ofDigitChars (h : IsCanonical cs) :
    writeNat (Nat.ofDigitChars 10 cs 0) = cs := by
  obtain ⟨hne, hdigits, hzero⟩ := h
  cases cs with
  | nil => exact absurd rfl hne
  | cons c cs =>
    obtain ⟨hc, hcs⟩ := List.forall_mem_cons.mp hdigits
    obtain ⟨hlt, hchar⟩ := digitChar_of_isDigit hc
    by_cases h0 : c = '0'
    · subst h0
      rw [hzero rfl]
      rfl
    · have hpos : 0 < c.toNat - '0'.toNat := by
        refine Nat.pos_of_ne_zero fun hz => h0 ?_
        rw [← hchar, hz]
        rfl
      rw [Nat.ofDigitChars_cons, Nat.mul_zero, Nat.zero_add, ← writeNat_append hpos hcs,
        writeNat_of_lt hlt, hchar, List.singleton_append]

theorem eq_writeNat_iff {n : Nat} :
    cs = writeNat n ↔ IsCanonical cs ∧ Nat.ofDigitChars 10 cs 0 = n := by
  constructor
  · rintro rfl
    exact ⟨isCanonical_writeNat n, Nat.ofDigitChars_ten_toDigits⟩
  · rintro ⟨hcanonical, rfl⟩
    exact (writeNat_ofDigitChars hcanonical).symm

end ProcCall.Numeral
