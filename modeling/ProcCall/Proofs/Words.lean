import ProcCall.Naming
import ProcCall.Proofs.Unicode.Ascii

/-! # Words of a name

Nothing inside a word ends it, and an underscore ends it as the end of the name does. So words
that are joined with underscores are the words of the result.
-/

namespace ProcCall.Naming

open Unicode

/-! ## Characters of a name -/

/-- The letters and digits of ASCII, and what stands between words. -/
def IsNameChar (c : Char) : Prop := c.isAlphanum = true ∨ c = '_' ∨ c = '-' ∨ c = ' '

instance : DecidablePred IsNameChar := fun _ => inferInstanceAs (Decidable (_ ∨ _ ∨ _ ∨ _))

theorem IsNameChar.isAscii {c : Char} (h : IsNameChar c) : isAscii c = true := by
  rcases h with h | rfl | rfl | rfl
  · change ((c.isUpper || c.isLower) || c.isDigit) = true at h
    rw [Bool.or_eq_true, Bool.or_eq_true] at h
    -- Capitals, small letters and digits are ranges, which end below 128.
    obtain ⟨last, hle, hlast⟩ : ∃ last : Char, c.val ≤ last.val ∧ last.toNat < 128 := by
      rcases h with (h | h) | h
      · exact ⟨'Z', (of_decide_eq_true h).2, by decide⟩
      · exact ⟨'z', of_decide_eq_true (Bool.and_eq_true_iff.mp h).2, by decide⟩
      · exact ⟨'9', of_decide_eq_true (Bool.and_eq_true_iff.mp h).2, by decide⟩
    exact decide_eq_true (Nat.lt_of_le_of_lt (UInt32.le_iff_toNat_le.mp hle) hlast)
  all_goals decide

theorem forall_nameChar {p : Char → Prop}
    (h : ∀ n < 128, IsNameChar (Char.ofNat n) → p (Char.ofNat n)) {c : Char}
    (hc : IsNameChar c) : p c :=
  forall_ascii (p := fun c => IsNameChar c → p c) h hc.isAscii hc

/-! ## Words -/

def singles (s : List Char) : List Cluster := s.map fun c => [c]

@[simp] theorem singles_cons (c : Char) (cs : List Char) : singles (c :: cs) = [c] :: singles cs :=
  rfl

@[simp] theorem flatten_singles (s : List Char) : (singles s).flatten = s := by
  simp [singles, List.flatten_eq_flatMap, List.flatMap_map]

/-- The first word of a text of single characters and the others, the empty ones included. -/
def pieces : List Char → List Char × List (List Char)
  | [] => ([], [])
  | c :: cs =>
    if isSeparator [c] then ([], (pieces cs).1 :: (pieces cs).2)
    else if endsWord [c] (singles cs) then ([c], (pieces cs).1 :: (pieces cs).2)
    else (c :: (pieces cs).1, (pieces cs).2)

/-- No separator and no end of a word is inside. -/
def Unbroken : List Char → Prop
  | [] => True
  | c :: cs => isSeparator [c] = false ∧ endsWord [c] (singles cs) = false ∧ Unbroken cs

/-- What comes out as a word of a name. -/
structure IsWord (w : List Char) : Prop where
  ne_nil : w ≠ []
  unbroken : Unbroken w
  isNameChar : ∀ c ∈ w, IsNameChar c

section Pieces

variable {s w : List Char}

theorem cut_singles (word s : List Char) :
    cut word (singles s) = (word ++ (pieces s).1) :: (pieces s).2 := by
  induction s generalizing word with
  | nil => exact congrArg (· :: []) (List.append_nil word).symm
  | cons c cs ih =>
    rw [singles_cons, cut, pieces]
    split
    · rw [ih, List.nil_append, List.append_nil]
    · split
      · rw [ih, List.nil_append]
      · rw [ih, List.append_assoc, List.singleton_append]

theorem clusters_name (h : ∀ c ∈ s, IsNameChar c) : clusters s = singles s := by
  refine clusters_ascii fun c hc => ⟨(h c hc).isAscii, ?_⟩
  rintro rfl
  exact absurd (h _ hc) (by decide)

theorem lower_name (h : ∀ c ∈ s, IsNameChar c) : lower s = s.map Char.toLower :=
  lower_ascii fun c hc => (h c hc).isAscii

theorem upper_name (h : ∀ c ∈ s, IsNameChar c) : upper s = s.map Char.toUpper :=
  upper_ascii fun c hc => (h c hc).isAscii

theorem words_eq (h : ∀ c ∈ s, IsNameChar c) :
    words s = ((pieces s).1 :: (pieces s).2).filter fun w => !w.isEmpty := by
  rw [words, clusters_name h, cut_singles, List.nil_append]

theorem flatten_pieces_sublist (s : List Char) :
    ((pieces s).1 :: (pieces s).2).flatten.Sublist s := by
  induction s with
  | nil => exact List.Sublist.slnil
  | cons c cs ih =>
    rw [pieces]
    split
    · exact ih.cons c
    · split
      · exact ih.cons_cons c
      · exact ih.cons_cons c

theorem first_pieces_isPrefix (s : List Char) : (pieces s).1 <+: s := by
  induction s with
  | nil => exact List.nil_prefix
  | cons c cs ih =>
    rw [pieces]
    split
    · exact List.nil_prefix
    · split
      · exact List.prefix_append [c] cs
      · exact List.cons_prefix_cons.mpr ⟨rfl, ih⟩

/-- The end of a word shows in what follows, so it does not show where less follows. -/
theorem endsWord_mono {g : Cluster} (h : w <+: s) (hs : endsWord g (singles s) = false) :
    endsWord g (singles w) = false := by
  obtain ⟨t, rfl⟩ := h
  match w with
  | [] => rfl
  | [c] => simp_all [endsWord, singles]
  | c :: d :: ds => exact hs

theorem unbroken_of_mem_pieces (h : w ∈ (pieces s).1 :: (pieces s).2) : Unbroken w := by
  induction s generalizing w with
  | nil =>
    obtain rfl := List.mem_singleton.mp h
    trivial
  | cons c cs ih =>
    rw [pieces] at h
    split at h
    · obtain rfl | h := List.mem_cons.mp h
      · trivial
      · exact ih h
    · rename_i hsep
      rw [Bool.not_eq_true] at hsep
      split at h
      · obtain rfl | h := List.mem_cons.mp h
        · exact ⟨hsep, rfl, trivial⟩
        · exact ih h
      · rename_i hend
        rw [Bool.not_eq_true] at hend
        obtain rfl | h := List.mem_cons.mp h
        -- The word goes on with a prefix of the text, which shows no end that the text does not.
        · exact ⟨hsep, endsWord_mono (first_pieces_isPrefix cs) hend, ih List.mem_cons_self⟩
        · exact ih (List.mem_cons_of_mem _ h)

theorem isWord_of_mem_words (hs : ∀ c ∈ s, IsNameChar c) (h : w ∈ words s) : IsWord w := by
  rw [words_eq hs, List.mem_filter] at h
  obtain ⟨hmem, hne⟩ := h
  refine ⟨?_, unbroken_of_mem_pieces hmem, fun c hc => hs c ?_⟩
  · rintro rfl
    exact absurd hne (by decide)
  · exact (flatten_pieces_sublist s).subset (List.mem_flatten_of_mem hmem hc)

/-- An underscore is of no case and no digit, so words end at it as at the end of the text. -/
theorem endsWord_append_underscore (g : Cluster) (w t : List Char) :
    endsWord g (singles (w ++ '_' :: t)) = endsWord g (singles w) := by
  have hlower : isLower ['_'] = false := by decide
  have hupper : isUpper ['_'] = false := by decide
  have hdigit : isDigit ['_'] = false := by decide
  match w with
  | [] => simp [endsWord, singles, hlower, hupper, hdigit]
  | [c] => simp [endsWord, singles, hlower]
  | c :: d :: ds => rfl

theorem pieces_unbroken (h : Unbroken w) : pieces w = (w, []) := by
  induction w with
  | nil => rfl
  | cons c cs ih =>
    obtain ⟨hsep, hend, hcs⟩ := h
    rw [pieces, ih hcs, hsep, hend]
    rfl

theorem pieces_append_underscore (h : Unbroken w) (t : List Char) :
    pieces (w ++ '_' :: t) = (w, (pieces t).1 :: (pieces t).2) := by
  induction w with
  | nil => rfl
  | cons c cs ih =>
    obtain ⟨hsep, hend, hcs⟩ := h
    rw [List.cons_append, pieces, ih hcs, hsep, endsWord_append_underscore, hend]
    rfl

end Pieces

/-! ## Words with underscores between -/

section Joined

variable {ws : List (List Char)}

theorem joinSnake_cons_cons (w v : List Char) (ws : List (List Char)) :
    joinSnake (w :: v :: ws) = w ++ '_' :: joinSnake (v :: ws) := by
  rw [joinSnake, List.intercalate_cons_cons, List.append_assoc]
  rfl

theorem isNameChar_of_mem_joinSnake (h : ∀ w ∈ ws, IsWord w) {c : Char} (hc : c ∈ joinSnake ws) :
    IsNameChar c := by
  induction ws with
  | nil => cases hc
  | cons w rest ih =>
    obtain ⟨hw, hrest⟩ := List.forall_mem_cons.mp h
    cases rest with
    | nil => exact hw.isNameChar c (by simpa [joinSnake] using hc)
    | cons v rest =>
      rw [joinSnake_cons_cons, List.mem_append, List.mem_cons] at hc
      rcases hc with hc | rfl | hc
      · exact hw.isNameChar c hc
      · exact .inr (.inl rfl)
      · exact ih hrest hc

theorem pieces_joinSnake {w : List Char} (h : ∀ v ∈ w :: ws, IsWord v) :
    pieces (joinSnake (w :: ws)) = (w, ws) := by
  induction ws generalizing w with
  | nil =>
    have hw : joinSnake [w] = w := by simp [joinSnake]
    rw [hw]
    exact pieces_unbroken (h w List.mem_cons_self).unbroken
  | cons v rest ih =>
    obtain ⟨hw, hrest⟩ := List.forall_mem_cons.mp h
    rw [joinSnake_cons_cons, pieces_append_underscore hw.unbroken, ih hrest]

theorem words_joinSnake (h : ∀ w ∈ ws, IsWord w) : words (joinSnake ws) = ws := by
  rw [words_eq fun c hc => isNameChar_of_mem_joinSnake h hc]
  cases ws with
  | nil => rfl
  | cons w ws =>
    rw [pieces_joinSnake h]
    refine List.filter_eq_self.mpr fun v hv => ?_
    simpa using (h v hv).ne_nil

end Joined

end ProcCall.Naming
