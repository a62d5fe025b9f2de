import DeviceTrust.Text.Integer
import DeviceTrust.Text.LetterCase

/-!
# Texts of digits and texts of letters

A text that consists of digits of whatever script is a number if all of them are decimal digits and
there are not too many of them (`Text.integer_of_isDigit`): no digit is a blank, a sign or an
underscore, so that nothing is taken off the text and nothing is left out. Digits have no other
letter case (`Text.upper_of_isDigit`), and a text whose upper-case form in ASCII is a name in ASCII has
this form altogether (`Text.upper_of_toUpper`).
-/

set_option autoImplicit false

namespace DeviceTrust

namespace Text

variable {c : Char} {s : List Char}

/-! ## Characters that are no digits -/

def blanks : List Nat :=
  List.range' 9 5 ++ [0x20, 0x85, 0xa0, 0x1680] ++ List.range' 0x2000 11
    ++ [0x2028, 0x2029, 0x202f, 0x205f, 0x3000]

def smallLetters : List Nat := List.range' 97 26

/-- **No digit is a blank or a letter**, whatever its script. -/
theorem toNat_notMem_of_isDigit (h : isDigit c = true) :
    c.toNat ∉ blanks ++ smallLetters ++ upperForms.map (·.1) := by
  intro hc
  have hall : ∀ n ∈ blanks ++ smallLetters ++ upperForms.map (·.1),
      isDigit (Char.ofNat n) = false := by decide
  have hno := hall _ hc
  rw [Char.ofNat_toNat, h] at hno
  cases hno

theorem isBlank_of_isDigit (h : isDigit c = true) : isBlank c = false := by
  have hc := toNat_notMem_of_isDigit h
  rw [Bool.eq_false_iff]
  intro hblank
  simp only [isBlank, Bool.or_eq_true, Bool.and_eq_true, decide_eq_true_eq, beq_iff_eq] at hblank
  refine hc (List.mem_append_left _ (List.mem_append_left _ ?_))
  simp only [blanks, List.mem_append, List.mem_range'_1, List.mem_cons, List.not_mem_nil, or_false]
  omega

theorem ne_of_isDigit (h : isDigit c = true) : c ≠ '_' ∧ c ≠ '-' ∧ c ≠ '+' := by
  refine ⟨?_, ?_, ?_⟩ <;> rintro rfl <;> exact absurd h (by decide)

/-! ## Numerals -/

theorem dropWhile_isBlank_eq_self (h : ∀ c ∈ s, isBlank c = false) : s.dropWhile isBlank = s := by
  cases s with
  | nil => rfl
  | cons c r => simp [h c List.mem_cons_self]

theorem strip_eq_self (h : ∀ c ∈ s, isBlank c = false) : strip s = s := by
  have hback : ∀ c ∈ s.reverse, isBlank c = false := fun c hc => h c (List.mem_reverse.1 hc)
  rw [strip, dropWhile_isBlank_eq_self h, dropWhile_isBlank_eq_self hback, List.reverse_reverse]

theorem isDigit_of_mapM {ds : List Nat} (h : s.mapM decimalValue? = some ds) :
    ∀ c ∈ s, isDigit c = true := by
  induction s generalizing ds with
  | nil => simp
  | cons c r ih =>
      rw [List.mapM_cons] at h
      obtain ⟨v, hv, h⟩ := Option.bind_eq_some_iff.1 h
      obtain ⟨vs, hvs, -⟩ := Option.bind_eq_some_iff.1 h
      have hc : isDigit c = true := by
        rw [isDigit, hv]
        rfl
      exact List.forall_mem_cons.2 ⟨hc, ih hvs⟩

/-- Without underscores the digits of a numeral are those of its characters. -/
theorem digits?_eq_mapM (hs : s ≠ []) (h : ∀ c ∈ s, c ≠ '_') :
    digits? s = s.mapM decimalValue? := by
  fun_induction digits? s with
  | case1 => exact absurd rfl hs
  | case2 c => cases hc : decimalValue? c <;> simp [List.mapM_cons, hc]
  | case3 c d r ihUnderscore ih =>
      have hd : d ≠ '_' := h d (by simp)
      simp only [if_neg hd]
      rw [ih (by simp) fun c hc => h c (List.mem_cons_of_mem _ hc)]
      exact List.mapM_cons.symm

/-- **The number of a text of digits**: that of their values, if all of them are decimal and not too
many. -/
theorem integer_of_isDigit (hs : s ≠ []) (h : ∀ c ∈ s, isDigit c = true) :
    integer s = match s.mapM decimalValue? with
      | none => .error .malformed
      | some ds => if ds.length > digitLimit then .error .tooLong else .ok (ofDigits ds) := by
  have hread : digits? s = s.mapM decimalValue? :=
    digits?_eq_mapM hs fun c hc => (ne_of_isDigit (h c hc)).1
  have hsigned : integer s = (natural s).map fun n => (n : Int) := by
    unfold integer
    rw [strip_eq_self fun c hc => isBlank_of_isDigit (h c hc)]
    -- no digit is taken for a sign
    split
    · exact absurd rfl (ne_of_isDigit (h _ List.mem_cons_self)).2.1
    · exact absurd rfl (ne_of_isDigit (h _ List.mem_cons_self)).2.2
    · rfl
  rw [hsigned, natural, hread]
  cases s.mapM decimalValue? with
  | none => rfl
  | some ds =>
      dsimp only
      split <;> rfl

/-! ## Names in any letter case -/

theorem flatMap_upperChar {f : Char → Char} (h : ∀ c ∈ s, upperChar c = [f c]) :
    s.flatMap upperChar = s.map f := by
  induction s with
  | nil => rfl
  | cons c r ih =>
      rw [List.flatMap_cons, h c List.mem_cons_self, ih fun d hd => h d (List.mem_cons_of_mem _ hd)]
      rfl

theorem toUpper_eq_or (c : Char) :
    c.toUpper = c ∨ (97 ≤ c.toNat ∧ c.toNat ≤ 122) := by
  unfold Char.toUpper
  split
  · rename_i h
    exact .inr ⟨UInt32.le_iff_toNat_le.1 h.1, UInt32.le_iff_toNat_le.1 h.2⟩
  · exact .inl rfl

/-- A digit has no upper-case form but itself. -/
theorem upperChar_of_isDigit (h : isDigit c = true) : upperChar c = [c] := by
  have hc := toNat_notMem_of_isDigit h
  simp only [List.mem_append, not_or] at hc
  obtain ⟨⟨-, hsmall⟩, hforms⟩ := hc
  unfold upperChar
  split
  · rcases toUpper_eq_or c with hupper | ⟨hle, hge⟩
    · rw [hupper]
    · refine absurd ?_ hsmall
      simp only [smallLetters, List.mem_range'_1]
      omega
  · have hnone : upperForms.lookup c.toNat = none := by
      rw [List.lookup_eq_none_iff]
      intro form hform
      rw [bne_iff_ne]
      exact fun heq => hforms (heq ▸ List.mem_map_of_mem hform)
    rw [hnone]

theorem upper_of_isDigit {text : String} (h : ∀ c ∈ text.toList, isDigit c = true) :
    upper text = text := by
  rw [upper, flatMap_upperChar (f := id) fun c hc => upperChar_of_isDigit (h c hc), List.map_id,
    String.ofList_toList]

/-- **A name in ASCII, written in any letter case, has the name as its upper-case form.** -/
theorem upper_of_toUpper {text name : String} (h : text.toUpper = name)
    (hname : ∀ c ∈ name.toList, c.toNat < 0x80) : upper text = name := by
  have hlist : text.toList.map Char.toUpper = name.toList := by
    rw [← h, String.toUpper, String.toList_map]
  have hchar : ∀ c ∈ text.toList, upperChar c = [c.toUpper] := by
    intro c hc
    have hupper : c.toUpper.toNat < 0x80 := hname _ (hlist ▸ List.mem_map_of_mem hc)
    have hascii : c.toNat < 0x80 := by
      rcases toUpper_eq_or c with heq | ⟨-, hle⟩
      · rwa [heq] at hupper
      · omega
    rw [upperChar, if_pos hascii]
  rw [upper, flatMap_upperChar hchar, hlist, String.ofList_toList]

end Text

end DeviceTrust
