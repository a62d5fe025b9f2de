import DeviceTrust.Logging.Settings
import DeviceTrust.Proofs.Text.Numeral

/-!
# What the settings of a log are read from

The text for the level is empty, a decimal number (`LogSettings.IsNumeral`), the name of a level
(`LogSettings.IsLevelName`), or none of these, and never two of them. What is none of these is refused
or warned about, as the caller wants it, unless the text consists of digits: it is taken for a number
because of them, and as a number it cannot be read (`LogSettings.readLevel_of_isNumber`). This is the
one failure of a caller that is not strict (`LogSettings.load_of_texts`).
-/

set_option autoImplicit false

namespace DeviceTrust

namespace LogSettings

variable {text : String} {strict : Bool} {level : Level}

/-! ## Levels -/

/-- **A text that is a decimal number**, in the digits of any script, and no longer than numbers may
be. -/
def IsNumeral (text : String) (n : Nat) : Prop :=
  text ≠ "" ∧ ∃ ds, text.toList.mapM Text.decimalValue? = some ds ∧ ds.length ≤ Text.digitLimit ∧
    Text.ofDigits ds = n

/-- **A text that is the name of a level**, in any letter case. -/
def IsLevelName (text : String) (level : Level) : Prop :=
  Level.ofName? (Text.upper text) = some level

theorem isNumber_iff : isNumber text = true ↔
    text ≠ "" ∧ ∀ c ∈ text.toList, Text.isDigit c = true := by
  simp [isNumber, String.all_bool_eq]

theorem IsNumeral.isNumber {n : Nat} (h : IsNumeral text n) : isNumber text = true := by
  obtain ⟨hne, ds, hds, -⟩ := h
  exact isNumber_iff.2 ⟨hne, Text.isDigit_of_mapM hds⟩

theorem IsNumeral.unique {m n : Nat} (hm : IsNumeral text m) (hn : IsNumeral text n) : m = n := by
  obtain ⟨-, ds, hds, -, rfl⟩ := hm
  obtain ⟨-, ds', hds', -, rfl⟩ := hn
  cases hds.symm.trans hds'
  rfl

theorem not_isLevelName_of_isNumber (h : isNumber text = true) : ¬ IsLevelName text level := by
  intro hname
  have hdigits := (isNumber_iff.1 h).2
  rw [IsLevelName, Text.upper_of_isDigit hdigits, Level.ofName?] at hname
  -- every name of a level has a letter in it
  have hletters : ∀ entry ∈ Level.names, entry.1.toList.all Text.isDigit = false := by decide
  have hnone : Level.names.lookup text = none := by
    rw [List.lookup_eq_none_iff]
    intro entry hentry
    rw [bne_iff_ne]
    rintro rfl
    cases (hletters entry hentry).symm.trans (List.all_eq_true.2 hdigits)
  rw [hnone] at hname
  cases hname

/-- **A text of digits is a number or a fault**: one of them may be no decimal digit, or there may be
too many. -/
theorem readLevel_of_isNumber (h : isNumber text = true) :
    (∃ n, IsNumeral text n ∧ ∀ strict, readLevel text strict = .ok ((n : Int), [])) ∨
      (¬ ∃ n, IsNumeral text n) ∧ ∃ f, f.faultClass = .value ∧ (∀ t, f ≠ .unknownLevelSetting t) ∧
        ∀ strict, readLevel text strict = .error f := by
  obtain ⟨hne, hdigits⟩ := isNumber_iff.1 h
  have hlist : text.toList ≠ [] := by
    simpa using hne
  have hinteger := Text.integer_of_isDigit hlist hdigits
  cases hds : text.toList.mapM Text.decimalValue? with
  | none =>
      -- a digit that is not decimal
      rw [hds] at hinteger
      refine .inr ⟨?_, .notNumeral (Text.quoted text), rfl, ?_, fun strict => ?_⟩
      · rintro ⟨n, -, ds, hds', -⟩
        cases hds.symm.trans hds'
      · rintro t ⟨⟩
      · rw [readLevel, if_neg hne, if_pos h, hinteger]
  | some ds =>
      rw [hds] at hinteger
      by_cases hlong : ds.length > Text.digitLimit
      · simp only [if_pos hlong] at hinteger
        refine .inr ⟨?_, .plain .value, rfl, ?_, fun strict => ?_⟩
        · rintro ⟨n, -, ds', hds', hlimit, -⟩
          cases hds.symm.trans hds'
          omega
        · rintro t ⟨⟩
        · rw [readLevel, if_neg hne, if_pos h, hinteger]
      · simp only [if_neg hlong] at hinteger
        refine .inl ⟨_, ⟨hne, ds, hds, by omega, rfl⟩, fun strict => ?_⟩
        rw [readLevel, if_neg hne, if_pos h, hinteger]

/-- The name of a level is no text of digits, and is read as the level. -/
theorem readLevel_of_isLevelName (h : IsLevelName text level) :
    text ≠ "" ∧ ∀ strict, readLevel text strict = .ok (level, []) := by
  have hnumber : ¬ isNumber text = true := fun hnumber => not_isLevelName_of_isNumber hnumber h
  have hne : text ≠ "" := by
    rintro rfl
    cases h
  refine ⟨hne, fun strict => ?_⟩
  rw [readLevel, if_neg hne, if_neg hnumber]
  rw [IsLevelName] at h
  rw [h]

theorem readLevel_of_unknown (hne : text ≠ "") (hnumber : isNumber text = false)
    (hname : ¬ ∃ level, IsLevelName text level) (strict : Bool) :
    readLevel text strict = if strict then .error (.unknownLevelSetting text)
      else .ok (Level.warning, [levelWarning text]) := by
  have hnone : Level.ofName? (Text.upper text) = none :=
    Option.eq_none_iff_forall_ne_some.2 fun level h => hname ⟨level, h⟩
  rw [readLevel, if_neg hne, if_neg (by rw [hnumber]; decide), hnone]

/-! ## Settings -/

/-- The text under a name; a name that is not there has no text. -/
def textOf (texts : List (String × String)) (name : String) : String :=
  (texts.lookup name).getD ""

def withLevel (texts : List (String × String)) (level : Level) : LogSettings :=
  { level := level
    directory? := if textOf texts directoryVariable = "" then none
      else some (textOf texts directoryVariable)
    console := affirmative.contains (Text.lower (textOf texts consoleVariable)) }

/-- **Only the level can fail.** -/
theorem load_eq (texts : List (String × String)) (strict : Bool) :
    load texts strict = (readLevel (textOf texts levelVariable) strict).map fun read =>
      (withLevel texts read.1, read.2) := by
  unfold load
  show (readLevel (textOf texts levelVariable) strict >>= _) = _
  cases readLevel (textOf texts levelVariable) strict <;> rfl

/-- A name in ASCII letters of any case is the name of its level. -/
theorem isLevelName_of_toUpper {name : String} (hname : (name, level) ∈ Level.names)
    (h : text.toUpper = name) : IsLevelName text level := by
  have hnames : ∀ entry ∈ Level.names,
      (entry.1.toList.all fun c => decide (c.toNat < 0x80)) = true ∧
        Level.ofName? entry.1 = some entry.2 := by decide
  obtain ⟨hascii, hlevel⟩ := hnames _ hname
  have hchars : ∀ c ∈ name.toList, c.toNat < 0x80 := fun c hc =>
    of_decide_eq_true (List.all_eq_true.1 hascii c hc)
  rw [IsLevelName, Text.upper_of_toUpper h hchars, hlevel]

/-- **What the settings are read from.** Without a text for the level, the level is the default; with a
decimal number it is the number, and with the name of a level, in any letter case, it is this level. Any
other text is refused if the caller is strict, and otherwise the level is the default with a warning
that shows the text, unless the text consists of digits: then reading it as a number fails, whatever the
caller is, with a wrong value that is not that of an unknown level. The directory and the console do
not depend on the level, and keep their defaults without a text. -/
theorem load_of_texts (texts : List (String × String)) (strict : Bool) :
    let text := textOf texts levelVariable
    (text = "" → load texts strict = .ok (withLevel texts Level.warning, [])) ∧
    (∀ n, IsNumeral text n → load texts strict = .ok (withLevel texts n, [])) ∧
    (∀ level, IsLevelName text level → load texts strict = .ok (withLevel texts level, [])) ∧
    (∀ name level, (name, level) ∈ Level.names → text.toUpper = name → IsLevelName text level) ∧
    (text ≠ "" → (¬ ∃ n, IsNumeral text n) → (¬ ∃ level, IsLevelName text level) →
      (isNumber text = false → load texts strict =
        if strict then .error (.unknownLevelSetting text)
        else .ok (withLevel texts Level.warning, [levelWarning text])) ∧
      (isNumber text = true → ∃ f, load texts strict = .error f ∧ f.faultClass = .value ∧
        ∀ t, f ≠ .unknownLevelSetting t)) ∧
    (textOf texts directoryVariable = "" → ∀ level, (withLevel texts level).directory? = none) ∧
    (textOf texts consoleVariable = "" → ∀ level, (withLevel texts level).console = false) := by
  intro text
  have hload : load texts strict = (readLevel text strict).map fun read =>
      (withLevel texts read.1, read.2) := load_eq texts strict
  refine ⟨fun hempty => ?_, fun n hn => ?_, fun level hlevel => ?_,
    fun name level hname h => isLevelName_of_toUpper hname h,
    fun hne hnumeral hname => ⟨fun hno => ?_, fun hnumber => ?_⟩, fun hd level => ?_,
    fun hc level => ?_⟩
  · rw [hload, hempty]
    rfl
  · rcases readLevel_of_isNumber hn.isNumber with ⟨m, hm, hread⟩ | ⟨hnone, -⟩
    · rw [hload, hread, hm.unique hn]
      rfl
    · exact absurd ⟨n, hn⟩ hnone
  · rw [hload, (readLevel_of_isLevelName hlevel).2]
    rfl
  · rw [hload, readLevel_of_unknown hne hno hname]
    cases strict <;> rfl
  · rcases readLevel_of_isNumber hnumber with ⟨n, hn, -⟩ | ⟨-, f, hclass, hother, hread⟩
    · exact absurd ⟨n, hn⟩ hnumeral
    · refine ⟨f, ?_, hclass, hother⟩
      rw [hload, hread]
      rfl
  · rw [withLevel, hd]
    rfl
  · have hempty : Text.lower "" = "" := by simp [Text.lower]
    rw [withLevel, hc, hempty]
    show affirmative.contains "" = false
    decide

/-- The name of a level in mixed letters, a number in the digits of another script, and a text that
is neither. -/
theorem load_of_texts_kinds :
    (∃ s, load [(levelVariable, "DeBuG")] true = .ok (s, []) ∧ s.level = Level.debug) ∧
      (∃ s, load [(levelVariable, "१५")] true = .ok (s, []) ∧ s.level = 15) ∧
      load [(levelVariable, "chatty")] true = .error (.unknownLevelSetting "chatty") := by
  refine ⟨?_, ?_, ?_⟩
  · obtain ⟨-, -, hnamed, -⟩ := load_of_texts [(levelVariable, "DeBuG")] true
    have hname : Level.ofName? (Text.upper "DeBuG") = some Level.debug := by decide
    exact ⟨_, hnamed _ hname, rfl⟩
  · obtain ⟨-, hnumbered, -⟩ := load_of_texts [(levelVariable, "१५")] true
    have hnumeral : IsNumeral "१५" 15 :=
      ⟨by decide, [1, 5], by decide, by decide, rfl⟩
    exact ⟨_, hnumbered _ hnumeral, rfl⟩
  · obtain ⟨-, -, -, -, hother, -⟩ := load_of_texts [(levelVariable, "chatty")] true
    have hno : ¬ isNumber "chatty" = true := fun h =>
      absurd ((isNumber_iff.1 h).2 'c' (by decide)) (by decide)
    have hnumeral : ¬ ∃ n, IsNumeral "chatty" n := fun ⟨n, hn⟩ => hno hn.isNumber
    have hname : ¬ ∃ level, IsLevelName "chatty" level := by
      rintro ⟨level, h⟩
      have hnone : Level.ofName? (Text.upper "chatty") = none := by decide
      cases hnone.symm.trans h
    exact (hother (by decide) hnumeral hname).1 (Bool.eq_false_iff.2 hno)

/-- **A text of digits can make the settings unreadable**, also for a caller that is not strict: a
superscript digit is none that a number is written with. -/
theorem load_superscript :
    (∃ f, load [(levelVariable, "²")] false = .error f) ∧
      ∀ t, load [(levelVariable, "²")] true ≠ .error (.unknownLevelSetting t) := by
  have hdigits : "²".toList.all Text.isDigit = true := by decide
  have hnumber : isNumber "²" = true := isNumber_iff.2 ⟨by decide, List.all_eq_true.1 hdigits⟩
  rcases readLevel_of_isNumber hnumber with ⟨n, ⟨-, ds, hds, -⟩, -⟩ | ⟨-, f, -, hother, hread⟩
  · have hnone : "²".toList.mapM Text.decimalValue? = none := by decide
    cases hnone.symm.trans hds
  · have hload : ∀ strict, load [(levelVariable, "²")] strict = .error f := by
      intro strict
      rw [load_eq]
      show (readLevel "²" strict).map _ = _
      rw [hread]
      rfl
    refine ⟨⟨f, hload false⟩, fun t h => ?_⟩
    cases (hload true).symm.trans h
    exact hother t rfl

end LogSettings

end DeviceTrust
