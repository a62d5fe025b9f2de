import DeviceTrust.Logging.Loggers

/-!
# Loggers over whole runs

A logger stays when its name is forgotten, and is configured anew when it is got again under this
name. So the loggers and the kept names drift apart over a run of calls, and what holds of every
logger that was ever configured has to hold of those that are not kept any more, too: it has one
handler for the console and one for a file at most, all at its own level, and passes records on
exactly if it has no handler (`Logger.Orderly`).

A call does one of four things (`Loggers.Change`): nothing, or it configures a logger, gives one
another level, or forgets the names. Each of them keeps all loggers in order (`Sound.change`), if no
call is failed by the file system (`Loggers.Serves`); so does a whole run (`Loggers.run_orderly`).
-/

set_option autoImplicit false

namespace DeviceTrust

/-! ## One logger -/

def Sink.isConsole : Sink → Bool
  | console => true
  | file _ => false

/-- Sinks for the console at most once, and for a file at most once. -/
def Sink.AtMostOneEach (sinks : List Sink) : Prop :=
  sinks.countP (fun sink => sink.isConsole) ≤ 1 ∧ sinks.countP (fun sink => !sink.isConsole) ≤ 1

/-- **A logger in order**: it passes records on exactly if it has no handlers, it has one for the
console and one for a file at most, and all of them have its level. -/
structure Logger.Orderly (l : Logger) : Prop where
  propagate_eq : l.propagate = l.handlers.isEmpty
  atMostOneEach : Sink.AtMostOneEach (l.handlers.map Handler.sink)
  level_eq : ∀ h ∈ l.handlers, h.level = l.level

/-- The logger at another level, and its handlers too. -/
def Logger.atLevel (l : Logger) (level : Level) : Logger :=
  { l with level := level, handlers := l.handlers.map fun h => { h with level := level } }

theorem Logger.Orderly.atLevel {l : Logger} (h : l.Orderly) (level : Level) :
    (l.atLevel level).Orderly where
  propagate_eq := by
    show l.propagate = (l.handlers.map _).isEmpty
    rw [List.isEmpty_map, h.propagate_eq]
  atMostOneEach := by
    have hsinks : (l.atLevel level).handlers.map Handler.sink = l.handlers.map Handler.sink :=
      List.map_map
    rw [hsinks]
    exact h.atMostOneEach
  level_eq := by
    intro g hg
    obtain ⟨_, -, rfl⟩ := List.mem_map.1 hg
    rfl

namespace Loggers

variable {s s' : Loggers} {l m : Logger} {name : String}

theorem orderly_newLogger (name : String) (level : Level) {sinks : List Sink}
    (h : Sink.AtMostOneEach sinks) : (newLogger name level sinks).Orderly where
  propagate_eq := by
    show sinks.isEmpty = (sinks.map _).isEmpty
    rw [List.isEmpty_map]
  atMostOneEach := by
    have hsinks : (newLogger name level sinks).handlers.map Handler.sink = sinks := by
      show (sinks.map _).map _ = sinks
      rw [List.map_map]
      exact List.map_id sinks
    rw [hsinks]
    exact h
  level_eq := by
    intro g hg
    obtain ⟨_, -, rfl⟩ := List.mem_map.1 hg
    rfl

/-! ## Names -/

/-- The names of all loggers that were ever configured. -/
def names (s : Loggers) : List String := s.configured.map Logger.name

theorem properName_properName (name : String) : properName (properName name) = properName name := by
  unfold properName
  by_cases h : name = ""
  · rw [if_pos h]
    rfl
  · rw [if_neg h, if_neg h]

theorem mem_of_find? (h : s.find? name = some l) :
    l ∈ s.configured ∧ l.name = properName name := by
  have hname := List.find?_some (p := fun m : Logger => m.name == properName name) h
  exact ⟨List.mem_of_find?_eq_some h, beq_iff_eq.1 hname⟩

theorem properName_of_find? (h : s.find? name = some l) : properName l.name = l.name := by
  rw [(mem_of_find? h).2, properName_properName]

theorem find?_isSome_iff : (s.find? name).isSome ↔ properName name ∈ s.names := by
  simp [find?, names, List.find?_isSome]

/-! ## Storing a logger -/

theorem mem_store (h : m ∈ (s.store l).configured) : m = l ∨ m ∈ s.configured := by
  unfold store at h
  split at h
  · obtain ⟨m', hm', hm⟩ := List.mem_map.1 h
    split at hm
    · exact .inl hm.symm
    · exact .inr (hm ▸ hm')
  · rcases List.mem_append.1 h with hm | hm
    · exact .inr hm
    · exact .inl (List.mem_singleton.1 hm)

/-- **A stored logger takes the place of the one with its name**, or a place of its own. -/
theorem names_store (hl : properName l.name = l.name) :
    (s.store l).names = if l.name ∈ s.names then s.names else s.names ++ [l.name] := by
  have hfound : (s.find? l.name).isSome ↔ l.name ∈ s.names := by
    rw [find?_isSome_iff, hl]
  unfold store
  by_cases h : l.name ∈ s.names
  · rw [if_pos (hfound.2 h), if_pos h]
    show (s.configured.map _).map _ = _
    rw [List.map_map]
    refine List.map_congr_left fun m _ => ?_
    show (if m.name == l.name then l else m).name = m.name
    split
    · rename_i heq
      exact (beq_iff_eq.1 heq).symm
    · rfl
  · rw [if_neg (mt hfound.1 h), if_neg h]
    exact List.map_append

@[simp] theorem kept_store (s : Loggers) (l : Logger) : (s.store l).kept = s.kept := by
  unfold store
  split <;> rfl

theorem names_subset_store (hl : properName l.name = l.name) : s.names ⊆ (s.store l).names := by
  rw [names_store hl]
  split
  · exact List.Subset.refl _
  · exact List.subset_append_left _ _

theorem name_mem_store (hl : properName l.name = l.name) : l.name ∈ (s.store l).names := by
  rw [names_store hl]
  split
  · assumption
  · simp

/-! ## The invariant -/

/-- **Loggers in order**: every one that was ever configured is in order, no two have the same name,
and there is one for every name that is kept. -/
structure Sound (s : Loggers) : Prop where
  orderly : ∀ l ∈ s.configured, l.Orderly
  distinct : s.names.Nodup
  kept : ∀ name ∈ s.kept, properName name ∈ s.names

theorem sound_start (settings : LogSettings) (files : LogFiles) :
    Sound { settings := settings, files := files } where
  orderly := by simp
  distinct := List.nodup_nil
  kept := by simp

theorem Sound.store (h : s.Sound) (hl : l.Orderly) (hname : properName l.name = l.name) :
    (s.store l).Sound where
  orderly := by
    intro m hm
    rcases mem_store hm with rfl | hm
    · exact hl
    · exact h.orderly m hm
  distinct := by
    rw [names_store hname]
    split
    · exact h.distinct
    · rename_i hnew
      refine List.nodup_append.2 ⟨h.distinct, List.pairwise_singleton _ _, fun a ha b hb hab => ?_⟩
      rw [List.mem_singleton.1 hb] at hab
      exact hnew (hab ▸ ha)
  kept := by
    intro name hkept
    rw [kept_store] at hkept
    exact names_subset_store hname (h.kept name hkept)

theorem Sound.configure (h : s.Sound) (name : String) (level : Level) {sinks : List Sink}
    (hsinks : Sink.AtMostOneEach sinks) : (s.configure name level sinks).Sound := by
  have hname : properName (newLogger name level sinks).name = (newLogger name level sinks).name :=
    properName_properName name
  have hstored := h.store (orderly_newLogger name level hsinks) hname
  refine ⟨hstored.orderly, hstored.distinct, fun name' hkept => ?_⟩
  rcases List.mem_append.1 hkept with hkept | hkept
  · exact hstored.kept name' hkept
  · rw [List.mem_singleton.1 hkept]
    exact name_mem_store hname

theorem Sound.relevel (h : s.Sound) (hl : s.find? name = some l) (level : Level) :
    (s.store (l.atLevel level)).Sound :=
  h.store ((h.orderly l (mem_of_find? hl).1).atLevel level) (properName_of_find? (l := l) hl)

/-! ## Calls -/

/-- A call that a user of the loggers makes. -/
inductive Call where
  | get (name : String) (level? : Option LevelChoice) (directory? : Option String)
    (console? : Option Bool)
  | setLevel (name : String) (level : LevelChoice)
  | clear

def Call.level? : Call → Option LevelChoice
  | get _ level? _ _ => level?
  | setLevel _ level => some level
  | clear => none

/-- A change that changes nothing if it fails. -/
def attempt (s : Loggers) : Except Fault Loggers → Loggers × Except Fault Unit
  | .ok s' => (s', .ok ())
  | .error f => (s, .error f)

/-- What a call does to the loggers, and whether it fails. -/
def step (s : Loggers) : Call → Loggers × Except Fault Unit
  | .get name level? directory? console? => s.get name level? directory? console?
  | .setLevel name level => s.attempt (s.setLevel name level)
  | .clear => (s.clear, .ok ())

/-- The loggers after a run of calls, those that fail included. -/
def run (s : Loggers) : List Call → Loggers
  | [] => s
  | c :: calls => run (s.step c).1 calls

/-- **The file system serves a call**: the call fails for the level that it names, or not at all. -/
def Serves (s : Loggers) (c : Call) : Prop :=
  ∀ f, (s.step c).2 = .error f → ∃ choice, c.level? = some choice ∧ choice.resolve = .error f

def ServesAll (s : Loggers) : List Call → Prop
  | [] => True
  | c :: calls => s.Serves c ∧ ServesAll (s.step c).1 calls

/-- **What becomes of a logger that is asked for**: it is kept already, its level is refused, it is
configured, or its file cannot be opened, in which case the level is none that is refused. -/
inductive Got (s : Loggers) (name : String) (level? : Option LevelChoice) :
    Loggers × Except Fault Unit → Prop
  | kept (h : name ∈ s.kept) : Got s name level? (s, .ok ())
  | refused {choice : LevelChoice} {f : Fault} (hlevel : level? = some choice)
      (hf : choice.resolve = .error f) : Got s name level? (s, .error f)
  | configured (files : LogFiles) {level : Level} {sinks : List Sink}
      (hlevel : ∀ choice, level? = some choice → choice.resolve = .ok level)
      (hsinks : Sink.AtMostOneEach sinks) :
      Got s name level? ({ s with files := files }.configure name level sinks, .ok ())
  | unopened {level : Level} (s' : Loggers) (f : Fault)
      (hlevel : ∀ choice, level? = some choice → choice.resolve = .ok level) :
      Got s name level? (s', .error f)

theorem got_getWithFile (name directory : String) {level? : Option LevelChoice} {level : Level}
    (hlevel : ∀ choice, level? = some choice → choice.resolve = .ok level) {sinks : List Sink}
    (hsinks : sinks = [] ∨ sinks = [.console]) :
    Got s name level? (s.getWithFile name directory level sinks) := by
  have hone : ∀ place, Sink.AtMostOneEach (sinks ++ [.file place]) := by
    intro place
    rcases hsinks with rfl | rfl <;>
      simp [Sink.AtMostOneEach, Sink.isConsole]
  unfold getWithFile
  split
  · exact .unopened _ _ hlevel
  · dsimp only
    split
    · exact .unopened _ _ hlevel
    · exact .configured _ hlevel (hone _)

theorem got_get (s : Loggers) (name : String) (level? : Option LevelChoice)
    (directory? : Option String) (console? : Option Bool) :
    Got s name level? (s.get name level? directory? console?) := by
  unfold get
  split
  · rename_i hkept
    exact .kept (List.contains_iff_mem.1 hkept)
  · split
    · rename_i f hf
      cases level? with
      | none => cases hf
      | some choice => exact .refused rfl hf
    · rename_i level hresolved
      have hlevel : ∀ choice, level? = some choice → choice.resolve = .ok level := by
        rintro choice rfl
        exact hresolved
      have hsinks : (if console?.getD s.settings.console then [Sink.console] else []) = [] ∨
          (if console?.getD s.settings.console then [Sink.console] else []) = [Sink.console] := by
        by_cases h : console?.getD s.settings.console = true
        · exact .inr (if_pos h)
        · exact .inl (if_neg h)
      dsimp only
      split
      · refine .configured s.files hlevel ?_
        rcases hsinks with h | h <;> rw [h] <;> exact ⟨by decide, by decide⟩
      · exact got_getWithFile name _ hlevel hsinks

/-- **What becomes of a logger whose level is set**: nothing, if its name is not kept, or it has the
new level, unless this is refused. -/
inductive Levelled (s : Loggers) (name : String) (choice : LevelChoice) :
    Except Fault Loggers → Prop
  | untouched : Levelled s name choice (.ok s)
  | levelled {l : Logger} {level : Level} (hl : s.find? name = some l)
      (hlevel : choice.resolve = .ok level) :
      Levelled s name choice (.ok (s.store (l.atLevel level)))
  | refused {f : Fault} (hf : choice.resolve = .error f) : Levelled s name choice (.error f)

theorem levelled_setLevel (s : Loggers) (name : String) (choice : LevelChoice) :
    Levelled s name choice (s.setLevel name choice) := by
  unfold setLevel
  split
  · rename_i l hl
    split
    · cases hresolve : choice.resolve with
      | error f => exact .refused hresolve
      | ok level => exact .levelled hl hresolve
    · exact .untouched
  · exact .untouched

/-! ## What a call changes -/

/-- **What a call changes** when the file system serves it. -/
inductive Change (s : Loggers) : Loggers → Prop
  | nothing : Change s s
  | configured (files : LogFiles) (name : String) (level : Level) {sinks : List Sink}
      (hsinks : Sink.AtMostOneEach sinks) :
      Change s ({ s with files := files }.configure name level sinks)
  | level {name : String} {l : Logger} (hl : s.find? name = some l) (level : Level) :
      Change s (s.store (l.atLevel level))
  | cleared : Change s s.clear

theorem change_of_serves {c : Call} (h : s.Serves c) : Change s (s.step c).1 := by
  cases c with
  | get name level? directory? console? =>
      have hgot := got_get s name level? directory? console?
      -- a file system that serves refuses only what names no level
      have hserves : ∀ f, (s.get name level? directory? console?).2 = .error f →
          ∃ choice, level? = some choice ∧ choice.resolve = .error f := h
      show Change s (s.get name level? directory? console?).1
      generalize s.get name level? directory? console? = outcome at hgot hserves
      cases hgot with
      | kept _ | refused _ _ => exact .nothing
      | configured files hlevel hsinks => exact .configured files name _ hsinks
      | unopened s' f hlevel =>
          obtain ⟨choice, hchoice, hf⟩ := hserves f rfl
          cases hf.symm.trans (hlevel choice hchoice)
  | setLevel name choice =>
      have hset := levelled_setLevel s name choice
      show Change s (s.attempt (s.setLevel name choice)).1
      generalize s.setLevel name choice = outcome at hset
      cases hset with
      | untouched | refused _ => exact .nothing
      | levelled hl _ => exact .level hl _
  | clear => exact .cleared

/-- **A call keeps the loggers in order.** -/
theorem Sound.change (h : s.Sound) (hs : s.Change s') : s'.Sound := by
  cases hs with
  | nothing => exact h
  | configured files name level hsinks =>
      have hfiles : Sound { s with files := files } := ⟨h.orderly, h.distinct, h.kept⟩
      exact hfiles.configure name level hsinks
  | level hl level => exact h.relevel hl level
  | cleared =>
      refine ⟨h.orderly, h.distinct, fun name hkept => ?_⟩
      cases hkept

/-- **A call forgets no logger.** -/
theorem Change.names_subset (hs : s.Change s') : s.names ⊆ s'.names := by
  cases hs with
  | nothing => exact List.Subset.refl _
  | configured files name level hsinks =>
      exact names_subset_store (s := { s with files := files }) (properName_properName name)
  | @level name l hl level => exact names_subset_store (properName_of_find? (l := l) hl)
  | cleared => exact List.Subset.refl _

theorem Sound.mem_names_of_get (h : s.Sound) {level? : Option LevelChoice}
    {directory? : Option String} {console? : Option Bool}
    (hget : (s.get name level? directory? console?).2 = .ok ()) :
    properName name ∈ (s.get name level? directory? console?).1.names := by
  have hgot := got_get s name level? directory? console?
  generalize s.get name level? directory? console? = outcome at hgot hget
  cases hgot with
  | kept hkept => exact h.kept name hkept
  | configured files hlevel hsinks =>
      exact name_mem_store (s := { s with files := files }) (properName_properName name)
  | refused _ _ | unopened _ _ _ => cases hget

/-- A level that is refused changes nothing, whether the call gets as far as the level or not. -/
theorem step_of_refused {c : Call} {choice : LevelChoice} {f : Fault} (hc : c.level? = some choice)
    (hf : choice.resolve = .error f) : (s.step c).1 = s := by
  cases c with
  | get name level? directory? console? =>
      have hgot := got_get s name level? directory? console?
      show (s.get name level? directory? console?).1 = s
      generalize s.get name level? directory? console? = outcome at hgot
      cases hgot with
      | kept _ | refused _ _ => rfl
      | configured _ hlevel _ | unopened _ _ hlevel =>
          -- a level that was taken is not refused
          cases hf.symm.trans (hlevel choice hc)
  | setLevel name level =>
      cases hc
      have hset := levelled_setLevel s name choice
      show (s.attempt (s.setLevel name choice)).1 = s
      generalize s.setLevel name choice = outcome at hset
      cases hset with
      | untouched | refused _ => rfl
      | levelled _ hlevel => cases hf.symm.trans hlevel
  | clear => cases hc

/-! ## Whole runs -/

theorem run_append (s : Loggers) (before after : List Call) :
    s.run (before ++ after) = (s.run before).run after := by
  induction before generalizing s with
  | nil => rfl
  | cons c before ih => exact ih (s.step c).1

theorem servesAll_append {before after : List Call} :
    s.ServesAll (before ++ after) ↔ s.ServesAll before ∧ (s.run before).ServesAll after := by
  induction before generalizing s with
  | nil => simp [ServesAll, run]
  | cons c before ih =>
      show s.Serves c ∧ (s.step c).1.ServesAll (before ++ after) ↔
        (s.Serves c ∧ (s.step c).1.ServesAll before) ∧ ((s.step c).1.run before).ServesAll after
      rw [ih, and_assoc]

/-- **A run keeps the loggers in order.** -/
theorem Sound.run (h : s.Sound) {calls : List Call} (hcalls : s.ServesAll calls) :
    (s.run calls).Sound := by
  induction calls generalizing s with
  | nil => exact h
  | cons c calls ih => exact ih (h.change (change_of_serves hcalls.1)) hcalls.2

/-- **A run forgets no logger.** -/
theorem names_subset_run {calls : List Call} (hcalls : s.ServesAll calls) :
    s.names ⊆ (s.run calls).names := by
  induction calls generalizing s with
  | nil => exact List.Subset.refl _
  | cons c calls ih =>
      exact List.Subset.trans (change_of_serves hcalls.1).names_subset (ih hcalls.2)

theorem Sound.exists_find? (h : s.Sound) (hname : properName name ∈ s.names) :
    ∃ l, s.find? name = some l ∧ l.Orderly := by
  obtain ⟨l, hl⟩ := Option.isSome_iff_exists.1 (find?_isSome_iff.2 hname)
  exact ⟨l, hl, h.orderly l (mem_of_find? hl).1⟩

/-- A name that is kept is not looked at again. -/
theorem get_of_kept (h : name ∈ s.kept) (level? : Option LevelChoice) (directory? : Option String)
    (console? : Option Bool) : s.get name level? directory? console? = (s, .ok ()) :=
  if_pos (List.contains_iff_mem.2 h)

/-- **Loggers stay in order over every run of calls** that the file system serves, from any settings
and files and whatever the calls ask for. At the end of the run every logger that was ever configured
is in order, and no two have one name. A logger that was got at any point of the run is still found
under its name, kept or not. Under a name that is kept there is a logger, and to get it again, with
any options, gives it and changes nothing. And no call with a level that is refused changes anything,
be it a logger, a name that is kept or a file. -/
theorem run_orderly (settings : LogSettings) (files : LogFiles) (calls : List Call)
    (hcalls : ServesAll { settings := settings, files := files } calls) :
    let start : Loggers := { settings := settings, files := files }
    let s := start.run calls
    ((∀ l ∈ s.configured, l.Orderly) ∧ s.names.Nodup) ∧
    (∀ before after name level? directory? console?,
      calls = before ++ .get name level? directory? console? :: after →
      ((start.run before).get name level? directory? console?).2 = .ok () →
      ∃ l, s.find? name = some l ∧ l.Orderly) ∧
    (∀ name ∈ s.kept, (∃ l, s.find? name = some l) ∧ ∀ level? directory? console?,
      s.get name level? directory? console? = (s, .ok ())) ∧
    ∀ c choice f, c.level? = some choice → choice.resolve = .error f → (s.step c).1 = s := by
  intro start s
  have hstart : start.Sound := sound_start settings files
  have hs : s.Sound := hstart.run hcalls
  refine ⟨⟨hs.orderly, hs.distinct⟩, fun before after name level? directory? console? hsplit hget =>
    ?_, fun name hkept => ⟨?_, get_of_kept hkept⟩, fun c choice f => step_of_refused⟩
  · -- the logger is there when it was got, and no later call forgets it
    have hserves := hcalls
    rw [hsplit, servesAll_append] at hserves
    obtain ⟨hbefore, -, hafter⟩ := hserves
    have hnamed := (hstart.run hbefore).mem_names_of_get hget
    have hend : s = ((start.run before).step (.get name level? directory? console?)).1.run after := by
      show start.run calls = _
      rw [hsplit, run_append]
      rfl
    refine hs.exists_find? ?_
    rw [hend]
    exact names_subset_run hafter hnamed
  · obtain ⟨l, hl, -⟩ := hs.exists_find? (hs.kept name hkept)
    exact ⟨l, hl⟩

/-- A logger that is configured with the console, forgotten and configured with it again has one
handler, and a level that is none changes nothing of it. -/
theorem run_orderly_console :
    let start : Loggers := {}
    let calls : List Call := [.get "a" (some (.number 10)) none (some true), .clear,
      .get "a" (some (.name "WARNING")) (some "") (some true), .setLevel "a" (.name "LOUD"),
      .setLevel "a" (.number 40)]
    let s := start.run calls
    (∃ l, s.find? "a" = some l ∧ l.Orderly) ∧ s.get "a" = (s, .ok ()) ∧
      s.find? "a" = some ⟨"a", 40, false, [⟨.console, 40⟩]⟩ := by
  intro start calls s
  have hcalls : start.ServesAll calls := by
    refine ⟨?_, ?_, ?_, ?_, ?_, trivial⟩
    · rintro f ⟨⟩
    · rintro f ⟨⟩
    · rintro f ⟨⟩
    · rintro f ⟨⟩
      exact ⟨_, rfl, rfl⟩
    · rintro f ⟨⟩
  obtain ⟨-, hgot, hkept, -⟩ := run_orderly {} {} calls hcalls
  exact ⟨hgot [] _ "a" _ _ _ rfl rfl, (hkept "a" (by decide)).2 none none none, by rfl⟩

end Loggers

end DeviceTrust
