import DeviceTrust.Bytes
import DeviceTrust.Text.Identifier
import DeviceTrust.Text.Pattern.Escape

/-!
# Regular expressions

Recognises the texts and byte strings that are well-formed regular expressions: alternatives of
sequences of items, where an item is a character, a set, a position, a group, a reference to a
group or a repetition. An expression for bytes is read as text, a character for each byte.

The reader is a family of functions that call each other; its fuel bounds their steps. Every token
costs three steps at the most.
-/

set_option autoImplicit false

namespace DeviceTrust.Text.Pattern

/-! ## Flags -/

/-- Some flags that a group turns on or off. -/
structure FlagChange where
  letters : List Char
  deriving DecidableEq

namespace FlagChange

/-- The letters of flags. -/
def known : List Char := ['i', 'L', 'm', 's', 'x', 'a', 't', 'u']

/-- The letters of flags that exclude each other and cannot be turned off. -/
def exclusive : List Char := ['a', 'L', 'u']

def has (change : FlagChange) (letter : Char) : Bool := change.letters.contains letter

/-- Whether a flag can be turned on after others: the one for bytes only in an expression for
bytes, the one for text only in one for text. -/
def canTurnOn (isText : Bool) (change : FlagChange) (letter : Char) : Bool :=
  known.contains letter && letter != (if isText then 'L' else 'u') &&
    !(exclusive.contains letter &&
      change.letters.any fun other => exclusive.contains other && other != letter)

def canTurnOff (letter : Char) : Bool := known.contains letter && !exclusive.contains letter

end FlagChange

/-- Reads the flags to turn on, and the mark after them, with at most `fuel` steps; the first of
them is a letter that has been read. -/
def flagsOn : (fuel : Nat) → FlagChange → Char → Step (FlagChange × Char)
  | 0, _, _ => Step.malformed
  | fuel + 1, change, letter => do
    Step.require (change.canTurnOn (← get).isText letter)
    let change : FlagChange := ⟨change.letters ++ [letter]⟩
    match ← Step.next with
    | .plain c => if [')', '-', ':'].contains c then return (change, c) else flagsOn fuel change c
    | .escaped _ => Step.malformed

/-- Reads the flags to turn off and the colon after them, with at most `fuel` steps. -/
def flagsOff : (fuel : Nat) → FlagChange → Step FlagChange
  | 0, _ => Step.malformed
  | fuel + 1, change => do
    match ← Step.next with
    | .plain ':' =>
      Step.require (!change.letters.isEmpty)
      return change
    | .plain letter =>
      Step.require (FlagChange.canTurnOff letter)
      flagsOff fuel ⟨change.letters ++ [letter]⟩
    | .escaped _ => Step.malformed

def applyFlags (change : FlagChange) : Step Unit :=
  modify fun s => { s with
    flags := {
      verbose := s.flags.verbose || change.has 'x'
      ascii := s.flags.ascii || change.has 'a'
      unicode := s.flags.unicode || change.has 'u'
      locale := s.flags.locale || change.has 'L'
      template := s.flags.template || change.has 't' } }

/-- Whether a mark of flags is read: flags for the whole expression give nothing, flags for a group
the ones that are turned on and off in it. -/
def flagMark (letter : Char) : Step (Option (FlagChange × FlagChange)) := do
  let fuel := (← get).rest.length + 1
  let (on, mark) ← if letter = '-' then pure (⟨[]⟩, '-') else flagsOn fuel ⟨[]⟩ letter
  if mark = ')' then
    applyFlags on
    return none
  else
    let off ← if mark = '-' then flagsOff fuel ⟨[]⟩ else pure ⟨[]⟩
    Step.require (!on.has 't' && !off.has 't' && !on.letters.any off.has)
    return some (on, off)

/-! ## Repetitions -/

/-- How often something is repeated, with or without a greatest number of times. -/
structure Count where
  least : Nat
  greatest : Option Nat

/-- From this number of times on an expression is refused. -/
def countLimit : Nat := 0xffffffff

/-- The counts in braces at the start of some tokens, and the tokens after them; none if there are
no such counts. -/
def bounds? (rest : List Token) : Option ((List Char × List Char) × List Token) :=
  let isDigit (t : Token) : Bool := match t with
    | .plain c => c.isDigit
    | .escaped _ => false
  let digits (ts : List Token) : List Char := ts.filterMap fun t => match t with
    | .plain c => if c.isDigit then some c else none
    | .escaped _ => none
  let low := rest.takeWhile isDigit
  match rest.drop low.length with
  | .plain '\x7d' :: rest => some ((digits low, digits low), rest)
  | .plain ',' :: rest =>
    let high := rest.takeWhile isDigit
    match rest.drop high.length with
    | .plain '\x7d' :: rest => some ((digits low, digits high), rest)
    | _ => none
  | _ => none

/-- Reads the counts in braces after the opening brace; nothing if the brace stands for itself. -/
def countInBraces : Step (Option Count) := do
  let s ← get
  if s.rest.head? = some (.plain '\x7d') then return none
  else match bounds? s.rest with
    | none => return none
    | some ((low, high), rest) =>
      set { s with rest := rest }
      let least := numberOf 10 low
      let greatest := if high.isEmpty then none else some (numberOf 10 high)
      Step.require (least < countLimit && greatest.all fun n => n < countLimit && least ≤ n)
      return some ⟨least, greatest⟩

def countOf? : Char → Option Count
  | '*' => some ⟨0, none⟩
  | '+' => some ⟨1, none⟩
  | '?' => some ⟨0, some 1⟩
  | _ => none

/-! ## Sequences -/

/-- The items of a sequence read so far: the width of all but the last one, and the last one. -/
structure Sequence where
  before : Width := .zero
  last? : Option Item := none

namespace Sequence

def width (s : Sequence) : Width :=
  match s.last? with
  | none => s.before
  | some item => s.before.after item.width

def add (s : Sequence) (item : Item) : Sequence := ⟨s.width, some item⟩

/-- The sequence with its last item repeated. A mark after the count says how to go on after it. -/
def repeatLast (s : Sequence) (count : Count) : Step Sequence := do
  match s.last? with
  | some ⟨.other, w⟩ =>
    if !(← Step.take? '?') then discard (Step.take? '+')
    modify fun s => { s with repeats := true }
    return ⟨s.before, some ⟨.repetition, w.times count.least count.greatest⟩⟩
  | _ => Step.malformed

end Sequence

/-- What a pair of brackets adds to a sequence. -/
inductive Bracketed where
  | nothing
  | item (item : Item)
  /-- Flags for the whole expression. -/
  | flags

/-- What comes after the mark that opens a group. -/
inductive Opening where
  /-- The group is complete. -/
  | done (b : Bracketed)
  /-- A group of its own, numbered or not. -/
  | group (number? : Option Nat) (on off : FlagChange)
  /-- Something to look for ahead of a position. -/
  | ahead
  /-- Something to look for behind a position. -/
  | behind
  /-- Two sequences, of which one is chosen. -/
  | condition

/-- A group without a number and without flags. -/
def Opening.unnumbered : Opening := .group none ⟨[]⟩ ⟨[]⟩

/-- The blanks that do not count where an expression is spread out for readers. -/
def isSpread (c : Char) : Bool := [' ', '\t', '\n', '\r', '\x0b', '\x0c'].contains c

/-- Skips the tokens up to a mark, and the mark; a comment to the end of a line may also end with
the expression. -/
def skipTo (mark : Char) (orEnd : Bool) : Step Unit := do
  let s ← get
  match s.rest.dropWhile fun t => t != .plain mark with
  | _ :: rest => set { s with rest := rest }
  | [] =>
    Step.require orEnd
    set { s with rest := [] }

/-- Reads what follows the letter `P`: the name of a new group, or of one to refer to. -/
def namedOpening : Step Opening := do
  if ← Step.take? '<' then
    let name ← Step.takeUntil '>'
    Step.require (isName name)
    return .group (some (← Step.openGroup (some name))) ⟨[]⟩ ⟨[]⟩
  else
    Step.take '='
    let name ← Step.takeUntil ')'
    return .done (.item ⟨.other, ← Step.reference (← Step.groupNamed name)⟩)

/-- From this number on a group cannot be asked for. -/
def groupLimit : Nat := 1073741823

/-- Reads the name or number of the group that a condition asks for. -/
def conditionOpening : Step Opening := do
  let name ← Step.takeUntil ')'
  if isName name then Step.checkBehind (← Step.groupNamed name)
  else match integer name with
    | .ok (.ofNat number) =>
      Step.require (number != 0 && number < groupLimit)
      modify fun s => { s with greatestCondition := max s.greatestCondition number }
      Step.checkBehind number
    | _ => Step.malformed
  return .condition

/-- Reads what follows an opening bracket, up to the content of the group. -/
def opening : Step Opening := do
  if !(← Step.take? '?') then return .group (some (← Step.openGroup none)) ⟨[]⟩ ⟨[]⟩
  else match ← Step.next with
    | .escaped _ => Step.malformed
    | .plain 'P' => namedOpening
    | .plain ':' => return .unnumbered
    | .plain '>' => return .unnumbered
    | .plain '#' =>
      skipTo ')' false
      return .done .nothing
    | .plain '=' => return .ahead
    | .plain '!' => return .ahead
    | .plain '<' =>
      if !(← Step.take? '=') then Step.take '!'
      return .behind
    | .plain '(' => conditionOpening
    | .plain letter =>
      match ← flagMark letter with
      | none => return .done .flags
      | some (on, off) => return .group none on off

/-! ## Expressions -/

mutual

/-- Reads alternatives and gives their width. `outermost` says that no group is open, and `first`
that these are the first of the alternatives. -/
def alternatives : (fuel : Nat) → (verbose outermost first : Bool) → Step Width
  | 0, _, _, _ => Step.malformed
  | fuel + 1, verbose, outermost, first => do
    let w ← sequence fuel verbose (outermost && first) {}
    if ← Step.take? '|' then
      let spread := (← get).flags.verbose
      let verbose := if outermost then spread else verbose
      return w.either (← alternatives fuel verbose outermost false)
    else return w

/-- Reads the items of a sequence after those already read, and gives their width. Flags for the
whole expression may stand at its very start only. -/
def sequence : (fuel : Nat) → (verbose start : Bool) → Sequence → Step Width
  | 0, _, _, _ => Step.malformed
  | fuel + 1, verbose, start, s => do
    match ← Step.peek? with
    | none => return s.width
    | some (.escaped c) =>
      let _ ← Step.next
      sequence fuel verbose start (s.add (← itemEscape c))
    | some (.plain c) =>
      if c = '|' || c = ')' then return s.width
      else
        let _ ← Step.next
        if verbose && isSpread c then sequence fuel verbose start s
        else if verbose && c = '#' then
          skipTo '\n' true
          sequence fuel verbose start s
        else if c = '[' then sequence fuel verbose start (s.add (← characterSet))
        else if c = '(' then
          match ← group fuel verbose with
          | .nothing => sequence fuel verbose start s
          | .item item => sequence fuel verbose start (s.add item)
          | .flags =>
            Step.require (start && s.last?.isNone)
            sequence fuel (← get).flags.verbose start s
        else if c = '^' || c = '$' then sequence fuel verbose start (s.add ⟨.position, .zero⟩)
        else if c = '\x7b' then
          match ← countInBraces with
          | none => sequence fuel verbose start (s.add .single)
          | some count => sequence fuel verbose start (← s.repeatLast count)
        else match countOf? c with
          | some count => sequence fuel verbose start (← s.repeatLast count)
          | none => sequence fuel verbose start (s.add .single)

def group : (fuel : Nat) → (verbose : Bool) → Step Bracketed
  | 0, _ => Step.malformed
  | fuel + 1, verbose => do
    match ← opening with
    | .done b => return b
    | .group number? on off =>
      let w ← alternatives fuel ((verbose || on.has 'x') && !off.has 'x') false false
      Step.take ')'
      match number? with
      | some number => Step.closeGroup number w
      | none => pure ()
      return .item ⟨.other, w⟩
    | .ahead =>
      let _ ← alternatives fuel verbose false false
      Step.take ')'
      return .item ⟨.other, .zero⟩
    | .behind =>
      let outer := (← get).groupsBefore
      modify fun s => { s with groupsBefore := some (outer.getD s.groups.length) }
      let w ← alternatives fuel verbose false false
      modify fun s => { s with groupsBefore := outer }
      Step.take ')'
      Step.require w.isFixed
      return .item ⟨.other, .zero⟩
    | .condition =>
      let yes ← sequence fuel verbose false {}
      let no ← if ← Step.take? '|' then sequence fuel verbose false {} else pure .zero
      Step.take ')'
      return .item ⟨.other, yes.either no⟩

end

/-- Reads a whole expression. Flags that exclude each other are refused, and so are a condition on
a group that is not there, and repetitions where the flags do not allow them. -/
def expression : Step Unit := do
  let _ ← alternatives (3 * (← get).rest.length + 3) false true true
  let s ← get
  Step.require (s.rest.isEmpty && s.greatestCondition ≤ s.groups.length)
  Step.require (!(s.flags.ascii && (s.flags.unicode || s.flags.locale)))
  Step.require (!(s.flags.template && s.repeats))

def isExpression (isText : Bool) (characters : List Char) : Bool :=
  match tokens? characters with
  | none => false
  | some rest => (expression.run { isText := isText, rest := rest }).isSome

end Pattern

/-- A regular expression, for text or for bytes, as it was written. -/
inductive Pattern where
  | text (source : String)
  | bytes (source : Bytes)
  deriving DecidableEq

def Pattern.isWellFormed : Pattern → Bool
  | text source => Pattern.isExpression true source.toList
  | bytes source => Pattern.isExpression false (source.map fun x => Char.ofNat x.toNat)

end DeviceTrust.Text
