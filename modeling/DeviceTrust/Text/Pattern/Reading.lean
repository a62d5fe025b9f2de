/-!
# Reading a regular expression

The state of a reader of regular expressions: the tokens that are left, the groups seen so far and
the flags. A token is a character, or a backslash with the character after it. A reading step
changes the state, or fails if the expression is malformed.

What an expression matches has a least and a greatest width; they matter where an expression looks
behind, because it can only look back by one width.
-/

set_option autoImplicit false

namespace DeviceTrust.Text.Pattern

/-! ## Tokens -/

/-- A character, or a backslash with the character after it. -/
inductive Token where
  | plain (c : Char)
  | escaped (c : Char)
  deriving DecidableEq, Repr

/-- The tokens of a text; none if it ends in a lone backslash. -/
def tokens? : List Char → Option (List Token)
  | [] => some []
  | ['\\'] => none
  | '\\' :: c :: rest => (tokens? rest).map (.escaped c :: ·)
  | c :: rest => (tokens? rest).map (.plain c :: ·)

/-! ## Widths -/

/-- The numbers of characters that an expression can match; there may be no greatest one. -/
structure Width where
  least : Nat
  greatest : Option Nat
  deriving DecidableEq, Repr

namespace Width

/-- The width of what matches the empty text only. -/
def zero : Width := ⟨0, some 0⟩

def one : Width := ⟨1, some 1⟩

def after (a b : Width) : Width :=
  ⟨a.least + b.least, match a.greatest, b.greatest with
    | some m, some n => some (m + n)
    | _, _ => none⟩

def either (a b : Width) : Width :=
  ⟨min a.least b.least, match a.greatest, b.greatest with
    | some m, some n => some (max m n)
    | _, _ => none⟩

/-- The width of a repetition, with or without a greatest number of times. -/
def times (w : Width) (least : Nat) (greatest : Option Nat) : Width :=
  ⟨w.least * least, match w.greatest, greatest with
    | some 0, _ => some 0
    | some n, some times => some (n * times)
    | _, some 0 => some 0
    | _, _ => none⟩

/-- The greatest width to look back by. -/
def greatestBehind : Nat := 0xffffffff

/-- Whether an expression with this width can be looked for behind a position. -/
def isFixed (w : Width) : Bool := w.greatest == some w.least && w.least ≤ greatestBehind

end Width

/-! ## The state -/

structure Flags where
  verbose : Bool := false
  ascii : Bool := false
  unicode : Bool := false
  locale : Bool := false
  template : Bool := false

structure State where
  /-- Whether the expression matches text, and not bytes. -/
  isText : Bool
  /-- The tokens that are left. -/
  rest : List Token
  /-- The widths of the numbered groups in order; of an open group it is not yet known. -/
  groups : List (Option Width) := []
  /-- The numbers of the named groups. -/
  names : List (List Char × Nat) := []
  /-- While an expression is looked for behind a position: the number of groups before it. -/
  groupsBefore : Option Nat := none
  /-- The greatest group number that a condition asks for. -/
  greatestCondition : Nat := 0
  /-- The flags of the whole expression. -/
  flags : Flags := {}
  /-- Whether anything is repeated. -/
  repeats : Bool := false

/-- A step of a reader. -/
abbrev Step (α : Type) := StateT State Option α

namespace Step

def malformed {α : Type} : Step α := fun _ => none

def require (condition : Bool) : Step Unit := if condition then pure () else malformed

/-- The next token, which stays. -/
def peek? : Step (Option Token) := do return (← get).rest.head?

def next? : Step (Option Token) :=
  modifyGet fun s => (s.rest.head?, { s with rest := s.rest.tail })

/-- Takes the next token, which must be there. -/
def next : Step Token := do
  match ← next? with
  | some t => return t
  | none => malformed

/-- Takes a character if it comes next. -/
def take? (c : Char) : Step Bool := do
  if (← peek?) = some (.plain c) then
    let _ ← next?
    return true
  else return false

def take (c : Char) : Step Unit := do require (← take? c)

/-- Takes characters as long as they fulfil a condition, at most `count` of them. -/
def takeWhile (allowed : Char → Bool) : (count : Nat) → Step (List Char)
  | 0 => pure []
  | count + 1 => do
    match ← peek? with
    | some (.plain c) =>
      if allowed c then
        let _ ← next?
        return c :: (← takeWhile allowed count)
      else return []
    | _ => return []

/-- Takes the characters up to a mark, and the mark. No text that is read in this way can hold a
backslash. -/
def takeUntil (mark : Char) : Step (List Char) := do
  let s ← get
  let isMark (t : Token) : Bool := t == .plain mark
  let body := s.rest.takeWhile fun t => !isMark t
  let characters := body.filterMap fun t => match t with
    | .plain c => some c
    | .escaped _ => none
  match s.rest.drop body.length with
  | [] => malformed
  | _ :: rest =>
    require (!body.isEmpty && characters.length == body.length)
    set { s with rest := rest }
    return characters

/-! ## Groups -/

/-- The number of a group that opens; a name must be new. -/
def openGroup (name? : Option (List Char)) : Step Nat := do
  let s ← get
  let number := s.groups.length + 1
  match name? with
  | none => set { s with groups := s.groups ++ [none] }
  | some name =>
    require (s.names.lookup name).isNone
    set { s with groups := s.groups ++ [none], names := (name, number) :: s.names }
  return number

def closeGroup (number : Nat) (w : Width) : Step Unit :=
  modify fun s => { s with groups := s.groups.set (number - 1) (some w) }

/-- The number of a named group, which must have been opened. -/
def groupNamed (name : List Char) : Step Nat := do
  match (← get).names.lookup name with
  | some number => return number
  | none => malformed

def widthOfGroup? (s : State) (number : Nat) : Option Width :=
  if number = 0 then none else (s.groups[number - 1]?).join

/-- Fails if an expression that is looked for behind a position refers to a group that is open or
was opened in it. -/
def checkBehind (number : Nat) : Step Unit := do
  let s ← get
  match s.groupsBefore with
  | none => return ()
  | some count => require ((widthOfGroup? s number).isSome && number ≤ count)

/-- A reference to a group, which must be closed. -/
def reference (number : Nat) : Step Width := do
  match widthOfGroup? (← get) number with
  | none => malformed
  | some w =>
    checkBehind number
    return w

end Step

end DeviceTrust.Text.Pattern
