import DeviceTrust.Cose.Secret
import DeviceTrust.Number.Literal
import DeviceTrust.Text.Quoted

/-!
# Values in messages

How a message shows a value: numbers in decimal, text and bytes in quotes, arrays and maps in
brackets. A structured key shows its byte strings in hexadecimal and never its secret part.
-/

set_option autoImplicit false

namespace DeviceTrust

def bracketed (opening closing : String) (parts : List String) : String :=
  opening ++ String.intercalate ", " parts ++ closing

def labelled (label content : String) : String := label ++ ": " ++ content

/-- A constant as its registry, its name and its value. -/
def constantLiteral (registry name value : String) : String :=
  "<" ++ registry ++ "." ++ name ++ ": " ++ value ++ ">"

def braced (parts : List String) : String := bracketed "\x7b" "\x7d" parts

/-- What stands for the secret part of a structured key. -/
def redacted : String := Text.quoted "<redacted>"

namespace Value

mutual

def literal : Value → String
  | null => "None"
  | bool true => "True"
  | bool false => "False"
  | int n => toString n
  | registered r => constantLiteral r.registry r.name (toString r.number)
  | float x => x.literal
  | text s => Text.quoted s
  | bytes b => Text.quotedBytes b
  | buffer b => "bytearray(" ++ Text.quotedBuffer b ++ ")"
  | list items => bracketed "[" "]" (literals items)
  | tuple items =>
    match literals items with
    | [only] => "(" ++ only ++ ",)"
    | parts => bracketed "(" ")" parts
  | map .plain entries => braced (entryLiterals entries)
  | map .readOnly entries => "mappingproxy(" ++ braced (entryLiterals entries) ++ ")"
  | map .frozen entries => "frozendict(" ++ braced (entryLiterals entries) ++ ")"
  | tag number content => "CBORTag(" ++ toString number ++ ", " ++ literal content ++ ")"
  | simple code => "CBORSimpleValue(" ++ toString code.toNat ++ ")"
  | undefined => "undefined"
  | kind k => constantLiteral "CborType" k.name (Text.quoted k.description)
  | coseKey entries => "CoseKey(" ++ braced (parameterLiterals entries) ++ ")"
  | message p u q s =>
    "Sign1Message(protected=" ++ literal p ++ ", unprotected=" ++ literal u ++ ", payload="
      ++ literal q ++ ", signature=" ++ literal s ++ ")"
  | set false [] => "set()"
  | set true [] => "frozenset()"
  | set false items => braced (literals items)
  | set true items => "frozenset(" ++ braced (literals items) ++ ")"
  | unknown _ => "<opaque>"
  | v => "<" ++ v.typeName ++ ">"

def literals : List Value → List String
  | [] => []
  | x :: rest => literal x :: literals rest

def entryLiterals : Entries → List String
  | [] => []
  | (k, v) :: rest => labelled (literal k) (literal v) :: entryLiterals rest

def parameterLiterals : Entries → List String
  | [] => []
  | (k, v) :: rest =>
    let shown :=
      if k.isSecretLabel then redacted
      else match v with
        | bytes b => Text.quoted (Bytes.hex b)
        | v => literal v
    labelled (literal k) shown :: parameterLiterals rest

end

end Value

end DeviceTrust
