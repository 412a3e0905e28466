import ScreenCapture.Json.Token

set_option autoImplicit false

namespace ScreenCapture

namespace Json

abbrev Reader (A : Type) := List Token → Option (A × List Token)

inductive Bracket where
  | object
  | array
deriving DecidableEq

inductive Expected where
  | value
  | itemOrEnd
  | key
  | keyOrEnd
  | colon
  | commaOrEnd
deriving DecidableEq

def passValue (nesting : List Bracket) : Token → Option (List Bracket × Expected)
  | .beginObject => some (.object :: nesting, .keyOrEnd)
  | .beginArray => some (.array :: nesting, .itemOrEnd)
  | .text _ | .number _ | .null | .bool _ => some (nesting, .commaOrEnd)
  | .endObject | .endArray | .comma | .colon => none

def pass (nesting : List Bracket) : Expected → Token → Option (List Bracket × Expected)
  | .value, token => passValue nesting token
  | .itemOrEnd, .endArray => some (nesting.tail, .commaOrEnd)
  | .itemOrEnd, token => passValue nesting token
  | .key, .text _ | .keyOrEnd, .text _ => some (nesting, .colon)
  | .keyOrEnd, .endObject => some (nesting.tail, .commaOrEnd)
  | .colon, .colon => some (nesting, .value)
  | .commaOrEnd, token =>
      match nesting, token with
      | .object :: _, .comma => some (nesting, .key)
      | .array :: _, .comma => some (nesting, .value)
      | .object :: outer, .endObject => some (outer, .commaOrEnd)
      | .array :: outer, .endArray => some (outer, .commaOrEnd)
      | _, _ => none
  | _, _ => none

def skip (nesting : List Bracket) (expected : Expected) : List Token → Option (List Token)
  | [] => none
  | token :: rest => do
      let (nesting, expected) ← pass nesting expected token
      if nesting = [] ∧ expected = .commaOrEnd then some rest else skip nesting expected rest

def skipValue (tokens : List Token) : Option (List Token) := skip [] .value tokens

structure Field (S : Type) where
  name : String
  read : S → Reader S

def readKey : Reader String
  | .text raw :: .colon :: rest => do
      let key ← decode raw
      return (String.ofList key, rest)
  | _ => none

def readMember {S : Type} (fields : List (Field S)) (seen : List String) (state : S)
    (tokens : List Token) : Option ((List String × S) × List Token) := do
  let (key, rest) ← readKey tokens
  match fields.find? fun field => field.name == key with
  | some field =>
      if key ∈ seen then none
      else
        let (state, rest) ← field.read state rest
        return ((key :: seen, state), rest)
  | none =>
      let rest ← skipValue rest
      return ((seen, state), rest)

-- Every member takes at least one token, so as many members as tokens are enough.
def readMembers {S : Type} (fields : List (Field S)) :
    (fuel : Nat) → List String → S → Reader (List String × S)
  | 0, _, _, _ => none
  | fuel + 1, seen, state, tokens => do
      let ((seen, state), rest) ← readMember fields seen state tokens
      match rest with
      | .comma :: rest => readMembers fields fuel seen state rest
      | .endObject :: rest => return ((seen, state), rest)
      | _ => none

def readItems {S : Type} (closed : Bool) : List (Field S) → S → Reader S
  | fields, state, .endArray :: rest =>
      if closed && !fields.isEmpty then none else some (state, rest)
  | field :: fields, state, .comma :: tokens => do
      let (state, rest) ← field.read state tokens
      readItems closed fields state rest
  | _, _, _ => none

-- A record is an object, or an array of its fields in order. A closed record needs all of them, any
-- other keeps what `state` holds for a missing one.
def readRecord {S : Type} (closed : Bool) (fields : List (Field S)) (state : S) : Reader S
  | .beginObject :: .endObject :: rest =>
      if closed && !fields.isEmpty then none else some (state, rest)
  | .beginObject :: tokens => do
      let ((seen, state), rest) ← readMembers fields tokens.length [] state tokens
      if closed && !fields.all (fun field => field.name ∈ seen) then none
      else return (state, rest)
  | .beginArray :: .endArray :: rest => readItems closed fields state (.endArray :: rest)
  | .beginArray :: tokens => readItems closed fields state (.comma :: tokens)
  | _ => none

def digits : List Char → Nat := List.foldl (fun value c => value * 10 + (c.toNat - 48)) 0

def integer? : List Char → Option Int
  | '-' :: raw => if raw.all isDigit && raw ≠ ['0'] then some (-(digits raw : Int)) else none
  | raw => if raw.all isDigit then some (digits raw : Int) else none

def readInteger (low high : Int) : Reader Int
  | .number raw :: rest => do
      let value ← integer? raw
      if low ≤ value ∧ value ≤ high then return (value, rest) else none
  | _ => none

def readBool : Reader Bool
  | .bool value :: rest => some (value, rest)
  | _ => none

def readName {A : Type} (ofName? : String → Option A) : Reader A
  | .text raw :: rest => do
      let name ← decode raw
      let value ← ofName? (String.ofList name)
      return (value, rest)
  | .beginObject :: .text raw :: .colon :: .null :: .endObject :: rest => do
      let name ← decode raw
      let value ← ofName? (String.ofList name)
      return (value, rest)
  | _ => none

def parse? {A : Type} (read : Reader A) (text : String) : Option A := do
  let tokens ← tokens? text
  match ← read tokens with
  | (value, []) => return value
  | _ => none

def writeMember (member : String × String) : String := "\"" ++ member.1 ++ "\":" ++ member.2

def writeObject (members : List (String × String)) : String :=
  "\x7b" ++ ",".intercalate (members.map writeMember) ++ "\x7d"

def writeName (name : String) : String := "\"" ++ name ++ "\""

def writeBool (value : Bool) : String := if value then "true" else "false"

end Json

end ScreenCapture
