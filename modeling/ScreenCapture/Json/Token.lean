set_option autoImplicit false

namespace ScreenCapture

namespace Json

inductive Token where
  | beginObject
  | endObject
  | beginArray
  | endArray
  | comma
  | colon
  | text (raw : List Char)
  | number (raw : List Char)
  | null
  | bool (value : Bool)
deriving DecidableEq, Repr

def isSpace (c : Char) : Bool := c == ' ' || c == '\n' || c == '\t' || c == '\r'

def isDigit (c : Char) : Bool := '0' ≤ c && c ≤ '9'

def hexValue? (c : Char) : Option Nat :=
  if isDigit c then some (c.toNat - 48)
  else if 'a' ≤ c && c ≤ 'f' then some (c.toNat - 87)
  else if 'A' ≤ c && c ≤ 'F' then some (c.toNat - 55)
  else none

def isNumeric (c : Char) : Bool :=
  isDigit c || c == '-' || c == '+' || c == '.' || c == 'e' || c == 'E'

def isExponent : List Char → Bool
  | '+' :: digits | '-' :: digits => !digits.isEmpty && digits.all isDigit
  | digits => !digits.isEmpty && digits.all isDigit

def isScaled (rest : List Char) : Bool :=
  match rest with
  | [] => true
  | c :: exponent => (c == 'e' || c == 'E') && isExponent exponent

def isFractional (rest : List Char) : Bool :=
  match rest with
  | '.' :: rest =>
      !(rest.takeWhile isDigit).isEmpty && isScaled (rest.dropWhile isDigit)
  | rest => isScaled rest

def isMagnitude : List Char → Bool
  | '0' :: rest => isFractional rest
  | c :: rest => isDigit c && isFractional (rest.dropWhile isDigit)
  | [] => false

def isNumber : List Char → Bool
  | '-' :: rest => isMagnitude rest
  | raw => isMagnitude raw

def word? (letters : List Char) : Option Token :=
  if letters = ['n', 'u', 'l', 'l'] then some .null
  else if letters = ['t', 'r', 'u', 'e'] then some (.bool true)
  else if letters = ['f', 'a', 'l', 's', 'e'] then some (.bool false)
  else none

def mark? (c : Char) : Option Token :=
  match c with
  | '\x7b' => some .beginObject
  | '\x7d' => some .endObject
  | '[' => some .beginArray
  | ']' => some .endArray
  | ',' => some .comma
  | ':' => some .colon
  | _ => none

inductive Mode where
  | between
  | inText (read : List Char)
  | inEscape (read : List Char)
  | inHex (missing : Nat) (read : List Char)
  | inNumber (read : List Char)
  | inWord (read : List Char)

structure Lexer where
  mode : Mode
  tokens : List Token

namespace Lexer

def start : Lexer := ⟨.between, []⟩

def emit (lexer : Lexer) (token : Token) : Lexer := ⟨.between, token :: lexer.tokens⟩

def close (lexer : Lexer) : Option Lexer :=
  match lexer.mode with
  | .between => some lexer
  | .inNumber read =>
      if isNumber read.reverse then some (lexer.emit (.number read.reverse)) else none
  | .inWord read => (word? read.reverse).map lexer.emit
  | .inText _ | .inEscape _ | .inHex _ _ => none

def begin (lexer : Lexer) (c : Char) : Option Lexer :=
  if isSpace c then some { lexer with mode := .between }
  else if c = '"' then some { lexer with mode := .inText [] }
  else if isDigit c || c == '-' then some { lexer with mode := .inNumber [c] }
  else if 'a' ≤ c && c ≤ 'z' then some { lexer with mode := .inWord [c] }
  else (mark? c).map lexer.emit

def beginNext (lexer : Lexer) (c : Char) : Option Lexer := do
  let lexer ← lexer.close
  lexer.begin c

def step (lexer : Lexer) (c : Char) : Option Lexer :=
  match lexer.mode with
  | .between => lexer.begin c
  | .inText read =>
      if c = '"' then some (lexer.emit (.text read.reverse))
      else if c = '\\' then some { lexer with mode := .inEscape (c :: read) }
      else if c.toNat < 32 then none
      else some { lexer with mode := .inText (c :: read) }
  | .inEscape read =>
      if c = 'u' then some { lexer with mode := .inHex 4 (c :: read) }
      else if c ∈ ['"', '\\', '/', 'b', 'f', 'n', 'r', 't'] then
        some { lexer with mode := .inText (c :: read) }
      else none
  | .inHex missing read =>
      if (hexValue? c).isNone then none
      else if missing ≤ 1 then some { lexer with mode := .inText (c :: read) }
      else some { lexer with mode := .inHex (missing - 1) (c :: read) }
  | .inNumber read =>
      if isNumeric c then some { lexer with mode := .inNumber (c :: read) } else lexer.beginNext c
  | .inWord read =>
      if 'a' ≤ c && c ≤ 'z' then some { lexer with mode := .inWord (c :: read) }
      else lexer.beginNext c

def finish (lexer : Lexer) : Option (List Token) :=
  lexer.close.map fun lexer => lexer.tokens.reverse

end Lexer

def tokens? (text : String) : Option (List Token) := do
  let lexer ← text.toList.foldlM Lexer.step Lexer.start
  lexer.finish

def unit? (a b c d : Char) : Option Nat := do
  let a ← hexValue? a
  let b ← hexValue? b
  let c ← hexValue? c
  let d ← hexValue? d
  return ((a * 16 + b) * 16 + c) * 16 + d

def escape? (c : Char) : Option Char :=
  match c with
  | '"' => some '"'
  | '\\' => some '\\'
  | '/' => some '/'
  | 'b' => some '\x08'
  | 'f' => some '\x0c'
  | 'n' => some '\n'
  | 'r' => some '\r'
  | 't' => some '\t'
  | _ => none

def decode : List Char → Option (List Char)
  | [] => some []
  | '\\' :: 'u' :: a :: b :: c :: d :: '\\' :: 'u' :: e :: f :: g :: h :: rest => do
      let first ← unit? a b c d
      if 0xD800 ≤ first ∧ first < 0xDC00 then
        let second ← unit? e f g h
        if 0xDC00 ≤ second ∧ second < 0xE000 then
          let rest ← decode rest
          return Char.ofNat (0x10000 + (first - 0xD800) * 0x400 + (second - 0xDC00)) :: rest
        else none
      else if 0xDC00 ≤ first ∧ first < 0xE000 then none
      else
        let rest ← decode ('\\' :: 'u' :: e :: f :: g :: h :: rest)
        return Char.ofNat first :: rest
  | '\\' :: 'u' :: a :: b :: c :: d :: rest => do
      let value ← unit? a b c d
      if 0xD800 ≤ value ∧ value < 0xE000 then none
      else
        let rest ← decode rest
        return Char.ofNat value :: rest
  | '\\' :: c :: rest => do
      let c ← escape? c
      let rest ← decode rest
      return c :: rest
  | c :: rest => do
      let rest ← decode rest
      return c :: rest

end Json

end ScreenCapture
