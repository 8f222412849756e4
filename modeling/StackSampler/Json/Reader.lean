/-!
Reading values of known types from JSON text.

A text is read once from front to back, and the first fault wins: a value of the wrong type is
reported where it stands, whatever follows it. Members that no one asked for are skipped at any
depth, on an explicit stack.
-/

namespace StackSampler.Json

inductive Fault where
  | early
  | malformed
  | mistyped
deriving DecidableEq, Repr

def Fault.message : Fault → String
  | early => "the text ends early"
  | malformed => "the text is not JSON"
  | mistyped => "the text does not have the expected shape"

/-- A reader takes characters off the front of a text. It also knows the length of the whole text,
which no repetition in it can exceed. -/
abbrev Reader := ReaderT Nat (StateT (List Char) (Except Fault))

/-- Numbers as they are written: whole ones keep their sign apart while they fit a word. -/
inductive Number where
  | natural (value : Nat)
  | negative (magnitude : Nat)
  | real (value : Float)

namespace Reader

def isBlank (char : Char) : Bool := char = ' ' || char = '\n' || char = '\t' || char = '\r'

def digitOf (char : Char) : Nat := char.toNat - '0'.toNat

def peek? : Reader (Option Char) := return (← get).head?

def skip : Reader Unit := modify List.tail

def peekToken? : Reader (Option Char) := do
  modify (List.dropWhile isBlank)
  peek?

def token : Reader Char := do
  match ← peekToken? with
  | some char => return char
  | none => throw .early

def next : Reader Char := do
  match ← get with
  | [] => throw .early
  | char :: rest => set rest; return char

def letters : List Char → Reader Unit
  | [] => return
  | expected :: more => do
      if (← next) ≠ expected then throw .malformed
      letters more

def mark (expected : Char) : Reader Unit := do
  if (← token) ≠ expected then throw .malformed
  skip

def digits : Reader (List Char) := do
  let text ← get
  set (text.dropWhile Char.isDigit)
  return text.takeWhile Char.isDigit

def hexDigit? (char : Char) : Option Nat :=
  if char.isDigit then some (digitOf char)
  else if 'a' ≤ char && char ≤ 'f' then some (char.toNat - 'a'.toNat + 10)
  else if 'A' ≤ char && char ≤ 'F' then some (char.toNat - 'A'.toNat + 10)
  else none

/-- The four hexadecimal digits of a unit. A text with fewer than four bytes left ends early. -/
def hexUnit : Reader Nat := do
  match ← get with
  | first :: second :: third :: fourth :: rest =>
      match hexDigit? first, hexDigit? second, hexDigit? third, hexDigit? fourth with
      | some first, some second, some third, some fourth =>
          set rest
          return ((first * 16 + second) * 16 + third) * 16 + fourth
      | _, _, _, _ => throw .malformed
  | few => if (String.ofList few).utf8ByteSize < 4 then throw .early else throw .malformed

/-- The character of a unit escape, behind its first letter. A leading surrogate has to be followed
by the escape of a trailing one. -/
def unitEscape : Reader Char := do
  let unit ← hexUnit
  if 0xdc00 ≤ unit && unit < 0xe000 then throw .malformed
  else if 0xd800 ≤ unit && unit < 0xdc00 then
    letters ['\\', 'u']
    let trailing ← hexUnit
    if 0xdc00 ≤ trailing && trailing < 0xe000 then
      return Char.ofNat (0x10000 + (unit - 0xd800) * 0x400 + (trailing - 0xdc00))
    else throw .malformed
  else return Char.ofNat unit

def shortEscape? : Char → Option Char
  | '"' => some '"'
  | '\\' => some '\\'
  | '/' => some '/'
  | 'b' => some '\x08'
  | 'f' => some '\x0c'
  | 'n' => some '\n'
  | 'r' => some '\r'
  | 't' => some '\t'
  | _ => none

def textAfter : Nat → String → Reader String
  | 0, _ => throw .malformed
  | limit + 1, before => do
      let char ← next
      if char = '"' then return before
      else if char = '\\' then
        let letter ← next
        match shortEscape? letter with
        | some escaped => textAfter limit (before.push escaped)
        | none =>
            if letter = 'u' then
              let escaped ← unitEscape
              textAfter limit (before.push escaped)
            else throw .malformed
      else if char.toNat < 0x20 then throw .malformed
      else textAfter limit (before.push char)

def quoted : Reader String := do textAfter ((← read) + 1) ""

/-- Skips a text behind its opening quote. Here surrogates need no partners. -/
def skipQuoted : Nat → Reader Unit
  | 0 => throw .malformed
  | limit + 1 => do
      let char ← next
      if char = '"' then return
      else if char = '\\' then
        let letter ← next
        if (shortEscape? letter).isSome then skipQuoted limit
        else if letter = 'u' then
          let _ ← hexUnit
          skipQuoted limit
        else throw .malformed
      else if char.toNat < 0x20 then throw .malformed
      else skipQuoted limit

/-- Adds digits to a significand while it fits a word. Gives the significand and how many digits
were added and how many were left over. -/
def accumulate (significand added : Nat) : List Char → Nat × Nat × Nat
  | [] => (significand, added, 0)
  | digit :: digits =>
      let longer := significand * 10 + digitOf digit
      if longer < UInt64.size then accumulate longer (added + 1) digits
      else (significand, added, digits.length + 1)

def powerOfTen (exponent : Nat) : Float := Float.ofScientific 1 false exponent

/-- Divides by a power of ten, in steps that have a floating-point power, until zero is reached. -/
def divideByPower (value : Float) (exponent : Nat) : Float :=
  if exponent ≤ 308 then value / powerOfTen exponent
  else if value == 0 then value
  else divideByPower (value / powerOfTen 308) (exponent - 308)
termination_by exponent

/-- A significand times a power of ten, rounded at each step. A magnitude that no floating-point
number has is no number. -/
def scale (isNegative : Bool) (significand : Nat) (exponent : Int) : Reader Number := do
  let value := (UInt64.ofNat significand).toFloat
  let signed (magnitude : Float) : Number := .real (if isNegative then -magnitude else magnitude)
  if exponent < 0 then return signed (divideByPower value (-exponent).toNat)
  else if exponent ≤ 308 then
    let product := value * powerOfTen exponent.toNat
    if product.isInf then throw .malformed else return signed product
  else if value == 0 then return signed value
  else throw .malformed

def exponentPart (isNegative : Bool) (significand : Nat) (place : Int) : Reader Number := do
  let isDown := (← peek?) = some '-'
  if isDown || (← peek?) = some '+' then skip
  match ← peek? with
  | none => throw .early
  | some char =>
      if !char.isDigit then throw .malformed
      let exponent := (← digits).foldl (fun value digit => value * 10 + digitOf digit) 0
      if exponent < 0x80000000 then
        scale isNegative significand (if isDown then place - exponent else place + exponent)
      else if significand ≠ 0 && !isDown then throw .malformed
      else return .real (if isNegative then -0.0 else 0.0)

def exponentPart? (isNegative : Bool) (significand : Nat) (place : Int) : Reader Number := do
  let follower ← peek?
  if follower = some 'e' || follower = some 'E' then
    skip
    exponentPart isNegative significand place
  else scale isNegative significand place

def fractionPart (isNegative : Bool) (significand : Nat) (place : Int) : Reader Number := do
  match ← digits with
  | [] => if (← peek?).isNone then throw .early else throw .malformed
  | places =>
      let (significand, added, _) := accumulate significand 0 places
      exponentPart? isNegative significand (place - added)

/-- A whole number that fits a word with its sign keeps it; minus zero does not. -/
def whole (isNegative : Bool) (magnitude : Nat) : Number :=
  if !isNegative then .natural magnitude
  else if magnitude = 0 || 0x8000000000000000 < magnitude then
    .real (-(UInt64.ofNat magnitude).toFloat)
  else .negative magnitude

def number : Reader Number := do
  let isNegative := (← peek?) = some '-'
  if isNegative then skip
  match ← peek? with
  | none => throw .early
  | some char =>
      if !char.isDigit then throw .malformed
      let (significand, _, leftOver) := accumulate 0 0 (← digits0 char)
      let follower ← peek?
      if follower = some '.' then
        skip
        fractionPart isNegative significand leftOver
      else if follower = some 'e' || follower = some 'E' then
        skip
        exponentPart isNegative significand leftOver
      else if leftOver = 0 then return whole isNegative significand
      else scale isNegative significand leftOver
where
  digits0 (first : Char) : Reader (List Char) := do
    let found ← digits
    if first = '0' && found.length ≠ 1 then throw .malformed
    return found

def skipNumber : Reader Unit := do
  let whole ← digits
  if whole = [] || (whole.head? = some '0' && whole.length ≠ 1) then throw .malformed
  if (← peek?) = some '.' then
    skip
    if (← digits) = [] then throw .malformed
  let follower ← peek?
  if follower = some 'e' || follower = some 'E' then
    skip
    let sign ← peek?
    if sign = some '-' || sign = some '+' then skip
    if (← digits) = [] then throw .malformed

/-- Reports a value of the wrong type. A number, a text or a word is read first, and a fault inside
it wins; a list or a record is not looked into. -/
def mistyped {α : Type} : Reader α := do
  let first ← token
  match first with
  | 'n' => letters "null".toList
  | 't' => letters "true".toList
  | 'f' => letters "false".toList
  | '"' => skip; let _ ← quoted
  | '[' => throw .mistyped
  | '\x7b' => throw .mistyped
  | _ => if first = '-' || first.isDigit then let _ ← number else throw .malformed
  throw .mistyped

def numeric : Reader Number := do
  let first ← token
  if first = '-' || first.isDigit then number else mistyped

def natural (bound : Nat) : Reader Nat := do
  match ← numeric with
  | .natural value => if value ≤ bound then return value else throw .mistyped
  | _ => throw .mistyped

def word16 : Reader UInt16 := return UInt16.ofNat (← natural 0xffff)

def word32 : Reader UInt32 := return UInt32.ofNat (← natural 0xffffffff)

def word64 : Reader UInt64 := return UInt64.ofNat (← natural 0xffffffffffffffff)

def real : Reader Float := do
  match ← numeric with
  | .natural value => return (UInt64.ofNat value).toFloat
  | .negative magnitude => return -(UInt64.ofNat magnitude).toFloat
  | .real value => return value

def text : Reader String := do
  if (← token) = '"' then skip; quoted else mistyped

def boolean : Reader Bool := do
  match ← token with
  | 't' => letters "true".toList; return true
  | 'f' => letters "false".toList; return false
  | _ => mistyped

def optional {α : Type} (value : Reader α) : Reader (Option α) := do
  if (← peekToken?) = some 'n' then letters "null".toList; return none
  else return some (← value)

def null : Reader Unit := do
  if (← token) = 'n' then letters "null".toList else mistyped

def hasItem (isFirst : Bool) : Reader Bool := do
  let char ← token
  if char = ']' then return false
  else if isFirst then return true
  else if char ≠ ',' then throw .malformed
  else
    skip
    if (← token) = ']' then throw .malformed else return true

def itemsAfter {α : Type} (item : Reader α) : Nat → Array α → Reader (List α)
  | 0, _ => throw .malformed
  | limit + 1, before => do
      if ← hasItem before.isEmpty then
        let value ← item
        itemsAfter item limit (before.push value)
      else
        skip
        return before.toList

def list {α : Type} (item : Reader α) : Reader (List α) := do
  if (← token) = '[' then
    skip
    itemsAfter item ((← read) + 1) #[]
  else mistyped

/-- One of a set of names. It may also be written as the only member of a record, with null. -/
def name {α : Type} (known : List (String × α)) : Reader α := do
  match ← token with
  | '"' => choose
  | '\x7b' =>
      skip
      if (← token) ≠ '"' then throw .malformed
      let chosen ← choose
      mark ':'
      null
      mark '\x7d'
      return chosen
  | _ => throw .malformed
where
  choose : Reader α := do
    match known.lookup (← text) with
    | some chosen => return chosen
    | none => throw .mistyped

inductive Container where
  | list
  | record
deriving DecidableEq

def skipName : Reader Unit := do
  mark '"'
  skipQuoted ((← read) + 1)
  mark ':'

/-- What a skip does next: a value, or what stands behind one. In a container that was just opened
no comma is due yet. -/
inductive SkipState where
  | value
  | behind (isFirst : Bool)

/-- Skips a value inside the given open containers, the innermost first, and closes them all. -/
def skipInside : Nat → SkipState → List Container → Reader Unit
  | 0, _, _ => throw .malformed
  | limit + 1, .value, containers => do
      let first ← token
      match first with
      | 'n' => letters "null".toList; skipInside limit (.behind false) containers
      | 't' => letters "true".toList; skipInside limit (.behind false) containers
      | 'f' => letters "false".toList; skipInside limit (.behind false) containers
      | '"' => skip; skipQuoted ((← read) + 1); skipInside limit (.behind false) containers
      | '[' => skip; skipInside limit (.behind true) (.list :: containers)
      | '\x7b' => skip; skipInside limit (.behind true) (.record :: containers)
      | '-' => skip; skipNumber; skipInside limit (.behind false) containers
      | _ =>
          if first.isDigit then skipNumber; skipInside limit (.behind false) containers
          else throw .malformed
  | _ + 1, .behind _, [] => return
  | limit + 1, .behind isFirst, container :: containers => do
      let char ← token
      if char = (if container = .list then ']' else '\x7d') then
        skip
        skipInside limit (.behind false) containers
      else
        if !isFirst then mark ','
        if container = .record then skipName
        skipInside limit .value (container :: containers)

def skipValue : Reader Unit := do skipInside (2 * (← read) + 2) .value []

structure Member (σ : Type) where
  name : String
  isSet : σ → Bool
  read : σ → Reader σ

def member {σ α : Type} (name : String) (part : σ → Option α) (fill : σ → α → σ)
    (value : Reader α) : Member σ where
  name := name
  isSet draft := (part draft).isSome
  read draft := return fill draft (← value)

def hasMember (isFirst : Bool) : Reader Bool := do
  let char ← token
  if char = '\x7d' then return false
  else
    if !isFirst then
      if char ≠ ',' then throw .malformed
      skip
    if (← token) = '"' then return true else throw .malformed

/-- Reads the members of a record in any order. One that is named twice is a fault, found at its
second name; one that is not known is skipped. -/
def membersAfter {σ : Type} (members : List (Member σ)) : Nat → Bool → σ → Reader σ
  | 0, _, _ => throw .malformed
  | limit + 1, isFirst, draft => do
      if ← hasMember isFirst then
        skip
        let given ← quoted
        match members.find? (·.name = given) with
        | some known =>
            if known.isSet draft then throw .mistyped
            mark ':'
            let draft ← known.read draft
            membersAfter members limit false draft
        | none =>
            mark ':'
            skipValue
            membersAfter members limit false draft
      else return draft

/-- Reads the members of a record given as a list, in order. A short list leaves the others unset
if it may; nothing is allowed behind the last one. -/
def listedAfter {σ : Type} (mayBeShort : Bool) : List (Member σ) → Bool → σ → Reader σ
  | [], _, draft => return draft
  | known :: members, isFirst, draft => do
      if ← hasItem isFirst then
        let draft ← known.read draft
        listedAfter mayBeShort members false draft
      else if mayBeShort then return draft
      else throw .mistyped

/-- Reads a record, by the names of its members or as a list of them. The draft is made into a value
before the end is looked at, so that a missing member wins over what follows the last one. -/
def record {σ α : Type} (members : List (Member σ)) (mayBeShort : Bool) (empty : σ)
    (finish : σ → Option α) : Reader α := do
  let close (draft : σ) (last : Char) : Reader α := do
    match finish draft with
    | none => throw .mistyped
    | some value =>
        mark last
        return value
  match ← token with
  | '[' =>
      skip
      close (← listedAfter mayBeShort members true empty) ']'
  | '\x7b' =>
      skip
      close (← membersAfter members ((← read) + 1) true empty) '\x7d'
  | _ => mistyped

end Reader

def parse {α : Type} (value : Reader α) (text : String) : Except Fault α :=
  let whole : Reader α := do
    let result ← value
    match ← Reader.peekToken? with
    | none => return result
    | some _ => throw .malformed
  (whole.run text.length).run' text.toList

end StackSampler.Json
