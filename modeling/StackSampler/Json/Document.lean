import StackSampler.Decimal.Shortest

/-!
JSON documents and their two layouts: compact, and indented by two spaces. Members keep their
order.
-/

namespace StackSampler.Json

inductive Document where
  | null
  | boolean (value : Bool)
  | natural (value : Nat)
  | real (value : Float)
  | text (value : String)
  | list (items : List Document)
  | record (members : List (String × Document))

def escapeControl (char : Char) : String :=
  let digits := Nat.toDigits 16 char.toNat
  "\\u" ++ String.ofList (List.replicate (4 - digits.length) '0' ++ digits)

/-- Only the quote, the backslash and the control characters below the blank are escaped. -/
def escape (char : Char) : String :=
  match char with
  | '"' => "\\\""
  | '\\' => "\\\\"
  | '\x08' => "\\b"
  | '\x0c' => "\\f"
  | '\n' => "\\n"
  | '\r' => "\\r"
  | '\t' => "\\t"
  | _ => if char.toNat < 0x20 then escapeControl char else char.toString

def quote (text : String) : String :=
  text.foldl (fun written char => written ++ escape char) "\"" ++ "\""

/-- A decimal is positional while its point stands at most sixteen digits behind the first digit and
at most four zeros before it, and has at least one decimal place; any other one has an exponent,
which shows its sign. -/
def layoutDecimal (decimal : Decimal.Scientific) : String :=
  let digits := Nat.toDigits 10 decimal.digits
  let point := (digits.length : Int) + decimal.exponent
  if 0 ≤ decimal.exponent && point ≤ 16 then
    String.ofList (digits ++ List.replicate decimal.exponent.toNat '0') ++ ".0"
  else if 0 < point && point ≤ 16 then
    String.ofList (digits.take point.toNat) ++ "." ++ String.ofList (digits.drop point.toNat)
  else if -5 < point && point ≤ 0 then
    "0." ++ String.ofList (List.replicate (-point).toNat '0' ++ digits)
  else
    let exponent := if 0 < point then s!"e+{point - 1}" else s!"e{point - 1}"
    match digits with
    | [] => exponent
    | [digit] => digit.toString ++ exponent
    | first :: rest => first.toString ++ "." ++ String.ofList rest ++ exponent

/-- Numbers that are not finite have no written form and become null. -/
def writeReal (value : Float) : String :=
  let bits := value.toBits.toNat
  let sign := if 0x8000000000000000 ≤ bits then "-" else ""
  let magnitude := bits % 0x8000000000000000
  if 0x7ff0000000000000 ≤ magnitude then "null"
  else if magnitude = 0 then sign ++ "0.0"
  else sign ++ layoutDecimal (Decimal.shortestOfBits magnitude)

namespace Document

def lineBreak (depth : Nat) : String := "\n" ++ String.ofList (List.replicate (2 * depth) ' ')

mutual

def compactAfter (before : String) : Document → String
  | null => before ++ "null"
  | boolean value => before ++ (if value then "true" else "false")
  | natural value => before ++ toString value
  | real value => before ++ writeReal value
  | text value => before ++ quote value
  | list items => compactItemsAfter (before ++ "[") "" items ++ "]"
  | record members => compactMembersAfter (before ++ "\x7b") "" members ++ "\x7d"

def compactItemsAfter (before separator : String) : List Document → String
  | [] => before
  | item :: items => compactItemsAfter (item.compactAfter (before ++ separator)) "," items

def compactMembersAfter (before separator : String) : List (String × Document) → String
  | [] => before
  | (name, value) :: members =>
      compactMembersAfter (value.compactAfter (before ++ separator ++ quote name ++ ":")) ","
        members

end

mutual

def prettyAfter (depth : Nat) (before : String) : Document → String
  | null => before ++ "null"
  | boolean value => before ++ (if value then "true" else "false")
  | natural value => before ++ toString value
  | real value => before ++ writeReal value
  | text value => before ++ quote value
  | list [] => before ++ "[]"
  | list (item :: items) =>
      prettyItemsAfter depth (item.prettyAfter (depth + 1) (before ++ "[" ++ lineBreak (depth + 1)))
        items ++ lineBreak depth ++ "]"
  | record [] => before ++ "\x7b\x7d"
  | record ((name, value) :: members) =>
      prettyMembersAfter depth
        (value.prettyAfter (depth + 1)
          (before ++ "\x7b" ++ lineBreak (depth + 1) ++ quote name ++ ": "))
        members ++ lineBreak depth ++ "\x7d"

def prettyItemsAfter (depth : Nat) (before : String) : List Document → String
  | [] => before
  | item :: items =>
      prettyItemsAfter depth
        (item.prettyAfter (depth + 1) (before ++ "," ++ lineBreak (depth + 1))) items

def prettyMembersAfter (depth : Nat) (before : String) : List (String × Document) → String
  | [] => before
  | (name, value) :: members =>
      prettyMembersAfter depth
        (value.prettyAfter (depth + 1)
          (before ++ "," ++ lineBreak (depth + 1) ++ quote name ++ ": ")) members

end

def compact (document : Document) : String := document.compactAfter ""

def pretty (document : Document) : String := document.prettyAfter 0 ""

def word (value : UInt64) : Document := .natural value.toNat

end Document

end StackSampler.Json
