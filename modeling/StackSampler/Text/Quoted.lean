import StackSampler.Text.Joining
import StackSampler.Text.Unshown

/-!
Texts in quotes, as errors show them: on one line, with nothing in them that a terminal would not
show.
-/

namespace StackSampler.Text

/-- A character that a terminal would not show, or not apart from its neighbour, is written by its
code. -/
def quotedChar (char : Char) : String :=
  match char with
  | '"' => "\\\""
  | '\\' => "\\\\"
  | '\n' => "\\n"
  | '\r' => "\\r"
  | '\t' => "\\t"
  | '\x00' => "\\0"
  | _ =>
      if isUnshown char || isJoining char then
        "\\u\x7b" ++ String.ofList (Nat.toDigits 16 char.toNat) ++ "\x7d"
      else char.toString

def quoted (text : String) : String :=
  text.foldl (fun written char => written ++ quotedChar char) "\"" ++ "\""

end StackSampler.Text
