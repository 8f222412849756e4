/-!
Hexadecimal numerals in lower case, with the usual mark in front.
-/

namespace StackSampler.Text

def hex (value : Nat) : String := "0x" ++ String.ofList (Nat.toDigits 16 value)

def hexOfWidth (width value : Nat) : String :=
  let digits := Nat.toDigits 16 value
  "0x" ++ String.ofList (List.replicate (width - digits.length) '0' ++ digits)

def hexStatus (status : Int32) : String := hexOfWidth 8 status.toUInt32.toNat

end StackSampler.Text
