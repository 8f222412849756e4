/-!
Lengths of time in words.
-/

namespace StackSampler.Text

def trimZeros (digits : List Char) : List Char :=
  (digits.reverse.dropWhile (· = '0')).reverse

/-- Milliseconds below one second are written as such; from there on the length is written in
seconds with as many decimals as it needs. -/
def intervalOfMillis (millis : Nat) : String :=
  if millis < 1000 then s!"{millis}ms"
  else
    let fraction := (Nat.toDigits 10 (1000 + millis % 1000)).tail
    match trimZeros fraction with
    | [] => s!"{millis / 1000}s"
    | digits => s!"{millis / 1000}.{String.ofList digits}s"

end StackSampler.Text
