/-!
Why a file cannot be read, as the operating system says it.
-/

namespace StackSampler

inductive FileFault where
  | notFound
  | permissionDenied
  | notADirectory
  | isADirectory
  | nameTooLong
  | zeroInPath
  | invalidText
  | other (number : Nat) (wording : String)
deriving DecidableEq, Repr

namespace FileFault

def number? : FileFault → Option Nat
  | notFound => some 2
  | permissionDenied => some 13
  | notADirectory => some 20
  | isADirectory => some 21
  | nameTooLong => some 36
  | zeroInPath => none
  | invalidText => none
  | other number _ => some number

def kind : FileFault → String
  | notFound => "NotFound"
  | permissionDenied => "PermissionDenied"
  | notADirectory => "NotADirectory"
  | isADirectory => "IsADirectory"
  | nameTooLong => "InvalidFilename"
  | zeroInPath => "InvalidInput"
  | invalidText => "InvalidData"
  | other _ _ => "Uncategorized"

def wording : FileFault → String
  | notFound => "No such file or directory"
  | permissionDenied => "Permission denied"
  | notADirectory => "Not a directory"
  | isADirectory => "Is a directory"
  | nameTooLong => "File name too long"
  | zeroInPath => "file name contained an unexpected NUL byte"
  | invalidText => "stream did not contain valid UTF-8"
  | other _ wording => wording

def message (fault : FileFault) : String :=
  match fault.number? with
  | some number => s!"{fault.wording} (os error {number})"
  | none => fault.wording

def details (fault : FileFault) : String :=
  match fault.number? with
  | some number =>
      s!"Os \x7b code: {number}, kind: {fault.kind}, message: \"" ++ fault.wording ++ "\" \x7d"
  | none => s!"Error \x7b kind: {fault.kind}, message: \"" ++ fault.wording ++ "\" \x7d"

end FileFault

end StackSampler
