import HostChat.Host.ErrorNumber

/-! # System faults

Why the system turned a call down, and the wording a user gets to see.
-/

namespace HostChat

inductive Fault where
  | errno (code : Int)
  | nulByte (position : Nat)
  | brokenPipe
deriving DecidableEq, Repr

namespace Fault

def notFound : Fault := .errno 2
def noSuchProcess : Fault := .errno 3
def alreadyExists : Fault := .errno 17
def invalidArgument : Fault := .errno 22
def nameTooLong : Fault := .errno 36

def message : Fault → String
  | .errno code => s!"{describeErrorNumber code} (os error {code})"
  | .nulByte position => s!"nul byte found in provided data at position: {position}"
  | .brokenPipe => "broken pipe"

end Fault

end HostChat
