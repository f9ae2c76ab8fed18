import HostChat.ChatError
import HostChat.Room.Names

/-! # Configuration -/

namespace HostChat

/-- What all participants of a room agree on before they meet. -/
structure Config where
  /-- The start of the names of rooms. -/
  ns : String
deriving DecidableEq, Repr

namespace Config

def default : Config := ⟨defaultNamespace⟩

def ofNamespace (ns : String) : Except ChatError Config :=
  match checkNamespace ns with
  | .ok () => .ok ⟨ns⟩
  | .error problem => .error (.usage s!"--namespace: {problem.message}")

end Config

end HostChat
