/-! # Capacities

How much one room holds.
-/

namespace HostChat

def maxParticipants : Nat := 10

def mailboxSlots : Nat := 256

def maxMessageBytes : Nat := 256

end HostChat
