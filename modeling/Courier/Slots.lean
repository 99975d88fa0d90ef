/-! The slots that limit how many sends are under way. Slots are given out in the order in which they
were asked for. A gauge counts the sends that hold one, and the most there have been at once. -/

namespace Courier

structure Slots where
  free : Nat
  /-- The tickets of those that wait, first come first. -/
  queue : List Nat
  nextTicket : Nat
  inFlight : Nat
  peak : Nat
  deriving DecidableEq, Repr

namespace Slots

def ofCount (count : Nat) : Slots := ⟨count, [], 0, 0, 0⟩

def join (slots : Slots) : Slots :=
  { slots with
    queue := slots.queue ++ [slots.nextTicket]
    nextTicket := slots.nextTicket + 1 }

def leave (slots : Slots) (ticket : Nat) : Slots :=
  { slots with queue := slots.queue.erase ticket }

def take? (slots : Slots) (ticket : Nat) : Option Slots :=
  match slots.queue, slots.free with
  | first :: queue, free + 1 =>
      if first = ticket then some { slots with queue, free } else none
  | _, _ => none

def raise (slots : Slots) : Slots := { slots with inFlight := slots.inFlight + 1 }

def observe (slots : Slots) (inFlight : Nat) : Slots :=
  { slots with peak := max slots.peak inFlight }

def lower (slots : Slots) : Slots := { slots with inFlight := slots.inFlight - 1 }

def giveBack (slots : Slots) : Slots := { slots with free := slots.free + 1 }

end Slots

end Courier
