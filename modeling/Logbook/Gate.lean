/-! Evaluations may be worked on elsewhere and come back late. Each one takes a ticket, and only the
result under the latest ticket is accepted. Tickets are numbered in 64 bits. -/

namespace Logbook

structure Ticket where
  number : UInt64
deriving DecidableEq, Repr

def Ticket.compare (a b : Ticket) : Ordering := Ord.compare a.number b.number

structure Gate where
  issued : UInt64 := 0
deriving DecidableEq, Repr

namespace Gate

def issue (g : Gate) : Ticket × Gate := (⟨g.issued + 1⟩, ⟨g.issued + 1⟩)

def isCurrent (g : Gate) (t : Ticket) : Bool := t.number = g.issued

def publish (g : Gate) (t : Ticket) (result : α) : Option α :=
  if g.isCurrent t then some result else none

end Gate
end Logbook
