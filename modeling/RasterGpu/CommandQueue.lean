import RasterGpu.Queue
import RasterGpu.Transaction

/-!
# The command queue

Transactions wait in a bounded queue between the host and the register file. They leave in the order
they came; the queue refuses one while it is full and never drops any. A boot sequence is in the
queue from the start, and again after a reset.

A host that runs beside the device puts its transactions on a link of its own, from which the queue
takes as many as fit.
-/

namespace RasterGpu

/-- Transactions that the host link holds at most. -/
def hostLinkCapacity : Nat := 63

/-- Puts a transaction on a host link, unless it is full. -/
def offerToHostLink (link : Queue Transaction) (t : Transaction) : Queue Transaction × Bool :=
  if link.size < hostLinkCapacity then (link.push t, true) else (link, false)

/-- The queue between the host and the register file. -/
structure CommandQueue where
  /-- Transactions waiting. -/
  entries : Queue Transaction
  /-- Transactions that fit. -/
  capacity : Nat
  /-- The queue is nearly full when no more than this many fit beside those waiting. -/
  margin : Nat
  /-- Transactions that are in the queue at reset. -/
  boot : List Transaction
  /-- Transactions taken since reset. -/
  accepted : Nat := 0
  /-- Transactions refused since reset. -/
  rejected : Nat := 0

namespace CommandQueue

/-- Transactions that fit into the default queue. -/
def defaultCapacity : Nat := 32

/-- The default margin. -/
def defaultMargin : Nat := 2

/-- Sets the margin, which is less than the capacity. -/
def setMargin (q : CommandQueue) (margin : Nat) : CommandQueue :=
  { q with margin := min margin (q.capacity - 1) }

/-- A queue that holds its boot sequence. The capacity is at least one, and grows to the length of
the boot sequence. -/
def withBoot (capacity : Nat) (boot : List Transaction) : CommandQueue :=
  let capacity := max (max capacity 1) boot.length
  { entries := .ofList boot
    capacity
    margin := min defaultMargin (capacity - 1)
    boot }

/-- Number of transactions waiting. -/
def size (q : CommandQueue) : Nat := q.entries.size

/-- Whether nothing waits. -/
def isEmpty (q : CommandQueue) : Bool := q.entries.isEmpty

/-- Whether nothing more fits. -/
def isFull (q : CommandQueue) : Bool := q.capacity ≤ q.entries.size

/-- Whether no more than the margin fits. -/
def isNearlyFull (q : CommandQueue) : Bool := q.capacity - q.entries.size ≤ q.margin

/-- Drops what waits and puts the boot sequence back. -/
def reset (q : CommandQueue) : CommandQueue :=
  { q with entries := .ofList q.boot, accepted := 0, rejected := 0 }

/-- Takes a transaction, or counts a refusal if the queue is full. -/
def offer (q : CommandQueue) (t : Transaction) : CommandQueue × Bool :=
  if q.isFull then
    ({ q with rejected := q.rejected + 1 }, false)
  else
    ({ q with entries := q.entries.push t, accepted := q.accepted + 1 }, true)

/-- The oldest transaction. -/
def peek? (q : CommandQueue) : Option Transaction := q.entries.peek?

/-- Takes the oldest transaction out. -/
def pop? (q : CommandQueue) : Option (Transaction × CommandQueue) :=
  q.entries.pop?.map fun (t, entries) => (t, { q with entries })

/-- Takes as many transactions as fit from a host link; the rest stay there. Tells how many were
taken. -/
def drain (q : CommandQueue) (link : Queue Transaction) :
    CommandQueue × Queue Transaction × Nat :=
  let (moved, link) := link.popMany (q.capacity - q.entries.size)
  let count := moved.length
  ({ q with entries := q.entries.pushMany moved, accepted := q.accepted + count }, link, count)

end CommandQueue

end RasterGpu
