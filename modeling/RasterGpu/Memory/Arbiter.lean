import RasterGpu.Memory.Client
import RasterGpu.Memory.Device

/-!
# The memory arbiter

The arbiter lets one client at a time use the memory. A client submits a request on its slot and the
slot stays occupied until the client has taken the response: first the request is pending, then it
holds the grant, then its response is ready. In a cycle without a grant the arbiter grants one
pending request, chosen by its policy; a grant lasts for the memory's latency and one cycle per
word, and in the last of these cycles the access is performed.

Requests are never dropped, at most one holds the grant, and the memory changes only in the last
cycle of a granted write.

The cycles of a grant are counted in a 32-bit word. Where latency and words together do not fit into
it, the counter keeps what is left modulo 2^32 and the arbiter says so: with checked arithmetic the
device stops there, without it the access comes too early.
-/

namespace RasterGpu

/-! ## Requests and responses -/

/-- An access that a client asks for. -/
inductive Request where
  /-- Reads `length` words, at least one. -/
  | read (address length : Nat)
  /-- Writes the words. -/
  | write (address : Nat) (data : List UInt16)
  deriving DecidableEq, Repr, Inhabited

/-- What a client gets back: the address, and the words that were read. -/
structure Response where
  /-- Address of the first word. -/
  address : Nat
  /-- Words read; none for a write. -/
  data : List UInt16
  deriving DecidableEq, Repr, Inhabited

namespace Request

/-- Address of the first word. -/
def address : Request → Nat
  | read address _ => address
  | write address _ => address

/-- Cycles the transfer takes beside the latency: one per word, at least one, and no more than the
16-bit burst counter holds. -/
def beats : Request → Nat
  | read _ length => max length 1
  | write _ data => min (max data.length 1) 0xFFFF

/-- The counter of a grant when it comes up: latency and beats, as far as 32 bits hold them. -/
def cycles (request : Request) (latency : Nat) : Nat :=
  (latency + request.beats) % UInt32.size

/-- Whether latency and beats are more than the counter holds. -/
def overflows (request : Request) (latency : Nat) : Bool :=
  UInt32.size ≤ latency + request.beats

/-- Performs the access. -/
@[specialize] def perform {M : Type} [MemoryDevice M] (request : Request) (m : M) : M × Response :=
  match request with
  | read address _ => (m, ⟨address, MemoryDevice.fetch m address request.beats⟩)
  | write address data => (MemoryDevice.store m address data, ⟨address, []⟩)

end Request

/-! ## The state of the arbiter -/

/-- How the next grant is chosen. -/
inductive ArbiterPolicy where
  /-- The pending client of highest priority. -/
  | fixedPriority
  /-- The first pending client after the one granted last. -/
  | roundRobin
  deriving DecidableEq, Repr, Inhabited

/-- What a slot holds beside the grant: a request, a response, or nothing. A slot takes a request only
while it is empty and its client has no grant, and a response only from its own grant, so that there
is never a request that waits beside a response that waits. -/
inductive Slot where
  /-- Nothing. -/
  | empty
  /-- A request that waits for its grant. -/
  | pending (request : Request)
  /-- A response that waits to be taken. -/
  | ready (response : Response)
  deriving DecidableEq, Repr, Inhabited

/-- The request that has the memory to itself. -/
structure Grant where
  /-- The client it came from. -/
  client : Client
  /-- The request. -/
  request : Request
  /-- Cycles until the access is performed; with none left it is performed in the next cycle, too. -/
  remaining : Nat
  deriving DecidableEq, Repr, Inhabited

/-- The arbiter. -/
structure Arbiter where
  /-- How the next grant is chosen. -/
  policy : ArbiterPolicy := .fixedPriority
  /-- The slots. -/
  slots : PerClient Slot := .const .empty
  /-- The request being served. -/
  grant : Option Grant := none
  /-- The client whose request was granted in the last cycle. -/
  acknowledged : Option Client := none
  /-- The client that the rotating policy looks at first. -/
  favoured : Client := .display
  /-- Grants given to each client. -/
  grants : PerClient Nat := .const 0
  /-- Cycles with a grant. -/
  busyCycles : Nat := 0
  /-- The counter of a grant has overflowed. -/
  overflowed : Bool := false
  deriving DecidableEq, Repr, Inhabited

namespace Arbiter

/-- The arbiter at rest, with the same policy. -/
def reset (a : Arbiter) : Arbiter := { policy := a.policy }

/-! ## Slots -/

/-- Whether a client holds the grant. -/
def isGranted (a : Arbiter) (c : Client) : Bool :=
  match a.grant with
  | some g => g.client == c
  | none => false

/-- The request of a client that waits for its grant. -/
def pending? (a : Arbiter) (c : Client) : Option Request :=
  match a.slots.get c with
  | .pending request => some request
  | _ => none

/-- Whether a client has a request that waits for its grant. -/
def isPending (a : Arbiter) (c : Client) : Bool :=
  (a.pending? c).isSome

/-- The response that waits for a client. -/
def response? (a : Arbiter) (c : Client) : Option Response :=
  match a.slots.get c with
  | .ready response => some response
  | _ => none

/-- Whether a client may submit a request. -/
def isFree (a : Arbiter) (c : Client) : Bool :=
  match a.slots.get c with
  | .empty => !a.isGranted c
  | _ => false

/-- Nothing is granted and nothing waits for a grant. -/
def isIdle (a : Arbiter) : Bool :=
  a.grant.isNone && Client.all.all fun c => !a.isPending c

/-- Presents a request on a free slot; an occupied slot does not take it. -/
def submit? (a : Arbiter) (c : Client) (request : Request) : Option Arbiter :=
  if a.isFree c then
    some { a with slots := a.slots.set c (.pending request) }
  else
    none

/-- Takes the response of a client, which frees its slot. -/
def take? (a : Arbiter) (c : Client) : Option (Response × Arbiter) :=
  match a.slots.get c with
  | .ready response => some (response, { a with slots := a.slots.set c .empty })
  | _ => none

/-! ## Cycles -/

/-- The client that is granted next, with its request. -/
def select? (a : Arbiter) : Option (Client × Request) :=
  let first : Client := match a.policy with
    | .fixedPriority => .display
    | .roundRobin => a.favoured
  first.rotation.findSome? fun c => (a.pending? c).map (c, ·)

/-- The grant whose access the next cycle performs. -/
def due? (a : Arbiter) : Option Grant :=
  a.grant.filter (·.remaining ≤ 1)

/-- Advances by one cycle: a grant counts down and is performed in its last cycle; without one, the
next request is granted. -/
@[specialize] def tick {M : Type} [MemoryDevice M] (a : Arbiter) (m : M) : Arbiter × M :=
  match a.grant with
  | some g =>
    if g.remaining ≤ 1 then
      let (m, response) := g.request.perform m
      ({ a with
          slots := a.slots.set g.client (.ready response)
          grant := none
          acknowledged := none
          busyCycles := a.busyCycles + 1 }, m)
    else
      ({ a with
          grant := some { g with remaining := g.remaining - 1 }
          acknowledged := none
          busyCycles := a.busyCycles + 1 }, m)
  | none =>
    match a.select? with
    | none => ({ a with acknowledged := none }, m)
    | some (c, request) =>
      ({ a with
          slots := a.slots.set c .empty
          grant := some ⟨c, request, request.cycles (MemoryDevice.latency m)⟩
          acknowledged := some c
          favoured := c.next
          grants := a.grants.set c (a.grants.get c + 1)
          overflowed := a.overflowed || request.overflows (MemoryDevice.latency m) }, m)

end Arbiter

end RasterGpu
