/-!
# Clients of the memory

Four parts of the device use the memory, each through a slot of its own. `PerClient α` is a record
with one value per slot.
-/

namespace RasterGpu

/-- The parts of the device that use the memory, in order of priority. -/
inductive Client where
  /-- Scanout, reading the surface on display. -/
  | display
  /-- The rasterizer's color reads and writes. -/
  | color
  /-- The rasterizer's depth reads and writes. -/
  | depth
  /-- The memory engine: window accesses, timestamps and fills. -/
  | engine
  deriving DecidableEq, Repr, Inhabited

namespace Client

/-- All clients, highest priority first. -/
def all : List Client := [display, color, depth, engine]

/-- The client after this one in priority; the first follows the last. -/
def next : Client → Client
  | display => color
  | color => depth
  | depth => engine
  | engine => display

/-- All clients in order of priority, beginning with this one and wrapping around. -/
def rotation : Client → List Client
  | display => [display, color, depth, engine]
  | color => [color, depth, engine, display]
  | depth => [depth, engine, display, color]
  | engine => [engine, display, color, depth]

end Client

/-- One value for each client. -/
structure PerClient (α : Type) where
  /-- The value of scanout. -/
  display : α
  /-- The value of the rasterizer's color slot. -/
  color : α
  /-- The value of the rasterizer's depth slot. -/
  depth : α
  /-- The value of the memory engine. -/
  engine : α
  deriving DecidableEq, Repr, Inhabited

namespace PerClient

variable {α : Type}

/-- The same value for each client. -/
def const (a : α) : PerClient α := ⟨a, a, a, a⟩

/-- The value of a client. -/
def get (p : PerClient α) : Client → α
  | .display => p.display
  | .color => p.color
  | .depth => p.depth
  | .engine => p.engine

/-- Replaces the value of a client. -/
def set (p : PerClient α) (c : Client) (a : α) : PerClient α :=
  match c with
  | .display => { p with display := a }
  | .color => { p with color := a }
  | .depth => { p with depth := a }
  | .engine => { p with engine := a }

@[simp] theorem get_const (a : α) (c : Client) : (const a).get c = a := by
  cases c <;> rfl

@[simp] theorem get_set_self (p : PerClient α) (c : Client) (a : α) : (p.set c a).get c = a := by
  cases c <;> rfl

theorem get_set_of_ne (p : PerClient α) {c d : Client} (h : d ≠ c) (a : α) :
    (p.set c a).get d = p.get d := by
  cases c <;> cases d <;> first | rfl | exact absurd rfl h

end PerClient

end RasterGpu
