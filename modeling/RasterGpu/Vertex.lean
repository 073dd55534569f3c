import RasterGpu.Color
import RasterGpu.Geometry.Edge
import RasterGpu.Register.VertexWord

/-!
# Vertices

Writes to the color and texture registers set the attributes of vertices to come; submitting a
vertex word latches it together with the attributes then in force. The device remembers the last
three vertices in a ring: a strip of triangles needs one new vertex for each.
-/

namespace RasterGpu

/-- The attributes that the next vertex takes. -/
structure Attributes where
  /-- First color, the one that is drawn. -/
  color0 : Rgba := .zero
  /-- Second color, carried along. -/
  color1 : Rgba := .zero
  /-- First texture coordinates, carried along. -/
  uv0 : UInt32 := 0
  /-- Second texture coordinates, carried along. -/
  uv1 : UInt32 := 0
  deriving DecidableEq, Repr, Inhabited

namespace Attributes

/-- The attributes stored in the words of the color and texture registers. -/
def ofWords (color texCoord : UInt64) : Attributes where
  color0 := .ofPacked color.toUInt32
  color1 := .ofPacked (color >>> 32).toUInt32
  uv0 := texCoord.toUInt32
  uv1 := (texCoord >>> 32).toUInt32

/-- The attributes with the colors stored in a word. -/
def setColors (a : Attributes) (word : UInt64) : Attributes :=
  { a with color0 := .ofPacked word.toUInt32, color1 := .ofPacked (word >>> 32).toUInt32 }

/-- The attributes with the texture coordinates stored in a word. -/
def setTexCoords (a : Attributes) (word : UInt64) : Attributes :=
  { a with uv0 := word.toUInt32, uv1 := (word >>> 32).toUInt32 }

end Attributes

/-- A latched vertex. -/
structure Vertex where
  /-- Position, depth and perspective term. -/
  word : VertexWord := {}
  /-- Attributes in force when it was submitted. -/
  attributes : Attributes := {}
  deriving DecidableEq, Repr, Inhabited

namespace Vertex

/-- Position in sixteenths of a pixel. -/
def position (v : Vertex) : Point := ⟨v.word.x.toInt, v.word.y.toInt⟩

/-- Depth. -/
def z (v : Vertex) : UInt16 := v.word.z

/-- The color that is drawn. -/
def color (v : Vertex) : Rgba := v.attributes.color0

end Vertex

/-! ## The ring of recent vertices -/

/-- The last three vertices, and how many were submitted. -/
structure VertexRing where
  /-- The slots of the ring; a slot not written yet holds the zero vertex. -/
  slots : Vector Vertex 3 := .replicate 3 {}
  /-- Number of vertices submitted. -/
  count : Nat := 0
  deriving DecidableEq, Repr

namespace VertexRing

/-- The vertex in a slot; slots are counted modulo three. -/
def slot (ring : VertexRing) (index : Nat) : Vertex :=
  ring.slots.get ⟨index % 3, Nat.mod_lt _ (by decide)⟩

/-- The slot that the next vertex takes. -/
def nextSlot (ring : VertexRing) : Nat :=
  ring.count % 3

/-- Stores a vertex in the next slot. -/
def push (ring : VertexRing) (v : Vertex) : VertexRing where
  slots := ring.slots.set (ring.count % 3) v (Nat.mod_lt _ (by decide))
  count := ring.count + 1

/-- The vertex submitted `age` submissions ago; the newest has age zero, and ages are counted modulo
three. -/
def recent (ring : VertexRing) (age : Nat) : Vertex :=
  ring.slot (ring.count + 5 - age % 3)

end VertexRing

end RasterGpu
