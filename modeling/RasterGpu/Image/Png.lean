import RasterGpu.Image.Checksum
import RasterGpu.Image

/-!
# PNG files

Pictures as PNG files: eight bits a channel, red, green and blue, every row unfiltered and the data
stored without compression. `Png.encode` writes such a file and `Png.decode?` reads it; both leave
alpha out.
-/

namespace RasterGpu.Png

/-- The bytes that every PNG file starts with. -/
def signature : List UInt8 := [0x89, 0x50, 0x4E, 0x47, 0x0D, 0x0A, 0x1A, 0x0A]

/-- A number as four bytes, the most significant first. -/
def word32 (n : Nat) : List UInt8 :=
  [.ofNat (n >>> 24), .ofNat (n >>> 16), .ofNat (n >>> 8), .ofNat n]

/-- A number as two bytes, the least significant first. -/
def word16 (n : Nat) : List UInt8 := [.ofNat n, .ofNat (n >>> 8)]

/-- A chunk of a kind: its length, kind, data and checksum. -/
def chunk (kind : String) (data : List UInt8) : List UInt8 :=
  let body := kind.toUTF8.toList ++ data
  word32 data.length ++ body ++ word32 (crc32 body).toNat

/-- Bytes that fit into a stored block. -/
def maxBlock : Nat := 65535

/-- Data as stored blocks, of which the last is marked. -/
def blocks (data : List UInt8) : List UInt8 :=
  let size := min data.length maxBlock
  let body := word16 size ++ word16 (maxBlock - size) ++ data.take size
  if data.length ≤ maxBlock then 1 :: body else 0 :: body ++ blocks (data.drop maxBlock)
termination_by data.length
decreasing_by simp only [List.length_drop, maxBlock] at *; omega

/-- Data as a stream of stored blocks with a checksum. -/
def stream (data : List UInt8) : List UInt8 :=
  [0x78, 0x01] ++ blocks data ++ word32 (adler32 data).toNat

/-- Rows of pixels, each after the byte that says that it is unfiltered. -/
def rows (width : Nat) : (height : Nat) → List Rgba → List UInt8
  | 0, _ => []
  | height + 1, pixels =>
    0 :: (pixels.take width).flatMap (fun c => [c.r, c.g, c.b])
      ++ rows width height (pixels.drop width)

/-- The header of a picture: size, eight bits a channel, three channels. -/
def header (width height : Nat) : List UInt8 :=
  word32 width ++ word32 height ++ [8, 2, 0, 0, 0]

/-- A picture as a file. -/
def encode (image : Image) : ByteArray :=
  let data := stream (rows image.width image.height image.pixels)
  ⟨(signature ++ chunk "IHDR" (header image.width image.height) ++ chunk "IDAT" data
    ++ chunk "IEND" []).toArray⟩

/-! ## Reading back -/

/-- Bytes as a number, the most significant first. -/
def number (bytes : List UInt8) : Nat :=
  bytes.foldl (fun n byte => n * 256 + byte.toNat) 0

/-- The data of the chunk of a kind at the front, and what follows it. -/
def unchunk? (kind : String) (bytes : List UInt8) : Option (List UInt8 × List UInt8) :=
  let size := number (bytes.take 4)
  let data := (bytes.drop 8).take size
  let rest := bytes.drop (size + 12)
  if bytes.take (size + 12) = chunk kind data then some (data, rest) else none

/-- The data of stored blocks. -/
def unblock? : (limit : Nat) → List UInt8 → Option (List UInt8)
  | 0, _ => none
  | limit + 1, bytes =>
    let size := number ((bytes.drop 1).take 2).reverse
    let data := (bytes.drop 5).take size
    if bytes.head? = some 1 then some data
    else (unblock? limit (bytes.drop (5 + size))).map (data ++ ·)

/-- The pixels of a row. -/
def rowPixels : (width : Nat) → List UInt8 → List Rgba
  | width + 1, r :: g :: b :: rest => ⟨r, g, b, 0xFF⟩ :: rowPixels width rest
  | _, _ => []

/-- The pixels of rows. -/
def pixels (width : Nat) : (height : Nat) → List UInt8 → List Rgba
  | 0, _ => []
  | height + 1, bytes =>
    rowPixels width (bytes.drop 1) ++ pixels width height (bytes.drop (1 + 3 * width))

/-- The picture in a file that `encode` writes. -/
def decode? (file : ByteArray) : Option Image := do
  let bytes := file.toList
  guard (bytes.take 8 = signature)
  let (head, rest) ← unchunk? "IHDR" (bytes.drop 8)
  let (data, rest) ← unchunk? "IDAT" rest
  guard (rest = chunk "IEND" [])
  let width := number (head.take 4)
  let height := number ((head.drop 4).take 4)
  let content ← unblock? data.length (data.drop 2)
  return ⟨width, height, pixels width height content⟩

end RasterGpu.Png
