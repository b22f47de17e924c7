import PlanarPipe.Bytes.LittleEndian
import PlanarPipe.Video.Size

/-!
# Records

A stream is a sequence of records. An announcement gives the size of the pictures that follow; a
picture is a time stamp in microseconds and the bytes of its planes. `Record.encode` writes a record:

* announcement: the four bytes `YUV4`, width and height in four bytes each;
* picture: the time stamp in eight bytes, then the planes in sending order.

All numbers are little-endian, the time stamp in two's complement.
-/

namespace PlanarPipe

/-- A picture as it stands in a stream. -/
structure Picture where
  stamp : Int64
  size : Size
  payload : Bytes
  deriving DecidableEq, Repr

inductive Record where
  /-- The pictures that follow have this size. -/
  | announcement (size : Size)
  /-- A picture of the size announced last. -/
  | picture (p : Picture)
  deriving DecidableEq, Repr

namespace Wire

/-- The bytes with which an announcement starts. -/
def tag : Bytes := [0x59, 0x55, 0x56, 0x34]

def announcementLength : Nat := 12

def stampLength : Nat := 8

/-- The longest frame a reader takes unless it is told otherwise: 64 MiB. -/
def standardLimit : Nat := 64 * 1024 * 1024

def encodeSize (size : Size) : Bytes :=
  tag ++ LittleEndian.encode 4 size.width.toNat ++ LittleEndian.encode 4 size.height.toNat

def encodeStamp (stamp : Int64) : Bytes := LittleEndian.encode stampLength stamp.toUInt64.toNat

/-- The time stamp that eight bytes spell. -/
def decodeStamp (bytes : Bytes) : Int64 := (UInt64.ofNat (LittleEndian.decode bytes)).toInt64

def decodeSide (bytes : Bytes) : UInt32 := UInt32.ofNat (LittleEndian.decode bytes)

/-- The tag takes four bytes. -/
@[simp] theorem length_tag : tag.length = 4 := rfl

/-- All announcements have the same length. -/
@[simp] theorem length_encodeSize (size : Size) :
    (encodeSize size).length = announcementLength := by
  simp [encodeSize, announcementLength]

/-- All time stamps have the same length. -/
@[simp] theorem length_encodeStamp (stamp : Int64) : (encodeStamp stamp).length = stampLength := by
  simp [encodeStamp]

/-- A side of a frame is read back as it was written. -/
theorem decodeSide_encode (n : UInt32) : decodeSide (LittleEndian.encode 4 n.toNat) = n := by
  have small : n.toNat < 4294967296 := n.toNat_lt
  simp [decodeSide, LittleEndian.decode_encode, Nat.mod_eq_of_lt small]

/-- A time stamp is read back as it was written. -/
theorem decodeStamp_encodeStamp (stamp : Int64) : decodeStamp (encodeStamp stamp) = stamp := by
  have small : stamp.toUInt64.toNat < 18446744073709551616 := stamp.toUInt64.toNat_lt
  simp [decodeStamp, encodeStamp, stampLength, LittleEndian.decode_encode, Nat.mod_eq_of_lt small]

end Wire

def Record.encode : Record → Bytes
  | announcement size => Wire.encodeSize size
  | picture p => Wire.encodeStamp p.stamp ++ p.payload

/-- The bytes of one plane within the payload of a picture. -/
def Picture.plane (p : Picture) (c : Channel) : Bytes :=
  let luma := p.size.planeBytes .luma
  let chroma := p.size.planeBytes .blue
  match c with
  | .luma => p.payload.take luma
  | .blue => (p.payload.drop luma).take chroma
  | .red => (p.payload.drop (luma + chroma)).take chroma

end PlanarPipe
