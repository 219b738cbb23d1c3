import Automation.Digest.Sha256

/-!
# Globally unique identifiers

A `Guid` is sixteen bytes, kept in the order in which they are written. `Guid.derive` makes the
same identifier from the same namespace and name, so what declares none still has a stable one.
-/

namespace Automation

/-- A globally unique identifier: sixteen bytes, in written order. -/
structure Guid where
  bytes : Vector UInt8 16
  deriving DecidableEq, Repr

namespace Guid

/-- The identifier with the given leading bytes: missing ones are zero, further ones are ignored. -/
def ofBytes (bytes : List UInt8) : Guid := ⟨Vector.ofFn fun i => bytes.getD i.val 0⟩

/-- The identifier of which every byte is zero. -/
def nil : Guid := ofBytes []

instance : Inhabited Guid := ⟨nil⟩

/-- Whether every byte is zero. -/
def isNil (g : Guid) : Bool := g == nil

/-- The first field: four bytes as a number. -/
def data1 (g : Guid) : Nat := Bytes.ofBig (g.bytes.toList.take 4)

/-- The second field: two bytes as a number. -/
def data2 (g : Guid) : Nat := Bytes.ofBig ((g.bytes.toList.drop 4).take 2)

/-- The third field: two bytes as a number. -/
def data3 (g : Guid) : Nat := Bytes.ofBig ((g.bytes.toList.drop 6).take 2)

/-- The fourth field: the last eight bytes. -/
def data4 (g : Guid) : List UInt8 := g.bytes.toList.drop 8

/-- The namespace of the identifiers derived for what declares none. -/
def exportNamespace : Guid :=
  ⟨#v[0x9C, 0x1A, 0x6E, 0x3D, 0x51, 0xB2, 0x4F, 0x0E,
      0x8A, 0x3B, 0x27, 0xD4, 0x61, 0x0C, 0x5E, 0x92]⟩

/-- The identifier whose first sixteen bytes are a digest's, marked as name-based (version five)
and as laid out in the standard way. -/
def ofDigest (digest : List UInt8) : Guid :=
  let raw := ofBytes digest
  let versioned := raw.bytes.set 6 ((raw.bytes[6] &&& 0x0F) ||| 0x50)
  ⟨versioned.set 8 ((versioned[8] &&& 0x3F) ||| 0x80)⟩

/-- The identifier of a name in a namespace. -/
def derive (space : Guid) (name : String) : Guid :=
  ofDigest (Digest.sha256 (space.bytes.toList ++ name.toUTF8.data.toList))

end Guid

end Automation
