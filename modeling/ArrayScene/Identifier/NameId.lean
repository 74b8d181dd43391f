import ArrayScene.Identifier.Sha1

/-!
# Identifiers from names

An identifier of sixteen octets made from a name within a space of names: the digest of both, with
version 5 and the standard variant marked in it. Equal names have equal identifiers.
-/
namespace ArrayScene

/-- An identifier, as its octets. -/
structure NameId where
  octets : List UInt8
  deriving DecidableEq, Repr

namespace NameId

/-- The octets with the version and the variant set. -/
def marked : List UInt8 → List UInt8
  | o₀ :: o₁ :: o₂ :: o₃ :: o₄ :: o₅ :: o₆ :: o₇ :: o₈ :: rest =>
    o₀ :: o₁ :: o₂ :: o₃ :: o₄ :: o₅ :: ((o₆ &&& 0x0F) ||| 0x50) :: o₇ ::
      ((o₈ &&& 0x3F) ||| 0x80) :: rest
  | other => other

/-- The identifier of a name in a space. -/
def ofName (space : NameId) (name : String) : NameId :=
  ⟨marked ((Sha1.digest (space.octets ++ name.toUTF8.toList)).take 16)⟩

/-- The space of domain names. -/
def domainNames : NameId :=
  ⟨[0x6B, 0xA7, 0xB8, 0x10, 0x9D, 0xAD, 0x11, 0xD1, 0x80, 0xB4, 0x00, 0xC0, 0x4F, 0xD4, 0x30,
    0xC8]⟩

/-- The two hexadecimal digits of an octet. -/
def octetText (o : UInt8) : List Char :=
  [Nat.digitChar (o.toNat / 16), Nat.digitChar (o.toNat % 16)]

/-- The text of an identifier: lower-case digits in groups of 8, 4, 4, 4 and 12. -/
def text (id : NameId) : String :=
  let group (start count : Nat) : List Char := ((id.octets.drop start).take count).flatMap octetText
  String.ofList (List.intercalate ['-'] [group 0 4, group 4 2, group 6 2, group 8 2, group 10 6])

end NameId

end ArrayScene
