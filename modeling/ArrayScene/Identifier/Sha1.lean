/-!
# SHA-1

The digest of a sequence of octets: the octets are padded to blocks of 64, and each block takes the
state of five words through eighty rounds.
-/
namespace ArrayScene.Sha1

/-- The five words of the state. -/
structure State where
  a : UInt32
  b : UInt32
  c : UInt32
  d : UInt32
  e : UInt32
  deriving DecidableEq, Repr

def State.initial : State := ⟨0x67452301, 0xEFCDAB89, 0x98BADCFE, 0x10325476, 0xC3D2E1F0⟩

def rotate (w : UInt32) (places : UInt32) : UInt32 := (w <<< places) ||| (w >>> (32 - places))

/-- The octets of a number, most significant first. -/
def octets : Nat → Nat → List UInt8
  | 0, _ => []
  | count + 1, n => octets count (n / 256) ++ [UInt8.ofNat n]

/-- The octets with a one bit, zeros and the length in bits behind them. -/
def padded (bytes : List UInt8) : List UInt8 :=
  let zeros := (119 - bytes.length % 64) % 64
  bytes ++ 0x80 :: List.replicate zeros 0 ++ octets 8 (8 * bytes.length)

/-- Words of four octets each; what is left over is dropped. -/
def words : List UInt8 → List UInt32
  | a :: b :: c :: d :: rest =>
    ((a.toUInt32 <<< 24) ||| (b.toUInt32 <<< 16) ||| (c.toUInt32 <<< 8) ||| d.toUInt32) ::
      words rest
  | _ => []

/-- The schedule of a block, last word first: `count` words more than are there. -/
def extend : Nat → List UInt32 → List UInt32
  | 0, ws => ws
  | count + 1, ws =>
    extend count (rotate (ws.getD 2 0 ^^^ ws.getD 7 0 ^^^ ws.getD 13 0 ^^^ ws.getD 15 0) 1 :: ws)

/-- The function and the constant of a round. -/
def mix (round : Nat) (b c d : UInt32) : UInt32 :=
  if round < 20 then ((b &&& c) ||| (~~~b &&& d)) + 0x5A827999
  else if round < 40 then (b ^^^ c ^^^ d) + 0x6ED9EBA1
  else if round < 60 then ((b &&& c) ||| (b &&& d) ||| (c &&& d)) + 0x8F1BBCDC
  else (b ^^^ c ^^^ d) + 0xCA62C1D6

/-- The state after a round with a word of the schedule. -/
def State.round (s : State) (step : UInt32 × Nat) : State :=
  ⟨rotate s.a 5 + mix step.2 s.b s.c s.d + s.e + step.1, s.a, rotate s.b 30, s.c, s.d⟩

/-- The state after a block of sixteen words. -/
def State.block (s : State) (ws : List UInt32) : State :=
  let t := (extend 64 ws.reverse).reverse.zipIdx.foldl State.round s
  ⟨s.a + t.a, s.b + t.b, s.c + t.c, s.d + t.d, s.e + t.e⟩

/-- A list cut into `count` parts of `size` items. -/
def parts {α : Type} (size : Nat) : Nat → List α → List (List α)
  | 0, _ => []
  | count + 1, xs => xs.take size :: parts size count (xs.drop size)

/-- The digest, twenty octets. -/
def digest (bytes : List UInt8) : List UInt8 :=
  let ws := words (padded bytes)
  let s := (parts 16 (ws.length / 16) ws).foldl State.block State.initial
  [s.a, s.b, s.c, s.d, s.e].flatMap fun w => octets 4 w.toNat

end ArrayScene.Sha1
