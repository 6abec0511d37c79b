import CaptureFlow.Failure
/-! # Variable-length integers

Numbers as bytes of seven bits each, the lowest first, in which every byte but the last has its
high bit set.  A reader knows how many bytes a number may take and how large the last of them may
be.  Within those limits the high bytes may be zero, so a number has several written forms, of
which `Varint.write` gives the shortest.  `Varint.fold` maps the signed numbers onto the unsigned
ones so that numbers near zero stay short. -/

namespace CaptureFlow

/-- A sequence of bytes. -/
abbrev Bytes := List UInt8

namespace Varint

/-- The shortest form of `n`. -/
def write (n : Nat) : Bytes :=
  if n < 128 then [n.toUInt8] else (n % 128 + 128).toUInt8 :: write (n / 128)
termination_by n
decreasing_by omega

theorem write_small {n : Nat} (small : n < 128) : write n = [n.toUInt8] := by
  rw [write, if_pos small]

theorem write_large {n : Nat} (large : 128 ≤ n) :
    write n = (n % 128 + 128).toUInt8 :: write (n / 128) := by
  rw [write, if_neg (Nat.not_lt.mpr large)]

/-- The most bytes that a number may take, and the largest value of the last of so many. -/
structure Width where
  places : Nat
  lastMax : Nat

def word32 : Width := ⟨5, 15⟩

def word64 : Width := ⟨10, 1⟩

/-- The number at the front of the bytes, of at most `places` bytes, and the bytes after it. -/
def readPlaces (lastMax : Nat) : (places : Nat) → Bytes → Except PayloadFault (Nat × Bytes)
  | 0, _ => .error .endlessVarint
  | _ + 1, [] => .error .endOfData
  | places + 1, b :: rest =>
    if b.toNat < 128 then
      if places = 0 ∧ lastMax < b.toNat then .error .endlessVarint else .ok (b.toNat, rest)
    else
      match readPlaces lastMax places rest with
      | .error e => .error e
      | .ok (high, after) => .ok (b.toNat - 128 + 128 * high, after)

/-- The number at the front of the bytes, and the bytes after it. -/
def read (width : Width) (bytes : Bytes) : Except PayloadFault (Nat × Bytes) :=
  readPlaces width.lastMax width.places bytes

/-- Non-negative numbers become the even ones, negative numbers the odd ones. -/
def fold (n : Int) : Nat := if 0 ≤ n then 2 * n.toNat else 2 * (-n).toNat - 1

/-- The inverse of `fold`. -/
def unfold (n : Nat) : Int := if n % 2 = 0 then Int.ofNat (n / 2) else -Int.ofNat (n / 2) - 1

theorem unfold_fold (n : Int) : unfold (fold n) = n := by
  unfold fold unfold
  split <;> split <;> simp only [Int.ofNat_eq_natCast] <;> omega

end Varint

end CaptureFlow
