import Mathlib.Algebra.Order.Ring.Nat
import Mathlib.Data.List.Basic

/-!
The compressor behind tile payloads (`wd_zstd.c`).

Zstandard itself is a parameter: its two functions and the bound it publishes on
the size of its output.
-/

namespace WayDisplay.Common

structure Zstd where
  compressBound : Nat → Nat
  compress : List UInt8 → List UInt8
  /-- The decompressed bytes, if they fit the given capacity. -/
  decompress : List UInt8 → Nat → Option (List UInt8)

/-- A compressor that keeps the promise by storing its input. -/
def Zstd.stored : Zstd where
  compressBound := id
  compress := id
  decompress := fun bytes capacity =>
    if bytes.length ≤ capacity then some bytes else none

def Zstd.wdDecompress (zstd : Zstd) (source : List UInt8)
    (expectedSize : Nat) : Option (List UInt8) :=
  if source = [] ∨ expectedSize = 0 then none
  else
    match zstd.decompress source expectedSize with
    | none => none
    | some bytes => if bytes.length = expectedSize then some bytes else none

end WayDisplay.Common
