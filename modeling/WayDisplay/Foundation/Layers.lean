import Mathlib.Algebra.Order.Ring.Nat
import Mathlib.Data.List.Basic
import Mathlib.Data.Option.Basic

/-!
Images painted layer by layer.

A layer covers some points and gives a value at each of them.
-/

namespace WayDisplay.Foundation

universe u v

structure Layer (Point : Type u) (Value : Type v) where
  covers : Point → Bool
  value : Point → Value

variable {Point : Type u} {Value : Type v}

def paint (image : Point → Value) (layer : Layer Point Value) :
    Point → Value :=
  fun point => if layer.covers point then layer.value point else image point

end WayDisplay.Foundation
