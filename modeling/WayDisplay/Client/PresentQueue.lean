import Mathlib.Data.List.Basic
import WayDisplay.Client.Geometry
import WayDisplay.Foundation.Layers

/-!
The queue of completed tiles that wait for the renderer
(`ClientTilePresentQueue`).

An upload of the same visible rectangle and ownership epoch takes the place of
the one already queued, at the tail.  The queue is bounded by items and bytes;
what does not fit is refused, and the caller falls back to the framebuffer.
-/

namespace WayDisplay.Client

open Common Foundation

variable {Pixel : Type}

/-- A pixel of an image.  The generation is that of the completion it comes
from; the program has only the value. -/
structure Texel (Pixel : Type) where
  value : Pixel
  generation : Nat
  deriving DecidableEq

abbrev Image (Pixel : Type) := Point → Texel Pixel

structure ClientTileUpload (Pixel : Type) where
  rect : Rect
  ownershipEpoch : Nat
  generation : Nat
  sourcePitch : Nat
  byteSize : Nat
  pixel : Nat → Nat → Pixel

def bytesPerPixel : Nat := 4

namespace ClientTileUpload

def valid (upload : ClientTileUpload Pixel) : Bool :=
  upload.rect.width != 0 && upload.rect.height != 0 &&
    upload.sourcePitch ≥ upload.rect.width * bytesPerPixel &&
    upload.byteSize ≥ upload.sourcePitch * upload.rect.height

def layer (upload : ClientTileUpload Pixel) : Layer Point (Texel Pixel) where
  covers := fun point => upload.rect.contains point.1 point.2
  value := fun point =>
    ⟨upload.pixel (point.1 - upload.rect.x) (point.2 - upload.rect.y),
      upload.generation⟩

/-- What the caller has after the pixels were moved out. -/
def movedFrom (upload : ClientTileUpload Pixel) : ClientTileUpload Pixel :=
  { upload with byteSize := 0 }

def replaces (upload other : ClientTileUpload Pixel) : Bool :=
  other.rect == upload.rect && other.ownershipEpoch == upload.ownershipEpoch

end ClientTileUpload

inductive ClientTilePresentPushResult where
  | queued
  | superseded
  | rejected
  deriving DecidableEq, Repr

structure ClientTilePresentQueue (Pixel : Type) where
  maxItems : Nat
  maxBytes : Nat
  bytes : Nat
  uploads : List (ClientTileUpload Pixel)

def splitLast {α : Type} (wanted : α → Bool) :
    List α → Option (List α × α × List α)
  | [] => none
  | item :: rest =>
      match splitLast wanted rest with
      | some (before, found, after) => some (item :: before, found, after)
      | none => if wanted item then some ([], item, rest) else none

theorem splitLast_eq_some {α : Type} {wanted : α → Bool}
    {items before after : List α} {found : α}
    (split : splitLast wanted items = some (before, found, after)) :
    items = before ++ found :: after ∧ wanted found = true := by
  induction items generalizing before found after with
  | nil => cases split
  | cons item rest ih =>
      rw [splitLast] at split
      cases later : splitLast wanted rest with
      | some parts =>
          obtain ⟨before', found', after'⟩ := parts
          simp only [later, Option.some.injEq, Prod.mk.injEq] at split
          obtain ⟨rfl, rfl, rfl⟩ := split
          obtain ⟨rfl, wants⟩ := ih later
          exact ⟨rfl, wants⟩
      | none =>
          simp only [later] at split
          split at split
          next wants =>
            simp only [Option.some.injEq, Prod.mk.injEq] at split
            obtain ⟨rfl, rfl, rfl⟩ := split
            exact ⟨rfl, wants⟩
          next => cases split

namespace ClientTilePresentQueue

def initial : ClientTilePresentQueue Pixel where
  maxItems := 1024
  maxBytes := 32 * 1024 * 1024
  bytes := 0
  uploads := []

def append (queue : ClientTilePresentQueue Pixel)
    (upload : ClientTileUpload Pixel) : ClientTilePresentQueue Pixel :=
  { queue with
    bytes := queue.bytes + upload.byteSize
    uploads := queue.uploads ++ [upload] }

def remove (queue : ClientTilePresentQueue Pixel)
    (before after : List (ClientTileUpload Pixel))
    (old : ClientTileUpload Pixel) : ClientTilePresentQueue Pixel :=
  { queue with
    bytes := queue.bytes - old.byteSize
    uploads := before ++ after }

/-- The last part of the result is the upload as the caller has it then. -/
def push (queue : ClientTilePresentQueue Pixel)
    (upload : ClientTileUpload Pixel) :
    ClientTilePresentQueue Pixel × ClientTilePresentPushResult ×
      ClientTileUpload Pixel :=
  if !upload.valid || upload.byteSize > queue.maxBytes then
    (queue, .rejected, upload)
  else
    match splitLast upload.replaces queue.uploads with
    | some (before, old, after) =>
        if upload.generation < old.generation then (queue, .superseded, upload)
        else if queue.bytes - old.byteSize >
            queue.maxBytes - upload.byteSize then (queue, .rejected, upload)
        else
          ((queue.remove before after old).append upload, .queued,
            upload.movedFrom)
    | none =>
        if queue.uploads.length ≥ queue.maxItems ||
            queue.bytes > queue.maxBytes - upload.byteSize then
          (queue, .rejected, upload)
        else (queue.append upload, .queued, upload.movedFrom)

/-- The queue is left empty, and its uploads are the batch. -/
def drain (queue : ClientTilePresentQueue Pixel) :
    ClientTilePresentQueue Pixel × List (ClientTileUpload Pixel) :=
  ({ queue with bytes := 0, uploads := [] }, queue.uploads)

end ClientTilePresentQueue

end WayDisplay.Client
