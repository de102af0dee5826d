import Astra.Platform.Errors

/-!
# Text chunking

`domains/knowledge/chunker.py` over the characters of the normalised text.
-/

namespace Astra.Knowledge

open Astra.Platform

structure TextChunk where
  ordinal : Nat
  content : String
  deriving DecidableEq, Repr

def rfindSpace (text : List Char) (lo : Nat) : Nat → Option Nat
  | 0 => none
  | hi + 1 =>
      if hi < lo then none
      else if text[hi]? = some ' ' then some hi
      else rfindSpace text lo hi

def chunkEnd (text : List Char) (size start : Nat) : Nat :=
  let stop := min (start + size) text.length
  if stop < text.length then
    match rfindSpace text (start + max (size / 2) 1) stop with
    | none => stop
    | some boundary => if start < boundary then boundary else stop
  else stop

/-- The `while` loop; the next start lies strictly after the current one. -/
def chunkLoop (text : List Char) (size overlap start ordinal : Nat) : List TextChunk :=
  if start < text.length then
    let stop := chunkEnd text size start
    let content := stripChars (slice text start stop)
    let emitted := if content.isEmpty then [] else [⟨ordinal, String.ofList content⟩]
    let ordinal := if content.isEmpty then ordinal else ordinal + 1
    if text.length ≤ stop then emitted
    else emitted ++ chunkLoop text size overlap (max (stop - overlap) (start + 1)) ordinal
  else []
termination_by text.length - start
decreasing_by omega

def chunkText (text : String) (size overlap : Int) : Except Exn (List TextChunk) :=
  if size ≤ 0 then .error (valueError "size must be positive")
  else if overlap < 0 ∨ size ≤ overlap then
    .error (valueError "overlap must be >= 0 and smaller than size")
  else
    let normalized := (" ".intercalate (splitWords text)).toList
    .ok (chunkLoop normalized size.toNat overlap.toNat 0 0)

end Astra.Knowledge
