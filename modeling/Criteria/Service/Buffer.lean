/-!
# Buffered files

Bytes on their way into a file are held back until there are enough of them.  A
piece that still fits joins those that are held back; if it does not, these are
handed on first, and a piece as long as the whole buffer is handed on by itself.
What is held back when the file is closed is handed on then.
-/

namespace Criteria

/-- The bytes that are held back in front of a file. -/
structure FileBuffer where
  held : List UInt8

namespace FileBuffer

/-- The buffer in front of a file just opened. -/
def empty : FileBuffer :=
  ⟨[]⟩

/-- How many bytes a buffer has room for. -/
def capacity : Nat := 8192

variable {m : Type → Type} [Monad m] (append : List UInt8 → m Unit)

/-- Hands on all bytes that are held back. -/
def flush (buffer : FileBuffer) : m FileBuffer := do
  append buffer.held
  return empty

/-- Hands on what is held back if there is no room for as many bytes more. -/
def makeRoom (buffer : FileBuffer) (needed : Nat) : m FileBuffer :=
  if capacity < buffer.held.length + needed then buffer.flush append
  else return buffer

/-- Takes in a piece. -/
def put (buffer : FileBuffer) (piece : List UInt8) : m FileBuffer :=
  if buffer.held.length + piece.length < capacity then
    return ⟨buffer.held ++ piece⟩
  else do
    let buffer ← buffer.makeRoom append piece.length
    if piece.length < capacity then return ⟨buffer.held ++ piece⟩
    else
      append piece
      return buffer

end FileBuffer

end Criteria
