import Retrieval.Storage.FileSystem

/-! Writing a file from its beginning. A piece is handed over without waiting for what becomes of it;
a failure shows when the next piece is written or the writer is flushed. -/
namespace Retrieval.Storage

structure Writer where
  files : FileSystem
  /-- The file. Without one, what is written is dropped. -/
  place : Option Place
  /-- The failure of the piece handed over last, which nobody has seen yet. -/
  unseen : Option Failure := none

namespace Writer

def create (files : FileSystem) (path : Bytes) : Except Failure Writer :=
  match files.openSink path true with
  | .ok (place, opened) => .ok { files := opened, place }
  | .error cause => .error cause

def pieceSize : Nat := 2 * 1024 * 1024

/-- Hands over one piece, unless the one before it has failed. -/
def writePiece (w : Writer) (piece : Bytes) : Option Failure × Writer :=
  match w.unseen, w.place with
  | some cause, _ => (some cause, { w with unseen := none })
  | none, none => (none, w)
  | none, some place =>
    match w.files.append place piece with
    | .ok files => (none, { w with files })
    | .error cause => (none, { w with unseen := some cause })

def writePieces (w : Writer) : List Bytes → Option Failure × Writer
  | [] => (none, w)
  | piece :: rest =>
    match w.writePiece piece with
    | (some cause, after) => (some cause, after)
    | (none, after) => after.writePieces rest

def write (w : Writer) (data : Bytes) : Option Failure × Writer :=
  w.writePieces (data.pieces pieceSize)

end Writer
end Retrieval.Storage
