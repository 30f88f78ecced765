import SocksGateway.Files.FileTree
import SocksGateway.Log.Device

namespace SocksGateway

structure FileSink where
  path : String
  key : FileKey
  pending : Array UInt8 := #[]
deriving DecidableEq, Inhabited

namespace FileSink

def capacity : Nat := 8192

def flush (s : FileSink) (files : FileTree) : FileSink × FileTree :=
  if s.pending.isEmpty then (s, files)
  else ({ s with pending := #[] }, files.append s.key s.pending)

/-- What does not fit beside the waiting bytes drives them out first. -/
def write (s : FileSink) (files : FileTree) (bytes : List UInt8) : FileSink × FileTree :=
  let (s, files) := if s.pending.size + bytes.length ≤ capacity then (s, files) else s.flush files
  if bytes.length < capacity then ({ s with pending := s.pending ++ bytes.toArray }, files)
  else (s, files.append s.key bytes.toArray)

/-- The file's content once everything that waits is written. -/
def content (s : FileSink) (files : FileTree) : Array UInt8 := files.content s.key ++ s.pending

theorem content_flush (s : FileSink) (h : s.key.isFixed = false) (files : FileTree) :
    (s.flush files).1.content (s.flush files).2 = s.content files := by
  unfold flush
  split
  · rfl
  · simp [content, FileTree.content_append _ h]

theorem key_flush (s : FileSink) (files : FileTree) : (s.flush files).1.key = s.key := by
  unfold flush; split <;> rfl

theorem pending_flush (s : FileSink) (files : FileTree) : (s.flush files).1.pending = #[] := by
  unfold flush
  split
  next h => simpa using h
  next => rfl

theorem content_write (s : FileSink) (h : s.key.isFixed = false) (files : FileTree)
    (bytes : List UInt8) :
    (s.write files bytes).1.content (s.write files bytes).2 = s.content files ++ bytes.toArray := by
  unfold write
  by_cases hf : s.pending.size + bytes.length ≤ capacity
  · simp only [hf, if_true]
    split
    next => simp [content]
    next hb =>
      have hp : s.pending = #[] := Array.eq_empty_of_size_eq_zero (by omega)
      simp [content, FileTree.content_append _ h, hp]
  · simp only [hf, if_false]
    rw [← content_flush s h files]
    generalize hg : s.flush files = g
    have hk : g.1.key.isFixed = false := by rw [← hg, key_flush]; exact h
    have hp : g.1.pending = #[] := by rw [← hg]; exact pending_flush s files
    split
    next => simp [content]
    next => simp [content, FileTree.content_append _ hk, hp]

end FileSink

inductive Sink
  | device (device : Device)
  | file (file : FileSink)
deriving DecidableEq, Inhabited

namespace Sink

def path? : Sink → Option String
  | device _ => none
  | file f => some f.path

def write (s : Sink) (files : FileTree) (bytes : List UInt8) :
    (Sink × FileTree) × Option String :=
  match s with
  | device d => let (d, failure) := d.write bytes; ((device d, files), failure)
  | file f => let (f, files) := f.write files bytes; ((file f, files), none)

def flush (s : Sink) (files : FileTree) : (Sink × FileTree) × Option String :=
  match s with
  | device d => let (d, failure) := d.flush; ((device d, files), failure)
  | file f => let (f, files) := f.flush files; ((file f, files), none)

/-- What waits for a file is written to it; nothing more happens to a device. -/
def close (s : Sink) (files : FileTree) : FileTree :=
  match s with
  | device _ => files
  | file f => (f.flush files).2

end Sink
end SocksGateway
