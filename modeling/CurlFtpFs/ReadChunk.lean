import CurlFtpFs.Multi

namespace CurlFtpFs

/-! `ftpfs_read_chunk`: serve a read from the handle's window, pumping the shared
download or restarting it at the requested offset when the window does not
cover the read. -/

/-- A C integer expression converted to `size_t`. -/
def sizeT (n : Int) : Nat := (n % 2 ^ 64).toNat

theorem sizeT_of_lt {n : Nat} (small : n < 2 ^ 64) : sizeT n = n := by
  unfold sizeT
  rw [Int.emod_eq_of_lt (by omega) (by omega)]
  rfl

/-- Modelled from the spec: what `ftpfs_read_chunk` returns, the number of bytes
served or `CURLFTPFS_BAD_READ` (a sentinel declared in `ftpfs.h`). -/
inductive ReadResult
  | served (n : Nat)
  | badRead
  deriving Repr, DecidableEq

/-- What the network does during one `ftpfs_read_chunk`: the perform inside
`check_running`, the perform after the restart test, and per round of the pump
loop whether `select` fails and the perform after it. -/
structure ReadNetwork where
  probe : Delivery
  first : Delivery
  rounds : List (Bool × Delivery)
  deriving Repr

namespace FtpfsFile

/-- `fh->buf.len < size + offset - fh->buf.begin_offset`, computed in `size_t`. -/
def short (f : FtpfsFile) (size offset : Nat) : Bool :=
  f.buf.len < sizeT (size + offset - f.buf.beginOffset)

/-- `offset < fh->buf.begin_offset || offset > fh->buf.begin_offset + fh->buf.len`. -/
def outside (f : FtpfsFile) (offset : Nat) : Bool :=
  offset < f.buf.beginOffset || f.buf.beginOffset + f.buf.len < offset

/-- The copy and the shrink that end `ftpfs_read_chunk`: the handle afterwards,
the bytes copied to `rbuf`, and their number. `to_copy` is the part of the
window from `offset` on; past `MAX_BUFFER_LEN` a shrinkable window drops
everything before the end of the bytes served. -/
def serve (f : FtpfsFile) (size offset : Nat) (updateOffset : Bool) :
    FtpfsFile × List UInt8 × Nat :=
  let toCopy := f.buf.beginOffset + f.buf.len - offset
  let n := min size toCopy
  let buf : Buffer := if f.canShrink ∧ MAX_BUFFER_LEN < f.buf.len then
      ⟨f.buf.p.drop (offset - f.buf.beginOffset + n), offset + n⟩
    else f.buf
  ({ f with buf := buf, lastOffset := if updateOffset then offset + n else f.lastOffset },
    (f.buf.p.drop (offset - f.buf.beginOffset)).take n, n)

@[simp] theorem serve_fullPath (f : FtpfsFile) (size offset : Nat) (updateOffset : Bool) :
    (f.serve size offset updateOffset).1.fullPath = f.fullPath := rfl

@[simp] theorem serve_canShrink (f : FtpfsFile) (size offset : Nat) (updateOffset : Bool) :
    (f.serve size offset updateOffset).1.canShrink = f.canShrink := rfl

@[simp] theorem serve_pos (f : FtpfsFile) (size offset : Nat) (updateOffset : Bool) :
    (f.serve size offset updateOffset).1.pos = f.pos := rfl

@[simp] theorem serve_writeConn (f : FtpfsFile) (size offset : Nat) (updateOffset : Bool) :
    (f.serve size offset updateOffset).1.writeConn = f.writeConn := rfl

theorem serve_buf (f : FtpfsFile) (size offset : Nat) (updateOffset : Bool) :
    (f.serve size offset updateOffset).1.buf =
      if f.canShrink ∧ MAX_BUFFER_LEN < f.buf.len then
        ⟨f.buf.p.drop (offset - f.buf.beginOffset +
          min size (f.buf.beginOffset + f.buf.len - offset)),
          offset + min size (f.buf.beginOffset + f.buf.len - offset)⟩
      else f.buf := rfl

theorem serve_end (f : FtpfsFile) {size offset : Nat} (updateOffset : Bool)
    (after : f.buf.beginOffset ≤ offset) (within : offset ≤ f.buf.beginOffset + f.buf.len) :
    (f.serve size offset updateOffset).1.buf.beginOffset +
      (f.serve size offset updateOffset).1.buf.len = f.buf.beginOffset + f.buf.len := by
  rw [serve_buf]
  split
  · simp only [Buffer.len, List.length_drop]
    unfold Buffer.len at within
    omega
  · rfl

end FtpfsFile

section ReadChunk

variable (remote : String → List UInt8)

/-- The restart test, with the `check_running()` it calls when the handle owns
the connection and `offset` lies in its window: the world after the test, and
whether to restart. -/
def restartTest (w : World) (fh : Nat) (f : FtpfsFile) (offset : Nat)
    (probe : Delivery) : World × Bool :=
  if w.ftpfs.currentFh ≠ some fh ∨ f.outside offset = true then (w, true)
  else
    let checked := curlMultiPerform remote w probe
    (checked.1, checked.2 = 0)

/-- The restart block: clear the window at `offset`, make `fh` the current
handle, and attach a download of `fullPath` from the range start. -/
def restart (w : World) (fh : Nat) (fullPath : String) (offset : Nat) : World :=
  { ftpfs := { cancelPreviousMulti w.ftpfs with
      currentFh := some fh, attachedToMulti := true,
      download := some ⟨fh, fullPath, rangeStart offset, .running⟩ },
    files := Function.update w.files fh
      ((w.files fh).map fun f => { f with buf := ⟨[], offset⟩ }) }

/-- The restart test and the restart it guards. -/
def takeConnection (w : World) (fullPath : String) (offset fh : Nat) (f : FtpfsFile)
    (probe : Delivery) : World :=
  let tested := restartTest remote w fh f offset probe
  if tested.2 then restart tested.1 fh fullPath offset else tested.1

/-- Where the pump loop leaves: the world, `running_handles`, and `err`. -/
structure Pumped where
  world : World
  running : Nat
  err : Bool

/-- The pump loop: while the window is short of the request and the download
runs, wait in `select` and perform again; a failed `select` leaves with an
error. `none` when the network's rounds run out first: the call has not returned. -/
def pumpLoop (fh size offset : Nat) : List (Bool × Delivery) → World → Nat → Option Pumped
  | rounds, w, running =>
      if (w.files fh).any (·.short size offset) ∧ running ≠ 0 then
        match rounds with
        | [] => none
        | (true, _) :: _ => some ⟨w, running, true⟩
        | (false, d) :: rest =>
            let performed := curlMultiPerform remote w d
            pumpLoop fh size offset rest performed.1 performed.2
      else some ⟨w, running, false⟩

/-- The network part of a read that the window cannot answer: the restart test
and restart, the first perform, the pump loop, and the completion messages
when no handle runs any more; returns the world and `err`. -/
def fetch (w : World) (fullPath : String) (size offset fh : Nat) (f : FtpfsFile)
    (net : ReadNetwork) : Option (World × Bool) := do
  let first := curlMultiPerform remote (takeConnection remote w fullPath offset fh f net.probe)
    net.first
  let pumped ← pumpLoop remote fh size offset net.rounds first.1 first.2
  if pumped.running = 0 then
    let read := readMsgs pumped.world.ftpfs
    pure ({ pumped.world with ftpfs := read.1 }, pumped.err || read.2)
  else pure (pumped.world, pumped.err)

/-- The cache test of `ftpfs_read_chunk` and, when the window cannot answer the
read, the network part: the world and `err`. -/
def fillWindow (w : World) (fullPath : String) (size offset fh : Nat) (f : FtpfsFile)
    (net : ReadNetwork) : Option (World × Bool) :=
  if f.short size offset || f.outside offset then fetch remote w fullPath size offset fh f net
  else some (w, false)

/-- `ftpfs_read_chunk(full_path, rbuf, size, offset, fi, update_offset)`: the world
afterwards, the bytes copied to `rbuf`, and the result. -/
def ftpfsReadChunk (w : World) (fullPath : String) (size offset fh : Nat)
    (updateOffset : Bool) (net : ReadNetwork) :
    Option (World × List UInt8 × ReadResult) := do
  let f ← w.files fh
  let fetched ← fillWindow remote w fullPath size offset fh f net
  let g ← fetched.1.files fh
  let served := g.serve size offset updateOffset
  pure ({ fetched.1 with files := Function.update fetched.1.files fh (some served.1) },
    served.2.1, if fetched.2 then .badRead else .served served.2.2)

end ReadChunk

end CurlFtpFs
