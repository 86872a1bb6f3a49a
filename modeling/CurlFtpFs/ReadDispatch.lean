import CurlFtpFs.ReadChunk

namespace CurlFtpFs

/-! The upcalls of the read side: read-only `ftpfs_open_common` with its probe
read, `ftpfs_read`, `ftpfs_release`, and the metadata operations, each run
under `ftpfs.lock` and so one at a time. Opens for writing never touch the
shared download; their metadata requests are `metadata` upcalls here. -/

/-- What an upcall returns to FUSE, with the bytes a read copied to `rbuf`. -/
structure Reply where
  ret : Int
  copied : List UInt8
  deriving Repr, DecidableEq

/-- The handle `ftpfs_open_common` allocates (`memset`, `buf_init`). -/
def FtpfsFile.opened (fullPath : String) (canShrink : Bool) : FtpfsFile :=
  ⟨⟨[], 0⟩, canShrink, 0, fullPath, 0, false⟩

/-- The read-side upcalls. An open names the address `malloc` returned; the
network's behaviour during the call comes with it. -/
inductive Upcall
  | openRdonly (fh : Nat) (fullPath : String) (creat mknodOk : Bool) (net : ReadNetwork)
  | read (fh : Nat) (fullPath : String) (size offset : Nat) (net : ReadNetwork)
  | release (fh : Nat)
  | metadata

section Dispatch

variable (remote : String → List UInt8)

def World.alloc (w : World) (fh : Nat) (f : FtpfsFile) : World :=
  { w with files := Function.update w.files fh (some f) }

def World.free (w : World) (fh : Nat) : World :=
  { w with files := Function.update w.files fh none }

/-- `ftpfs_open_common` for `O_RDONLY`. With `O_CREAT` the file is made by
`ftpfs_mknod` (`create_empty_file` and `ftpfs_chmod`, two requests on the
connection); otherwise the handle may shrink and a one-byte read at offset 0
probes the file. A failed open frees the handle. -/
def ftpfsOpenRdonly (w : World) (fh : Nat) (fullPath : String) (creat mknodOk : Bool)
    (net : ReadNetwork) : Option (World × Int) :=
  if (w.files fh).isSome then none
  else
    let w := w.alloc fh (.opened fullPath (!creat))
    if creat then
      let w := { w with ftpfs := cancelPreviousMulti w.ftpfs }
      some (if mknodOk then (w, 0) else (w.free fh, -EPERM))
    else
      (ftpfsReadChunk remote w fullPath 1 0 fh false net).map fun probed =>
        if probed.2.2 = .badRead then (probed.1.free fh, -EACCES) else (probed.1, 0)

variable {remote} in
theorem ftpfsOpenRdonly_creat {w w' : World} {fh : Nat} {fullPath : String} {mknodOk : Bool}
    {net : ReadNetwork} {ret : Int}
    (opened : ftpfsOpenRdonly remote w fh fullPath true mknodOk net = some (w', ret)) :
    w.files fh = none ∧
      (w', ret) = if mknodOk then
          ({ w.alloc fh (.opened fullPath false) with ftpfs := cancelPreviousMulti w.ftpfs }, 0)
        else
          ({ w.alloc fh (.opened fullPath false) with ftpfs := cancelPreviousMulti w.ftpfs }.free fh,
            -EPERM) := by
  unfold ftpfsOpenRdonly at opened
  split at opened
  · cases opened
  · next fresh => exact ⟨by simpa using fresh, (Option.some.inj opened).symm⟩

variable {remote} in
theorem ftpfsOpenRdonly_probe {w w' : World} {fh : Nat} {fullPath : String}
    {mknodOk : Bool} {net : ReadNetwork} {ret : Int}
    (opened : ftpfsOpenRdonly remote w fh fullPath false mknodOk net = some (w', ret)) :
    w.files fh = none ∧ ∃ probed,
      ftpfsReadChunk remote (w.alloc fh (.opened fullPath true)) fullPath 1 0 fh false net =
        some probed ∧
      (w', ret) = if probed.2.2 = .badRead then (probed.1.free fh, -EACCES) else (probed.1, 0) := by
  unfold ftpfsOpenRdonly at opened
  split at opened
  · cases opened
  · next fresh =>
      obtain ⟨probed, read, result⟩ := Option.map_eq_some'.mp opened
      exact ⟨by simpa using fresh, probed, read, result.symm⟩

/-- `ftpfs_read`: a handle that has written cannot read; otherwise
`ftpfs_read_chunk` serves the read and `CURLFTPFS_BAD_READ` becomes `-EIO`. -/
def ftpfsRead (w : World) (fullPath : String) (size offset fh : Nat)
    (net : ReadNetwork) : Option (World × Reply) := do
  let f ← w.files fh
  if 0 < f.pos ∨ f.writeConn = true then pure (w, ⟨- EIO, []⟩)
  else
    let read ← ftpfsReadChunk remote w fullPath size offset fh true net
    pure (read.1, match read.2.2 with
      | .served n => ⟨cInt n, read.2.1⟩
      | .badRead => ⟨- EIO, read.2.1⟩)

variable {remote} in
theorem ftpfsRead_world {w w' : World} {fullPath : String} {size offset fh : Nat}
    {net : ReadNetwork} {reply : Reply}
    (read : ftpfsRead remote w fullPath size offset fh net = some (w', reply)) :
    w' = w ∨ ∃ copied r,
      ftpfsReadChunk remote w fullPath size offset fh true net = some (w', copied, r) := by
  simp only [ftpfsRead, Option.bind_eq_bind, Option.bind_eq_some] at read
  obtain ⟨f, -, rest⟩ := read
  split at rest
  · exact .inl (Prod.mk.inj (Option.some.inj rest)).1.symm
  · simp only [Option.bind_eq_some, Option.pure_def, Option.some.injEq] at rest
    obtain ⟨⟨w'', copied, r⟩, chunk, same⟩ := rest
    cases (Prod.mk.inj same).1
    exact .inr ⟨copied, r, chunk⟩

/-- `ftpfs_release` of a handle without an upload: `ftpfs_flush` returns 0, the
handle stops being current, and it is freed. -/
def ftpfsRelease (w : World) (fh : Nat) : Option World := do
  let _ ← w.files fh
  let current := if w.ftpfs.currentFh = some fh then none else w.ftpfs.currentFh
  pure ({ w with ftpfs := { w.ftpfs with currentFh := current } }.free fh)

variable {remote} in
theorem ftpfsRelease_eq {w w' : World} {fh : Nat} (released : ftpfsRelease w fh = some w') :
    w' = { w with ftpfs := { w.ftpfs with
      currentFh := if w.ftpfs.currentFh = some fh then none else w.ftpfs.currentFh } }.free fh := by
  simp only [ftpfsRelease, Option.bind_eq_bind, Option.bind_eq_some, Option.pure_def,
    Option.some.injEq] at released
  obtain ⟨_, -, rfl⟩ := released
  rfl

/-- One upcall. The metadata operations (`ftpfs_getattr`, `ftpfs_getdir`,
`ftpfs_readlink`, `ftpfs_do_cmd`, `create_empty_file`) all start with
`cancel_previous_multi` and then run a blocking request that leaves the
download state alone. -/
def dispatch (w : World) : Upcall → Option (World × Reply)
  | .openRdonly fh fullPath creat mknodOk net =>
      (ftpfsOpenRdonly remote w fh fullPath creat mknodOk net).map fun (w, r) => (w, ⟨r, []⟩)
  | .read fh fullPath size offset net => ftpfsRead remote w fullPath size offset fh net
  | .release fh => (ftpfsRelease w fh).map fun w => (w, ⟨0, []⟩)
  | .metadata => some ({ w with ftpfs := cancelPreviousMulti w.ftpfs }, ⟨0, []⟩)

end Dispatch

end CurlFtpFs
