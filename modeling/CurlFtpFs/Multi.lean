import CurlFtpFs.RangeText

namespace CurlFtpFs

/-! The read side's shared state: the open files' read buffers, and the single
connection `ftpfs.connection` that `ftpfs.multi` pumps for downloads. The
network is an argument: every `curl_multi_perform` is told by a `Delivery` how
many bytes arrived and how the data connection stands afterwards. -/

/-- The `errno.h` codes the driver returns (Linux values). -/
def EPERM : Int := 1
def ENOENT : Int := 2
def EIO : Int := 5
def ENOMEM : Int := 12
def EACCES : Int := 13
def ENOTSUP : Int := 95

/-- The `int` that a `size_t` becomes when assigned to one: its low 32 bits in
two's complement. -/
def cInt (n : Nat) : Int :=
  if n % 2 ^ 32 < 2 ^ 31 then n % 2 ^ 32 else n % 2 ^ 32 - 2 ^ 32

def MAX_BUFFER_LEN : Nat := 300 * 1024

/-- Modelled from the spec: `struct buffer` of `buffer.h`, a growable byte region
`p` with the file offset `begin_offset` of its first byte. -/
structure Buffer where
  p : List UInt8
  beginOffset : Nat
  deriving Repr, DecidableEq

def Buffer.len (buf : Buffer) : Nat := buf.p.length

/-- The read-side fields of `struct ftpfs_file`. `pos` and `write_conn` are only
read here, by the guard of `ftpfs_read`. -/
structure FtpfsFile where
  buf : Buffer
  canShrink : Bool
  lastOffset : Nat
  fullPath : String
  pos : Nat
  writeConn : Bool
  deriving Repr

/-- How the data connection stands after one `curl_multi_perform`. -/
inductive Outcome
  | pending
  | closed
  | failed
  deriving Repr, DecidableEq

/-- What the network does during one `curl_multi_perform`: `chunk` more bytes of
the requested file arrive (fewer if the file ends), then the data connection
stays open, is closed by the server, or fails. -/
structure Delivery where
  chunk : Nat
  outcome : Outcome
  deriving Repr, DecidableEq

inductive Status
  | running
  | done (ok : Bool)
  deriving Repr, DecidableEq

/-- The download the last restart configured on `ftpfs.connection`: the handle
whose `buf` is its `CURLOPT_WRITEDATA`, its URL, the offset of the next byte the
server sends, and whether it still runs. -/
structure Download where
  target : Nat
  url : String
  pos : Nat
  status : Status
  deriving Repr, DecidableEq

/-- The fields of `struct ftpfs` the read engine uses, with the completion
messages waiting in `ftpfs.multi` (one `CURLE_OK` flag each). -/
structure Ftpfs where
  attachedToMulti : Bool
  currentFh : Option Nat
  download : Option Download
  msgs : List Bool
  deriving Repr, DecidableEq

/-- The shared connection and the open files, indexed by `fi->fh`. -/
structure World where
  ftpfs : Ftpfs
  files : Nat → Option FtpfsFile

def World.initial : World :=
  ⟨⟨false, none, none, []⟩, fun _ => none⟩

/-- `cancel_previous_multi`: detach the connection from the multi handle.
Removing the easy handle also drops its unread completion message. -/
def cancelPreviousMulti (s : Ftpfs) : Ftpfs :=
  if s.attachedToMulti then { s with attachedToMulti := false, msgs := [] } else s

@[simp] theorem cancelPreviousMulti_attachedToMulti (s : Ftpfs) :
    (cancelPreviousMulti s).attachedToMulti = false := by
  unfold cancelPreviousMulti; split <;> simp_all

@[simp] theorem cancelPreviousMulti_currentFh (s : Ftpfs) :
    (cancelPreviousMulti s).currentFh = s.currentFh := by
  unfold cancelPreviousMulti; split <;> rfl

@[simp] theorem cancelPreviousMulti_download (s : Ftpfs) :
    (cancelPreviousMulti s).download = s.download := by
  unfold cancelPreviousMulti; split <;> rfl

/-- Append bytes to the read buffer of the handle at `target`, as `read_data`
does for the download's `CURLOPT_WRITEDATA`; nothing lives there once freed. -/
def World.appendTo (w : World) (target : Nat) (bytes : List UInt8) : World :=
  match w.files target with
  | none => w
  | some f =>
      { w with
        files := Function.update w.files target
          (some { f with buf := { f.buf with p := f.buf.p ++ bytes } }) }

@[simp] theorem World.appendTo_ftpfs (w : World) (target : Nat) (bytes : List UInt8) :
    (w.appendTo target bytes).ftpfs = w.ftpfs := by
  unfold World.appendTo; split <;> rfl

theorem World.appendTo_files_ne (w : World) {target other : Nat} (bytes : List UInt8)
    (distinct : other ≠ target) :
    (w.appendTo target bytes).files other = w.files other := by
  unfold World.appendTo; split <;> simp [Function.update_noteq distinct]

theorem World.appendTo_files_self (w : World) (target : Nat) (bytes : List UInt8) :
    (w.appendTo target bytes).files target =
      (w.files target).map fun f => { f with buf := { f.buf with p := f.buf.p ++ bytes } } := by
  unfold World.appendTo; split <;> simp_all

def Outcome.status (outcome : Outcome) (file : List UInt8) (pos : Nat) : Status :=
  match outcome with
  | .pending => .running
  | .closed => .done (file.length ≤ pos)
  | .failed => .done false

section Pump

variable (remote : String → List UInt8)

/-- The bytes one `curl_multi_perform` delivers for a download. -/
def Download.chunk (t : Download) (d : Delivery) : List UInt8 :=
  ((remote t.url).drop t.pos).take d.chunk

/-- The download after one `curl_multi_perform`. -/
def Download.advance (t : Download) (d : Delivery) : Download :=
  let pos := t.pos + (t.chunk remote d).length
  { t with pos := pos, status := d.outcome.status (remote t.url) pos }

/-- `curl_multi_perform` on `ftpfs.multi`, returning the new world and
`running_handles`. Only an attached, running download moves: its bytes go to
its target's buffer, and a completion queues one message. -/
def curlMultiPerform (w : World) (d : Delivery) : World × Nat :=
  match w.ftpfs.download with
  | some t =>
      if w.ftpfs.attachedToMulti ∧ t.status = .running then
        let t' := t.advance remote d
        let msgs := match t'.status with
          | .running => w.ftpfs.msgs
          | .done ok => w.ftpfs.msgs ++ [ok]
        ({ w.appendTo t.target (t.chunk remote d) with
            ftpfs := { w.ftpfs with download := some t', msgs := msgs } },
          if t'.status = .running then 1 else 0)
      else (w, 0)
  | none => (w, 0)

end Pump

/-- The `curl_multi_info_read` loop after the pump drained: it reports an error
when no message is queued or one of them is not `CURLE_OK`, and empties the queue. -/
def readMsgs (s : Ftpfs) : Ftpfs × Bool :=
  ({ s with msgs := [] }, s.msgs.isEmpty || s.msgs.contains false)

end CurlFtpFs
