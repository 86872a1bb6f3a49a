import CurlFtpFs.Multi

namespace CurlFtpFs

/-! One handle's upload. `ftpfs_write` hands each payload to a worker thread,
`ftpfs_write_thread`, whose `curl_easy_perform` pulls the bytes through the read
callback `write_data_bg`; the semaphores `ready`, `data_need`, `data_avail` and
`data_written` and the flags `isready`, `eof` and `written_flag` pass the turn
between the two threads. The state is the handle with both threads' program
counters, and a step is one atomic action of the request thread, of the worker,
or of libcurl inside the worker. -/

/-- The upcall that runs `finish_write_thread`. -/
inductive Caller
  | write
  | flush
  | release
  deriving Repr, DecidableEq

/-- Where the request thread is. -/
inductive Request
  /-- No handle is open. -/
  | closed
  /-- The handle is open and no upcall runs. -/
  | idle
  /-- `ftpfs_open_common` waits on `ready` after starting the upload. -/
  | openReady
  /-- `ftpfs_write` waits on `ready` after starting or resuming the upload. -/
  | startReady (offset : Nat) (data : List UInt8)
  /-- `ftpfs_write` waits on `data_need`. -/
  | needWait (offset : Nat) (data : List UInt8)
  /-- `ftpfs_write` handed its payload off and waits on `data_written`. -/
  | writtenWait (size : Nat)
  /-- `ftpfs_write` found a non-sequential write, posted `data_avail`, and is
  about to call `finish_write_thread`. -/
  | finishCall
  /-- `finish_write_thread` tests `write_fail_cause`. -/
  | finishTest (caller : Caller)
  /-- `finish_write_thread` waits on `data_need`. -/
  | finishNeed (caller : Caller)
  /-- `finish_write_thread` posted `data_avail` and sets `eof`. -/
  | finishEof (caller : Caller)
  /-- `finish_write_thread` waits in `pthread_join`. -/
  | finishJoin (caller : Caller)
  /-- `ftpfs_flush` compares the file's size on the server with `pos`. -/
  | sizeCheck (caller : Caller)
  deriving Repr, DecidableEq

/-- No upcall of the handle is inside the upload: the handle is closed, idle,
or in the size check of `ftpfs_flush` after the join. -/
def Request.quiet : Request → Bool
  | .closed | .idle | .sizeCheck _ => true
  | _ => false

/-- Where the worker thread is. `write_data_bg` runs on it, called by libcurl
inside `curl_easy_perform` with room for `n` bytes. -/
inductive Worker
  /-- No worker: none was created, or it was joined. -/
  | none
  /-- Created; it sets up the upload, with `CURLOPT_APPEND` when `pos > 0`. -/
  | launched
  /-- Inside `curl_easy_perform` between callbacks; `ended` once a callback returned 0. -/
  | perform (ended : Bool)
  /-- `write_data_bg` entered: it posts `ready` the first time. -/
  | readyPost (n : Nat)
  /-- `write_data_bg` posts `data_written` when the last payload was taken whole. -/
  | writtenPost (n : Nat)
  /-- `write_data_bg` waits on `data_avail`. -/
  | availWait (n : Nat)
  /-- `write_data_bg` tests `eof`. -/
  | eofTest (n : Nat)
  /-- `write_data_bg` copies from `stream_buf`. -/
  | copy (n : Nat)
  /-- `curl_easy_perform` returned `res`; the worker posts `ready` if no callback did. -/
  | performed (res : Int)
  /-- The worker stores the failure `res` in `write_fail_cause`. -/
  | failing (res : Int)
  /-- The worker posts `data_need` after a failure. -/
  | needPost
  /-- The worker posts `data_written` and returns. -/
  | exiting
  /-- The worker returned and waits to be joined. -/
  | exited
  deriving Repr, DecidableEq

/-- The fields of `struct ftpfs_file` the upload uses, the worker's program
counter and its `CURLOPT_APPEND` setting, the bytes libcurl took for the
upload (`body`), the file on the server, and two records no code reads: the
payloads handed off during this upload (`handed`), and what each upcall
returned (`log`). -/
structure Handle where
  request : Request
  worker : Worker
  pos : Nat
  writeConn : Bool
  writeMayStart : Bool
  writeFailCause : Int
  streamBuf : List UInt8
  writtenFlag : Bool
  eof : Bool
  isready : Bool
  dataAvail : Nat
  dataNeed : Nat
  dataWritten : Nat
  ready : Nat
  append : Bool
  body : List UInt8
  handed : List UInt8
  remote : Option (List UInt8)
  log : List Int
  deriving Repr, DecidableEq

/-- How `start_write_thread` ends: `curl_easy_init` fails, `pthread_create`
fails, or the worker starts. -/
inductive StartOutcome
  | initFails
  | createFails
  | started
  deriving Repr, DecidableEq

/-- The flags of an open for writing: `O_ACCMODE` is `O_WRONLY`, or `O_RDWR`
when `rdwr`. -/
structure OpenFlags where
  rdwr : Bool
  creat : Bool
  trunc : Bool
  excl : Bool
  append : Bool
  deriving Repr, DecidableEq

/-- One atomic step of the request thread, the worker, or libcurl. -/
inductive Action
  /-- The request thread enters `ftpfs_open_common` for writing. -/
  | open (flags : OpenFlags) (start : StartOutcome)
  /-- The request thread enters `ftpfs_write(offset, data)`; `listed` is whether
  the listing `ftpfs_getattr` gets for `test_size` names the file. -/
  | write (offset : Nat) (data : List UInt8) (start : StartOutcome) (listed : Bool)
  /-- The request thread enters `ftpfs_flush`. -/
  | flush
  /-- The request thread enters `ftpfs_release`. -/
  | release
  /-- The request thread runs `ftpfs_ftruncate(offset)`; `created` is whether
  `create_empty_file` succeeds, `listed` as for a write. -/
  | ftruncate (offset : Nat) (created listed : Bool)
  /-- The request thread's next step in its upcall; `allocated` is whether
  `buf_add_mem` succeeds, and `listed` whether the listing of the size check
  names the file. -/
  | proceed (allocated listed : Bool)
  /-- libcurl calls `write_data_bg` with room for `n` bytes. -/
  | call (n : Nat)
  /-- The upload fails with the `CURLcode` `code`. -/
  | fail (code : Int)
  /-- The upload completes. -/
  | complete
  /-- The worker's next step. -/
  | work
  /-- Another handle or client replaces the file on the server. -/
  | external (file : Option (List UInt8))
  deriving Repr, DecidableEq

/-- What `test_size` returns once `ftpfs_getattr` found the file's size, or
found nothing and returned `-ENOENT`. -/
def testSizeResult : Option Nat → Int
  | some size => size
  | none => - ENOENT

namespace Handle

/-- The handle `ftpfs_open_common` allocates (`memset` and the fields it sets),
on a server holding `remote`. -/
def opened (remote : Option (List UInt8)) (log : List Int) : Handle :=
  ⟨.idle, .none, 0, false, false, 0, [], false, false, false, 0, 0, 0, 0, false, [], [],
    remote, log⟩

def initial (remote : Option (List UInt8)) : Handle :=
  { opened remote [] with request := .closed }

/-- The upcall returns `r` and the request thread goes idle. -/
def reply (s : Handle) (r : Int) : Handle :=
  { s with request := .idle, log := s.log ++ [r] }

/-- `free_ftpfs_file` ends the upcall, which returns `r`. -/
def freed (s : Handle) (r : Int) : Handle :=
  { s with request := .closed, log := s.log ++ [r] }

/-- The size `ftpfs_getattr` finds in the listing of the file's directory:
none, and `-ENOENT`, when the `LIST` fails (`listed` false) or the server has
no such file. -/
def getattr (s : Handle) (listed : Bool) : Option Nat :=
  if listed then s.remote.map List.length else none

/-- `test_size`: the size `ftpfs_getattr` finds, or its `-ENOENT`. -/
def testSize (s : Handle) (listed : Bool) : Int :=
  testSizeResult (s.getattr listed)

/-- `start_write_thread`: reset the upload's flags and semaphores, then create
the upload handle and the worker. Both call sites test `write_conn == NULL`
first, so its assertion holds. -/
def startWriteThread (s : Handle) (start : StartOutcome) : Handle :=
  let s := { s with
    writtenFlag := false, isready := false, eof := false, dataAvail := 0, dataNeed := 0,
    dataWritten := 0, ready := 0, body := [], handed := [] }
  match start with
  | .initFails => s
  | .createFails => { s with writeConn := true }
  | .started => { s with writeConn := true, worker := .launched }

/-- The end of `ftpfs_flush` after the upload finished: the error of
`ftpfs_getattr`, or the size it finds against `pos`, where a mismatch stores
-999 in `write_fail_cause`. -/
def sizeChecked (s : Handle) (listed : Bool) : Handle × Int :=
  match s.getattr listed with
  | none => (s, - ENOENT)
  | some size => if size = s.pos then (s, 0) else ({ s with writeFailCause := -999 }, - EIO)

@[simp] theorem startWriteThread_request (s : Handle) (start : StartOutcome) :
    (s.startWriteThread start).request = s.request := by
  cases start <;> rfl

@[simp] theorem startWriteThread_worker (s : Handle) (start : StartOutcome) :
    (s.startWriteThread start).worker = if start = .started then .launched else s.worker := by
  cases start <;> rfl

@[simp] theorem startWriteThread_writeConn (s : Handle) (start : StartOutcome) :
    (s.startWriteThread start).writeConn = (start != .initFails || s.writeConn) := by
  cases start <;> simp [startWriteThread]

@[simp] theorem startWriteThread_writeFailCause (s : Handle) (start : StartOutcome) :
    (s.startWriteThread start).writeFailCause = s.writeFailCause := by
  cases start <;> rfl

@[simp] theorem startWriteThread_streamBuf (s : Handle) (start : StartOutcome) :
    (s.startWriteThread start).streamBuf = s.streamBuf := by
  cases start <;> rfl

/-! ### The request thread -/

section Request

variable (rwWorkaround : Bool)

/-- The error `ftpfs_open_common` records before starting anything: `-EACCES`
when `O_EXCL` finds the file (`test_exists`), else `-ENOTSUP` for `O_APPEND`. -/
def openError (remote : Option (List UInt8)) (flags : OpenFlags) : Int :=
  if flags.excl && remote.isSome then - EACCES else if flags.append then - ENOTSUP else 0

/-- `ftpfs_open_common` for `O_WRONLY`, or for `O_RDWR` when the build defines
`CURLFTPFS_O_RW_WORKAROUND`: a recorded error frees the new handle, and
`O_CREAT` or `O_TRUNC` starts the upload at once and then waits for the
worker's `ready`. -/
def ftpfsOpenCommon (s : Handle) (flags : OpenFlags) (start : StartOutcome) : Option Handle :=
  if s.request ≠ .closed then none
  else if flags.rdwr && !rwWorkaround then some ((opened s.remote s.log).freed (- ENOTSUP))
  else if openError s.remote flags ≠ 0 then
    some ((opened s.remote s.log).freed (openError s.remote flags))
  else if flags.creat || flags.trunc then
    if start = .started then
      some { { opened s.remote s.log with writeMayStart := true }.startWriteThread start with
        request := .openReady }
    else some (({ opened s.remote s.log with writeMayStart := true }.startWriteThread start).freed
      (- EIO))
  else some ((opened s.remote s.log).reply 0)

end Request

/-- `ftpfs_write(offset, data)` up to its first wait. A recorded failure returns
`-EIO`. With no upload, a write at offset 0 onto an empty or truncated file
starts one, and a write at `pos > 0` resumes one with `APPE`; with an upload
the write waits on `data_need`; any other write returns its size. -/
def ftpfsWrite (s : Handle) (offset : Nat) (data : List UInt8) (start : StartOutcome)
    (listed : Bool) : Option Handle :=
  if s.request ≠ .idle then none
  else if s.writeFailCause ≠ 0 then some (s.reply (- EIO))
  else if !s.writeConn && s.pos = 0 && offset = 0 && !s.writeMayStart && s.testSize listed ≠ 0 then
    some (s.reply (- EIO))
  else if !s.writeConn && (s.pos = 0 && offset = 0 || 0 < s.pos && offset = s.pos) then
    if start = .started then some { s.startWriteThread start with request := .startReady offset data }
    else some ((s.startWriteThread start).reply (- EIO))
  else if s.writeConn then some { s with request := .needWait offset data }
  else some (s.reply (cInt data.length))

/-- `ftpfs_flush`: finish the upload if there is one; otherwise there is
nothing to flush, as `dirty` is never set. -/
def ftpfsFlush (s : Handle) : Option Handle :=
  if s.request ≠ .idle then none
  else if s.writeConn then some { s with request := .finishTest .flush }
  else some (s.reply 0)

/-- `ftpfs_release`: `ftpfs_flush`, whose result it ignores, then
`free_ftpfs_file`. -/
def ftpfsRelease (s : Handle) : Option Handle :=
  if s.request ≠ .idle then none
  else if s.writeConn then some { s with request := .finishTest .release }
  else some (s.freed 0)

/-- `ftpfs_ftruncate(offset)`: truncating to 0 before any write empties the
file with `create_empty_file` and lets the first write start the upload;
truncating to the file's size is accepted. -/
def ftpfsFtruncate (s : Handle) (offset : Nat) (created listed : Bool) : Option Handle :=
  if s.request ≠ .idle then none
  else if offset = 0 then
    if s.pos = 0 then
      let s := { s with writeMayStart := true }
      some (if created then { s with remote := some [] }.reply 0 else s.reply (- EPERM))
    else some (s.reply (- EPERM))
  else some (s.reply (if s.testSize listed = offset then 0 else - EPERM))

/-- `finish_write_thread` after `pthread_join`: the upload handle is cleaned up
and `write_conn` cleared. Then its caller goes on: `ftpfs_write` returns
`-EIO`; `ftpfs_flush` returns `-EIO` on a recorded failure and otherwise checks
the size; `ftpfs_release` frees the handle, after that size check when no
failure is recorded. -/
def finishJoined (s : Handle) (caller : Caller) : Handle :=
  let s : Handle := { s with worker := .none, writeConn := false }
  match caller with
  | .write => s.reply (- EIO)
  | .flush => if s.writeFailCause ≠ 0 then s.reply (- EIO) else { s with request := .sizeCheck .flush }
  | .release => if s.writeFailCause ≠ 0 then s.freed 0 else { s with request := .sizeCheck .release }

/-- The size check of `ftpfs_flush` ends its upcall, or, inside
`ftpfs_release`, its result is ignored and the handle freed. -/
def flushChecked (s : Handle) (listed : Bool) : Caller → Handle
  | .release => (s.sizeChecked listed).1.freed 0
  | _ => (s.sizeChecked listed).1.reply (s.sizeChecked listed).2

theorem finishJoined_eq (s : Handle) (caller : Caller) : ∃ request log,
    s.finishJoined caller =
      { s with worker := .none, writeConn := false, request := request, log := log } ∧
      request.quiet := by
  cases caller <;> simp only [finishJoined] <;> (try split_ifs) <;> exact ⟨_, _, rfl, rfl⟩

theorem flushChecked_eq (s : Handle) (listed : Bool) (caller : Caller) :
    ∃ failCause request log, s.flushChecked listed caller =
        { s with writeFailCause := failCause, request := request, log := log } ∧
      (failCause = s.writeFailCause ∨ failCause = -999) ∧ request.quiet := by
  cases caller <;> simp only [flushChecked, sizeChecked] <;> split <;> (try split_ifs) <;>
    first | exact ⟨_, _, _, rfl, .inl rfl, rfl⟩ | exact ⟨_, _, _, rfl, .inr rfl, rfl⟩

/-- The request thread's next step inside an upcall. A wait and the statements
up to the next access the worker can observe form one step: in
`ftpfs_write` the hand-off (`buf_add_mem`, `pos += size`, posting
`data_avail`) and the failure test after `data_written` (the worker is then
blocked in `write_data_bg` or gone); in `finish_write_thread` everything
after `pthread_join`. -/
def proceed (s : Handle) (allocated listed : Bool) : Option Handle :=
  match s.request with
  | .openReady =>
      if s.ready = 0 then none
      else some ({ s with ready := s.ready - 1, dataNeed := s.dataNeed + 1 }.reply 0)
  | .startReady offset data =>
      if s.ready = 0 then none
      else some { s with
        ready := s.ready - 1, dataNeed := s.dataNeed + 1, request := .needWait offset data }
  | .needWait offset data =>
      if s.dataNeed = 0 then none
      else if offset ≠ s.pos then some { s with
        dataNeed := s.dataNeed - 1, dataAvail := s.dataAvail + 1, request := .finishCall }
      else if !allocated then some (s.reply (- ENOMEM))
      else some { s with
        dataNeed := s.dataNeed - 1, streamBuf := s.streamBuf ++ data, pos := s.pos + data.length,
        handed := s.handed ++ data, dataAvail := s.dataAvail + 1,
        request := .writtenWait data.length }
  | .writtenWait size =>
      if s.dataWritten = 0 then none
      else
        let s := { s with dataWritten := s.dataWritten - 1, writtenFlag := false }
        some (s.reply (if s.writeFailCause ≠ 0 then - EIO else cInt size))
  | .finishCall => some { s with request := .finishTest .write }
  | .finishTest caller =>
      if s.writeFailCause = 0 then some { s with request := .finishNeed caller }
      else some { s with dataAvail := s.dataAvail + 1, request := .finishEof caller }
  | .finishNeed caller =>
      if s.dataNeed = 0 then none
      else some { s with
        dataNeed := s.dataNeed - 1, dataAvail := s.dataAvail + 1, request := .finishEof caller }
  | .finishEof caller => some { s with eof := true, request := .finishJoin caller }
  | .finishJoin caller => if s.worker ≠ .exited then none else some (s.finishJoined caller)
  | .sizeCheck caller => some (s.flushChecked listed caller)
  | .idle | .closed => none

/-! ### The worker and libcurl -/

/-- The worker's next step: setting up the upload, one statement group of
`write_data_bg`, or one of `ftpfs_write_thread` after `curl_easy_perform`
returned. `write_data_bg` copies at most `n` bytes from `stream_buf`; it gives
`data_avail` back while bytes remain, and otherwise empties the buffer, sets
`written_flag` and posts `data_need`. -/
def work (s : Handle) : Option Handle :=
  match s.worker with
  | .launched => some { s with worker := .perform false, append := decide (0 < s.pos) }
  | .readyPost n =>
      if s.isready then some { s with worker := .writtenPost n }
      else some { s with ready := s.ready + 1, isready := true, worker := .writtenPost n }
  | .writtenPost n =>
      if s.streamBuf = [] ∧ s.writtenFlag then
        some { s with dataWritten := s.dataWritten + 1, worker := .availWait n }
      else some { s with worker := .availWait n }
  | .availWait n =>
      if s.dataAvail = 0 then none
      else some { s with dataAvail := s.dataAvail - 1, worker := .eofTest n }
  | .eofTest n =>
      if s.eof then some { s with worker := .perform true } else some { s with worker := .copy n }
  | .copy n =>
      if n < s.streamBuf.length then some { s with
        streamBuf := s.streamBuf.drop n, dataAvail := s.dataAvail + 1,
        body := s.body ++ s.streamBuf.take n, worker := .perform false }
      else some { s with
        streamBuf := [], writtenFlag := true, dataNeed := s.dataNeed + 1,
        body := s.body ++ s.streamBuf, worker := .perform (s.streamBuf = []) }
  | .performed res => some { s with
      ready := if s.isready then s.ready else s.ready + 1,
      worker := if res = 0 then .exiting else .failing res }
  | .failing res => some { s with writeFailCause := res, worker := .needPost }
  | .needPost => some { s with dataNeed := s.dataNeed + 1, worker := .exiting }
  | .exiting => some { s with dataWritten := s.dataWritten + 1, worker := .exited }
  | .none | .perform _ | .exited => none

/-- libcurl, between callbacks, asks `write_data_bg` for up to `n ≥ 1` bytes
until a callback returned 0. -/
def call (s : Handle) (n : Nat) : Option Handle :=
  if s.worker = .perform false ∧ 0 < n then some { s with worker := .readyPost n } else none

/-- The upload fails with a `CURLcode` other than `CURLE_OK`, between callbacks. -/
def fail (s : Handle) (code : Int) : Option Handle :=
  match s.worker with
  | .perform _ => if code ≠ 0 then some { s with worker := .performed code } else none
  | _ => none

/-- The upload completes after a callback returned 0: the server keeps the
body, replacing the file (`STOR`) or appending to it (`APPE`). -/
def complete (s : Handle) : Option Handle :=
  if s.worker = .perform true then
    some { s with
      worker := .performed 0,
      remote := some (if s.append then s.remote.getD [] ++ s.body else s.body) }
  else none

def step (rwWorkaround : Bool) (s : Handle) : Action → Option Handle
  | .open flags start => s.ftpfsOpenCommon rwWorkaround flags start
  | .write offset data start listed => s.ftpfsWrite offset data start listed
  | .flush => s.ftpfsFlush
  | .release => s.ftpfsRelease
  | .ftruncate offset created listed => s.ftpfsFtruncate offset created listed
  | .proceed allocated listed => s.proceed allocated listed
  | .call n => s.call n
  | .fail code => s.fail code
  | .complete => s.complete
  | .work => s.work
  | .external file => some { s with remote := file }

def run (rwWorkaround : Bool) (s : Handle) : List Action → Option Handle
  | [] => some s
  | a :: rest => (s.step rwWorkaround a).bind fun s' => s'.run rwWorkaround rest

/-! ### What each step can do -/

section Cases

variable {s s' : Handle}

theorem ftpfsOpenCommon_cases {rwWorkaround : Bool} {flags : OpenFlags} {start : StartOutcome}
    (opened : s.ftpfsOpenCommon rwWorkaround flags start = some s') :
    s.request = .closed ∧
      ((∃ r, s' = (Handle.opened s.remote s.log).freed r) ∨
       (start ≠ .started ∧ s' = ({ Handle.opened s.remote s.log with writeMayStart := true }
          |>.startWriteThread start).freed (- EIO)) ∨
       s' = (Handle.opened s.remote s.log).reply 0 ∨
       (start = .started ∧ s' = { ({ Handle.opened s.remote s.log with writeMayStart := true }
          |>.startWriteThread .started) with request := .openReady })) := by
  unfold ftpfsOpenCommon at opened
  obtain ⟨-, ⟨⟩⟩ | ⟨closed, opened⟩ := ite_eq_iff.mp opened
  rw [not_not] at closed
  obtain ⟨-, ⟨⟩⟩ | ⟨-, opened⟩ := ite_eq_iff.mp opened
  · exact ⟨closed, .inl ⟨_, rfl⟩⟩
  obtain ⟨-, ⟨⟩⟩ | ⟨-, opened⟩ := ite_eq_iff.mp opened
  · exact ⟨closed, .inl ⟨_, rfl⟩⟩
  obtain ⟨-, opened⟩ | ⟨-, ⟨⟩⟩ := ite_eq_iff.mp opened
  · obtain ⟨rfl, ⟨⟩⟩ | ⟨started, ⟨⟩⟩ := ite_eq_iff.mp opened
    · exact ⟨closed, .inr (.inr (.inr ⟨rfl, rfl⟩))⟩
    · exact ⟨closed, .inr (.inl ⟨started, rfl⟩)⟩
  · exact ⟨closed, .inr (.inr (.inl rfl))⟩

theorem ftpfsWrite_cases {offset : Nat} {data : List UInt8} {start : StartOutcome} {listed : Bool}
    (written : s.ftpfsWrite offset data start listed = some s') :
    s.request = .idle ∧
      ((∃ r, s' = s.reply r) ∨
       (s.writeFailCause = 0 ∧ s.writeConn = false ∧ start ≠ .started ∧
          s' = (s.startWriteThread start).reply (- EIO)) ∨
       (s.writeFailCause = 0 ∧ s.writeConn = false ∧ start = .started ∧
          s' = { s.startWriteThread .started with request := .startReady offset data }) ∨
       (s.writeFailCause = 0 ∧ s.writeConn = true ∧
          s' = { s with request := .needWait offset data })) := by
  unfold ftpfsWrite at written
  obtain ⟨-, ⟨⟩⟩ | ⟨idle, written⟩ := ite_eq_iff.mp written
  rw [not_not] at idle
  obtain ⟨-, ⟨⟩⟩ | ⟨failed, written⟩ := ite_eq_iff.mp written
  · exact ⟨idle, .inl ⟨_, rfl⟩⟩
  rw [not_not] at failed
  obtain ⟨-, ⟨⟩⟩ | ⟨-, written⟩ := ite_eq_iff.mp written
  · exact ⟨idle, .inl ⟨_, rfl⟩⟩
  obtain ⟨noUpload, written⟩ | ⟨-, written⟩ := ite_eq_iff.mp written
  · have conn : s.writeConn = false := Bool.eq_false_iff.mpr fun connected => by
      simp [connected] at noUpload
    obtain ⟨rfl, ⟨⟩⟩ | ⟨started, ⟨⟩⟩ := ite_eq_iff.mp written
    · exact ⟨idle, .inr (.inr (.inl ⟨failed, conn, rfl, rfl⟩))⟩
    · exact ⟨idle, .inr (.inl ⟨failed, conn, started, rfl⟩)⟩
  obtain ⟨connected, ⟨⟩⟩ | ⟨-, ⟨⟩⟩ := ite_eq_iff.mp written
  · exact ⟨idle, .inr (.inr (.inr ⟨failed, connected, rfl⟩))⟩
  · exact ⟨idle, .inl ⟨_, rfl⟩⟩

theorem ftpfsWrite_failed {offset : Nat} {data : List UInt8} {start : StartOutcome} {listed : Bool}
    (failed : s.writeFailCause ≠ 0) (written : s.ftpfsWrite offset data start listed = some s') :
    s' = s.reply (- EIO) := by
  unfold ftpfsWrite at written
  obtain ⟨-, ⟨⟩⟩ | ⟨-, written⟩ := ite_eq_iff.mp written
  obtain ⟨-, ⟨⟩⟩ | ⟨ok, -⟩ := ite_eq_iff.mp written
  · rfl
  · exact absurd failed ok

theorem ftpfsFlush_cases (flushed : s.ftpfsFlush = some s') :
    s.request = .idle ∧
      (s.writeConn = true ∧ s' = { s with request := .finishTest .flush } ∨
        s.writeConn = false ∧ s' = s.reply 0) := by
  unfold ftpfsFlush at flushed
  obtain ⟨-, ⟨⟩⟩ | ⟨idle, flushed⟩ := ite_eq_iff.mp flushed
  obtain ⟨connected, ⟨⟩⟩ | ⟨connected, ⟨⟩⟩ := ite_eq_iff.mp flushed
  · exact ⟨not_not.mp idle, .inl ⟨connected, rfl⟩⟩
  · exact ⟨not_not.mp idle, .inr ⟨by simpa using connected, rfl⟩⟩

theorem ftpfsRelease_cases (released : s.ftpfsRelease = some s') :
    s.request = .idle ∧
      (s.writeConn = true ∧ s' = { s with request := .finishTest .release } ∨
        s.writeConn = false ∧ s' = s.freed 0) := by
  unfold ftpfsRelease at released
  obtain ⟨-, ⟨⟩⟩ | ⟨idle, released⟩ := ite_eq_iff.mp released
  obtain ⟨connected, ⟨⟩⟩ | ⟨connected, ⟨⟩⟩ := ite_eq_iff.mp released
  · exact ⟨not_not.mp idle, .inl ⟨connected, rfl⟩⟩
  · exact ⟨not_not.mp idle, .inr ⟨by simpa using connected, rfl⟩⟩

theorem ftpfsFtruncate_cases {offset : Nat} {created listed : Bool}
    (truncated : s.ftpfsFtruncate offset created listed = some s') :
    s.request = .idle ∧
      ∃ r mayStart remote, s' = { s with writeMayStart := mayStart, remote := remote }.reply r := by
  unfold ftpfsFtruncate at truncated
  obtain ⟨-, ⟨⟩⟩ | ⟨idle, truncated⟩ := ite_eq_iff.mp truncated
  refine ⟨not_not.mp idle, ?_⟩
  obtain ⟨-, truncated⟩ | ⟨-, ⟨⟩⟩ := ite_eq_iff.mp truncated
  · obtain ⟨-, ⟨⟩⟩ | ⟨-, ⟨⟩⟩ := ite_eq_iff.mp truncated
    · cases created <;> exact ⟨_, _, _, rfl⟩
    · exact ⟨_, _, _, rfl⟩
  · exact ⟨_, _, _, rfl⟩

/-- The request thread's next step, by where it waits: the shapes
`proceed` can take. -/
inductive Proceeds (allocated listed : Bool) (s : Handle) : Handle → Prop
  | openReady : s.request = .openReady → 0 < s.ready →
      Proceeds allocated listed s
        ({ s with ready := s.ready - 1, dataNeed := s.dataNeed + 1 }.reply 0)
  | startReady {offset data} : s.request = .startReady offset data → 0 < s.ready →
      Proceeds allocated listed s { s with
        ready := s.ready - 1, dataNeed := s.dataNeed + 1, request := .needWait offset data }
  | nonSequential {offset data} : s.request = .needWait offset data → 0 < s.dataNeed →
      offset ≠ s.pos → Proceeds allocated listed s { s with
        dataNeed := s.dataNeed - 1, dataAvail := s.dataAvail + 1, request := .finishCall }
  | outOfMemory {data} : s.request = .needWait s.pos data → 0 < s.dataNeed →
      allocated = false → Proceeds allocated listed s (s.reply (- ENOMEM))
  | handOff {data} : s.request = .needWait s.pos data → 0 < s.dataNeed → allocated = true →
      Proceeds allocated listed s { s with
        dataNeed := s.dataNeed - 1, streamBuf := s.streamBuf ++ data, pos := s.pos + data.length,
        handed := s.handed ++ data, dataAvail := s.dataAvail + 1,
        request := .writtenWait data.length }
  | written {size} : s.request = .writtenWait size → 0 < s.dataWritten →
      Proceeds allocated listed s
        ({ s with dataWritten := s.dataWritten - 1, writtenFlag := false }.reply
          (if s.writeFailCause ≠ 0 then - EIO else cInt size))
  | finishCalled : s.request = .finishCall →
      Proceeds allocated listed s { s with request := .finishTest .write }
  | finishWaits {caller} : s.request = .finishTest caller → s.writeFailCause = 0 →
      Proceeds allocated listed s { s with request := .finishNeed caller }
  | finishFailed {caller} : s.request = .finishTest caller → s.writeFailCause ≠ 0 →
      Proceeds allocated listed s
        { s with dataAvail := s.dataAvail + 1, request := .finishEof caller }
  | finishNeed {caller} : s.request = .finishNeed caller → 0 < s.dataNeed →
      Proceeds allocated listed s { s with
        dataNeed := s.dataNeed - 1, dataAvail := s.dataAvail + 1, request := .finishEof caller }
  | finishEof {caller} : s.request = .finishEof caller →
      Proceeds allocated listed s { s with eof := true, request := .finishJoin caller }
  | joined {caller} : s.request = .finishJoin caller → s.worker = .exited →
      Proceeds allocated listed s (s.finishJoined caller)
  | sizeChecked {caller} : s.request = .sizeCheck caller →
      Proceeds allocated listed s (s.flushChecked listed caller)

theorem Proceeds.of_proceed {allocated listed : Bool}
    (proceeded : s.proceed allocated listed = some s') : Proceeds allocated listed s s' := by
  unfold proceed at proceeded
  cases request : s.request <;> simp only [request] at proceeded
  case openReady =>
    obtain ⟨-, ⟨⟩⟩ | ⟨ready, ⟨⟩⟩ := ite_eq_iff.mp proceeded
    exact .openReady request (Nat.pos_of_ne_zero ready)
  case startReady =>
    obtain ⟨-, ⟨⟩⟩ | ⟨ready, ⟨⟩⟩ := ite_eq_iff.mp proceeded
    exact .startReady request (Nat.pos_of_ne_zero ready)
  case needWait offset data =>
    obtain ⟨-, ⟨⟩⟩ | ⟨need, proceeded⟩ := ite_eq_iff.mp proceeded
    obtain ⟨moved, ⟨⟩⟩ | ⟨same, proceeded⟩ := ite_eq_iff.mp proceeded
    · exact .nonSequential request (Nat.pos_of_ne_zero need) moved
    replace request : s.request = .needWait s.pos data := by rw [request, not_not.mp same]
    obtain ⟨failed, ⟨⟩⟩ | ⟨allocatedTrue, ⟨⟩⟩ := ite_eq_iff.mp proceeded
    · exact .outOfMemory request (Nat.pos_of_ne_zero need) (by simpa using failed)
    · exact .handOff request (Nat.pos_of_ne_zero need) (by simpa using allocatedTrue)
  case writtenWait =>
    obtain ⟨-, ⟨⟩⟩ | ⟨posted, ⟨⟩⟩ := ite_eq_iff.mp proceeded
    exact .written request (Nat.pos_of_ne_zero posted)
  case finishCall =>
    cases proceeded
    exact .finishCalled request
  case finishTest =>
    obtain ⟨ok, ⟨⟩⟩ | ⟨failed, ⟨⟩⟩ := ite_eq_iff.mp proceeded
    · exact .finishWaits request ok
    · exact .finishFailed request failed
  case finishNeed =>
    obtain ⟨-, ⟨⟩⟩ | ⟨need, ⟨⟩⟩ := ite_eq_iff.mp proceeded
    exact .finishNeed request (Nat.pos_of_ne_zero need)
  case finishEof =>
    cases proceeded
    exact .finishEof request
  case finishJoin =>
    obtain ⟨-, ⟨⟩⟩ | ⟨exited, ⟨⟩⟩ := ite_eq_iff.mp proceeded
    exact .joined request (not_not.mp exited)
  case sizeCheck =>
    cases proceeded
    exact .sizeChecked request
  all_goals cases proceeded

/-- The worker's next step: the shapes `work` can take. -/
inductive Works (s : Handle) : Handle → Prop
  | launched : s.worker = .launched →
      Works s { s with worker := .perform false, append := decide (0 < s.pos) }
  | readyPosted {n} : s.worker = .readyPost n → s.isready = false →
      Works s { s with ready := s.ready + 1, isready := true, worker := .writtenPost n }
  | readyKnown {n} : s.worker = .readyPost n → s.isready = true →
      Works s { s with worker := .writtenPost n }
  | writtenPosted {n} : s.worker = .writtenPost n → s.streamBuf = [] → s.writtenFlag = true →
      Works s { s with dataWritten := s.dataWritten + 1, worker := .availWait n }
  | writtenPending {n} : s.worker = .writtenPost n → ¬(s.streamBuf = [] ∧ s.writtenFlag = true) →
      Works s { s with worker := .availWait n }
  | availTaken {n} : s.worker = .availWait n → 0 < s.dataAvail →
      Works s { s with dataAvail := s.dataAvail - 1, worker := .eofTest n }
  | eofSeen {n} : s.worker = .eofTest n → s.eof = true → Works s { s with worker := .perform true }
  | eofUnseen {n} : s.worker = .eofTest n → s.eof = false → Works s { s with worker := .copy n }
  | copiedPart {n} : s.worker = .copy n → n < s.streamBuf.length →
      Works s { s with
        streamBuf := s.streamBuf.drop n, dataAvail := s.dataAvail + 1,
        body := s.body ++ s.streamBuf.take n, worker := .perform false }
  | copiedAll {n} : s.worker = .copy n → s.streamBuf.length ≤ n →
      Works s { s with
        streamBuf := [], writtenFlag := true, dataNeed := s.dataNeed + 1,
        body := s.body ++ s.streamBuf, worker := .perform (s.streamBuf = []) }
  | succeeded : s.worker = .performed 0 →
      Works s { s with ready := if s.isready then s.ready else s.ready + 1, worker := .exiting }
  | failed {res} : s.worker = .performed res → res ≠ 0 →
      Works s { s with ready := if s.isready then s.ready else s.ready + 1, worker := .failing res }
  | failing {res} : s.worker = .failing res →
      Works s { s with writeFailCause := res, worker := .needPost }
  | needPosted : s.worker = .needPost → Works s { s with dataNeed := s.dataNeed + 1, worker := .exiting }
  | exiting : s.worker = .exiting →
      Works s { s with dataWritten := s.dataWritten + 1, worker := .exited }

theorem Works.of_work (worked : s.work = some s') : Works s s' := by
  unfold work at worked
  cases worker : s.worker <;> simp only [worker] at worked
  case launched =>
    cases worked
    exact .launched worker
  case readyPost =>
    obtain ⟨known, ⟨⟩⟩ | ⟨known, ⟨⟩⟩ := ite_eq_iff.mp worked
    · exact .readyKnown worker known
    · exact .readyPosted worker (by simpa using known)
  case writtenPost =>
    obtain ⟨drained, ⟨⟩⟩ | ⟨pending, ⟨⟩⟩ := ite_eq_iff.mp worked
    · exact .writtenPosted worker drained.1 drained.2
    · exact .writtenPending worker pending
  case availWait =>
    obtain ⟨-, ⟨⟩⟩ | ⟨avail, ⟨⟩⟩ := ite_eq_iff.mp worked
    exact .availTaken worker (Nat.pos_of_ne_zero avail)
  case eofTest =>
    obtain ⟨ended, ⟨⟩⟩ | ⟨ended, ⟨⟩⟩ := ite_eq_iff.mp worked
    · exact .eofSeen worker ended
    · exact .eofUnseen worker (by simpa using ended)
  case copy =>
    obtain ⟨part, ⟨⟩⟩ | ⟨whole, ⟨⟩⟩ := ite_eq_iff.mp worked
    · exact .copiedPart worker part
    · exact .copiedAll worker (Nat.le_of_not_lt whole)
  case performed res =>
    by_cases ok : res = 0
    · subst ok
      rw [if_pos rfl] at worked
      cases worked
      exact .succeeded worker
    · rw [if_neg ok] at worked
      cases worked
      exact .failed worker ok
  case failing =>
    cases worked
    exact .failing worker
  case needPost =>
    cases worked
    exact .needPosted worker
  case exiting =>
    cases worked
    exact .exiting worker
  all_goals cases worked

theorem call_cases {n : Nat} (called : s.call n = some s') :
    s.worker = .perform false ∧ 0 < n ∧ s' = { s with worker := .readyPost n } := by
  unfold call at called
  split_ifs at called with performing
  cases called
  exact ⟨performing.1, performing.2, rfl⟩

theorem fail_cases {code : Int} (failed : s.fail code = some s') :
    ∃ ended, s.worker = .perform ended ∧ code ≠ 0 ∧ s' = { s with worker := .performed code } := by
  unfold fail at failed
  split at failed
  next ended performing =>
    split_ifs at failed with nonzero
    cases failed
    exact ⟨ended, performing, nonzero, rfl⟩
  next => cases failed

theorem complete_cases (completed : s.complete = some s') :
    s.worker = .perform true ∧ s' = { s with
      worker := .performed 0,
      remote := some (if s.append then s.remote.getD [] ++ s.body else s.body) } := by
  unfold complete at completed
  by_cases performing : s.worker = .perform true
  · rw [if_pos performing] at completed
    cases completed
    exact ⟨performing, rfl⟩
  · rw [if_neg performing] at completed
    cases completed

end Cases

/-- The states the handle reaches from before its open, on a server holding
any file, by steps that `allowed` admits. -/
inductive Reachable (rwWorkaround : Bool) (allowed : Action → Prop) : Handle → Prop
  | initial (remote : Option (List UInt8)) : Reachable rwWorkaround allowed (initial remote)
  | step {s s' : Handle} {a : Action} : Reachable rwWorkaround allowed s → allowed a →
      s.step rwWorkaround a = some s' → Reachable rwWorkaround allowed s'

theorem Reachable.run {rwWorkaround : Bool} {allowed : Action → Prop} {s s' : Handle}
    (reach : Reachable rwWorkaround allowed s) {actions : List Action}
    (admitted : ∀ a ∈ actions, allowed a) (ran : s.run rwWorkaround actions = some s') :
    Reachable rwWorkaround allowed s' := by
  induction actions generalizing s with
  | nil => cases ran; exact reach
  | cons a rest induction =>
      obtain ⟨s₁, stepped, rest⟩ := Option.bind_eq_some.mp ran
      exact induction (reach.step (admitted a (.head _)) stepped)
        (fun b member => admitted b (.tail _ member)) rest

end Handle

end CurlFtpFs
