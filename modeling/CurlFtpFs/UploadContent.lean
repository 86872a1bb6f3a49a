import CurlFtpFs.UploadSize

namespace CurlFtpFs

/-! What the server holds after a session of sequential writes. Seen from the
caller, a handle opened for writing is a sequential file: each write appends
its payload at the offset where the writes before it ended. The upload
pipeline refines it: in every run from before the open in which every upcall
succeeds and each write starts where the previous one ended, once the request
thread is idle with no upload running the file on the server is the
concatenation of the payloads, whatever libcurl and the worker did in between
and however many flushes split the session into `STOR` and `APPE` uploads. -/

def Action.payload : Action → List UInt8
  | .write _ data _ _ => data
  | _ => []

/-- The steps of one sequential session: no release, no other client, and
writes of at least one byte. -/
def Action.session (a : Action) : Bool :=
  a.sized && a.internal && a != .release

def payload : List Action → List UInt8
  | [] => []
  | a :: rest => a.payload ++ payload rest

/-- Each write of `actions` starts at the offset where the writes before it
end, counting from `n`. -/
def sequentialFrom : Nat → List Action → Bool
  | _, [] => true
  | n, .write offset data _ _ :: rest => offset == n && sequentialFrom (n + data.length) rest
  | n, _ :: rest => sequentialFrom n rest

def Request.pending : Request → List UInt8
  | .startReady _ data | .needWait _ data => data
  | _ => []

def Request.caller : Request → Option Caller
  | .finishCall => some .write
  | .finishTest caller | .finishNeed caller | .finishEof caller | .finishJoin caller
  | .sizeCheck caller => some caller
  | _ => none

namespace Handle

/-- The file on the server once the running upload completes: `APPE` adds the
bytes handed off to it, `STOR` replaces it by them. -/
def eventual (s : Handle) : Option (List UInt8) :=
  if s.append then s.remote.map (· ++ s.handed) else some s.handed

/-- The bytes on the server, by where the worker is, while no failure is
recorded: `content` is what the handle has handed off since the open, and
`pos` counts it. -/
structure Written (content : List UInt8) (s : Handle) : Prop where
  pos : s.pos = content.length
  /-- A launched worker has not chosen between `STOR` and `APPE` yet; a resumed
  upload starts from the file the last one stored. -/
  launched : s.worker = .launched → 0 < s.pos → s.remote = some content
  uploading : s.worker.uploading = true → s.writeFailCause = 0 → s.eventual = some content
  completed : s.worker.completed = true → s.writeFailCause = 0 → s.remote = some content
  idle : s.worker = .none → s.writeConn = false → s.writeFailCause = 0 → 0 < s.pos →
    s.remote = some content
  checking : ∀ caller, s.request = .sizeCheck caller → s.remote = some content

section Steps

variable {s s' : Handle} {content : List UInt8}

theorem Written.rework (w : s.Written content) (remote : s'.remote = s.remote)
    (pos : s'.pos = s.pos) (handed : s'.handed = s.handed) (append : s'.append = s.append)
    (request : s'.request = s.request) (failCause : s'.writeFailCause = s.writeFailCause)
    (alive : s'.worker ≠ .none) (fresh : s'.worker ≠ .launched)
    (uploading : s'.worker.uploading = true → s.worker.uploading = true)
    (completed : s'.worker.completed = true → s.writeFailCause = 0 → s.worker.completed = true) :
    s'.Written content where
  pos := pos.trans w.pos
  launched l := absurd l fresh
  uploading up ok := by
    unfold eventual
    rw [remote, handed, append]
    exact w.uploading (uploading up) (failCause ▸ ok)
  completed done ok := remote ▸ w.completed (completed done (failCause ▸ ok)) (failCause ▸ ok)
  idle none := absurd none alive
  checking caller checking := remote ▸ w.checking caller (request ▸ checking)

theorem Written.advance (w : s.Written content) (remote : s'.remote = s.remote)
    (pos : s'.pos = s.pos) (handed : s'.handed = s.handed) (append : s'.append = s.append)
    (worker : s'.worker = s.worker) (failCause : s'.writeFailCause = s.writeFailCause)
    (idle : s.worker = .none → s'.writeConn = false → s.writeFailCause = 0 → 0 < s.pos →
      s.remote = some content)
    (checking : ∀ caller, s'.request = .sizeCheck caller → s.remote = some content) :
    s'.Written content where
  pos := pos.trans w.pos
  launched l started := remote ▸ w.launched (worker ▸ l) (pos ▸ started)
  uploading up ok := by
    unfold eventual
    rw [remote, handed, append]
    exact w.uploading (worker ▸ up) (failCause ▸ ok)
  completed done ok := remote ▸ w.completed (worker ▸ done) (failCause ▸ ok)
  idle none off ok started := remote ▸ idle (worker ▸ none) off (failCause ▸ ok) (pos ▸ started)
  checking caller c := remote ▸ checking caller c

theorem Written.advance_inside (p : s.Protocol) (w : s.Written content)
    (inside : s.request.quiet = false) (remote : s'.remote = s.remote) (pos : s'.pos = s.pos)
    (handed : s'.handed = s.handed) (append : s'.append = s.append)
    (worker : s'.worker = s.worker) (failCause : s'.writeFailCause = s.writeFailCause)
    (conn : s'.writeConn = s.writeConn)
    (checking : ∀ caller, s'.request = .sizeCheck caller → False) : s'.Written content :=
  w.advance remote pos handed append worker failCause
    (fun none off => absurd (p.quiet none (conn ▸ off)) (by simp [inside]))
    (fun caller c => absurd c (checking caller))

theorem Written.work (p : s.Protocol) (q : s.Stored) (w : s.Written content)
    (worked : s.work = some s') : s'.Written content := by
  cases Works.of_work worked with
  | launched l =>
      obtain ⟨-, -, empty, -⟩ := q.launched l
      refine ⟨w.pos, fun l => (by cases l), fun _ _ => ?_, fun done => (by cases done),
        fun none => (by cases none), w.checking⟩
      by_cases started : 0 < s.pos
      · simp [eventual, started, w.launched l started, empty]
      · have none : content = [] := List.length_eq_zero.mp (by rw [← w.pos]; omega)
        simp [eventual, started, empty, none]
  | @failing res f =>
      have nonzero := p.life.failing res f
      exact ⟨w.pos, fun l => (by cases l), fun _ ok => absurd ok nonzero,
        fun _ ok => absurd ok nonzero, fun none => (by cases none), w.checking⟩
  | needPosted n =>
      exact w.rework rfl rfl rfl rfl rfl rfl (by simp) (by simp)
        (fun up => by simp [Worker.uploading, Worker.completed] at up)
        (fun _ ok => absurd ok (q.posting n))
  | failed f nonzero =>
      exact w.rework rfl rfl rfl rfl rfl rfl (by simp) (by simp)
        (fun _ => by simp [f, Worker.uploading, Worker.completed, nonzero])
        (fun done => by simp [Worker.completed] at done)
  | readyPosted f _ | readyKnown f _ | writtenPosted f _ _ | writtenPending f _ | availTaken f _
  | eofSeen f _ | eofUnseen f _ | copiedPart f _ | copiedAll f _ | succeeded f | exiting f =>
      exact w.rework rfl rfl rfl rfl rfl rfl (by simp) (by simp)
        (fun up => by simp [f, Worker.uploading, Worker.completed] at up ⊢)
        (fun done _ => by simp [f, Worker.completed] at done ⊢)

theorem Written.call (w : s.Written content) {n : Nat} (called : s.call n = some s') :
    s'.Written content := by
  obtain ⟨running, -, rfl⟩ := call_cases called
  exact w.rework rfl rfl rfl rfl rfl rfl (by simp) (by simp)
    (fun _ => by simp [running, Worker.uploading, Worker.completed])
    (fun done => by simp [Worker.completed] at done)

theorem Written.fail (w : s.Written content) {code : Int} (failed : s.fail code = some s') :
    s'.Written content := by
  obtain ⟨ended, running, nonzero, rfl⟩ := fail_cases failed
  exact w.rework rfl rfl rfl rfl rfl rfl (by simp) (by simp)
    (fun _ => by simp [running, Worker.uploading, Worker.completed])
    (fun done => by simp [Worker.completed, nonzero] at done)

theorem Written.complete (p : s.Protocol) (w : s.Written content)
    (completed : s.complete = some s') : s'.Written content := by
  obtain ⟨running, rfl⟩ := complete_cases completed
  have body : s.body = s.handed := by simpa [p.empty_of_ended running] using p.handed
  refine ⟨w.pos, fun l => (by cases l), fun up => (by simp [Worker.uploading, Worker.completed] at up),
    fun _ ok => ?_, fun none => (by cases none),
    fun caller checking => absurd (p.life.checked caller checking) (by simp [running])⟩
  have expected := w.uploading (by simp [running, Worker.uploading, Worker.completed]) ok
  unfold eventual at expected
  cases append : s.append <;> simp only [append, if_true, if_false, body] at expected ⊢
  · exact expected
  · obtain ⟨file, present, stored⟩ := Option.map_eq_some'.mp expected
    simp [present, stored]

theorem Written.handOff (p : s.Protocol) (q : s.Stored) (w : s.Written content)
    {data : List UInt8} (waiting : s.request = .needWait s.pos data) (need : 0 < s.dataNeed) :
    ({ s with
        dataNeed := s.dataNeed - 1, streamBuf := s.streamBuf ++ data, pos := s.pos + data.length,
        handed := s.handed ++ data, dataAvail := s.dataAvail + 1,
        request := .writtenWait data.length } : Handle).Written (content ++ data) := by
  have alive := p.alive_of_need (by simp [waiting, Request.quiet]) need
  refine ⟨by simp [w.pos], fun l => absurd (q.launched l).1 (by simp [waiting, Request.starting]),
    fun up ok => ?_, fun done ok => absurd (p.finishing_of_completed ok done)
      (by simp [waiting, Request.finishing]),
    fun none => absurd none alive, fun _ c => (by cases c)⟩
  have expected := w.uploading up ok
  unfold eventual at expected ⊢
  cases append : s.append <;> simp only [append, if_true, if_false] at expected ⊢
  · simp [Option.some.inj expected]
  · obtain ⟨file, present, stored⟩ := Option.map_eq_some'.mp expected
    simp [present, ← stored]

theorem Written.joined (w : s.Written content) {caller : Caller} (exited : s.worker = .exited) :
    (s.finishJoined caller).Written content := by
  have done : s.worker.completed = true := by simp [exited, Worker.completed]
  have checked : ∀ c, (s.finishJoined caller).request = .sizeCheck c →
      s.writeFailCause = 0 := fun c checking => by
    by_contra failed
    cases caller <;> simp [finishJoined, failed, reply, freed] at checking
  obtain ⟨request, log, joined, -⟩ := s.finishJoined_eq caller
  rw [joined] at checked ⊢
  exact ⟨w.pos, fun l => (by cases l), fun up => (by cases up), fun done => (by cases done),
    fun _ _ ok _ => w.completed done ok, fun c checking => w.completed done (checked c checking)⟩

theorem Written.sizeChecked (p : s.Protocol) (w : s.Written content) {listed : Bool}
    {caller : Caller} (checking : s.request = .sizeCheck caller) :
    (s.flushChecked listed caller).Written content := by
  obtain ⟨failCause, request, log, checked, -, -⟩ := s.flushChecked_eq listed caller
  have none := p.life.checked caller checking
  rw [checked]
  exact ⟨w.pos, fun l => absurd (none.symm.trans l) (by simp),
    fun up => absurd up (by simp [none, Worker.uploading]),
    fun done => absurd done (by simp [none, Worker.completed]),
    fun _ _ _ _ => w.checking caller checking, fun _ _ => w.checking caller checking⟩

theorem Written.ftpfsFtruncate (p : s.Protocol) (q : s.Stored) (w : s.Written content)
    {offset : Nat} {created listed : Bool}
    (truncated : s.ftpfsFtruncate offset created listed = some s') :
    s'.Written content := by
  have changed := ftpfsFtruncate_remote truncated
  obtain ⟨idle, r, mayStart, remote, rfl⟩ := ftpfsFtruncate_cases truncated
  refine ⟨w.pos, fun l => absurd (q.launched l).1 (by simp [idle, Request.starting]),
    fun up ok => ?_, fun done ok => absurd (p.finishing_of_completed ok done)
      (by simp [idle, Request.finishing]),
    fun none off ok started => ?_, fun _ c => (by cases c)⟩
  · rcases changed with same | ⟨empty, -⟩
    · replace same : remote = s.remote := same
      subst same
      exact w.uploading up ok
    · have kept : s.append = false := by
        cases append : s.append
        · rfl
        · exact absurd ((q.uploading up ok).2 append) (by simp [empty])
      simpa [eventual, reply, kept] using w.uploading up ok
  · rcases changed with same | ⟨empty, -⟩
    · replace same : remote = s.remote := same
      subst same
      exact w.idle none off ok started
    · exact absurd started (by simp [reply, empty])

theorem Written.relabel (w : s.Written content) (request : Request) (log : List Int)
    (entered : ∀ caller, request ≠ .sizeCheck caller) :
    ({ s with request := request, log := log } : Handle).Written content :=
  w.advance rfl rfl rfl rfl rfl rfl w.idle (fun caller checking => absurd checking (entered caller))

theorem ftpfsOpenCommon_written {rwWorkaround : Bool} {flags : OpenFlags} {start : StartOutcome}
    (opened : s.ftpfsOpenCommon rwWorkaround flags start = some s') : s'.Written [] := by
  have fresh : s'.pos = 0 ∧ (s'.worker = .none ∨ s'.worker = .launched) ∧
      ∀ caller, s'.request ≠ .sizeCheck caller := by
    obtain ⟨-, ⟨r, rfl⟩ | ⟨_, rfl⟩ | rfl | ⟨-, rfl⟩⟩ := ftpfsOpenCommon_cases opened
    · exact ⟨rfl, .inl rfl, fun _ c => (by cases c)⟩
    · cases start
      case started => exact absurd rfl ‹_›
      all_goals exact ⟨rfl, .inl rfl, fun _ c => (by cases c)⟩
    · exact ⟨rfl, .inl rfl, fun _ c => (by cases c)⟩
    · exact ⟨rfl, .inr rfl, fun _ c => (by cases c)⟩
  obtain ⟨empty, worker, checking⟩ := fresh
  refine ⟨empty, fun _ p => (by simp [empty] at p), fun up => ?_, fun done => ?_,
    fun _ _ _ p => (by simp [empty] at p), fun c h => absurd h (checking c)⟩
  all_goals rcases worker with w | w <;> simp [w, Worker.uploading, Worker.completed] at *

theorem Written.started (p : s.Protocol) (w : s.Written content) (ok : s.writeFailCause = 0)
    (conn : s.writeConn = false) (offset : Nat) (data : List UInt8) :
    ({ s.startWriteThread .started with request := .startReady offset data } : Handle).Written
      content := by
  have none := p.life.none_of_conn conn
  exact ⟨w.pos, fun _ begun => w.idle none conn ok begun, fun up => (by cases up),
    fun done => (by cases done), fun none => (by cases none),
    fun _ c => (by cases c)⟩

/-! ### What an upcall returned -/

@[simp] theorem startWriteThread_log (start : StartOutcome) : (s.startWriteThread start).log = s.log := by
  cases start <;> rfl

theorem finishJoined_log (caller : Caller) : s.log <+: (s.finishJoined caller).log := by
  cases caller <;> simp only [finishJoined] <;> (try split_ifs) <;> simp [reply, freed]

@[simp] theorem sizeChecked_log (listed : Bool) : (s.sizeChecked listed).1.log = s.log := by
  unfold sizeChecked; split <;> (try split) <;> rfl

theorem flushChecked_log (listed : Bool) (caller : Caller) :
    s.log <+: (s.flushChecked listed caller).log := by
  cases caller <;> simp [flushChecked, reply, freed]

theorem step_log {rwWorkaround : Bool} {a : Action} (stepped : s.step rwWorkaround a = some s') :
    s.log <+: s'.log := by
  cases a with
  | «open» flags start =>
      obtain ⟨-, ⟨r, rfl⟩ | ⟨-, rfl⟩ | rfl | ⟨-, rfl⟩⟩ := ftpfsOpenCommon_cases stepped <;>
        simp [freed, reply, opened]
  | write offset data start listed =>
      obtain ⟨-, ⟨r, rfl⟩ | ⟨-, -, -, rfl⟩ | ⟨-, -, -, rfl⟩ | ⟨-, -, rfl⟩⟩ :=
        ftpfsWrite_cases stepped <;> simp [reply]
  | flush => obtain ⟨-, ⟨-, rfl⟩ | ⟨-, rfl⟩⟩ := ftpfsFlush_cases stepped <;> simp [reply]
  | release => obtain ⟨-, ⟨-, rfl⟩ | ⟨-, rfl⟩⟩ := ftpfsRelease_cases stepped <;> simp [freed]
  | ftruncate offset created listed =>
      obtain ⟨-, r, mayStart, remote, rfl⟩ := ftpfsFtruncate_cases stepped
      simp [reply]
  | proceed allocated listed =>
      cases Proceeds.of_proceed stepped with
      | joined => exact finishJoined_log _
      | sizeChecked => exact flushChecked_log _ _
      | _ => simp [reply]
  | call n => obtain ⟨-, -, rfl⟩ := call_cases stepped; exact List.prefix_refl _
  | fail code => obtain ⟨-, -, -, rfl⟩ := fail_cases stepped; exact List.prefix_refl _
  | complete => obtain ⟨-, rfl⟩ := complete_cases stepped; exact List.prefix_refl _
  | work => cases Works.of_work stepped <;> exact List.prefix_refl _
  | external file => cases stepped; exact List.prefix_refl _

theorem run_log {rwWorkaround : Bool} {actions : List Action}
    (ran : s.run rwWorkaround actions = some s') : s.log <+: s'.log := by
  induction actions generalizing s with
  | nil => cases ran; exact List.prefix_refl _
  | cons a rest induction =>
      obtain ⟨s₁, stepped, rest⟩ := Option.bind_eq_some.mp ran
      exact (step_log stepped).trans (induction rest)

theorem ftpfsWrite_reply {data : List UInt8} {start : StartOutcome} {listed : Bool} {r : Int}
    (written : s.ftpfsWrite s.pos data start listed = some (s.reply r)) : r = - EIO := by
  have returned : ∀ {x : Handle} {e : Int}, x.log = s.log ++ [e] → some x = some (s.reply r) →
      e = r := fun logged same =>
    List.singleton_inj.mp (List.append_cancel_left
      (logged.symm.trans (congrArg Handle.log (Option.some.inj same))))
  unfold ftpfsWrite at written
  obtain ⟨-, ⟨⟩⟩ | ⟨-, written⟩ := ite_eq_iff.mp written
  obtain ⟨-, written⟩ | ⟨-, written⟩ := ite_eq_iff.mp written
  · exact (returned rfl written).symm
  obtain ⟨-, written⟩ | ⟨-, written⟩ := ite_eq_iff.mp written
  · exact (returned rfl written).symm
  obtain ⟨-, written⟩ | ⟨fresh, written⟩ := ite_eq_iff.mp written
  · obtain ⟨-, written⟩ | ⟨-, written⟩ := ite_eq_iff.mp written
    · cases congrArg Handle.request (Option.some.inj written)
    · exact (returned (congrArg (· ++ [- EIO]) (startWriteThread_log start)) written).symm
  obtain ⟨-, written⟩ | ⟨connected, -⟩ := ite_eq_iff.mp written
  · cases congrArg Handle.request (Option.some.inj written)
  · cases conn : s.writeConn
    · rcases Nat.eq_zero_or_pos s.pos with pos | pos <;> simp [conn, pos] at fresh
    · simp [conn] at connected

theorem Written.sizeChecked_eq (w : s.Written content) {caller : Caller}
    (checking : s.request = .sizeCheck caller) (listed : Bool) :
    s.sizeChecked listed = (s, if listed then 0 else - ENOENT) := by
  cases listed <;> simp [Handle.sizeChecked, getattr, w.checking caller checking, w.pos]

/-! ### A session of sequential writes -/

/-- A session of sequential writes in which every upcall has succeeded so far,
where `written` is the payloads of the writes entered since before the open:
all of it but the payload of a write not yet handed off is handed off, and
that write starts at `pos`; a recorded failure has not been reported yet, so
the upload that failed still runs; and the handle is never released. -/
structure Session (written : List UInt8) (s : Handle) : Prop where
  stored : ∃ content, written = content ++ s.request.pending ∧ s.Written content
  offset : ∀ offset data, s.request = .startReady offset data ∨ s.request = .needWait offset data →
    offset = s.pos
  reported : s.writeFailCause ≠ 0 → s.writeConn = true
  checked : ∀ caller, s.request = .sizeCheck caller → s.writeConn = false
  staying : s.request.caller ≠ some .release
  closed : s.request = .closed → written = []

theorem Session.rework {written : List UInt8} (session : s.Session written)
    (split : written = content ++ s.request.pending) (w : s'.Written content)
    (request : s'.request = s.request) (pos : s'.pos = s.pos) (conn : s'.writeConn = s.writeConn)
    (reported : s'.writeFailCause ≠ 0 → s'.writeConn = true) : s'.Session written where
  stored := ⟨content, request ▸ split, w⟩
  offset offset data waiting := pos ▸ session.offset offset data (request ▸ waiting)
  reported := reported
  checked caller checking := conn ▸ session.checked caller (request ▸ checking)
  staying := request ▸ session.staying
  closed closed := session.closed (request ▸ closed)

theorem Session.replied {written : List UInt8} (w : s'.Written written) (idle : s'.request = .idle)
    (reported : s'.writeFailCause ≠ 0 → s'.writeConn = true) : s'.Session written where
  stored := ⟨written, by simp [idle, Request.pending], w⟩
  offset _ _ waiting := by rcases waiting with c | c <;> simp [idle] at c
  reported := reported
  checked _ c := by simp [idle] at c
  staying := by simp [idle, Request.caller]
  closed c := by simp [idle] at c

theorem reply_failed {e : Int} (negative : e < 0) (succeeded : ∀ r ∈ (s.reply e).log, 0 ≤ r) :
    False :=
  absurd (succeeded e (List.mem_append_right _ (List.mem_singleton_self e))) (not_le.mpr negative)

variable {rwWorkaround : Bool}

theorem ftpfsOpenCommon_session {flags : OpenFlags} {start : StartOutcome}
    (stepped : s.ftpfsOpenCommon rwWorkaround flags start = some s') : s'.Session [] := by
  have fresh : s'.writeFailCause = 0 ∧
      (s'.request = .closed ∨ s'.request = .idle ∨ s'.request = .openReady) := by
    rcases (ftpfsOpenCommon_cases stepped).2 with ⟨r, rfl⟩ | ⟨-, rfl⟩ | rfl | ⟨-, rfl⟩ <;>
      simp [freed, reply, opened]
  obtain ⟨ok, request⟩ := fresh
  refine ⟨⟨[], ?_, ftpfsOpenCommon_written stepped⟩, ?_, fun failed => absurd ok failed, ?_, ?_,
    fun _ => rfl⟩ <;> rcases request with r | r | r <;> simp [r, Request.pending, Request.caller]

theorem Session.ftpfsWrite (p : s.Protocol) {written : List UInt8} (session : s.Session written)
    {offset : Nat} {data : List UInt8} {start : StartOutcome} {listed : Bool}
    (sequential : offset = written.length)
    (stepped : s.ftpfsWrite offset data start listed = some s')
    (succeeded : ∀ r ∈ s'.log, 0 ≤ r) :
    s'.Session (written ++ data) := by
  obtain ⟨content, split, w⟩ := session.stored
  obtain ⟨idle, written'⟩ := ftpfsWrite_cases stepped
  rw [idle] at split
  simp only [Request.pending, List.append_nil] at split
  subst split
  have at_pos : offset = s.pos := by rw [sequential, w.pos]
  subst at_pos
  rcases written' with ⟨r, rfl⟩ | ⟨-, -, -, rfl⟩ | ⟨ok, conn, -, rfl⟩ | ⟨ok, conn, rfl⟩
  · exact (reply_failed (by rw [ftpfsWrite_reply stepped]; decide) succeeded).elim
  · exact (reply_failed (by decide) succeeded).elim
  · exact ⟨⟨written, by simp [Request.pending], w.started p ok conn s.pos data⟩,
      fun _ _ c => (by rcases c with c | c <;> cases c; rfl),
      fun failed => absurd ok (by simpa using failed),
      fun _ c => (by cases c), by simp [Request.caller], fun c => (by cases c)⟩
  · exact ⟨⟨written, by simp [Request.pending],
        w.advance rfl rfl rfl rfl rfl rfl w.idle fun _ c => (by cases c)⟩,
      fun _ _ c => (by rcases c with c | c <;> cases c; rfl), session.reported,
      fun _ c => (by cases c), by simp [Request.caller], fun c => (by cases c)⟩

theorem Session.ftpfsFlush {written : List UInt8} (session : s.Session written)
    (flushed : s.ftpfsFlush = some s') : s'.Session written := by
  obtain ⟨content, split, w⟩ := session.stored
  obtain ⟨idle, flushed⟩ := ftpfsFlush_cases flushed
  rw [idle] at split
  simp only [Request.pending, List.append_nil] at split
  subst split
  rcases flushed with ⟨-, rfl⟩ | ⟨-, rfl⟩
  · exact ⟨⟨written, by simp [Request.pending], w.relabel _ _ fun _ c => (by cases c)⟩,
      fun _ _ c => (by rcases c with c | c <;> cases c), session.reported,
      fun _ c => (by cases c), by simp [Request.caller], fun c => (by cases c)⟩
  · exact Session.replied (w.relabel _ _ fun _ c => (by cases c)) rfl session.reported

theorem Session.ftpfsFtruncate (p : s.Protocol) (q : s.Stored) {written : List UInt8}
    (session : s.Session written) {offset : Nat} {created listed : Bool}
    (truncated : s.ftpfsFtruncate offset created listed = some s') : s'.Session written := by
  obtain ⟨content, split, w⟩ := session.stored
  obtain ⟨idle, r, mayStart, remote, rfl⟩ := ftpfsFtruncate_cases truncated
  rw [idle] at split
  simp only [Request.pending, List.append_nil] at split
  subst split
  exact Session.replied (w.ftpfsFtruncate p q truncated) rfl session.reported

theorem Session.joined {written : List UInt8} (session : s.Session written) {caller : Caller}
    (testing : s.request = .finishJoin caller) (exited : s.worker = .exited)
    (succeeded : ∀ r ∈ (s.finishJoined caller).log, 0 ≤ r) :
    (s.finishJoined caller).Session written := by
  obtain ⟨content, split, w⟩ := session.stored
  have staying : caller ≠ .release := by simpa [testing, Request.caller] using session.staying
  simp only [testing, Request.pending, List.append_nil] at split
  subst split
  cases caller with
  | write => exact (reply_failed (by decide) succeeded).elim
  | flush =>
      by_cases ok : s.writeFailCause = 0
      · have joined : s.finishJoined .flush =
            { s with worker := .none, writeConn := false, request := .sizeCheck .flush } := by
          simp [finishJoined, ok]
        have w' : (s.finishJoined .flush).Written written := w.joined exited
        rw [joined] at w' ⊢
        exact ⟨⟨written, by simp [Request.pending], w'⟩,
          fun _ _ c => (by rcases c with c | c <;> cases c), fun failed => absurd ok failed,
          fun _ _ => rfl, by simp [Request.caller], fun c => (by cases c)⟩
      · exact (reply_failed (s := { s with worker := .none, writeConn := false })
          (show - EIO < 0 by decide) (by simpa [finishJoined, ok] using succeeded)).elim
  | release => exact absurd rfl staying

theorem Session.sizeChecked {written : List UInt8} (session : s.Session written) {listed : Bool}
    {caller : Caller} (checking : s.request = .sizeCheck caller)
    (succeeded : ∀ r ∈ (s.flushChecked listed caller).log, 0 ≤ r) :
    (s.flushChecked listed caller).Session written := by
  obtain ⟨content, split, w⟩ := session.stored
  have staying : caller ≠ .release := by simpa [checking, Request.caller] using session.staying
  have ok : s.writeFailCause = 0 := by
    by_contra failed
    simp [session.checked caller checking] at failed
    exact absurd (session.reported failed) (by simp [session.checked caller checking])
  have result : s.flushChecked listed caller = s.reply (if listed then 0 else - ENOENT) := by
    cases caller with
    | release => exact absurd rfl staying
    | _ => simp [flushChecked, w.sizeChecked_eq checking]
  have named : listed = true := by
    by_contra unlisted
    rw [result, if_neg unlisted] at succeeded
    exact reply_failed (by decide) succeeded
  subst named
  simp only [checking, Request.pending, List.append_nil] at split
  subst split
  rw [result]
  exact Session.replied (w.advance rfl rfl rfl rfl rfl rfl
    (fun _ _ _ _ => w.checking caller checking) fun _ c => (by cases c)) rfl
    fun failed => absurd ok failed

theorem Session.proceed (p : s.Protocol) (q : s.Stored) {written : List UInt8}
    (session : s.Session written) {allocated listed : Bool}
    (proceeded : s.proceed allocated listed = some s')
    (succeeded : ∀ r ∈ s'.log, 0 ≤ r) : s'.Session written := by
  obtain ⟨content, split, w⟩ := session.stored
  cases Proceeds.of_proceed proceeded with
  | openReady opening _ =>
      simp only [opening, Request.pending, List.append_nil] at split
      subst split
      have alive := p.alive_of_starting (by simp [opening, Request.starting])
      exact Session.replied (w.advance rfl rfl rfl rfl rfl rfl (fun none => absurd none alive)
        fun _ c => (by cases c)) rfl session.reported
  | startReady opening _ =>
      have alive := p.alive_of_starting (by simp [opening, Request.starting])
      exact ⟨⟨content, by simp [split, opening, Request.pending],
          w.advance rfl rfl rfl rfl rfl rfl (fun none => absurd none alive)
            fun _ c => (by cases c)⟩,
        fun _ _ c => (by rcases c with c | c <;> cases c; exact session.offset _ _ (.inl opening)),
        session.reported, fun _ c => (by cases c), by simp [Request.caller],
        fun c => (by cases c)⟩
  | nonSequential waiting _ moved => exact absurd (session.offset _ _ (.inr waiting)) moved
  | outOfMemory waiting _ _ => exact (reply_failed (by decide) succeeded).elim
  | @handOff data waiting need _ =>
      simp only [waiting, Request.pending] at split
      subst split
      exact ⟨⟨content ++ data, by simp [Request.pending], w.handOff p q waiting need⟩,
        fun _ _ c => (by rcases c with c | c <;> cases c), session.reported,
        fun _ c => (by cases c), by simp [Request.caller], fun c => (by cases c)⟩
  | written waiting _ =>
      simp only [waiting, Request.pending, List.append_nil] at split
      subst split
      exact Session.replied (w.advance_inside p (by simp [waiting, Request.quiet]) rfl rfl rfl rfl
        rfl rfl rfl fun _ c => (by cases c)) rfl session.reported
  | finishCalled testing | finishWaits testing _ | finishFailed testing _ | finishNeed testing _
  | finishEof testing =>
      exact ⟨⟨content, by simp [split, testing, Request.pending],
          w.advance_inside p (by simp [testing, Request.quiet]) rfl rfl rfl rfl rfl rfl rfl
            fun _ c => (by cases c)⟩,
        fun _ _ c => (by rcases c with c | c <;> cases c), session.reported,
        fun _ c => (by cases c), by have := session.staying; simp_all [Request.caller],
        fun c => (by cases c)⟩
  | joined testing exited => exact session.joined testing exited succeeded
  | sizeChecked checking => exact session.sizeChecked checking succeeded

theorem Session.step (p : s.Protocol) (q : s.Stored) {written : List UInt8}
    (session : s.Session written) {a : Action} (admitted : a.session = true)
    (sequential : ∀ offset data start listed, a = .write offset data start listed →
      offset = written.length)
    (stepped : s.step rwWorkaround a = some s') (succeeded : ∀ r ∈ s'.log, 0 ≤ r) :
    s'.Session (written ++ a.payload) := by
  cases a with
  | «open» flags start =>
      simpa [Action.payload, session.closed (ftpfsOpenCommon_cases stepped).1] using
        ftpfsOpenCommon_session stepped
  | write offset data start listed =>
      exact session.ftpfsWrite p (sequential offset data start listed rfl) stepped succeeded
  | flush => simpa [Action.payload] using session.ftpfsFlush stepped
  | release => simp [Action.session] at admitted
  | ftruncate offset created listed =>
      simpa [Action.payload] using session.ftpfsFtruncate p q stepped
  | proceed allocated listed => simpa [Action.payload] using session.proceed p q stepped succeeded
  | call n =>
      obtain ⟨content, split, w⟩ := session.stored
      obtain ⟨running, -, rfl⟩ := call_cases stepped
      simpa [Action.payload] using session.rework split (w.call stepped) rfl rfl rfl session.reported
  | fail code =>
      obtain ⟨content, split, w⟩ := session.stored
      obtain ⟨ended, running, -, rfl⟩ := fail_cases stepped
      simpa [Action.payload] using session.rework split (w.fail stepped) rfl rfl rfl session.reported
  | complete =>
      obtain ⟨content, split, w⟩ := session.stored
      obtain ⟨running, rfl⟩ := complete_cases stepped
      simpa [Action.payload] using
        session.rework split (w.complete p stepped) rfl rfl rfl session.reported
  | work =>
      obtain ⟨content, split, w⟩ := session.stored
      have w' := w.work p q stepped
      simp only [Action.payload, List.append_nil]
      cases Works.of_work stepped with
      | @failing res f =>
          exact session.rework split w' rfl rfl rfl fun _ => p.life.conn (by simp [f])
      | _ => exact session.rework split w' rfl rfl rfl session.reported
  | external file => simp [Action.session, Action.internal] at admitted

theorem initial_session (remote : Option (List UInt8)) : (initial remote).Session [] :=
  ⟨⟨[], rfl, ⟨rfl, fun l => (by cases l), fun up => (by cases up), fun done => (by cases done),
      fun _ _ _ started => (by cases started), fun _ c => (by cases c)⟩⟩,
    fun _ _ c => (by rcases c with c | c <;> cases c), fun failed => absurd rfl failed,
    fun _ c => (by cases c), by simp [initial, opened, Request.caller], fun _ => rfl⟩

theorem Action.sized_of_session {a : Action} (admitted : a.session = true) : a.sized = true := by
  simp_all [Action.session]

theorem Action.internal_of_session {a : Action} (admitted : a.session = true) :
    a.internal = true := by
  simp_all [Action.session]

theorem sequentialFrom_cons {n : Nat} {a : Action} {rest : List Action}
    (sequential : sequentialFrom n (a :: rest) = true) :
    (∀ offset data start listed, a = .write offset data start listed → offset = n) ∧
      sequentialFrom (n + a.payload.length) rest = true := by
  cases a <;> simp_all [sequentialFrom, Action.payload]

/-- A session lasts through a run of its steps, and the run's writes add their
payloads to it. -/
theorem Session.run {written : List UInt8}
    (reach : Reachable rwWorkaround (fun a => a.session = true) s) (session : s.Session written)
    {actions : List Action} (ran : s.run rwWorkaround actions = some s')
    (admitted : ∀ a ∈ actions, a.session = true)
    (sequential : sequentialFrom written.length actions = true) (succeeded : ∀ r ∈ s'.log, 0 ≤ r) :
    s'.Session (written ++ payload actions) := by
  induction actions generalizing s written with
  | nil => cases ran; simpa [payload] using session
  | cons a rest induction =>
      obtain ⟨s₁, stepped, rest'⟩ := Option.bind_eq_some.mp ran
      have first := admitted a (List.mem_cons_self _ _)
      obtain ⟨starts, sequential'⟩ := sequentialFrom_cons sequential
      have session' := session.step
        (reach.mono fun _ admitted => Action.sized_of_session admitted).protocol
        (reach.mono fun _ admitted =>
          ⟨Action.sized_of_session admitted, Action.internal_of_session admitted⟩).stored
        first starts stepped fun r listed => succeeded r ((run_log rest').subset listed)
      have := induction (.step reach first stepped) session' rest'
        (fun b listed => admitted b (List.mem_cons_of_mem _ listed))
        (by simpa using sequential')
      simpa [payload, List.append_assoc] using this

theorem Session.idle_stored {written : List UInt8}
    (reach : Reachable rwWorkaround (fun a => a.session = true) s) (session : s.Session written)
    (idle : s.request = .idle) (flushed : s.writeConn = false) (wrote : written ≠ []) :
    s.pos = written.length ∧ s.remote = some written := by
  obtain ⟨content, split, w⟩ := session.stored
  simp only [idle, Request.pending, List.append_nil] at split
  subst split
  have ok : s.writeFailCause = 0 := by
    by_contra failed
    simp [session.reported failed] at flushed
  refine ⟨w.pos, w.idle (reach.lifecycle.none_of_conn flushed) flushed ok ?_⟩
  rw [w.pos]
  exact List.length_pos.mpr wrote

/-- A session of sequential writes stores exactly what was written. In every
run from before the open in which no other client changes the file, the
handle is not released, every upcall succeeds, and each write starts at the
offset where the writes before it ended: once the request thread is idle with
no upload running, `pos` counts the payloads of the writes and the file on the
server is their concatenation. -/
theorem sequential_writes_stored {remote : Option (List UInt8)} {actions : List Action}
    {s : Handle} (ran : (initial remote).run rwWorkaround actions = some s)
    (admitted : ∀ a ∈ actions, a.session = true) (sequential : sequentialFrom 0 actions = true)
    (succeeded : ∀ r ∈ s.log, 0 ≤ r) (idle : s.request = .idle) (flushed : s.writeConn = false)
    (wrote : payload actions ≠ []) :
    s.pos = (payload actions).length ∧ s.remote = some (payload actions) := by
  have session := (initial_session remote).run (.initial remote) ran admitted sequential succeeded
  rw [List.nil_append] at session
  exact session.idle_stored (Reachable.run (.initial remote) admitted ran) idle flushed wrote

/-- An `O_CREAT` open, a write of one byte, a flush, a write of the next byte,
which resumes the upload with `APPE`, and a flush, with the worker and libcurl
between them. -/
def writtenTwice : List Action :=
  [.open createFlags .started, .work, .call 4, .work, .work, .proceed true true,
    .write 0 [7] .started true, .proceed true true,
    .work, .work, .work, .call 4, .work, .work, .proceed true true,
    .flush, .proceed true true, .proceed true true, .proceed true true,
    .work, .work, .complete, .work, .work, .proceed true true, .proceed true true,
    .write 1 [8] .started true, .work, .call 4, .work, .work, .proceed true true, .proceed true true,
    .work, .work, .work, .call 4, .work, .work, .proceed true true,
    .flush, .proceed true true, .proceed true true, .proceed true true,
    .work, .work, .complete, .work, .work, .proceed true true, .proceed true true]

def writtenTwiceHandle : Handle :=
  ((initial none).run false writtenTwice).getD (initial none)

theorem sequential_writes_stored_writtenTwice :
    writtenTwiceHandle.pos = (payload writtenTwice).length ∧
      writtenTwiceHandle.remote = some (payload writtenTwice) :=
  sequential_writes_stored
    (show (initial none).run false writtenTwice = some writtenTwiceHandle from rfl) (by decide) (by decide) (by decide) rfl rfl (by decide)

end Steps

end Handle

end CurlFtpFs
