import CurlFtpFs.UploadProtocol

namespace CurlFtpFs

/-! Every wait of the upload ends. Each wait of the request thread (on `ready`,
`data_need`, `data_written` and in `pthread_join`) and of the worker (on
`data_avail`) is matched by a post the other thread has made or makes before it
can block itself; only a handle whose `write_conn` was set by a
`start_write_thread` that created no thread waits on `data_need` forever. -/

/-- The worker has posted `ready`: `write_data_bg` did on its first call, or
`ftpfs_write_thread` did after `curl_easy_perform` returned. -/
def Worker.signalled : Worker → Bool
  | .writtenPost _ | .availWait _ | .eofTest _ | .copy _ | .failing _ | .needPost | .exiting
  | .exited => true
  | _ => false

/-- The upload is being finished and `finish_write_thread` has not posted
`data_avail` yet. -/
def Request.testing : Request → Bool
  | .finishCall | .finishTest _ | .finishNeed _ => true
  | _ => false

def Request.ending : Request → Bool
  | .finishEof _ | .finishJoin _ => true
  | _ => false

def Request.needs : Request → Bool
  | .needWait _ _ | .finishNeed _ => true
  | _ => false

def Request.handing : Request → Bool
  | .startReady _ _ | .needWait _ _ | .writtenWait _ => true
  | _ => false

/-- Where the request thread can be while `write_conn` is set and no worker
exists. -/
def Request.stallable : Request → Bool
  | .closed | .idle | .needWait _ _ | .finishTest _ | .finishNeed _ => true
  | _ => false

namespace Handle

/-- The posts every wait of the upload needs: made, or still to come from a
thread that cannot block first. -/
structure Posted (s : Handle) : Prop where
  /-- `ready` is posted for a request thread that waits on it, once the worker
  passed its first post. -/
  ready : s.request.starting = true → s.worker.signalled = true → 0 < s.ready
  readied : s.request.starting = true → s.isready = true → 0 < s.ready
  /-- A callback that gave libcurl the whole payload posts `data_written`
  before it waits on `data_avail` again. -/
  returned : ∀ size, s.request = .writtenWait size → s.writeFailCause = 0 →
    s.writtenFlag = true → s.dataWritten = 0 → ∀ n, s.worker ≠ .availWait n
  /-- Before `finish_write_thread` posts `data_avail`, `eof` is clear, and
  `data_need` is posted or owed by a callback that has, or is about to take,
  the `data_avail` a non-sequential write posted. -/
  testing : s.request.testing = true → s.writeFailCause = 0 → s.worker ≠ .none →
    s.eof = false ∧ (s.dataNeed = 0 → s.dataAvail = 1 ∧ s.worker.waiting = true ∨
      s.dataAvail = 0 ∧ s.worker.copying = true)
  /-- After it, the worker finds `data_avail` posted. -/
  ending : s.request.ending = true → s.writeFailCause = 0 → s.worker.polling = true →
    0 < s.dataAvail
  /-- A failed worker posts `data_need` and `data_written` before it returns. -/
  needPosted : s.writeFailCause ≠ 0 → s.request.needs = true →
    s.worker = .needPost ∨ 0 < s.dataNeed
  writtenPosted : s.writeFailCause ≠ 0 → s.request.handing = true →
    s.worker = .needPost ∨ s.worker = .exiting ∨ 0 < s.dataWritten
  /-- Without a worker, `write_conn` is set only after `pthread_create` failed,
  with no failure recorded. -/
  stalled : s.worker = .none → s.writeConn = true →
    s.writeFailCause = 0 ∧ s.request.stallable = true

section Steps

variable {s s' : Handle}

theorem Request.classes_of_quiet {r : Request} (quiet : r.quiet = true) :
    r.starting = false ∧ r.testing = false ∧ r.ending = false ∧ r.needs = false ∧
      r.handing = false := by
  cases r <;> simp_all [Request.quiet, Request.starting, Request.testing, Request.ending,
    Request.needs, Request.handing]

theorem Request.finishing_of_testing {r : Request} (t : r.testing = true) : r.finishing = true := by
  cases r <;> simp_all [Request.finishing, Request.testing]

theorem Request.finishing_of_ending {r : Request} (e : r.ending = true) : r.finishing = true := by
  cases r <;> simp_all [Request.finishing, Request.ending]

theorem Posted.of_quiet (quiet : s.request.quiet = true)
    (stalled : s.worker = .none → s.writeConn = true →
      s.writeFailCause = 0 ∧ s.request.stallable = true) : s.Posted := by
  obtain ⟨starting, testing, ending, needs, handing⟩ := Request.classes_of_quiet quiet
  exact ⟨fun h => (by simp [starting] at h), fun h => (by simp [starting] at h),
    fun _ waiting => (by simp [waiting, Request.quiet] at quiet), fun h => (by simp [testing] at h),
    fun h => (by simp [ending] at h), fun _ h => (by simp [needs] at h),
    fun _ h => (by simp [handing] at h), stalled⟩

theorem Posted.testing_rewait (q : s.Posted) (request : s'.request = s.request)
    (failCause : s'.writeFailCause = s.writeFailCause) (eof : s'.eof = s.eof)
    (need : s'.dataNeed = s.dataNeed) (avail : s'.dataAvail = s.dataAvail)
    (alive : s.worker ≠ .none) (idle : s.worker.copying = false)
    (waiting : s'.worker.waiting = true) :
    s'.request.testing = true → s'.writeFailCause = 0 → s'.worker ≠ .none →
      s'.eof = false ∧ (s'.dataNeed = 0 → s'.dataAvail = 1 ∧ s'.worker.waiting = true ∨
        s'.dataAvail = 0 ∧ s'.worker.copying = true) := by
  rw [request, failCause, eof, need, avail]
  intro t ok _
  obtain ⟨unseen, turn⟩ := q.testing t ok alive
  exact ⟨unseen, fun none => .inl ⟨((turn none).resolve_right (by simp [idle])).1, waiting⟩⟩

theorem Posted.ending_keep (q : s.Posted) (request : s'.request = s.request)
    (failCause : s'.writeFailCause = s.writeFailCause) (avail : s'.dataAvail = s.dataAvail)
    (polling : s'.worker.polling = true → s.worker.polling = true) :
    s'.request.ending = true → s'.writeFailCause = 0 → s'.worker.polling = true →
      0 < s'.dataAvail := by
  rw [request, failCause, avail]
  exact fun e ok next => q.ending e ok (polling next)

theorem Posted.ready_of_performed (q : s.Posted) (starting : s.request.starting = true) :
    0 < if s.isready then s.ready else s.ready + 1 := by
  cases known : s.isready
  · simp
  · simpa using q.readied starting known

theorem Posted.work (p : s.Protocol) (q : s.Posted) (worked : s.work = some s') : s'.Posted := by
  cases Works.of_work worked with
  | launched w =>
      have ok := p.ok_of_running (by simp [w, Worker.failed])
      exact ⟨fun _ signalled => (by cases signalled), q.readied, fun _ _ _ _ _ _ => (by simp),
        q.testing_rewait rfl rfl rfl rfl rfl (by simp [w]) (by simp [w, Worker.copying]) rfl,
        q.ending_keep rfl rfl rfl fun _ => (by simp [w, Worker.polling]),
        fun failed => absurd ok failed, fun failed => absurd ok failed, fun none => (by cases none)⟩
  | readyPosted w _ | readyKnown w _ =>
      have ok := p.ok_of_running (by simp [w, Worker.failed])
      refine ⟨fun starting _ => ?_, fun starting _ => ?_, fun _ _ _ _ _ _ => (by simp),
        q.testing_rewait rfl rfl rfl rfl rfl (by simp [w]) (by simp [w, Worker.copying]) rfl,
        q.ending_keep rfl rfl rfl fun _ => (by simp [w, Worker.polling]),
        fun failed => absurd ok failed, fun failed => absurd ok failed, fun none => (by cases none)⟩
      all_goals first | exact Nat.succ_pos _ | exact q.readied starting ‹_›
  | writtenPosted w _ _ =>
      have ok := p.ok_of_running (by simp [w, Worker.failed])
      exact ⟨fun starting _ => q.ready starting (by simp [w, Worker.signalled]), q.readied,
        fun _ _ _ _ none => absurd none (by simp),
        q.testing_rewait rfl rfl rfl rfl rfl (by simp [w]) (by simp [w, Worker.copying]) rfl,
        q.ending_keep rfl rfl rfl fun _ => (by simp [w, Worker.polling]),
        fun failed => absurd ok failed, fun failed => absurd ok failed, fun none => (by cases none)⟩
  | writtenPending w pending =>
      have ok := p.ok_of_running (by simp [w, Worker.failed])
      refine ⟨fun starting _ => q.ready starting (by simp [w, Worker.signalled]), q.readied,
        fun size (waiting : s.request = .writtenWait size) _ (flag : s.writtenFlag = true) => ?_,
        q.testing_rewait rfl rfl rfl rfl rfl (by simp [w]) (by simp [w, Worker.copying]) rfl,
        q.ending_keep rfl rfl rfl fun _ => (by simp [w, Worker.polling]),
        fun failed => absurd ok failed, fun failed => absurd ok failed, fun none => (by cases none)⟩
      rcases (turn_writtenWait waiting).1 (p.turn ok (by simp [w])) with d | r
      · simp [d.flag] at flag
      · exact absurd ⟨r.empty, flag⟩ pending
  | availTaken w _ =>
      have ok := p.ok_of_running (by simp [w, Worker.failed])
      refine ⟨fun starting _ => q.ready starting (by simp [w, Worker.signalled]), q.readied,
        fun _ _ _ _ _ _ => (by simp), fun t ok' _ => ?_, fun _ _ polling => (by cases polling),
        fun failed => absurd ok failed, fun failed => absurd ok failed, fun none => (by cases none)⟩
      obtain ⟨unseen, turn⟩ := q.testing t ok' (by simp [w])
      refine ⟨unseen, fun none => .inr ⟨?_, rfl⟩⟩
      simp [((turn none).resolve_right (by simp [w, Worker.copying])).1]
  | eofSeen w ended =>
      have ok := p.ok_of_running (by simp [w, Worker.failed])
      exact ⟨fun _ signalled => (by cases signalled), q.readied, fun _ _ _ _ _ _ => (by simp),
        fun t ok' _ => absurd ended (by simp [(q.testing t ok' (by simp [w])).1]),
        fun _ _ polling => (by cases polling), fun failed => absurd ok failed,
        fun failed => absurd ok failed, fun none => (by cases none)⟩
  | eofUnseen w _ =>
      have ok := p.ok_of_running (by simp [w, Worker.failed])
      refine ⟨fun starting _ => q.ready starting (by simp [w, Worker.signalled]), q.readied,
        fun _ _ _ _ _ _ => (by simp), fun t ok' _ => ?_, fun _ _ polling => (by cases polling),
        fun failed => absurd ok failed, fun failed => absurd ok failed, fun none => (by cases none)⟩
      obtain ⟨unseen, turn⟩ := q.testing t ok' (by simp [w])
      exact ⟨unseen, fun none => .inr ⟨((turn none).resolve_left (by simp [w, Worker.waiting])).1, rfl⟩⟩
  | copiedPart w part =>
      have ok := p.ok_of_running (by simp [w, Worker.failed])
      have outside : s.request.finishing = false := by
        by_contra finishing
        have f := (turn_finishing (by simpa using finishing)).1 (p.turn ok (by simp [w]))
        simp [f.empty] at part
      exact ⟨fun _ signalled => (by cases signalled), q.readied, fun _ _ _ _ _ _ => (by simp),
        fun t => absurd (Request.finishing_of_testing t) (by simp [outside]),
        fun e => absurd (Request.finishing_of_ending e) (by simp [outside]),
        fun failed => absurd ok failed, fun failed => absurd ok failed, fun none => (by cases none)⟩
  | copiedAll w _ =>
      have ok := p.ok_of_running (by simp [w, Worker.failed])
      have empty : s.request.ending = true → s.streamBuf = [] := fun e =>
        ((turn_finishing (Request.finishing_of_ending e)).1 (p.turn ok (by simp [w]))).empty
      exact ⟨fun _ signalled => (by simp [Worker.signalled] at signalled), q.readied,
        fun _ _ _ _ _ _ => (by simp),
        fun t ok' _ => ⟨(q.testing t ok' (by simp [w])).1, fun none => (by simp at none)⟩,
        fun e _ polling => (by simp [empty e, Worker.polling] at polling),
        fun failed => absurd ok failed, fun failed => absurd ok failed, fun none => (by cases none)⟩
  | succeeded w =>
      have ok := p.ok_of_running (by simp [w, Worker.failed])
      have running : s.worker ≠ .none := by simp [w]
      exact ⟨fun starting _ => q.ready_of_performed starting,
        fun starting _ => q.ready_of_performed starting, fun _ _ _ _ _ _ => (by simp),
        fun t ok' _ => ⟨(q.testing t ok' running).1, fun none => absurd
          ((q.testing t ok' running).2 none) (by simp [w, Worker.waiting, Worker.copying])⟩,
        fun _ _ polling => (by cases polling), fun failed => absurd ok failed,
        fun failed => absurd ok failed, fun none => (by cases none)⟩
  | failed w nonzero =>
      have ok := p.ok_of_running (by simp [w, Worker.failed])
      exact ⟨fun starting _ => q.ready_of_performed starting,
        fun starting _ => q.ready_of_performed starting, fun _ _ _ _ _ _ => (by simp),
        q.testing_rewait rfl rfl rfl rfl rfl (by simp [w]) (by simp [w, Worker.copying]) rfl,
        fun _ _ polling => (by cases polling), fun failed => absurd ok failed,
        fun failed => absurd ok failed, fun none => (by cases none)⟩
  | failing w =>
      have nonzero := p.life.failing _ w
      exact ⟨fun starting _ => q.ready starting (by simp [w, Worker.signalled]), q.readied,
        fun _ _ ok => absurd ok nonzero, fun _ ok => absurd ok nonzero,
        fun _ ok => absurd ok nonzero, fun _ _ => .inl rfl, fun _ _ => .inl rfl,
        fun none => (by cases none)⟩
  | exiting w =>
      have running : s.worker ≠ .none := by simp [w]
      exact ⟨fun starting _ => q.ready starting (by simp [w, Worker.signalled]), q.readied,
        fun _ _ _ _ none => absurd none (by simp),
        fun t ok _ => ⟨(q.testing t ok running).1, fun none => absurd ((q.testing t ok running).2 none)
          (by simp [w, Worker.waiting, Worker.copying])⟩,
        fun _ _ polling => (by cases polling),
        fun failed needs => .inr ((q.needPosted failed needs).resolve_left (by simp [w])),
        fun _ _ => .inr (.inr (Nat.succ_pos _)), fun none => (by cases none)⟩
  | needPosted w =>
      have running : s.worker ≠ .none := by simp [w]
      exact ⟨fun starting _ => q.ready starting (by simp [w, Worker.signalled]), q.readied,
        fun _ _ _ _ _ _ => (by simp),
        fun t ok _ => ⟨(q.testing t ok running).1, fun none => (by simp at none)⟩,
        fun _ _ polling => (by cases polling), fun _ _ => .inr (Nat.succ_pos _),
        fun _ _ => .inr (.inl rfl), fun none => (by cases none)⟩

theorem Posted.call (p : s.Protocol) (q : s.Posted) {n : Nat} (called : s.call n = some s') :
    s'.Posted := by
  obtain ⟨running, -, rfl⟩ := call_cases called
  have ok := p.ok_of_running (by simp [running, Worker.failed])
  exact ⟨fun _ signalled => (by cases signalled), q.readied, fun _ _ _ _ _ _ => (by simp),
    q.testing_rewait rfl rfl rfl rfl rfl (by simp [running]) (by simp [running, Worker.copying]) rfl,
    q.ending_keep rfl rfl rfl fun _ => (by simp [running, Worker.polling]),
    fun failed => absurd ok failed, fun failed => absurd ok failed, fun none => (by cases none)⟩

theorem Posted.fail (p : s.Protocol) (q : s.Posted) {code : Int} (failed : s.fail code = some s') :
    s'.Posted := by
  obtain ⟨ended, running, nonzero, rfl⟩ := fail_cases failed
  have ok := p.ok_of_running (by simp [running, Worker.failed])
  refine ⟨fun _ signalled => (by cases signalled), q.readied, fun _ _ _ _ _ _ => (by simp),
    fun t ok' _ => ?_, fun _ _ polling => (by cases polling), fun failed => absurd ok failed,
    fun failed => absurd ok failed, fun none => (by cases none)⟩
  obtain ⟨unseen, turn⟩ := q.testing t ok' (by simp [running])
  exact ⟨unseen, fun none => .inl ⟨((turn none).resolve_right (by simp [running, Worker.copying])).1,
    by simp [Worker.waiting, nonzero]⟩⟩

theorem Posted.complete (p : s.Protocol) (q : s.Posted) (completed : s.complete = some s') :
    s'.Posted := by
  obtain ⟨running, rfl⟩ := complete_cases completed
  have ok := p.ok_of_running (by simp [running, Worker.failed])
  refine ⟨fun _ signalled => (by cases signalled), q.readied, fun _ _ _ _ _ _ => (by simp),
    fun t ok' _ => ?_, fun _ _ polling => (by cases polling), fun failed => absurd ok failed,
    fun failed => absurd ok failed, fun none => (by cases none)⟩
  obtain ⟨unseen, turn⟩ := q.testing t ok' (by simp [running])
  exact ⟨unseen, fun none => absurd (turn none) (by simp [running, Worker.waiting, Worker.copying])⟩

theorem Posted.proceed (p : s.Protocol) (q : s.Posted) {allocated listed : Bool}
    (proceeded : s.proceed allocated listed = some s') : s'.Posted := by
  cases Proceeds.of_proceed proceeded with
  | openReady opening _ =>
      exact Posted.of_quiet rfl fun none => absurd none
        (p.alive_of_starting (by simp [opening, Request.starting]))
  | startReady starting _ =>
      have alive := p.alive_of_starting (by simp [starting, Request.starting])
      exact ⟨fun h => (by cases h), fun h => (by cases h), fun _ h => (by cases h),
        fun h => (by cases h), fun h => (by cases h), fun _ _ => .inr (Nat.succ_pos _),
        fun failed _ => q.writtenPosted failed (by simp [starting, Request.handing]),
        fun none => absurd none alive⟩
  | nonSequential waiting need _ =>
      have alive := p.alive_of_need (by simp [waiting, Request.quiet]) need
      refine ⟨fun h => (by cases h), fun h => (by cases h), fun _ h => (by cases h),
        fun _ ok _ => ?_, fun h => (by cases h), fun _ h => (by cases h), fun _ h => (by cases h),
        fun none => absurd none alive⟩
      obtain ⟨quiet, one⟩ := (turn_needWait waiting).1 (p.turn ok alive)
      exact ⟨quiet.eof, fun _ => .inl ⟨by simp [quiet.avail], quiet.waiting⟩⟩
  | outOfMemory waiting need _ =>
      exact Posted.of_quiet rfl fun none => absurd none
        (p.alive_of_need (by simp [waiting, Request.quiet]) need)
  | handOff waiting need _ =>
      have alive := p.alive_of_need (by simp [waiting, Request.quiet]) need
      exact ⟨fun h => (by cases h), fun h => (by cases h),
        fun _ _ ok flag => absurd flag
          (by simp [((turn_needWait waiting).1 (p.turn ok alive)).1.flag]),
        fun h => (by cases h), fun h => (by cases h), fun _ h => (by cases h),
        fun failed _ => q.writtenPosted failed (by simp [waiting, Request.handing]),
        fun none => absurd none alive⟩
  | written waiting _ =>
      exact Posted.of_quiet rfl fun none connected =>
        absurd (q.stalled none connected).2 (by simp [waiting, Request.stallable])
  | finishCalled calling =>
      exact ⟨fun h => (by cases h), fun h => (by cases h), fun _ h => (by cases h),
        fun _ => q.testing (by simp [calling, Request.testing]), fun h => (by cases h),
        fun _ h => (by cases h), fun _ h => (by cases h), fun none connected =>
          absurd (q.stalled none connected).2 (by simp [calling, Request.stallable])⟩
  | finishWaits testing ok =>
      exact ⟨fun h => (by cases h), fun h => (by cases h), fun _ h => (by cases h),
        fun _ => q.testing (by simp [testing, Request.testing]), fun h => (by cases h),
        fun failed => absurd ok failed, fun _ h => (by cases h),
        fun none connected => ⟨(q.stalled none connected).1, rfl⟩⟩
  | finishFailed _ failed =>
      exact ⟨fun h => (by cases h), fun h => (by cases h), fun _ h => (by cases h),
        fun h => (by cases h), fun _ ok => absurd ok failed, fun _ h => (by cases h),
        fun _ h => (by cases h), fun none connected => absurd (q.stalled none connected).1 failed⟩
  | finishNeed needing need =>
      have alive := p.alive_of_need (by simp [needing, Request.quiet]) need
      exact ⟨fun h => (by cases h), fun h => (by cases h), fun _ h => (by cases h),
        fun h => (by cases h), fun _ _ _ => Nat.succ_pos _, fun _ h => (by cases h),
        fun _ h => (by cases h), fun none => absurd none alive⟩
  | finishEof ending =>
      exact ⟨fun h => (by cases h), fun h => (by cases h), fun _ h => (by cases h),
        fun h => (by cases h), fun _ => q.ending (by simp [ending, Request.ending]),
        fun _ h => (by cases h), fun _ h => (by cases h), fun none connected =>
          absurd (q.stalled none connected).2 (by simp [ending, Request.stallable])⟩
  | @joined caller _ _ =>
      obtain ⟨request, log, joined, quiet⟩ := s.finishJoined_eq caller
      rw [joined]
      exact Posted.of_quiet quiet fun _ connected => (by cases connected)
  | @sizeChecked caller checking =>
      obtain ⟨failCause, request, log, checked, -, quiet⟩ := s.flushChecked_eq listed caller
      rw [checked]
      exact Posted.of_quiet quiet fun none connected =>
        absurd (q.stalled none connected).2 (by simp [checking, Request.stallable])

variable {rwWorkaround : Bool}

theorem Posted.started (opened : s'.worker = .launched) (fresh : s'.isready = false)
    (ok : s'.writeFailCause = 0) (starting : s'.request.starting = true) : s'.Posted := by
  have classes : s'.request.testing = false ∧ s'.request.ending = false ∧
      s'.request.needs = false ∧ ∀ size, s'.request ≠ .writtenWait size := by
    cases r : s'.request <;> simp_all [Request.starting, Request.testing, Request.ending,
      Request.needs]
  obtain ⟨testing, ending, needs, handing⟩ := classes
  exact ⟨fun _ signalled => (by simp [opened, Worker.signalled] at signalled),
    fun _ known => (by simp [fresh] at known), fun size waiting => absurd waiting (handing size),
    fun h => (by simp [testing] at h), fun h => (by simp [ending] at h),
    fun failed => absurd ok failed, fun failed => absurd ok failed,
    fun none => (by simp [opened] at none)⟩

theorem ftpfsOpenCommon_posted {flags : OpenFlags} {start : StartOutcome}
    (opened : s.ftpfsOpenCommon rwWorkaround flags start = some s') : s'.Posted := by
  obtain ⟨-, ⟨r, rfl⟩ | ⟨_, rfl⟩ | rfl | ⟨-, rfl⟩⟩ := ftpfsOpenCommon_cases opened
  · exact Posted.of_quiet rfl fun _ connected => (by cases connected)
  · cases start <;> exact Posted.of_quiet rfl fun _ _ => ⟨rfl, rfl⟩
  · exact Posted.of_quiet rfl fun _ connected => (by cases connected)
  · exact Posted.started rfl rfl rfl rfl

theorem Posted.ftpfsWrite (q : s.Posted) {offset : Nat} {data : List UInt8}
    {start : StartOutcome} {listed : Bool}
    (written : s.ftpfsWrite offset data start listed = some s') : s'.Posted := by
  obtain ⟨idle, ⟨r, rfl⟩ | ⟨ok, -, _, rfl⟩ | ⟨ok, -, -, rfl⟩ | ⟨ok, -, rfl⟩⟩ :=
    ftpfsWrite_cases written
  · exact Posted.of_quiet rfl fun none connected => ⟨(q.stalled none connected).1, rfl⟩
  · cases start <;> exact Posted.of_quiet rfl fun _ _ => ⟨ok, rfl⟩
  · exact Posted.started rfl rfl ok rfl
  · exact ⟨fun h => (by cases h), fun h => (by cases h), fun _ h => (by cases h),
      fun h => (by cases h), fun h => (by cases h), fun failed => absurd ok failed,
      fun failed => absurd ok failed, fun _ _ => ⟨ok, rfl⟩⟩

theorem Posted.finishTest (p : s.Protocol) (q : s.Posted) (idle : s.request = .idle)
    {caller : Caller} : ({ s with request := .finishTest caller } : Handle).Posted :=
  ⟨fun h => (by cases h), fun h => (by cases h), fun _ h => (by cases h),
    fun _ ok alive => ⟨((turn_idle idle).1 (p.turn ok alive)).1.eof, fun none => absurd none
      (by simp [((turn_idle idle).1 (p.turn ok alive)).2])⟩,
    fun h => (by cases h), fun _ h => (by cases h), fun _ h => (by cases h),
    fun none connected => ⟨(q.stalled none connected).1, rfl⟩⟩

theorem Posted.step (p : s.Protocol) (q : s.Posted) {a : Action}
    (stepped : s.step rwWorkaround a = some s') : s'.Posted := by
  cases a with
  | «open» flags start => exact ftpfsOpenCommon_posted stepped
  | write offset data start listed => exact q.ftpfsWrite stepped
  | flush =>
      obtain ⟨idle, ⟨_, rfl⟩ | ⟨conn, rfl⟩⟩ := ftpfsFlush_cases stepped
      · exact q.finishTest p idle
      · exact Posted.of_quiet rfl fun _ connected => absurd connected (by simp [reply, conn])
  | release =>
      obtain ⟨idle, ⟨_, rfl⟩ | ⟨conn, rfl⟩⟩ := ftpfsRelease_cases stepped
      · exact q.finishTest p idle
      · exact Posted.of_quiet rfl fun _ connected => absurd connected (by simp [freed, conn])
  | ftruncate offset created listed =>
      obtain ⟨idle, r, mayStart, remote, rfl⟩ := ftpfsFtruncate_cases stepped
      exact Posted.of_quiet rfl fun none connected => ⟨(q.stalled none connected).1, rfl⟩
  | proceed allocated listed => exact q.proceed p stepped
  | call n => exact q.call p stepped
  | fail code => exact q.fail p stepped
  | complete => exact q.complete p stepped
  | work => exact q.work p stepped
  | external file =>
      cases stepped
      exact ⟨q.ready, q.readied, q.returned, q.testing, q.ending, q.needPosted, q.writtenPosted,
        q.stalled⟩

theorem initial_posted (remote : Option (List UInt8)) : (initial remote).Posted :=
  Posted.of_quiet rfl fun _ connected => (by cases connected)

theorem Reachable.posted (reach : Reachable rwWorkaround (fun a => a.sized = true) s) :
    s.Posted := by
  induction reach with
  | initial remote => exact initial_posted remote
  | step reached _ stepped q => exact q.step reached.protocol stepped

/-! ### Progress -/

theorem proceed_enabled (allocated listed : Bool) (inside : s.request.quiet = false)
    (ready : s.request.starting = true → 0 < s.ready)
    (need : s.request.needs = true → 0 < s.dataNeed)
    (written : ∀ size, s.request = .writtenWait size → 0 < s.dataWritten)
    (joined : ∀ caller, s.request = .finishJoin caller → s.worker = .exited) :
    ∃ s', s.proceed allocated listed = some s' := by
  cases r : s.request with
  | openReady | startReady =>
      simp [proceed, r, Nat.pos_iff_ne_zero.mp (ready (by simp [r, Request.starting]))]
  | needWait =>
      simp only [proceed, r, Nat.pos_iff_ne_zero.mp (need (by simp [r, Request.needs])), if_false]
      split <;> [simp; split <;> simp]
  | writtenWait size => simp [proceed, r, Nat.pos_iff_ne_zero.mp (written size r)]
  | finishCall => simp [proceed, r]
  | finishTest =>
      simp only [proceed, r]
      split <;> simp
  | finishNeed => simp [proceed, r, Nat.pos_iff_ne_zero.mp (need (by simp [r, Request.needs]))]
  | finishEof => simp [proceed, r]
  | finishJoin caller => simp [proceed, r, joined caller r]
  | closed | idle | sizeCheck => simp [r, Request.quiet] at inside

theorem work_enabled (present : s.worker ≠ .none) (alive : s.worker ≠ .exited)
    (outside : ∀ ended, s.worker ≠ .perform ended)
    (avail : ∀ n, s.worker = .availWait n → 0 < s.dataAvail) : ∃ s', s.work = some s' := by
  cases w : s.worker with
  | none => exact absurd w present
  | exited => exact absurd w alive
  | perform ended => exact absurd w (outside ended)
  | availWait n => simp [work, w, Nat.pos_iff_ne_zero.mp (avail n w)]
  | readyPost | writtenPost | eofTest | copy =>
      simp only [work, w]
      split <;> simp
  | launched | performed | failing | needPost | exiting => simp [work, w]

/-- A worker blocked for good (returned, or waiting on `data_avail` with count
0) leaves the request thread a post to take. -/
theorem Posted.proceeds_of_blocked (p : s.Protocol) (q : s.Posted)
    (inside : s.request.quiet = false)
    (blocked : s.worker = .exited ∨ (∃ n, s.worker = .availWait n) ∧ s.dataAvail = 0)
    (allocated listed : Bool) : ∃ s', s.proceed allocated listed = some s' := by
  have alive : s.worker ≠ .none := by rcases blocked with w | ⟨⟨n, w⟩, -⟩ <;> simp [w]
  have stuck : s.worker.waiting = true → s.dataAvail = 0 ∧ ∃ n, s.worker = .availWait n := by
    rcases blocked with e | ⟨⟨n, a⟩, none⟩
    · simp [e, Worker.waiting]
    · exact fun _ => ⟨none, n, a⟩
  have idle : s.worker.copying = false := by
    rcases blocked with w | ⟨⟨n, w⟩, -⟩ <;> simp [w, Worker.copying]
  have posting : s.worker ≠ .needPost ∧ s.worker ≠ .exiting := by
    rcases blocked with w | ⟨⟨n, w⟩, -⟩ <;> simp [w]
  refine proceed_enabled allocated listed inside (fun starting => q.ready starting ?_) (fun needs => ?_)
    (fun size waiting => ?_) (fun caller joining => ?_)
  · rcases blocked with w | ⟨⟨n, w⟩, -⟩ <;> simp [w, Worker.signalled]
  · by_cases ok : s.writeFailCause = 0
    · have t := p.turn ok alive
      cases r : s.request with
      | needWait => simp [((turn_needWait r).1 t).2]
      | finishNeed =>
          refine Nat.pos_of_ne_zero fun none => ?_
          rcases (q.testing (by simp [r, Request.testing]) ok alive).2 none with ⟨one, w⟩ | ⟨-, c⟩
          · simp [(stuck w).1] at one
          · simp [idle] at c
      | _ => simp [r, Request.needs] at needs
    · exact (q.needPosted ok needs).resolve_left posting.1
  · by_cases ok : s.writeFailCause = 0
    · rcases (turn_writtenWait waiting).1 (p.turn ok alive) with d | r
      · rcases d.turn with ⟨one, w⟩ | ⟨-, c⟩
        · simp [(stuck w).1] at one
        · simp [idle] at c
      · rcases r.post with ⟨none, w⟩ | ⟨one, -⟩
        · obtain ⟨-, n, a⟩ := stuck w
          exact absurd a (q.returned size waiting ok r.flag none n)
        · simp [one]
    · exact ((q.writtenPosted ok (by simp [waiting, Request.handing])).resolve_left
        posting.1).resolve_left posting.2
  · rcases blocked with e | ⟨⟨n, a⟩, none⟩
    · exact e
    · have ok := p.ok_of_running (by simp [a, Worker.failed])
      have := q.ending (by simp [joining, Request.ending]) ok (by simp [a, Worker.polling])
      simp [none] at this

/-- An upcall in progress never waits forever, except where
`start_write_thread` set `write_conn` and created no thread: the request thread
can go on, or the worker can, or libcurl asks for data or completes; otherwise
the handle has `write_conn` and no worker, and the request thread waits on
`data_need`, which nothing posts. -/
theorem upcall_progresses (reach : Reachable rwWorkaround (fun a => a.sized = true) s)
    (inside : s.request.quiet = false) :
    (∀ allocated listed, ∃ s', s.proceed allocated listed = some s') ∨ (∃ s', s.work = some s') ∨
      (∃ n s', s.call n = some s') ∨ (∃ s', s.complete = some s') ∨
      (s.worker = .none ∧ s.writeConn = true ∧ s.dataNeed = 0 ∧
        ((∃ offset data, s.request = .needWait offset data) ∨
          ∃ caller, s.request = .finishNeed caller)) := by
  have p := reach.protocol
  have q := reach.posted
  cases w : s.worker with
  | none =>
      cases conn : s.writeConn
      · simp [p.quiet w conn] at inside
      obtain ⟨ok, stallable⟩ := q.stalled w conn
      have need := (p.stalled w conn).1
      cases r : s.request with
      | needWait offset data => exact .inr (.inr (.inr (.inr ⟨rfl, rfl, need, .inl ⟨_, _, rfl⟩⟩)))
      | finishNeed caller => exact .inr (.inr (.inr (.inr ⟨rfl, rfl, need, .inr ⟨_, rfl⟩⟩)))
      | finishTest caller => exact .inl fun allocated listed => ⟨_, by simp [proceed, r, ok]; rfl⟩
      | closed | idle => simp [r, Request.quiet] at inside
      | _ => simp [r, Request.stallable] at stallable
  | perform ended =>
      cases ended
      · exact .inr (.inr (.inl ⟨1, _, by simp [call, w]; rfl⟩))
      · exact .inr (.inr (.inr (.inl ⟨_, by simp [complete, w]; rfl⟩)))
  | availWait n =>
      by_cases avail : 0 < s.dataAvail
      · exact .inr (.inl (work_enabled (by simp [w]) (by simp [w]) (by simp [w])
          fun _ _ => avail))
      · exact .inl (q.proceeds_of_blocked p inside (.inr ⟨⟨n, w⟩, by omega⟩))
  | exited => exact .inl (q.proceeds_of_blocked p inside (.inl w))
  | _ => exact .inr (.inl (work_enabled (by simp [w]) (by simp [w]) (by simp [w])
      fun _ a => by simp [w] at a))

theorem upcall_progresses_handingOff :
    handingOff.request.quiet = false ∧
      ((∀ allocated listed, ∃ s', handingOff.proceed allocated listed = some s') ∨
        (∃ s', handingOff.work = some s') ∨ (∃ n s', handingOff.call n = some s') ∨
        (∃ s', handingOff.complete = some s') ∨
        (handingOff.worker = .none ∧ handingOff.writeConn = true ∧ handingOff.dataNeed = 0 ∧
          ((∃ offset data, handingOff.request = .needWait offset data) ∨
            ∃ caller, handingOff.request = .finishNeed caller))) :=
  ⟨rfl, upcall_progresses handingOff_reachable rfl⟩

end Steps

end Handle

end CurlFtpFs
