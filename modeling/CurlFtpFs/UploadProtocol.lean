import CurlFtpFs.UploadLifecycle

namespace CurlFtpFs

/-! The hand-off between `ftpfs_write` and the read callback `write_data_bg`.
While no failure is recorded the turn passes in a fixed order: the request
thread appends its payload to `stream_buf` and posts `data_avail`; the callback
takes `data_avail`, copies what libcurl asks for and, once the buffer is empty,
sets `written_flag` and posts `data_need`; its next call posts `data_written`,
and only then does the write return. So the bytes libcurl took (`body`) and the
bytes left in `stream_buf` always make up the payloads handed off, and the
callback returns 0 only once the request thread has started finishing the
upload. -/

/-- The worker holds no payload: it sets the upload up, is inside
`curl_easy_perform` or `write_data_bg` before taking `data_avail`, or stores
a failure. -/
def Worker.waiting : Worker → Bool
  | .launched | .perform false | .readyPost _ | .writtenPost _ | .availWait _ | .failing _ => true
  | .performed res => res != 0
  | _ => false

def Worker.copying : Worker → Bool
  | .eofTest _ | .copy _ => true
  | _ => false

/-- Where the worker can be once a failure is recorded. -/
def Worker.failed : Worker → Bool
  | .none | .needPost | .exiting | .exited => true
  | _ => false

/-- The worker takes `data_avail` before the upload can end. -/
def Worker.polling : Worker → Bool
  | .launched | .perform false | .readyPost _ | .writtenPost _ | .availWait _ => true
  | _ => false

def Request.starting : Request → Bool
  | .openReady | .startReady _ _ => true
  | _ => false

/-- The request thread has started finishing the upload: a non-sequential
write posted `data_avail` and calls `finish_write_thread`, or that runs. -/
def Request.finishing : Request → Bool
  | .finishCall | .finishTest _ | .finishNeed _ | .finishEof _ | .finishJoin _ => true
  | _ => false

/-- A write carries at least one byte: FUSE never writes 0 bytes. -/
def Action.sized : Action → Bool
  | .write _ data _ _ => !data.isEmpty
  | _ => true

namespace Handle

/-- No payload is in flight: the buffer is empty, no `data_avail` or
`data_written` post is pending, no flag is set, and the worker waits for data. -/
structure Quiet (s : Handle) : Prop where
  empty : s.streamBuf = []
  avail : s.dataAvail = 0
  written : s.dataWritten = 0
  flag : s.writtenFlag = false
  eof : s.eof = false
  waiting : s.worker.waiting = true

/-- A payload is in flight and the worker has it: either `data_avail` is
posted for a worker still to take it, or the callback took it and copies. -/
structure Pending (s : Handle) : Prop where
  nonempty : s.streamBuf ≠ []
  need : s.dataNeed = 0
  written : s.dataWritten = 0
  flag : s.writtenFlag = false
  eof : s.eof = false
  turn : s.dataAvail = 1 ∧ s.worker.waiting = true ∨ s.dataAvail = 0 ∧ s.worker.copying = true

/-- The callback gave libcurl the last byte of the payload: `written_flag` is
set and `data_need` posted, and the callback's next call posts (or posted)
`data_written`. -/
structure Returned (s : Handle) : Prop where
  empty : s.streamBuf = []
  flag : s.writtenFlag = true
  need : s.dataNeed = 1
  avail : s.dataAvail = 0
  eof : s.eof = false
  post : s.dataWritten = 0 ∧ s.worker.waiting = true ∨
    s.dataWritten = 1 ∧ ∃ n, s.worker = .availWait n

/-- While the upload is being finished: nothing is left in the buffer;
`data_avail` and `data_need` hold one post between them, which a worker still
polling is owed and a copying worker has taken; and `data_written` is posted
only by the worker's exit, as a callback posts it only after a payload. -/
structure Finish (s : Handle) : Prop where
  empty : s.streamBuf = []
  posts : s.dataAvail + s.dataNeed ≤ 1
  polling : s.worker.polling = true → s.dataAvail + s.dataNeed = 1 ∧ s.writtenFlag = false
  copying : s.worker.copying = true → s.dataAvail = 0 ∧ s.dataNeed = 0 ∧ s.writtenFlag = false
  written : s.worker ≠ .exited → s.dataWritten = 0
  writtenOnce : s.dataWritten ≤ 1
  running : s.worker ≠ .needPost

/-- Whose turn it is while the worker runs and no failure is recorded, by
where the request thread is. -/
def Turn (s : Handle) : Prop :=
  match s.request with
  | .openReady | .startReady _ _ => s.Quiet ∧ s.dataNeed = 0
  | .idle | .needWait _ _ => s.Quiet ∧ s.dataNeed = 1
  | .writtenWait _ => s.Pending ∨ s.Returned
  | .finishCall | .finishTest _ | .finishNeed _ | .finishEof _ | .finishJoin _ => s.Finish
  | .closed | .sizeCheck _ => True

/-- What every state of a handle whose writes carry bytes keeps about the
hand-off. -/
structure Protocol (s : Handle) : Prop where
  life : s.Lifecycle
  handed : s.body ++ s.streamBuf = s.handed
  sized : ∀ offset data,
    s.request = .needWait offset data ∨ s.request = .startReady offset data → data ≠ []
  clean : s.worker = .none → s.writeFailCause = 0 → s.streamBuf = []
  quiet : s.worker = .none → s.writeConn = false → s.request.quiet = true
  stalled : s.worker = .none → s.writeConn = true → s.dataNeed = 0 ∧ s.request.starting = false
  failed : s.writeFailCause ≠ 0 → s.worker.failed = true
  turn : s.writeFailCause = 0 → s.worker ≠ .none → s.Turn

section Steps

variable {s s' : Handle}

theorem Worker.copying_of_waiting {w : Worker} (waiting : w.waiting = true) :
    w.copying = false := by
  cases w <;> simp_all [Worker.waiting, Worker.copying]

theorem Worker.failed_of_copying {w : Worker} (copying : w.copying = true) :
    w.failed = false := by
  cases w <;> simp_all [Worker.copying, Worker.failed]

theorem Protocol.ok_of_running (p : s.Protocol) (running : s.worker.failed = false) :
    s.writeFailCause = 0 :=
  by_contra fun failed => by simp [p.failed failed] at running

theorem Request.starting_of_quiet {r : Request} (quiet : r.quiet = true) : r.starting = false := by
  cases r <;> simp_all [Request.quiet, Request.starting]

theorem Request.sized_of_quiet {r : Request} (quiet : r.quiet = true) (offset : Nat)
    (data : List UInt8) : ¬(r = .needWait offset data ∨ r = .startReady offset data) := by
  rintro (rfl | rfl) <;> simp [Request.quiet] at quiet

theorem turn_idle (idle : s.request = .idle) : s.Turn ↔ s.Quiet ∧ s.dataNeed = 1 := by
  simp [Turn, idle]

theorem turn_needWait {offset : Nat} {data : List UInt8} (waiting : s.request = .needWait offset data) :
    s.Turn ↔ s.Quiet ∧ s.dataNeed = 1 := by
  simp [Turn, waiting]

theorem turn_starting (starting : s.request.starting = true) :
    s.Turn ↔ s.Quiet ∧ s.dataNeed = 0 := by
  unfold Turn
  split <;> simp_all [Request.starting]

theorem turn_writtenWait {size : Nat} (waiting : s.request = .writtenWait size) :
    s.Turn ↔ s.Pending ∨ s.Returned := by
  simp [Turn, waiting]

theorem turn_finishing (finishing : s.request.finishing = true) : s.Turn ↔ s.Finish := by
  unfold Turn
  split <;> simp_all [Request.finishing]

theorem turn_closed (closed : s.request = .closed) : s.Turn := by
  simp [Turn, closed]

theorem Protocol.alive_of_starting (p : s.Protocol) (starting : s.request.starting = true) :
    s.worker ≠ .none := fun absent => by
  cases conn : s.writeConn
  · have quiet := p.quiet absent conn
    cases h : s.request <;> simp_all [Request.quiet, Request.starting]
  · simp [(p.stalled absent conn).2] at starting

theorem Protocol.alive_of_need (p : s.Protocol) (inside : s.request.quiet = false)
    (need : 0 < s.dataNeed) : s.worker ≠ .none := fun absent => by
  cases conn : s.writeConn
  · simp [p.quiet absent conn] at inside
  · simp [(p.stalled absent conn).1] at need

/-! ### Finishing the upload -/

theorem Finish.keep (f : s.Finish) (buf : s'.streamBuf = s.streamBuf)
    (avail : s'.dataAvail = s.dataAvail) (need : s'.dataNeed = s.dataNeed)
    (written : s'.dataWritten = s.dataWritten) (flag : s'.writtenFlag = s.writtenFlag)
    (polling : s'.worker.polling = true → s.worker.polling = true)
    (copying : s'.worker.copying = true → s.worker.copying = true)
    (exited : s.worker = .exited → s'.worker = .exited) (running : s'.worker ≠ .needPost) :
    s'.Finish where
  empty := buf.trans f.empty
  posts := by rw [avail, need]; exact f.posts
  polling p := by rw [avail, need, flag]; exact f.polling (polling p)
  copying c := by rw [avail, need, flag]; exact f.copying (copying c)
  written e := by rw [written]; exact f.written (mt exited e)
  writtenOnce := written ▸ f.writtenOnce
  running := running

theorem Finish.congr (f : s.Finish) (worker : s'.worker = s.worker)
    (buf : s'.streamBuf = s.streamBuf) (avail : s'.dataAvail = s.dataAvail)
    (need : s'.dataNeed = s.dataNeed) (written : s'.dataWritten = s.dataWritten)
    (flag : s'.writtenFlag = s.writtenFlag) : s'.Finish :=
  f.keep buf avail need written flag (by rw [worker]; exact id) (by rw [worker]; exact id)
    (by rw [worker]; exact id) (worker ▸ f.running)

theorem Quiet.finish (q : s.Quiet) (worker : s'.worker = s.worker)
    (buf : s'.streamBuf = s.streamBuf) (written : s'.dataWritten = s.dataWritten)
    (flag : s'.writtenFlag = s.writtenFlag) (posts : s'.dataAvail + s'.dataNeed = 1) :
    s'.Finish where
  empty := buf.trans q.empty
  posts := posts.le
  polling _ := ⟨posts, flag.trans q.flag⟩
  copying c := absurd (worker ▸ c) (by simp [Worker.copying_of_waiting q.waiting])
  written _ := written.trans q.written
  writtenOnce := by simp [written, q.written]
  running post := by
    have waiting := q.waiting
    rw [← worker, post] at waiting
    cases waiting

theorem Finish.needTaken (f : s.Finish) (positive : 0 < s.dataNeed) (worker : s'.worker = s.worker)
    (buf : s'.streamBuf = s.streamBuf) (avail : s'.dataAvail = s.dataAvail + 1)
    (need : s'.dataNeed = s.dataNeed - 1) (written : s'.dataWritten = s.dataWritten)
    (flag : s'.writtenFlag = s.writtenFlag) : s'.Finish where
  empty := buf.trans f.empty
  posts := by have := f.posts; omega
  polling p := by
    have := f.polling (worker ▸ p)
    exact ⟨by omega, flag.trans this.2⟩
  copying c := by have := f.copying (worker ▸ c); omega
  written e := written.trans (f.written (worker ▸ e))
  writtenOnce := written ▸ f.writtenOnce
  running := worker ▸ f.running

/-- A worker step keeps `Finish` while no failure is recorded: the worker
takes the post owed to it, finds the buffer empty, posts `data_need`
and returns 0, and only its exit posts `data_written`. -/
theorem Finish.work (f : s.Finish) (life : s.Lifecycle) (ok : s'.writeFailCause = 0)
    (worked : s.work = some s') : s'.Finish := by
  cases Works.of_work worked with
  | launched w | readyPosted w _ | readyKnown w _ | writtenPending w _ =>
      exact f.keep rfl rfl rfl rfl rfl (fun _ => by simp [w, Worker.polling])
        (by simp [Worker.copying]) (by simp [w]) (by simp)
  | writtenPosted w _ flagged =>
      simp [(f.polling (by simp [w, Worker.polling])).2] at flagged
  | availTaken w _ =>
      obtain ⟨posts, flag⟩ := f.polling (by simp [w, Worker.polling])
      exact ⟨f.empty, by simp; omega, (by simp [Worker.polling] at ·),
        fun _ => ⟨by simp; omega, by simp; omega, flag⟩, fun _ => f.written (by simp [w]),
        f.writtenOnce, by simp⟩
  | eofSeen w _ | eofUnseen w _ =>
      exact f.keep rfl rfl rfl rfl rfl (by simp [Worker.polling])
        (fun _ => by simp [w, Worker.copying]) (by simp [w]) (by simp)
  | copiedPart _ part => simp [f.empty] at part
  | copiedAll w _ =>
      obtain ⟨avail, need, -⟩ := f.copying (by simp [w, Worker.copying])
      exact ⟨rfl, by simp [avail, need], by simp [f.empty, Worker.polling], by simp [Worker.copying],
        fun _ => f.written (by simp [w]), f.writtenOnce, by simp⟩
  | succeeded w | failed w _ =>
      exact f.keep rfl rfl rfl rfl rfl (by simp [Worker.polling]) (by simp [Worker.copying])
        (by simp [w]) (by simp)
  | failing w => exact absurd ok (life.failing _ w)
  | needPosted w => exact absurd w f.running
  | exiting w =>
      exact ⟨f.empty, f.posts, (by simp [Worker.polling] at ·), (by simp [Worker.copying] at ·),
        (absurd rfl ·), by simp [f.written (by simp [w])], by simp⟩

theorem Finish.call (f : s.Finish) {n : Nat} (called : s.call n = some s') : s'.Finish := by
  obtain ⟨running, -, rfl⟩ := call_cases called
  exact f.keep rfl rfl rfl rfl rfl (fun _ => by simp [running, Worker.polling])
    (by simp [Worker.copying]) (by simp [running]) (by simp)

theorem Finish.fail (f : s.Finish) {code : Int} (failed : s.fail code = some s') : s'.Finish := by
  obtain ⟨ended, running, -, rfl⟩ := fail_cases failed
  exact f.keep rfl rfl rfl rfl rfl (by simp [Worker.polling]) (by simp [Worker.copying])
    (by simp [running]) (by simp)

theorem Finish.complete (f : s.Finish) (completed : s.complete = some s') : s'.Finish := by
  obtain ⟨running, rfl⟩ := complete_cases completed
  exact f.keep rfl rfl rfl rfl rfl (by simp [Worker.polling]) (by simp [Worker.copying])
    (by simp [running]) (by simp)

/-! ### The worker's steps -/

theorem Turn.advance (t : s.Turn) (request : s'.request = s.request)
    (outside : s.request.finishing = false)
    (quiet : s.Quiet → s'.Quiet ∧ s'.dataNeed = s.dataNeed)
    (handing : s.Pending ∨ s.Returned → s'.Pending ∨ s'.Returned) : s'.Turn := by
  unfold Turn at t ⊢
  rw [request]
  cases r : s.request <;> simp only [r, Request.finishing, Bool.true_eq_false] at t outside ⊢
  all_goals first
    | exact ⟨(quiet t.1).1, (quiet t.1).2.trans t.2⟩
    | exact handing t

theorem Turn.rewait (t : s.Turn) (request : s'.request = s.request)
    (outside : s.request.finishing = false)
    (buf : s'.streamBuf = s.streamBuf) (avail : s'.dataAvail = s.dataAvail)
    (need : s'.dataNeed = s.dataNeed) (written : s'.dataWritten = s.dataWritten)
    (flag : s'.writtenFlag = s.writtenFlag) (eof : s'.eof = s.eof)
    (waiting : s.worker.waiting = true) (away : ∀ n, s.worker ≠ .availWait n)
    (waiting' : s'.worker.waiting = true) : s'.Turn := by
  refine t.advance request outside (fun q => ⟨⟨buf.trans q.empty, avail.trans q.avail,
    written.trans q.written, flag.trans q.flag, eof.trans q.eof, waiting'⟩, need⟩)
    (fun handing => handing.imp (fun d => ⟨buf ▸ d.nonempty, need.trans d.need,
      written.trans d.written, flag.trans d.flag, eof.trans d.eof, ?_⟩)
      fun r => ⟨buf.trans r.empty, flag.trans r.flag, need.trans r.need, avail.trans r.avail,
        eof.trans r.eof, ?_⟩)
  · rcases d.turn with ⟨one, -⟩ | ⟨-, copying⟩
    · exact .inl ⟨avail.trans one, waiting'⟩
    · simp [Worker.copying_of_waiting waiting] at copying
  · rcases r.post with ⟨none, -⟩ | ⟨-, n, waits⟩
    · exact .inl ⟨written.trans none, waiting'⟩
    · exact absurd waits (away n)

theorem Turn.finish (t : s.Turn) (request : s'.request = s.request)
    (outside : s.request.finishing = false) (done : s.worker.waiting = false)
    (idle : s.worker.copying = false) (away : ∀ n, s.worker ≠ .availWait n) : s'.Turn :=
  t.advance request outside (fun q => by simp [q.waiting] at done)
    (fun handing => by
      rcases handing with d | r
      · rcases d.turn with ⟨-, waiting⟩ | ⟨-, copying⟩ <;> simp_all
      · rcases r.post with ⟨-, waiting⟩ | ⟨-, n, waits⟩ <;> simp_all)

theorem Protocol.advance (p : s.Protocol) (life : s'.Lifecycle) (request : s'.request = s.request)
    (present : s.worker ≠ .none) (alive : s'.worker ≠ .none)
    (handed : s'.body ++ s'.streamBuf = s'.handed)
    (failCause : s'.writeFailCause = s.writeFailCause)
    (failed : s.worker.failed = false ∨ s'.worker.failed = true)
    (finish : s'.writeFailCause = 0 → s.Finish → s'.Finish)
    (turn : s.request.finishing = false → s.Turn → s'.Turn) : s'.Protocol where
  life := life
  handed := handed
  sized offset data := request ▸ p.sized offset data
  clean absent := absurd absent alive
  quiet absent := absurd absent alive
  stalled absent := absurd absent alive
  failed failing := failed.resolve_left (by simp [p.failed (failCause ▸ failing)])
  turn ok _ := by
    have t := p.turn (failCause ▸ ok) present
    cases finishing : s.request.finishing
    · exact turn finishing t
    · exact (turn_finishing (request ▸ finishing)).2 (finish ok ((turn_finishing finishing).1 t))

theorem Quiet.congr (q : s.Quiet) (buf : s'.streamBuf = s.streamBuf)
    (avail : s'.dataAvail = s.dataAvail) (written : s'.dataWritten = s.dataWritten)
    (flag : s'.writtenFlag = s.writtenFlag) (eof : s'.eof = s.eof)
    (worker : s'.worker = s.worker) : s'.Quiet :=
  ⟨buf.trans q.empty, avail.trans q.avail, written.trans q.written, flag.trans q.flag,
    eof.trans q.eof, worker ▸ q.waiting⟩

theorem Turn.congr (t : s.Turn) (request : s'.request = s.request) (worker : s'.worker = s.worker)
    (buf : s'.streamBuf = s.streamBuf) (avail : s'.dataAvail = s.dataAvail)
    (need : s'.dataNeed = s.dataNeed) (written : s'.dataWritten = s.dataWritten)
    (flag : s'.writtenFlag = s.writtenFlag) (eof : s'.eof = s.eof) : s'.Turn := by
  cases finishing : s.request.finishing
  · exact t.advance request finishing (fun q => ⟨q.congr buf avail written flag eof worker, need⟩)
      (Or.imp
        (fun d => ⟨buf ▸ d.nonempty, need.trans d.need, written.trans d.written,
          flag.trans d.flag, eof.trans d.eof, by rw [avail, worker]; exact d.turn⟩)
        (fun r => ⟨buf.trans r.empty, flag.trans r.flag, need.trans r.need, avail.trans r.avail,
          eof.trans r.eof, by rw [written, worker]; exact r.post⟩))
  · exact (turn_finishing (request ▸ finishing)).2
      (((turn_finishing finishing).1 t).congr worker buf avail need written flag)

theorem Protocol.work (p : s.Protocol) (worked : s.work = some s') : s'.Protocol := by
  have life := p.life.work worked
  have finish : s'.writeFailCause = 0 → s.Finish → s'.Finish := fun ok f => f.work p.life ok worked
  cases Works.of_work worked with
  | launched launching =>
      exact p.advance life rfl (by simp [launching]) (by simp) p.handed rfl
        (.inl (by simp [launching, Worker.failed])) finish fun outside t =>
          t.rewait rfl outside rfl rfl rfl rfl rfl rfl (by simp [launching, Worker.waiting])
            (by simp [launching]) rfl
  | readyPosted posting _ | readyKnown posting _ | writtenPending posting _ =>
      exact p.advance life rfl (by simp [posting]) (by simp) p.handed rfl
        (.inl (by simp [posting, Worker.failed])) finish fun outside t =>
          t.rewait rfl outside rfl rfl rfl rfl rfl rfl (by simp [posting, Worker.waiting])
            (by simp [posting]) rfl
  | @writtenPosted n posting drained flagged =>
      refine p.advance life rfl (by simp [posting]) (by simp) p.handed rfl
        (.inl (by simp [posting, Worker.failed])) finish fun outside t => t.advance rfl outside
          (fun q => by simp [q.flag] at flagged) (fun handing => ?_)
      rcases handing with d | r
      · simp [d.flag] at flagged
      · rcases r.post with ⟨none, -⟩ | ⟨-, m, waits⟩
        · exact .inr ⟨r.empty, r.flag, r.need, r.avail, r.eof, .inr ⟨by simp [none], n, rfl⟩⟩
        · simp [posting] at waits
  | @availTaken n waiting taken =>
      refine p.advance life rfl (by simp [waiting]) (by simp) p.handed rfl
        (.inl (by simp [waiting, Worker.failed])) finish fun outside t => t.advance rfl outside
          (fun q => by simp [q.avail] at taken) (fun handing => ?_)
      rcases handing with d | r
      · rcases d.turn with ⟨one, -⟩ | ⟨none, -⟩
        · exact .inl ⟨d.nonempty, d.need, d.written, d.flag, d.eof, .inr ⟨by simp [one], rfl⟩⟩
        · simp [none] at taken
      · simp [r.avail] at taken
  | eofSeen testing ended =>
      refine p.advance life rfl (by simp [testing]) (by simp) p.handed rfl
        (.inl (by simp [testing, Worker.failed])) finish fun outside t => t.advance rfl outside
          (fun q => absurd q.waiting (by simp [testing, Worker.waiting])) (fun handing => ?_)
      rcases handing with d | r
      · simp [d.eof] at ended
      · simp [r.eof] at ended
  | eofUnseen testing _ =>
      refine p.advance life rfl (by simp [testing]) (by simp) p.handed rfl
        (.inl (by simp [testing, Worker.failed])) finish fun outside t => t.advance rfl outside
          (fun q => absurd q.waiting (by simp [testing, Worker.waiting])) (fun handing => ?_)
      rcases handing with d | r
      · rcases d.turn with ⟨-, waiting⟩ | ⟨none, -⟩
        · simp [testing, Worker.waiting] at waiting
        · exact .inl ⟨d.nonempty, d.need, d.written, d.flag, d.eof, .inr ⟨none, rfl⟩⟩
      · rcases r.post with ⟨-, waiting⟩ | ⟨-, m, waits⟩ <;> simp [testing, Worker.waiting] at *
  | @copiedPart n copying part =>
      refine p.advance life rfl (by simp [copying]) (by simp) ?_ rfl
        (.inl (by simp [copying, Worker.failed])) finish fun outside t => t.advance rfl outside
          (fun q => absurd q.waiting (by simp [copying, Worker.waiting])) (fun handing => ?_)
      · simpa only [List.append_assoc, List.take_append_drop] using p.handed
      rcases handing with d | r
      · rcases d.turn with ⟨-, waiting⟩ | ⟨none, -⟩
        · simp [copying, Worker.waiting] at waiting
        · refine .inl ⟨?_, d.need, d.written, d.flag, d.eof, .inl ⟨by simp [none], rfl⟩⟩
          simpa [List.drop_eq_nil_iff] using part
      · rcases r.post with ⟨-, waiting⟩ | ⟨-, m, waits⟩ <;> simp [copying, Worker.waiting] at *
  | copiedAll copying whole =>
      refine p.advance life rfl (by simp [copying]) (by simp) (by simpa using p.handed) rfl
        (.inl (by simp [copying, Worker.failed])) finish fun outside t => t.advance rfl outside
          (fun q => absurd q.waiting (by simp [copying, Worker.waiting])) (fun handing => ?_)
      rcases handing with d | r
      · rcases d.turn with ⟨-, waiting⟩ | ⟨none, -⟩
        · simp [copying, Worker.waiting] at waiting
        · exact .inr ⟨rfl, rfl, by simp [d.need], none, d.eof,
            .inl ⟨d.written, by simp [d.nonempty, Worker.waiting]⟩⟩
      · rcases r.post with ⟨-, waiting⟩ | ⟨-, m, waits⟩ <;> simp [copying, Worker.waiting] at *
  | succeeded performed =>
      exact p.advance life rfl (by simp [performed]) (by simp) p.handed rfl (.inr rfl) finish
        fun outside t => t.finish rfl outside (by simp [performed, Worker.waiting])
          (by simp [performed, Worker.copying]) (by simp [performed])
  | failed performed nonzero =>
      exact p.advance life rfl (by simp [performed]) (by simp) p.handed rfl
        (.inl (by simp [performed, Worker.failed])) finish fun outside t =>
          t.rewait rfl outside rfl rfl rfl rfl rfl rfl
            (by simp [performed, nonzero, Worker.waiting]) (by simp [performed]) rfl
  | @failing res storing =>
      exact { life, handed := p.handed, sized := p.sized
              clean := fun absent => by cases absent
              quiet := fun absent => by cases absent
              stalled := fun absent => by cases absent
              failed := fun _ => rfl
              turn := fun ok => absurd ok (p.life.failing res storing) }
  | needPosted posting =>
      exact p.advance life rfl (by simp [posting]) (by simp) p.handed rfl (.inr rfl) finish
        fun outside t => t.finish rfl outside (by simp [posting, Worker.waiting])
          (by simp [posting, Worker.copying]) (by simp [posting])
  | exiting leaving =>
      exact p.advance life rfl (by simp [leaving]) (by simp) p.handed rfl (.inr rfl) finish
        fun outside t => t.finish rfl outside (by simp [leaving, Worker.waiting])
          (by simp [leaving, Worker.copying]) (by simp [leaving])

theorem Protocol.call (p : s.Protocol) (life : s'.Lifecycle) {n : Nat}
    (called : s.call n = some s') : s'.Protocol := by
  obtain ⟨running, -, rfl⟩ := call_cases called
  exact p.advance life rfl (by simp [running]) (by simp) p.handed rfl
    (.inl (by simp [running, Worker.failed])) (fun _ f => f.call called) fun outside t =>
      t.rewait rfl outside rfl rfl rfl rfl rfl rfl (by simp [running, Worker.waiting])
        (by simp [running]) rfl

theorem Protocol.fail (p : s.Protocol) (life : s'.Lifecycle) {code : Int}
    (failed : s.fail code = some s') : s'.Protocol := by
  obtain ⟨ended, running, nonzero, rfl⟩ := fail_cases failed
  refine p.advance life rfl (by simp [running]) (by simp) p.handed rfl
    (.inl (by simp [running, Worker.failed])) (fun _ f => f.fail failed) fun outside t => ?_
  cases ended
  · exact t.rewait rfl outside rfl rfl rfl rfl rfl rfl (by simp [running, Worker.waiting])
      (by simp [running]) (by simp [nonzero, Worker.waiting])
  · exact t.finish rfl outside (by simp [running, Worker.waiting])
      (by simp [running, Worker.copying]) (by simp [running])

theorem Protocol.complete (p : s.Protocol) (life : s'.Lifecycle) (completed : s.complete = some s') :
    s'.Protocol := by
  obtain ⟨running, rfl⟩ := complete_cases completed
  exact p.advance life rfl (by simp [running]) (by simp) p.handed rfl
    (.inl (by simp [running, Worker.failed])) (fun _ f => f.complete completed) fun outside t =>
      t.finish rfl outside (by simp [running, Worker.waiting])
        (by simp [running, Worker.copying]) (by simp [running])

/-! ### The request thread's steps -/

theorem Protocol.congr (p : s.Protocol) (life : s'.Lifecycle) (request : s'.request = s.request)
    (worker : s'.worker = s.worker) (conn : s'.writeConn = s.writeConn)
    (failCause : s'.writeFailCause = s.writeFailCause) (buf : s'.streamBuf = s.streamBuf)
    (body : s'.body = s.body) (handed : s'.handed = s.handed) (avail : s'.dataAvail = s.dataAvail)
    (need : s'.dataNeed = s.dataNeed) (written : s'.dataWritten = s.dataWritten)
    (flag : s'.writtenFlag = s.writtenFlag) (eof : s'.eof = s.eof) : s'.Protocol where
  life := life
  handed := by rw [body, buf, handed]; exact p.handed
  sized offset data := request ▸ p.sized offset data
  clean none ok := buf.trans (p.clean (worker ▸ none) (failCause ▸ ok))
  quiet none off := request ▸ p.quiet (worker ▸ none) (conn ▸ off)
  stalled none connected := by
    rw [need, request]; exact p.stalled (worker ▸ none) (conn ▸ connected)
  failed failing := worker ▸ p.failed (failCause ▸ failing)
  turn ok alive := (p.turn (failCause ▸ ok) (worker ▸ alive)).congr request worker buf avail need
    written flag eof

theorem Protocol.keep (p : s.Protocol) (life : s'.Lifecycle) (worker : s'.worker = s.worker)
    (conn : s'.writeConn = s.writeConn) (failCause : s'.writeFailCause = s.writeFailCause)
    (buf : s.worker = .none → s'.streamBuf = s.streamBuf)
    (handed : s'.body ++ s'.streamBuf = s'.handed)
    (sized : ∀ offset data,
      s'.request = .needWait offset data ∨ s'.request = .startReady offset data → data ≠ [])
    (absent : s.worker = .none → (s.writeConn = false → s'.request.quiet = true) ∧
      (s.writeConn = true → s'.dataNeed = 0 ∧ s'.request.starting = false))
    (turn : s.writeFailCause = 0 → s.worker ≠ .none → s'.Turn) : s'.Protocol where
  life := life
  handed := handed
  sized := sized
  clean none ok := (buf (worker ▸ none)).trans (p.clean (worker ▸ none) (failCause ▸ ok))
  quiet none off := (absent (worker ▸ none)).1 (conn ▸ off)
  stalled none connected := (absent (worker ▸ none)).2 (conn ▸ connected)
  failed failing := worker ▸ p.failed (failCause ▸ failing)
  turn ok alive := turn (failCause ▸ ok) (worker ▸ alive)

variable {rwWorkaround : Bool}

theorem ftpfsOpenCommon_protocol {flags : OpenFlags} {start : StartOutcome}
    (opened : s.ftpfsOpenCommon rwWorkaround flags start = some s') : s'.Protocol := by
  have life := ftpfsOpenCommon_lifecycle opened
  obtain ⟨-, ⟨r, rfl⟩ | ⟨started, rfl⟩ | rfl | ⟨-, rfl⟩⟩ := ftpfsOpenCommon_cases opened
  · exact ⟨life, rfl, (by simp [freed]), fun _ _ => rfl, fun _ _ => rfl,
      fun _ off => (by cases off), fun ok => absurd rfl ok, fun _ absent => absurd rfl absent⟩
  · cases start
    case started => exact absurd rfl started
    all_goals exact ⟨life, rfl, (by simp [freed]), fun _ _ => rfl, fun _ _ => rfl,
      fun _ _ => ⟨rfl, rfl⟩, fun ok => absurd rfl ok, fun _ absent => absurd rfl absent⟩
  · exact ⟨life, rfl, (by simp [reply]), fun _ _ => rfl, fun _ _ => rfl,
      fun _ off => (by cases off), fun ok => absurd rfl ok, fun _ absent => absurd rfl absent⟩
  · exact ⟨life, rfl, (by simp), fun absent => (by cases absent), fun absent => (by cases absent),
      fun absent => (by cases absent), fun ok => absurd rfl ok,
      fun _ _ => (turn_starting (by rfl)).2 ⟨⟨rfl, rfl, rfl, rfl, rfl, rfl⟩, rfl⟩⟩

theorem Protocol.ftpfsWrite (p : s.Protocol) {offset : Nat} {data : List UInt8}
    {start : StartOutcome} {listed : Bool} (sized : data ≠ [])
    (written : s.ftpfsWrite offset data start listed = some s') :
    s'.Protocol := by
  have life := p.life.ftpfsWrite written
  have payload : ∀ offset' data', Request.needWait offset data = .needWait offset' data' ∨
      Request.needWait offset data = .startReady offset' data' → data' ≠ [] := by
    rintro _ _ (request | request) <;> cases request
    exact sized
  obtain ⟨idle, ⟨r, rfl⟩ | ⟨ok, conn, started, rfl⟩ | ⟨ok, conn, rfl, rfl⟩ | ⟨ok, conn, rfl⟩⟩ :=
    ftpfsWrite_cases written
  · exact p.congr life (by simp [reply, idle]) rfl rfl rfl rfl rfl rfl rfl rfl rfl rfl rfl
  · have empty := p.clean (p.life.none_of_conn conn) ok
    cases start
    case started => exact absurd rfl started
    all_goals exact ⟨life, (by simp [reply, startWriteThread, empty]), (by simp [reply]),
      fun _ _ => empty, fun _ _ => rfl, fun _ _ => ⟨rfl, rfl⟩, fun failed => absurd ok failed,
      fun _ alive => absurd (p.life.none_of_conn conn) alive⟩
  · have empty := p.clean (p.life.none_of_conn conn) ok
    refine ⟨life, (by simp [startWriteThread, empty]), ?_, fun absent => (by cases absent),
      fun absent => (by cases absent), fun absent => (by cases absent), fun failed => absurd ok failed,
      fun _ _ => (turn_starting (by rfl)).2 ⟨⟨empty, rfl, rfl, rfl, rfl, rfl⟩, rfl⟩⟩
    rintro _ _ (request | request) <;> cases request
    exact sized
  · refine p.keep life rfl rfl rfl (fun _ => rfl) p.handed payload
      (fun none => ⟨fun off => (by simp [conn] at off),
        fun connected => ⟨(p.stalled none connected).1, rfl⟩⟩) fun ok alive => ?_
    obtain ⟨q, need⟩ := (turn_idle idle).1 (p.turn ok alive)
    exact (turn_needWait (by rfl)).2 ⟨q.congr rfl rfl rfl rfl rfl rfl, need⟩

theorem Protocol.finishTest (p : s.Protocol) (life : s'.Lifecycle) (idle : s.request = .idle)
    (conn : s.writeConn = true) {caller : Caller}
    (finishing : s' = { s with request := .finishTest caller }) : s'.Protocol := by
  subst finishing
  refine p.keep life rfl rfl rfl (fun _ => rfl) p.handed (by simp)
    (fun none => ⟨fun off => by simp [conn] at off,
      fun connected => ⟨(p.stalled none connected).1, rfl⟩⟩) fun ok alive => ?_
  obtain ⟨q, need⟩ := (turn_idle idle).1 (p.turn ok alive)
  exact (turn_finishing (by rfl)).2 (q.finish rfl rfl rfl rfl (by simp [q.avail, need]))

theorem Protocol.proceed (p : s.Protocol) {allocated listed : Bool}
    (proceeded : s.proceed allocated listed = some s') : s'.Protocol := by
  have life := p.life.proceed proceeded
  have unchanged : s.worker = .none → s.writeConn = true →
      s.dataNeed = 0 ∧ (Request.idle).starting = false :=
    fun none connected => ⟨(p.stalled none connected).1, rfl⟩
  cases Proceeds.of_proceed proceeded with
  | openReady opening _ =>
      have alive := p.alive_of_starting (by simp [opening, Request.starting])
      refine p.keep life rfl rfl rfl (fun _ => rfl) p.handed (by simp [reply])
        (absurd · alive) fun ok _ => ?_
      obtain ⟨q, need⟩ := (turn_starting (by simp [opening, Request.starting])).1 (p.turn ok alive)
      exact (turn_idle (by rfl)).2 ⟨q.congr rfl rfl rfl rfl rfl rfl, by simp [reply, need]⟩
  | startReady starting _ =>
      have alive := p.alive_of_starting (by simp [starting, Request.starting])
      refine p.keep life rfl rfl rfl (fun _ => rfl) p.handed ?_ (absurd · alive) fun ok _ => ?_
      · rintro _ _ (request | request) <;> cases request
        exact p.sized _ _ (.inr starting)
      obtain ⟨q, need⟩ := (turn_starting (by simp [starting, Request.starting])).1 (p.turn ok alive)
      exact (turn_needWait (by rfl)).2 ⟨q.congr rfl rfl rfl rfl rfl rfl, by simp [need]⟩
  | nonSequential waiting need _ =>
      have alive := p.alive_of_need (by simp [waiting, Request.quiet]) need
      refine p.keep life rfl rfl rfl (fun _ => rfl) p.handed (by simp) (absurd · alive)
        fun ok _ => ?_
      obtain ⟨q, one⟩ := (turn_needWait waiting).1 (p.turn ok alive)
      exact (turn_finishing (by rfl)).2 (q.finish rfl rfl rfl rfl (by simp [q.avail, one]))
  | outOfMemory waiting need _ =>
      have alive := p.alive_of_need (by simp [waiting, Request.quiet]) need
      refine p.keep life rfl rfl rfl (fun _ => rfl) p.handed (by simp [reply]) (absurd · alive)
        fun ok _ => ?_
      obtain ⟨q, need⟩ := (turn_needWait waiting).1 (p.turn ok alive)
      exact (turn_idle (by rfl)).2 ⟨q.congr rfl rfl rfl rfl rfl rfl, need⟩
  | handOff waiting need _ =>
      have alive := p.alive_of_need (by simp [waiting, Request.quiet]) need
      refine p.keep life rfl rfl rfl (absurd · alive) (by simp [← p.handed]) (by simp)
        (absurd · alive) fun ok _ => ?_
      obtain ⟨q, one⟩ := (turn_needWait waiting).1 (p.turn ok alive)
      exact (turn_writtenWait (by rfl)).2 (.inl ⟨by simp [p.sized _ _ (.inl waiting)],
        by simp [one], q.written, q.flag, q.eof, .inl ⟨by simp [q.avail], q.waiting⟩⟩)
  | written waiting posted =>
      refine p.keep life rfl rfl rfl (fun _ => rfl) p.handed (by simp [reply])
        (fun none => ⟨fun _ => rfl, unchanged none⟩) fun ok alive => ?_
      rcases (turn_writtenWait waiting).1 (p.turn ok alive) with d | r
      · simp [d.written] at posted
      · rcases r.post with ⟨none, -⟩ | ⟨one, n, waits⟩
        · simp [none] at posted
        · exact (turn_idle (by rfl)).2 ⟨⟨r.empty, r.avail, by simp [reply, one], rfl, r.eof,
            by simp [reply, waits, Worker.waiting]⟩, r.need⟩
  | finishCalled testing | finishWaits testing _ | finishEof testing =>
      refine p.keep life rfl rfl rfl (fun _ => rfl) p.handed (by simp)
        (fun none => ⟨fun off => absurd (p.quiet none off) (by simp [testing, Request.quiet]),
          fun connected => ⟨(p.stalled none connected).1, rfl⟩⟩) fun ok alive => ?_
      have f := (turn_finishing (by simp [testing, Request.finishing])).1 (p.turn ok alive)
      exact (turn_finishing (by rfl)).2 (f.congr rfl rfl rfl rfl rfl rfl)
  | finishFailed testing failed =>
      exact p.keep life rfl rfl rfl (fun _ => rfl) p.handed (by simp)
        (fun none => ⟨fun off => absurd (p.quiet none off) (by simp [testing, Request.quiet]),
          fun connected => ⟨(p.stalled none connected).1, rfl⟩⟩) fun ok => absurd ok failed
  | finishNeed needing need =>
      have alive := p.alive_of_need (by simp [needing, Request.quiet]) need
      refine p.keep life rfl rfl rfl (fun _ => rfl) p.handed (by simp) (absurd · alive)
        fun ok _ => ?_
      have f := (turn_finishing (by simp [needing, Request.finishing])).1 (p.turn ok alive)
      exact (turn_finishing (by rfl)).2 (f.needTaken need rfl rfl rfl rfl rfl rfl)
  | @joined caller joining exited =>
      obtain ⟨request, log, joined, quiet⟩ := s.finishJoined_eq caller
      rw [joined] at life ⊢
      have empty : s.writeFailCause = 0 → s.streamBuf = [] := fun ok =>
        ((turn_finishing (by simp [joining, Request.finishing])).1 (p.turn ok (by simp [exited]))).empty
      exact ⟨life, p.handed, fun _ _ request => absurd request (Request.sized_of_quiet quiet _ _),
        fun _ ok => empty ok, fun _ _ => quiet, fun _ connected => (by cases connected), fun _ => rfl,
        fun _ absent => absurd rfl absent⟩
  | @sizeChecked caller checking =>
      obtain ⟨failCause, request, log, checked, which, quiet⟩ := s.flushChecked_eq listed caller
      rw [checked] at life ⊢
      have none := p.life.checked caller checking
      have back : failCause = 0 → s.writeFailCause = 0 := by
        rcases which with rfl | rfl
        · exact id
        · exact fun mismatch => absurd mismatch (by decide)
      exact ⟨life, p.handed, fun _ _ request => absurd request (Request.sized_of_quiet quiet _ _),
        fun _ ok => p.clean none (back ok), fun _ _ => quiet,
        fun _ connected => ⟨(p.stalled none connected).1, Request.starting_of_quiet quiet⟩,
        fun _ => by simp [none, Worker.failed], fun _ alive => absurd none alive⟩

/-- Every step of the handle keeps the protocol, when a write carries bytes. -/
theorem Protocol.step (p : s.Protocol) {a : Action} (sized : a.sized = true)
    (stepped : s.step rwWorkaround a = some s') : s'.Protocol := by
  have life := p.life.step stepped
  cases a with
  | «open» flags start => exact ftpfsOpenCommon_protocol stepped
  | write offset data start listed =>
      exact p.ftpfsWrite (by simpa [Action.sized] using sized) stepped
  | flush =>
      obtain ⟨idle, ⟨conn, rfl⟩ | ⟨conn, rfl⟩⟩ := ftpfsFlush_cases stepped
      · exact p.finishTest life idle conn rfl
      · exact p.congr life (by simp [reply, idle]) rfl rfl rfl rfl rfl rfl rfl rfl rfl rfl rfl
  | release =>
      obtain ⟨idle, ⟨conn, rfl⟩ | ⟨conn, rfl⟩⟩ := ftpfsRelease_cases stepped
      · exact p.finishTest life idle conn rfl
      · exact p.keep life rfl rfl rfl (fun _ => rfl) p.handed (by simp [freed])
          (fun _ => ⟨fun _ => rfl, fun connected => by simp [conn] at connected⟩)
          fun _ _ => turn_closed (by rfl)
  | ftruncate offset created listed =>
      obtain ⟨idle, r, mayStart, remote, rfl⟩ := ftpfsFtruncate_cases stepped
      exact p.congr life (by simp [reply, idle]) rfl rfl rfl rfl rfl rfl rfl rfl rfl rfl rfl
  | proceed allocated listed => exact p.proceed stepped
  | call n => exact p.call life stepped
  | fail code => exact p.fail life stepped
  | complete => exact p.complete life stepped
  | work => exact p.work stepped
  | external file =>
      cases stepped
      exact p.congr life rfl rfl rfl rfl rfl rfl rfl rfl rfl rfl rfl rfl

theorem initial_protocol (remote : Option (List UInt8)) : (initial remote).Protocol :=
  ⟨initial_lifecycle remote, rfl, fun _ _ request => (by simp [initial] at request),
    fun _ _ => rfl, fun _ _ => rfl, fun _ connected => (by cases connected),
    fun ok => absurd rfl ok, fun _ absent => absurd rfl absent⟩

theorem Reachable.protocol (reach : Reachable rwWorkaround (fun a => a.sized = true) s) :
    s.Protocol := by
  induction reach with
  | initial remote => exact initial_protocol remote
  | step _ sized stepped p => exact p.step sized stepped

/-! ### What the protocol gives -/

theorem Protocol.drained (p : s.Protocol) (ok : s.writeFailCause = 0)
    (outside : ∀ size, s.request ≠ .writtenWait size) : s.streamBuf = [] := by
  by_cases absent : s.worker = .none
  · exact p.clean absent ok
  have t := p.turn ok absent
  cases waiting : s.request with
  | closed => exact absurd (p.life.closed waiting) absent
  | sizeCheck caller => exact absurd (p.life.checked caller waiting) absent
  | writtenWait size => exact absurd waiting (outside size)
  | idle => exact ((turn_idle waiting).1 t).1.empty
  | needWait => exact ((turn_needWait waiting).1 t).1.empty
  | openReady | startReady =>
      exact ((turn_starting (by simp [waiting, Request.starting])).1 t).1.empty
  | finishCall | finishTest | finishNeed | finishEof | finishJoin =>
      exact ((turn_finishing (by simp [waiting, Request.finishing])).1 t).empty

theorem Protocol.returned (p : s.Protocol) {size : Nat} (waiting : s.request = .writtenWait size)
    (ok : s.writeFailCause = 0) (posted : 0 < s.dataWritten) : s.streamBuf = [] := by
  by_cases absent : s.worker = .none
  · exact p.clean absent ok
  rcases (turn_writtenWait waiting).1 (p.turn ok absent) with d | r
  · simp [d.written] at posted
  · exact r.empty

theorem Protocol.finishing_of_copying (p : s.Protocol) (copying : s.worker.copying = true)
    (ends : s.eof = true ∨ s.streamBuf = []) : s.request.finishing = true := by
  have t := p.turn (p.ok_of_running (Worker.failed_of_copying copying))
    fun absent => by simp [absent, Worker.copying] at copying
  have waits : s.worker.waiting = false := by
    cases waiting : s.worker.waiting
    · rfl
    · simp [Worker.copying_of_waiting waiting] at copying
  cases waiting : s.request with
  | closed => simp [p.life.closed waiting, Worker.copying] at copying
  | sizeCheck caller => simp [p.life.checked caller waiting, Worker.copying] at copying
  | writtenWait size =>
      rcases (turn_writtenWait waiting).1 t with d | r
      · rcases ends with eof | empty
        · simp [d.eof] at eof
        · exact absurd empty d.nonempty
      · rcases r.post with ⟨-, waiting⟩ | ⟨-, n, avail⟩
        · simp [waiting] at waits
        · simp [avail, Worker.copying] at copying
  | idle => simp [((turn_idle waiting).1 t).1.waiting] at waits
  | needWait => simp [((turn_needWait waiting).1 t).1.waiting] at waits
  | openReady | startReady =>
      simp [((turn_starting (by simp [waiting, Request.starting])).1 t).1.waiting] at waits
  | finishCall | finishTest | finishNeed | finishEof | finishJoin => rfl

/-- `write_data_bg` returns 0 (its worker moves to `perform true`) only once
the request thread has started finishing the upload. -/
theorem Protocol.zero_only_finishing (p : s.Protocol) (worked : s.work = some s')
    (ended : s'.worker = .perform true) : s.request.finishing = true := by
  cases Works.of_work worked with
  | eofSeen testing eof => exact p.finishing_of_copying (by simp [testing, Worker.copying]) (.inl eof)
  | copiedAll copying _ =>
      exact p.finishing_of_copying (by simp [copying, Worker.copying]) (.inr (by simpa using ended))
  | _ => simp at ended

theorem Protocol.empty_of_ended (p : s.Protocol) (ended : s.worker = .perform true) :
    s.streamBuf = [] := by
  have ok := p.ok_of_running (by simp [ended, Worker.failed])
  by_cases inside : ∃ size, s.request = .writtenWait size
  · obtain ⟨size, waiting⟩ := inside
    rcases (turn_writtenWait waiting).1 (p.turn ok (by simp [ended])) with d | r
    · rcases d.turn with ⟨-, w⟩ | ⟨-, w⟩ <;> simp [ended, Worker.waiting, Worker.copying] at w
    · exact r.empty
  · exact p.drained ok fun size waiting => inside ⟨size, waiting⟩

/-- The hand-off loses, duplicates and reorders nothing: the bytes libcurl took
are a prefix of the payloads handed off, and all of them outside a hand-off
when no failure is recorded; the callback returns 0 only once the request
thread has started finishing the upload; and a write returns its size only
after the callback gave libcurl its whole payload. -/
theorem handoff_exact (reach : Reachable rwWorkaround (fun a => a.sized = true) s) :
    s.body <+: s.handed ∧
      (s.writeFailCause = 0 → (∀ size, s.request ≠ .writtenWait size) → s.body = s.handed) ∧
      (∀ s', s.work = some s' → s'.worker = .perform true → s.request.finishing = true) ∧
      (∀ size allocated listed s', s.request = .writtenWait size → s.writeFailCause = 0 →
        s.proceed allocated listed = some s' → s.body = s.handed) := by
  have p := reach.protocol
  refine ⟨⟨_, p.handed⟩, fun ok outside => ?_, fun _ worked ended => p.zero_only_finishing worked ended,
    fun size _ _ _ waiting ok proceeded => ?_⟩
  · simpa [p.drained ok outside] using p.handed
  · cases Proceeds.of_proceed proceeded with
    | written _ posted => simpa [p.returned waiting ok posted] using p.handed
    | _ => simp_all

/-- An `O_CREAT` handle in its first hand-off: `write(0, [7])` appended its
byte and waits on `data_written`. -/
def handingOff : Handle :=
  ((initial none).run false [.open createFlags .started, .work, .call 4, .work, .work,
    .proceed true true, .write 0 [7] .started true, .proceed true true]).getD (initial none)

theorem handingOff_reachable : Reachable false (fun a => a.sized = true) handingOff :=
  Reachable.run (.initial none) (by decide)
    (show (initial none).run false [.open createFlags .started, .work, .call 4, .work, .work,
      .proceed true true, .write 0 [7] .started true, .proceed true true] = some handingOff from rfl)

theorem handoff_exact_handingOff :
    handingOff.body <+: handingOff.handed ∧
      (handingOff.writeFailCause = 0 → (∀ size, handingOff.request ≠ .writtenWait size) →
        handingOff.body = handingOff.handed) ∧
      (∀ s', handingOff.work = some s' → s'.worker = .perform true →
        handingOff.request.finishing = true) ∧
      (∀ size allocated listed s', handingOff.request = .writtenWait size →
        handingOff.writeFailCause = 0 → handingOff.proceed allocated listed = some s' →
          handingOff.body = handingOff.handed) :=
  handoff_exact handingOff_reachable

/-- The upload fails after the callback gave libcurl the first of two bytes
handed off: the write returns `-EIO`, and the second byte is lost. -/
theorem failed_handoff_drops_bytes :
    ∃ s, Reachable false (fun a => a.sized = true) s ∧ s.request = .idle ∧
      s.writeFailCause = 28 ∧ s.body = [7] ∧ s.handed = [7, 8] :=
  ⟨_, Reachable.run (.initial none) (by decide)
    (show (initial none).run false [.open createFlags .started, .work, .call 1, .work, .work,
      .proceed true true, .write 0 [7, 8] .started true, .proceed true true,
      .work, .work, .work, .fail 28, .work, .work, .work, .work,
      .proceed true true] = some _ from rfl), rfl, rfl, rfl, rfl⟩

/-- While the upload runs with no failure recorded, `data_avail`, `data_need`
and `data_written` are binary: each post is taken before the next, also while
the upload is being finished. -/
theorem semaphores_binary (reach : Reachable rwWorkaround (fun a => a.sized = true) s)
    (ok : s.writeFailCause = 0) (running : s.worker ≠ .none) :
    s.dataAvail ≤ 1 ∧ s.dataNeed ≤ 1 ∧ s.dataWritten ≤ 1 := by
  have p := reach.protocol
  have t := p.turn ok running
  cases waiting : s.request with
  | closed => exact absurd (p.life.closed waiting) running
  | sizeCheck caller => exact absurd (p.life.checked caller waiting) running
  | writtenWait size =>
      rcases (turn_writtenWait waiting).1 t with d | r
      · rcases d.turn with ⟨avail, -⟩ | ⟨avail, -⟩ <;> simp [avail, d.need, d.written]
      · rcases r.post with ⟨written, -⟩ | ⟨written, -⟩ <;> simp [written, r.need, r.avail]
  | idle =>
      have q := (turn_idle waiting).1 t
      simp [q.1.avail, q.1.written, q.2]
  | needWait =>
      have q := (turn_needWait waiting).1 t
      simp [q.1.avail, q.1.written, q.2]
  | openReady | startReady =>
      have q := (turn_starting (by simp [waiting, Request.starting])).1 t
      simp [q.1.avail, q.1.written, q.2]
  | finishCall | finishTest | finishNeed | finishEof | finishJoin =>
      have f := (turn_finishing (by simp [waiting, Request.finishing])).1 t
      have posts := f.posts
      exact ⟨by omega, by omega, f.writtenOnce⟩

theorem semaphores_binary_handingOff :
    handingOff.writeFailCause = 0 ∧ handingOff.worker ≠ .none ∧
      (handingOff.dataAvail ≤ 1 ∧ handingOff.dataNeed ≤ 1 ∧ handingOff.dataWritten ≤ 1) :=
  ⟨rfl, by decide, semaphores_binary handingOff_reachable rfl (by decide)⟩

/-- A completed upload stores on the server exactly the payloads handed off,
after the old file for `APPE` and in its place for `STOR`. -/
theorem upload_stores_handed (reach : Reachable rwWorkaround (fun a => a.sized = true) s)
    (completed : s.complete = some s') :
    s'.remote = some (if s.append then s.remote.getD [] ++ s.handed else s.handed) := by
  obtain ⟨ended, rfl⟩ := complete_cases completed
  have p := reach.protocol
  simpa [p.empty_of_ended ended] using congrArg (fun body => some
    (if s.append then s.remote.getD [] ++ body else body)) p.handed

def completing : Handle :=
  (handingOff.run false [.work, .work, .work, .call 4, .work, .work, .proceed true true, .flush,
    .proceed true true, .proceed true true, .proceed true true, .work, .work]).getD handingOff

theorem completing_reachable : Reachable false (fun a => a.sized = true) completing :=
  Reachable.run handingOff_reachable (by decide)
    (show handingOff.run false [.work, .work, .work, .call 4, .work, .work, .proceed true true,
      .flush, .proceed true true, .proceed true true, .proceed true true,
      .work, .work] = some completing from rfl)

theorem upload_stores_handed_completing :
    ∃ s', completing.complete = some s' ∧ s'.remote =
      some (if completing.append then completing.remote.getD [] ++ completing.handed
        else completing.handed) :=
  ⟨_, rfl, upload_stores_handed completing_reachable rfl⟩

end Steps

end Handle

end CurlFtpFs
