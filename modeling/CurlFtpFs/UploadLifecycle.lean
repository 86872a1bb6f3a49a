import CurlFtpFs.Upload

namespace CurlFtpFs

/-! The handle's lifetime around its worker: a worker exists only while
`write_conn` is set, `write_conn` is cleared only by the join in
`finish_write_thread`, and so `free_ftpfs_file` never frees a handle whose
worker was not joined. A recorded upload failure stays until release and fails
every later write. -/

def Action.opens : Action → Bool
  | .open _ _ => true
  | _ => false

namespace Handle

/-- What every state keeps about the worker's lifetime. -/
structure Lifecycle (s : Handle) : Prop where
  conn : s.worker ≠ .none → s.writeConn = true
  closed : s.request = .closed → s.worker = .none
  checked : ∀ caller, s.request = .sizeCheck caller → s.worker = .none
  failing : ∀ res, s.worker = .failing res → res ≠ 0

section Steps

variable {s s' : Handle}

theorem Lifecycle.of_none (none : s.worker = .none) : s.Lifecycle where
  conn alive := absurd none alive
  closed _ := none
  checked _ _ := none
  failing _ failing := by cases none.symm.trans failing

theorem Lifecycle.keep (life : s.Lifecycle) (worker : s'.worker = s.worker)
    (conn : s'.writeConn = s.writeConn)
    (free : s'.request = .closed ∨ (∃ caller, s'.request = .sizeCheck caller) →
      s.worker = .none) :
    s'.Lifecycle where
  conn alive := conn ▸ life.conn (worker ▸ alive)
  closed closed := worker ▸ free (.inl closed)
  checked caller checking := worker ▸ free (.inr ⟨caller, checking⟩)
  failing res failing := life.failing res (worker ▸ failing)

theorem Lifecycle.advance (life : s.Lifecycle) (request : s'.request = s.request)
    (conn : s'.writeConn = s.writeConn) (alive : s.worker ≠ .none)
    (failing : ∀ res, s'.worker = .failing res → res ≠ 0) : s'.Lifecycle where
  conn _ := conn ▸ life.conn alive
  closed closed := absurd (life.closed (request ▸ closed)) alive
  checked caller checking := absurd (life.checked caller (request ▸ checking)) alive
  failing := failing

theorem Lifecycle.none_of_conn (life : s.Lifecycle) (conn : s.writeConn = false) :
    s.worker = .none :=
  by_contra fun alive => by simp [life.conn alive] at conn

variable {rwWorkaround : Bool}

theorem ftpfsOpenCommon_lifecycle {flags : OpenFlags} {start : StartOutcome}
    (opened : s.ftpfsOpenCommon rwWorkaround flags start = some s') : s'.Lifecycle := by
  obtain ⟨-, ⟨r, rfl⟩ | ⟨started, rfl⟩ | rfl | ⟨-, rfl⟩⟩ := ftpfsOpenCommon_cases opened
  · exact .of_none rfl
  · exact .of_none (by simp [freed, started, Handle.opened])
  · exact .of_none rfl
  · constructor <;> simp

theorem Lifecycle.ftpfsWrite (life : s.Lifecycle) {offset : Nat} {data : List UInt8}
    {start : StartOutcome} {listed : Bool}
    (written : s.ftpfsWrite offset data start listed = some s') : s'.Lifecycle := by
  obtain ⟨-, ⟨r, rfl⟩ | ⟨-, conn, started, rfl⟩ | ⟨-, -, -, rfl⟩ | ⟨-, -, rfl⟩⟩ :=
    ftpfsWrite_cases written
  · exact life.keep rfl rfl (by simp [reply])
  · exact .of_none (by simp [reply, started, life.none_of_conn conn])
  · constructor <;> simp
  · exact life.keep rfl rfl (by simp)

theorem Lifecycle.proceed (life : s.Lifecycle) {allocated listed : Bool}
    (proceeded : s.proceed allocated listed = some s') : s'.Lifecycle := by
  cases Proceeds.of_proceed proceeded with
  | @joined caller _ _ =>
      obtain ⟨request, log, joined, -⟩ := s.finishJoined_eq caller
      exact joined ▸ .of_none rfl
  | @sizeChecked caller checking =>
      obtain ⟨failCause, request, log, checked, -, -⟩ := s.flushChecked_eq listed caller
      exact checked ▸ .of_none (life.checked caller checking)
  | _ => exact life.keep rfl rfl (by simp [reply])

theorem Lifecycle.work (life : s.Lifecycle) (worked : s.work = some s') : s'.Lifecycle := by
  cases Works.of_work worked with
  | @failed res running nonzero =>
      exact life.advance rfl rfl (by simp [running]) fun _ failing => by
        cases failing
        exact nonzero
  | _ => exact life.advance rfl rfl (by simp [*]) (by simp)

/-- Every step keeps the lifecycle. -/
theorem Lifecycle.step (life : s.Lifecycle) {a : Action}
    (stepped : s.step rwWorkaround a = some s') : s'.Lifecycle := by
  cases a with
  | «open» flags start => exact ftpfsOpenCommon_lifecycle stepped
  | write offset data start listed => exact life.ftpfsWrite stepped
  | flush =>
      obtain ⟨-, ⟨-, rfl⟩ | ⟨-, rfl⟩⟩ := ftpfsFlush_cases stepped
      all_goals exact life.keep rfl rfl (by simp [reply])
  | release =>
      obtain ⟨-, ⟨-, rfl⟩ | ⟨conn, rfl⟩⟩ := ftpfsRelease_cases stepped
      · exact life.keep rfl rfl (by simp)
      · exact life.keep rfl rfl fun _ => life.none_of_conn conn
  | ftruncate offset created listed =>
      obtain ⟨-, r, mayStart, remote, rfl⟩ := ftpfsFtruncate_cases stepped
      exact life.keep rfl rfl (by simp [reply])
  | proceed allocated listed => exact life.proceed stepped
  | call n =>
      obtain ⟨running, -, rfl⟩ := call_cases stepped
      exact life.advance rfl rfl (by simp [running]) (by simp)
  | fail code =>
      obtain ⟨ended, running, nonzero, rfl⟩ := fail_cases stepped
      exact life.advance rfl rfl (by simp [running]) (by simp)
  | complete =>
      obtain ⟨running, rfl⟩ := complete_cases stepped
      exact life.advance rfl rfl (by simp [running]) (by simp)
  | work => exact life.work stepped
  | external file =>
      cases stepped
      exact life.keep rfl rfl fun free =>
        free.elim life.closed fun ⟨caller, checking⟩ => life.checked caller checking

theorem Lifecycle.run (life : s.Lifecycle) {actions : List Action}
    (ran : s.run rwWorkaround actions = some s') : s'.Lifecycle := by
  induction actions generalizing s with
  | nil => cases ran; exact life
  | cons a rest induction =>
      obtain ⟨s₁, stepped, rest⟩ := Option.bind_eq_some.mp ran
      exact induction (life.step stepped) rest

theorem initial_lifecycle (remote : Option (List UInt8)) : (initial remote).Lifecycle :=
  .of_none rfl

theorem Reachable.lifecycle {allowed : Action → Prop} (reach : Reachable rwWorkaround allowed s) :
    s.Lifecycle := by
  induction reach with
  | initial remote => exact initial_lifecycle remote
  | step _ _ stepped life => exact life.step stepped

def createFlags : OpenFlags := ⟨false, true, false, false, false⟩

/-- `free_ftpfs_file` never frees a handle whose worker was not joined: in every
reachable state a worker that exists has its `write_conn`, and a freed handle
has no worker. -/
theorem worker_joined_before_free {allowed : Action → Prop}
    (reach : Reachable rwWorkaround allowed s) :
    (s.worker ≠ .none → s.writeConn = true) ∧ (s.request = .closed → s.worker = .none) :=
  ⟨reach.lifecycle.conn, reach.lifecycle.closed⟩

def uploading : Handle :=
  ((initial none).run false [.open createFlags .started, .work]).getD (initial none)

theorem uploading_reachable : Reachable false (fun _ => True) uploading :=
  Reachable.run (.initial none) (fun _ _ => trivial)
    (show (initial none).run false [.open createFlags .started, .work] = some uploading from rfl)

theorem worker_joined_before_free_uploading :
    (uploading.worker ≠ .none → uploading.writeConn = true) ∧
      (uploading.request = .closed → uploading.worker = .none) :=
  worker_joined_before_free uploading_reachable

/-- `write_conn` is cleared only by the join in `finish_write_thread`, after
the worker returned (an open replaces the freed handle by a new one). -/
theorem writeConn_cleared_by_join {a : Action} (stays : a.opens = false)
    (stepped : s.step rwWorkaround a = some s') (conn : s.writeConn = true)
    (cleared : s'.writeConn = false) :
    ∃ caller allocated listed, a = .proceed allocated listed ∧ s.request = .finishJoin caller ∧
      s.worker = .exited := by
  cases a with
  | «open» => cases stays
  | write =>
      obtain ⟨-, ⟨r, rfl⟩ | ⟨-, off, -⟩ | ⟨-, off, -⟩ | ⟨-, -, rfl⟩⟩ := ftpfsWrite_cases stepped
      · simp [reply, conn] at cleared
      · simp [conn] at off
      · simp [conn] at off
      · simp [conn] at cleared
  | flush =>
      obtain ⟨-, ⟨-, rfl⟩ | ⟨-, rfl⟩⟩ := ftpfsFlush_cases stepped <;> simp [reply, conn] at cleared
  | release =>
      obtain ⟨-, ⟨-, rfl⟩ | ⟨-, rfl⟩⟩ := ftpfsRelease_cases stepped <;> simp [freed, conn] at cleared
  | ftruncate =>
      obtain ⟨-, r, mayStart, remote, rfl⟩ := ftpfsFtruncate_cases stepped
      simp [reply, conn] at cleared
  | proceed allocated listed =>
      cases Proceeds.of_proceed stepped with
      | @joined caller joining exited => exact ⟨caller, allocated, listed, rfl, joining, exited⟩
      | @sizeChecked caller _ =>
          obtain ⟨_, _, _, checked, -, -⟩ := s.flushChecked_eq listed caller
          simp [checked, conn] at cleared
      | _ => simp [reply, conn] at cleared
  | call => obtain ⟨-, -, rfl⟩ := call_cases stepped; simp [conn] at cleared
  | fail => obtain ⟨-, -, -, rfl⟩ := fail_cases stepped; simp [conn] at cleared
  | complete => obtain ⟨-, rfl⟩ := complete_cases stepped; simp [conn] at cleared
  | work => cases Works.of_work stepped <;> simp [conn] at cleared
  | external => cases stepped; simp [conn] at cleared

/-- A request thread waiting on `data_need` with count 0 and no worker waits
forever: no step of the handle can be taken, and a change of the file on the
server leaves it waiting. -/
theorem finishNeed_stalled {caller : Caller} (waiting : s.request = .finishNeed caller)
    (empty : s.dataNeed = 0) (absent : s.worker = .none) {a : Action}
    (stepped : s.step rwWorkaround a = some s') :
    s'.request = .finishNeed caller ∧ s'.dataNeed = 0 ∧ s'.worker = .none := by
  cases a with
  | «open» => simp [(ftpfsOpenCommon_cases stepped).1] at waiting
  | write => simp [(ftpfsWrite_cases stepped).1] at waiting
  | flush => simp [(ftpfsFlush_cases stepped).1] at waiting
  | release => simp [(ftpfsRelease_cases stepped).1] at waiting
  | ftruncate => simp [(ftpfsFtruncate_cases stepped).1] at waiting
  | proceed =>
      cases Proceeds.of_proceed stepped with
      | finishNeed _ needed => omega
      | _ => simp_all
  | call => simp [(call_cases stepped).1] at absent
  | fail =>
      obtain ⟨_, running, -⟩ := fail_cases stepped
      simp [running] at absent
  | complete => simp [(complete_cases stepped).1] at absent
  | work => cases Works.of_work stepped <;> simp_all
  | external => cases stepped; exact ⟨waiting, empty, absent⟩

theorem finishNeed_stalled_run {caller : Caller} (waiting : s.request = .finishNeed caller)
    (empty : s.dataNeed = 0) (absent : s.worker = .none) {actions : List Action}
    (ran : s.run rwWorkaround actions = some s') :
    s'.request = .finishNeed caller ∧ s'.dataNeed = 0 ∧ s'.worker = .none := by
  induction actions generalizing s with
  | nil => cases ran; exact ⟨waiting, empty, absent⟩
  | cons a rest induction =>
      obtain ⟨s₁, stepped, rest⟩ := Option.bind_eq_some.mp ran
      obtain ⟨waiting, empty, absent⟩ := finishNeed_stalled waiting empty absent stepped
      exact induction waiting empty absent rest

/-- A write that starts an upload whose `pthread_create` fails leaves
`write_conn` set with no worker; the next flush then waits on `data_need`
forever, whatever happens after. -/
theorem flush_waits_forever :
    ∃ s, (initial (some [])).run false
        [.open ⟨false, false, false, false, false⟩ .started, .write 0 [7] .createFails true, .flush,
          .proceed true true] = some s ∧
      ∀ actions s', s.run false actions = some s' →
        s'.request = .finishNeed .flush ∧ s'.dataNeed = 0 ∧ s'.worker = .none :=
  ⟨_, rfl, fun _ _ ran => finishNeed_stalled_run rfl rfl rfl ran⟩

/-! ### A recorded failure stays -/

theorem Lifecycle.failure_stays (life : s.Lifecycle) (failed : s.writeFailCause ≠ 0)
    {a : Action} (stays : a.opens = false) (stepped : s.step rwWorkaround a = some s') :
    s'.writeFailCause ≠ 0 := by
  cases a with
  | «open» => cases stays
  | write =>
      obtain ⟨-, ⟨r, rfl⟩ | ⟨ok, -⟩ | ⟨ok, -⟩ | ⟨ok, -⟩⟩ := ftpfsWrite_cases stepped
      · exact failed
      all_goals exact absurd ok failed
  | flush => obtain ⟨-, ⟨-, rfl⟩ | ⟨-, rfl⟩⟩ := ftpfsFlush_cases stepped <;> exact failed
  | release => obtain ⟨-, ⟨-, rfl⟩ | ⟨-, rfl⟩⟩ := ftpfsRelease_cases stepped <;> exact failed
  | ftruncate =>
      obtain ⟨-, r, mayStart, remote, rfl⟩ := ftpfsFtruncate_cases stepped
      exact failed
  | proceed allocated listed =>
      cases Proceeds.of_proceed stepped with
      | @joined caller _ _ =>
          obtain ⟨request, log, joined, -⟩ := s.finishJoined_eq caller
          exact joined ▸ failed
      | @sizeChecked caller _ =>
          obtain ⟨failCause, request, log, checked, kept | mismatch, -⟩ := s.flushChecked_eq listed caller
          · exact checked ▸ kept ▸ failed
          · rw [checked, mismatch]
            exact (by decide : (-999 : Int) ≠ 0)
      | _ => exact failed
  | work =>
      cases Works.of_work stepped with
      | @failing res running => exact life.failing res running
      | _ => exact failed
  | call => obtain ⟨-, -, rfl⟩ := call_cases stepped; exact failed
  | fail => obtain ⟨-, -, -, rfl⟩ := fail_cases stepped; exact failed
  | complete => obtain ⟨-, rfl⟩ := complete_cases stepped; exact failed
  | external => cases stepped; exact failed

/-- Once `write_fail_cause` is set, it stays set until release (the next open
allocates a new handle), and every write returns `-EIO` at once, handing no
byte to an upload. -/
theorem Lifecycle.failure_stays_run (life : s.Lifecycle) (failed : s.writeFailCause ≠ 0)
    {actions : List Action} (stays : ∀ a ∈ actions, a.opens = false)
    (ran : s.run rwWorkaround actions = some s') : s'.writeFailCause ≠ 0 := by
  induction actions generalizing s with
  | nil => cases ran; exact failed
  | cons a rest induction =>
      obtain ⟨s₁, stepped, rest⟩ := Option.bind_eq_some.mp ran
      exact induction (life.step stepped) (life.failure_stays failed (stays a (.head _)) stepped)
        (fun b member => stays b (.tail _ member)) rest

theorem writeFailCause_latched {allowed : Action → Prop}
    (reach : Reachable rwWorkaround allowed s) (failed : s.writeFailCause ≠ 0)
    {actions : List Action} (ran : s.run rwWorkaround actions = some s')
    (stays : ∀ a ∈ actions, a.opens = false) :
    s'.writeFailCause ≠ 0 ∧ ∀ offset data start listed s'',
      s'.ftpfsWrite offset data start listed = some s'' → s'' = s'.reply (- EIO) := by
  have kept := reach.lifecycle.failure_stays_run failed stays ran
  exact ⟨kept, fun _ _ _ _ _ written => ftpfsWrite_failed kept written⟩

/-- An upload whose `curl_easy_perform` fails before the first callback; the
open returns 0 once the worker posted `ready`, and the worker has stored the
failure. -/
def failedUpload : Handle :=
  ((initial none).run false
    [.open createFlags .started, .work, .fail 28, .work, .work, .proceed true true]).getD
    (initial none)

theorem failedUpload_reachable : Reachable false (fun _ => True) failedUpload :=
  Reachable.run (.initial none) (fun _ _ => trivial)
    (show (initial none).run false
      [.open createFlags .started, .work, .fail 28, .work, .work, .proceed true true] =
        some failedUpload from rfl)

theorem writeFailCause_latched_failedUpload :
    (failedUpload.reply (- EIO)).writeFailCause ≠ 0 ∧ ∀ offset data start listed s'',
      (failedUpload.reply (- EIO)).ftpfsWrite offset data start listed = some s'' →
        s'' = (failedUpload.reply (- EIO)).reply (- EIO) :=
  writeFailCause_latched failedUpload_reachable (by decide)
    (show failedUpload.run false [.write 0 [7] .started true] = some (failedUpload.reply (- EIO))
      from rfl) (by decide)

/-- One `O_CREAT` handle: `write(0, [7])` is handed off and returns 1, then
`write(5, [8])` is not at `pos`, so it finishes the upload and returns `-EIO`,
then `write(1, [8])` at `pos` resumes with `APPE` and returns 1. -/
def rejectedThenResumed : List Action :=
  [.open createFlags .started, .work, .call 4, .work, .work, .proceed true true,
    .write 0 [7] .started true, .proceed true true, .work, .work, .work, .call 4, .work, .work,
    .proceed true true,
    .write 5 [8] .started true, .proceed true true, .proceed true true, .proceed true true, .work,
    .work, .work, .proceed true true, .proceed true true, .complete, .work, .work,
    .proceed true true,
    .write 1 [8] .started true, .work, .call 4, .work, .proceed true true, .work,
    .proceed true true, .work, .work, .work, .call 4, .work, .work, .proceed true true]

/-- A write rejected for its offset while an upload runs records no failure:
a later write at `pos` succeeds. -/
theorem nonSequential_write_not_latched :
    ((initial none).run false rejectedThenResumed).map (fun s => (s.log, s.writeFailCause)) =
      some ([0, 1, - EIO, 1], 0) := rfl

/-- One `O_CREAT` handle: `write(0, [7])` returns 1, a flush completes the
upload with `STOR` and returns 0, then `write(5, [8])` finds no upload and an
offset other than `pos`, and a flush returns 0. -/
def writePastPos : List Action :=
  [.open createFlags .started, .work, .call 4, .work, .work, .proceed true true,
    .write 0 [7] .started true, .proceed true true, .work, .work, .work, .call 4, .work, .work,
    .proceed true true,
    .flush, .proceed true true, .proceed true true, .proceed true true, .work, .work, .complete,
    .work, .work, .proceed true true, .proceed true true, .write 5 [8] .started true, .flush]

/-- A write with no upload whose offset is neither 0 nor `pos` is dropped and
returns its size: both writes and both flushes succeed, yet `pos` is 1 and the
server holds only the first payload. -/
theorem write_past_pos_dropped :
    ((initial none).run false writePastPos).map (fun s => (s.log, s.pos, s.remote)) =
      some ([0, 1, 0, 1, 0], 1, some [7]) := rfl

end Steps

end Handle

end CurlFtpFs
