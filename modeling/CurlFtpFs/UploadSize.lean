import CurlFtpFs.UploadProtocol

namespace CurlFtpFs

/-! The size check of `ftpfs_flush`. After an upload, `ftpfs_flush` compares
the size `ftpfs_getattr` reports with `pos`, the bytes handed off since the
open, and on a mismatch stores -999 in `write_fail_cause`, since `APPE` resumes
an upload at whatever size the file has. While the file changes only through
this handle, the check always passes: `pos` is the size of the file after the
last upload, plus the bytes handed to the running one. -/

/-- No other handle or client changes the file on the server. -/
def Action.internal : Action → Bool
  | .external _ => false
  | _ => true

def Worker.completed : Worker → Bool
  | .performed res => res == 0
  | .exiting | .exited => true
  | _ => false

def Worker.uploading : Worker → Bool
  | .none | .launched => false
  | w => !w.completed

namespace Handle

/-- The size of the file once the running upload completes: `APPE` adds the
bytes handed off to the file, `STOR` replaces it by them. -/
def expectedSize (s : Handle) : Option Nat :=
  if s.append then s.remote.map (·.length + s.handed.length) else some s.handed.length

/-- How `pos` relates to the file on the server while no failure is
recorded, by where the worker is. -/
structure Stored (s : Handle) : Prop where
  /-- A launched worker has not set the upload up: the request thread waits on
  `ready`, nothing is handed off, and a resumed upload starts at the file's size. -/
  launched : s.worker = .launched → s.request.starting = true ∧ s.ready = 0 ∧ s.handed = [] ∧
    (0 < s.pos → s.remote.map List.length = some s.pos)
  uploading : s.worker.uploading = true → s.writeFailCause = 0 →
    s.expectedSize = some s.pos ∧ (s.append = true → 0 < s.pos)
  completed : s.worker.completed = true → s.writeFailCause = 0 →
    s.remote.map List.length = some s.pos
  /-- Between uploads the file has `pos` bytes, once anything was written. -/
  idle : s.worker = .none → s.writeConn = false → s.writeFailCause = 0 → 0 < s.pos →
    s.remote.map List.length = some s.pos
  checking : ∀ caller, s.request = .sizeCheck caller → s.remote.map List.length = some s.pos
  posting : s.worker = .needPost → s.writeFailCause ≠ 0

section Steps

variable {s s' : Handle}

theorem Protocol.finishing_of_settled (p : s.Protocol) (ok : s.writeFailCause = 0)
    (alive : s.worker ≠ .none) (done : s.worker.waiting = false) (idle : s.worker.copying = false) :
    s.request.finishing = true := by
  have t := p.turn ok alive
  cases r : s.request with
  | closed => exact absurd (p.life.closed r) alive
  | sizeCheck caller => exact absurd (p.life.checked caller r) alive
  | idle => simp [((turn_idle r).1 t).1.waiting] at done
  | needWait => simp [((turn_needWait r).1 t).1.waiting] at done
  | openReady | startReady =>
      simp [((turn_starting (by simp [r, Request.starting])).1 t).1.waiting] at done
  | writtenWait size =>
      rcases (turn_writtenWait r).1 t with d | ret
      · rcases d.turn with ⟨-, w⟩ | ⟨-, c⟩
        · simp [w] at done
        · simp [c] at idle
      · rcases ret.post with ⟨-, w⟩ | ⟨-, n, a⟩
        · simp [w] at done
        · simp [a, Worker.waiting] at done
  | finishCall | finishTest | finishNeed | finishEof | finishJoin => rfl

theorem Protocol.finishing_of_completed (p : s.Protocol) (ok : s.writeFailCause = 0)
    (done : s.worker.completed = true) : s.request.finishing = true := by
  apply p.finishing_of_settled ok <;> cases w : s.worker <;>
    simp_all [Worker.completed, Worker.waiting, Worker.copying]

theorem remote_of_expectedSize (expected : s.expectedSize = some s.pos) :
    (some (if s.append then s.remote.getD [] ++ s.handed else s.handed)).map List.length =
      some s.pos := by
  unfold expectedSize at expected
  cases append : s.append <;> simp only [append, if_true, if_false] at expected ⊢
  · simpa using expected
  · obtain ⟨file, present, size⟩ := Option.map_eq_some'.mp expected
    simp [present, size]

theorem Stored.rework (q : s.Stored) (remote : s'.remote = s.remote) (pos : s'.pos = s.pos)
    (handed : s'.handed = s.handed) (append : s'.append = s.append)
    (request : s'.request = s.request) (failCause : s'.writeFailCause = s.writeFailCause)
    (alive : s'.worker ≠ .none) (fresh : s'.worker ≠ .launched)
    (uploading : s'.worker.uploading = true → s.worker.uploading = true)
    (completed : s'.worker.completed = true → s.writeFailCause = 0 → s.worker.completed = true)
    (posting : s'.worker = .needPost → s.worker = .needPost) : s'.Stored where
  launched l := absurd l fresh
  uploading up ok := by
    unfold expectedSize
    rw [remote, pos, handed, append] at *
    exact q.uploading (uploading up) (failCause ▸ ok)
  completed done ok := by
    rw [remote, pos]
    exact q.completed (completed done (failCause ▸ ok)) (failCause ▸ ok)
  idle none := absurd none alive
  checking caller checking := by rw [remote, pos]; exact q.checking caller (request ▸ checking)
  posting needs := failCause ▸ q.posting (posting needs)

theorem Stored.work (p : s.Protocol) (q : s.Stored) (worked : s.work = some s') : s'.Stored := by
  cases Works.of_work worked with
  | launched w =>
      obtain ⟨-, -, empty, resumed⟩ := q.launched w
      refine ⟨fun l => (by cases l), fun _ _ => ⟨?_, fun append => by simpa using append⟩,
        fun done => (by cases done), fun none => (by cases none), q.checking,
        fun posting => (by cases posting)⟩
      by_cases started : 0 < s.pos
      · obtain ⟨file, present, size⟩ := Option.map_eq_some'.mp (resumed started)
        simp [expectedSize, started, present, size, empty]
      · simp [expectedSize, started, empty]; omega
  | @failing res w =>
      have nonzero := p.life.failing res w
      exact ⟨fun l => (by cases l), fun _ ok => absurd ok nonzero, fun _ ok => absurd ok nonzero,
        fun none => (by cases none), q.checking, fun _ => nonzero⟩
  | needPosted w =>
      exact q.rework rfl rfl rfl rfl rfl rfl (by simp) (by simp)
        (fun up => by simp [Worker.uploading, Worker.completed] at up)
        (fun _ ok => absurd ok (q.posting w)) (fun posting => by cases posting)
  | failed w nonzero =>
      exact q.rework rfl rfl rfl rfl rfl rfl (by simp) (by simp)
        (fun _ => by simp [w, Worker.uploading, Worker.completed, nonzero])
        (fun done => by simp [Worker.completed] at done) (fun posting => by simp at posting)
  | readyPosted w _ | readyKnown w _ | writtenPosted w _ _ | writtenPending w _ | availTaken w _
  | eofSeen w _ | eofUnseen w _ | copiedPart w _ | copiedAll w _ | succeeded w | exiting w =>
      exact q.rework rfl rfl rfl rfl rfl rfl (by simp) (by simp)
        (fun up => by simp [w, Worker.uploading, Worker.completed] at up ⊢)
        (fun done _ => by simp [w, Worker.completed] at done ⊢)
        (fun posting => by simp at posting)

theorem Stored.call (q : s.Stored) {n : Nat} (called : s.call n = some s') : s'.Stored := by
  obtain ⟨running, -, rfl⟩ := call_cases called
  exact q.rework rfl rfl rfl rfl rfl rfl (by simp) (by simp)
    (fun _ => by simp [running, Worker.uploading, Worker.completed])
    (fun done => by simp [Worker.completed] at done) (fun posting => by simp at posting)

theorem Stored.fail (q : s.Stored) {code : Int} (failed : s.fail code = some s') : s'.Stored := by
  obtain ⟨ended, running, nonzero, rfl⟩ := fail_cases failed
  exact q.rework rfl rfl rfl rfl rfl rfl (by simp) (by simp)
    (fun _ => by simp [running, Worker.uploading, Worker.completed])
    (fun done => by simp [Worker.completed, nonzero] at done) (fun posting => by simp at posting)

theorem Stored.complete (p : s.Protocol) (q : s.Stored) (completed : s.complete = some s') :
    s'.Stored := by
  obtain ⟨running, rfl⟩ := complete_cases completed
  have body : s.body = s.handed := by simpa [p.empty_of_ended running] using p.handed
  refine ⟨fun l => (by cases l), fun up => (by simp [Worker.uploading, Worker.completed] at up),
    fun _ ok => ?_, fun none => (by cases none),
    fun caller checking => absurd (p.life.checked caller checking) (by simp [running]),
    fun posting => (by cases posting)⟩
  rw [body]
  exact remote_of_expectedSize
    (q.uploading (by simp [running, Worker.uploading, Worker.completed]) ok).1

theorem Stored.advance (q : s.Stored) (remote : s'.remote = s.remote) (pos : s'.pos = s.pos)
    (handed : s'.handed = s.handed) (append : s'.append = s.append)
    (worker : s'.worker = s.worker) (failCause : s'.writeFailCause = s.writeFailCause)
    (launched : s.worker = .launched → s'.request.starting = true ∧ s'.ready = 0)
    (idle : s.worker = .none → s'.writeConn = false → s.writeFailCause = 0 → 0 < s.pos →
      s.remote.map List.length = some s.pos)
    (checking : ∀ caller, s'.request = .sizeCheck caller → s.remote.map List.length = some s.pos) :
    s'.Stored where
  launched l := by
    obtain ⟨-, -, empty, resumed⟩ := q.launched (worker ▸ l)
    exact ⟨(launched (worker ▸ l)).1, (launched (worker ▸ l)).2, handed ▸ empty,
      by rw [remote, pos]; exact resumed⟩
  uploading up ok := by
    unfold expectedSize
    rw [remote, pos, handed, append]
    exact q.uploading (worker ▸ up) (failCause ▸ ok)
  completed done ok := by rw [remote, pos]; exact q.completed (worker ▸ done) (failCause ▸ ok)
  idle none off ok := by rw [remote, pos]; exact idle (worker ▸ none) off (failCause ▸ ok)
  checking caller c := by rw [remote, pos]; exact checking caller c
  posting needs := failCause ▸ q.posting (worker ▸ needs)

theorem Stored.advance_inside (p : s.Protocol) (q : s.Stored) (inside : s.request.quiet = false)
    (waits : s.request.starting = false) (remote : s'.remote = s.remote) (pos : s'.pos = s.pos)
    (handed : s'.handed = s.handed) (append : s'.append = s.append)
    (worker : s'.worker = s.worker) (failCause : s'.writeFailCause = s.writeFailCause)
    (conn : s'.writeConn = s.writeConn)
    (checking : ∀ caller, s'.request = .sizeCheck caller → False) : s'.Stored :=
  q.advance remote pos handed append worker failCause
    (fun l => absurd (q.launched l).1 (by simp [waits]))
    (fun none off => absurd (p.quiet none (conn ▸ off)) (by simp [inside]))
    (fun caller c => absurd c (checking caller))

theorem Stored.proceed (p : s.Protocol) (q : s.Stored) {allocated listed : Bool}
    (proceeded : s.proceed allocated listed = some s') : s'.Stored := by
  cases Proceeds.of_proceed proceeded with
  | openReady opening posted | startReady opening posted =>
      have alive := p.alive_of_starting (by simp [opening, Request.starting])
      exact q.advance rfl rfl rfl rfl rfl rfl
        (fun l => absurd (q.launched l).2.1 (by omega)) (fun none => absurd none alive)
        (fun _ c => by cases c)
  | nonSequential waiting _ _ | outOfMemory waiting _ _ =>
      exact q.advance_inside p (by simp [waiting, Request.quiet])
        (by simp [waiting, Request.starting]) rfl rfl rfl rfl rfl rfl rfl (fun _ c => by cases c)
  | written waiting _ =>
      exact q.advance_inside p (by simp [waiting, Request.quiet])
        (by simp [waiting, Request.starting]) rfl rfl rfl rfl rfl rfl rfl (fun _ c => by cases c)
  | finishCalled testing | finishWaits testing _ | finishFailed testing _ | finishNeed testing _
  | finishEof testing =>
      exact q.advance_inside p (by simp [testing, Request.quiet])
        (by simp [testing, Request.starting]) rfl rfl rfl rfl rfl rfl rfl (fun _ c => by cases c)
  | handOff waiting need _ =>
      have alive := p.alive_of_need (by simp [waiting, Request.quiet]) need
      refine ⟨fun l => absurd (q.launched l).1 (by simp [waiting, Request.starting]),
        fun up ok => ?_, fun done ok => absurd (p.finishing_of_completed ok done)
          (by simp [waiting, Request.finishing]),
        fun none => absurd none alive, fun _ c => (by cases c), q.posting⟩
      obtain ⟨expected, appended⟩ := q.uploading up ok
      refine ⟨?_, fun append => Nat.lt_add_right _ (appended append)⟩
      unfold expectedSize at expected ⊢
      cases append : s.append
      · simp [append] at expected ⊢
        omega
      · obtain ⟨file, present, size⟩ := Option.map_eq_some'.mp (by simpa [append] using expected)
        simp [present, ← size, Nat.add_assoc]
  | @joined caller _ exited =>
      have done : s.worker.completed = true := by simp [exited, Worker.completed]
      have checked : ∀ c, (s.finishJoined caller).request = .sizeCheck c →
          s.writeFailCause = 0 := fun c checking => by
        by_contra failed
        cases caller <;> simp [finishJoined, failed, reply, freed] at checking
      obtain ⟨request, log, joined, -⟩ := s.finishJoined_eq caller
      rw [joined] at checked ⊢
      exact ⟨fun l => (by cases l), fun up => (by cases up), fun done => (by cases done),
        fun _ _ ok _ => q.completed done ok,
        fun c checking => q.completed done (checked c checking), fun posting => (by cases posting)⟩
  | @sizeChecked caller checking =>
      obtain ⟨failCause, request, log, checked, -, -⟩ := s.flushChecked_eq listed caller
      have none := p.life.checked caller checking
      rw [checked]
      exact ⟨fun l => absurd (none.symm.trans l) (by simp),
        fun up => absurd up (by simp [none, Worker.uploading]),
        fun done => absurd done (by simp [none, Worker.completed]),
        fun _ _ _ _ => q.checking caller checking,
        fun _ _ => q.checking caller checking, fun needs => absurd (none.symm.trans needs) (by simp)⟩

variable {rwWorkaround : Bool}

theorem ftpfsOpenCommon_stored {flags : OpenFlags} {start : StartOutcome}
    (opened : s.ftpfsOpenCommon rwWorkaround flags start = some s') : s'.Stored := by
  have fresh : s'.pos = 0 ∧ (s'.worker = .none ∨ s'.worker = .launched) ∧
      (s'.worker = .launched → s'.request.starting = true ∧ s'.ready = 0 ∧ s'.handed = []) ∧
      ∀ caller, s'.request ≠ .sizeCheck caller := by
    obtain ⟨-, ⟨r, rfl⟩ | ⟨_, rfl⟩ | rfl | ⟨-, rfl⟩⟩ := ftpfsOpenCommon_cases opened
    · exact ⟨rfl, .inl rfl, fun l => (by cases l), fun _ c => (by cases c)⟩
    · cases start
      case started => exact absurd rfl ‹_›
      all_goals exact ⟨rfl, .inl rfl, fun l => (by cases l), fun _ c => (by cases c)⟩
    · exact ⟨rfl, .inl rfl, fun l => (by cases l), fun _ c => (by cases c)⟩
    · exact ⟨rfl, .inr rfl, fun _ => ⟨rfl, rfl, rfl⟩, fun _ c => (by cases c)⟩
  obtain ⟨empty, worker, launched, checking⟩ := fresh
  refine ⟨fun l => ⟨(launched l).1, (launched l).2.1, (launched l).2.2, fun p => by simp [empty] at p⟩,
    fun up => ?_, fun done => ?_, fun _ _ _ p => (by simp [empty] at p),
    fun c h => absurd h (checking c), fun needs => ?_⟩
  all_goals rcases worker with w | w <;> simp [w, Worker.uploading, Worker.completed] at *

theorem Stored.ftpfsWrite (p : s.Protocol) (q : s.Stored) {offset : Nat} {data : List UInt8}
    {start : StartOutcome} {listed : Bool}
    (written : s.ftpfsWrite offset data start listed = some s') : s'.Stored := by
  have inactive : s.worker = .launched → False := fun l => by
    have waits := (q.launched l).1
    simp [(ftpfsWrite_cases written).1, Request.starting] at waits
  obtain ⟨idle, ⟨r, rfl⟩ | ⟨ok, conn, started, rfl⟩ | ⟨ok, conn, -, rfl⟩ | ⟨ok, conn, rfl⟩⟩ :=
    ftpfsWrite_cases written
  · exact q.advance rfl rfl rfl rfl rfl rfl (absurd · inactive) q.idle (fun _ c => by cases c)
  · have none := p.life.none_of_conn conn
    cases start
    case started => exact absurd rfl started
    all_goals exact ⟨fun l => absurd l (by simp [reply, none]),
      fun up => absurd up (by simp [reply, none, Worker.uploading]),
      fun done => absurd done (by simp [reply, none, Worker.completed]),
      fun _ _ _ begun => q.idle none conn ok begun, fun _ c => (by cases c),
      fun needs => absurd needs (by simp [reply, none])⟩
  · have none := p.life.none_of_conn conn
    exact ⟨fun _ => ⟨rfl, rfl, rfl, q.idle none conn ok⟩, fun up => (by cases up),
      fun done => (by cases done), fun none => (by cases none), fun _ c => (by cases c),
      fun needs => (by cases needs)⟩
  · exact q.advance rfl rfl rfl rfl rfl rfl (absurd · inactive)
      (fun _ off => absurd off (by simp [conn])) (fun _ c => by cases c)

theorem ftpfsFtruncate_remote {offset : Nat} {created listed : Bool}
    (truncated : s.ftpfsFtruncate offset created listed = some s') :
    s'.remote = s.remote ∨ s.pos = 0 ∧ s'.remote = some [] := by
  unfold ftpfsFtruncate at truncated
  obtain ⟨-, ⟨⟩⟩ | ⟨-, truncated⟩ := ite_eq_iff.mp truncated
  obtain ⟨-, truncated⟩ | ⟨-, ⟨⟩⟩ := ite_eq_iff.mp truncated
  · obtain ⟨empty, ⟨⟩⟩ | ⟨-, ⟨⟩⟩ := ite_eq_iff.mp truncated
    · cases created
      · exact .inl rfl
      · exact .inr ⟨empty, rfl⟩
    · exact .inl rfl
  · exact .inl rfl

theorem Stored.ftpfsFtruncate (p : s.Protocol) (q : s.Stored) {offset : Nat} {created listed : Bool}
    (truncated : s.ftpfsFtruncate offset created listed = some s') : s'.Stored := by
  have changed := ftpfsFtruncate_remote truncated
  obtain ⟨idle, r, mayStart, remote, rfl⟩ := ftpfsFtruncate_cases truncated
  refine ⟨fun l => absurd (q.launched l).1 (by simp [idle, Request.starting]), fun up ok => ?_,
    fun done ok => absurd (p.finishing_of_completed ok done) (by simp [idle, Request.finishing]),
    fun none off ok started => ?_, fun _ c => (by cases c), q.posting⟩
  · obtain ⟨expected, appended⟩ := q.uploading up ok
    refine ⟨?_, appended⟩
    rcases changed with same | ⟨empty, -⟩
    · replace same : remote = s.remote := same
      subst same
      exact expected
    · have kept : s.append = false := by
        cases append : s.append
        · rfl
        · simp [empty, append] at appended
      simpa [expectedSize, reply, kept] using expected
  · rcases changed with same | ⟨empty, -⟩
    · replace same : remote = s.remote := same
      subst same
      exact q.idle none off ok started
    · exact absurd started (by simp [reply, empty])

theorem Stored.relabel (q : s.Stored) (idle : s.request = .idle) (request : Request)
    (log : List Int) (entered : ∀ caller, request ≠ .sizeCheck caller) :
    ({ s with request := request, log := log } : Handle).Stored :=
  q.advance rfl rfl rfl rfl rfl rfl
    (fun l => absurd (q.launched l).1 (by simp [idle, Request.starting])) q.idle
    (fun caller checking => absurd checking (entered caller))

theorem Stored.step (p : s.Protocol) (q : s.Stored) {a : Action} (internal : a.internal = true)
    (stepped : s.step rwWorkaround a = some s') : s'.Stored := by
  cases a with
  | «open» flags start => exact ftpfsOpenCommon_stored stepped
  | write offset data start listed => exact q.ftpfsWrite p stepped
  | flush =>
      obtain ⟨idle, ⟨-, rfl⟩ | ⟨-, rfl⟩⟩ := ftpfsFlush_cases stepped
      all_goals exact q.relabel idle _ _ fun _ c => by cases c
  | release =>
      obtain ⟨idle, ⟨-, rfl⟩ | ⟨-, rfl⟩⟩ := ftpfsRelease_cases stepped
      all_goals exact q.relabel idle _ _ fun _ c => by cases c
  | ftruncate offset created listed => exact q.ftpfsFtruncate p stepped
  | proceed allocated listed => exact q.proceed p stepped
  | call n => exact q.call stepped
  | fail code => exact q.fail stepped
  | complete => exact q.complete p stepped
  | work => exact q.work p stepped
  | external file => cases internal

theorem initial_stored (remote : Option (List UInt8)) : (initial remote).Stored :=
  ⟨fun l => (by cases l), fun up => (by cases up), fun done => (by cases done),
    fun _ _ _ started => (by cases started), fun _ c => (by cases c), fun needs => (by cases needs)⟩

theorem Reachable.mono {allowed allowed' : Action → Prop}
    (reach : Reachable rwWorkaround allowed s) (weaker : ∀ a, allowed a → allowed' a) :
    Reachable rwWorkaround allowed' s := by
  induction reach with
  | initial remote => exact .initial remote
  | step _ admitted stepped reached => exact .step reached (weaker _ admitted) stepped

theorem Reachable.stored
    (reach : Reachable rwWorkaround (fun a => a.sized = true ∧ a.internal = true) s) :
    s.Stored := by
  induction reach with
  | initial remote => exact initial_stored remote
  | step reached admitted stepped q =>
      exact q.step (reached.mono fun _ admitted => admitted.1).protocol admitted.2 stepped

/-- While no other client changes the file, the size check of `ftpfs_flush`
never finds a size other than `pos`, and stores nothing in `write_fail_cause`:
it returns 0 when the listing names the file, and the `-ENOENT` of
`ftpfs_getattr` when its `LIST` fails. -/
theorem sizeCheck_passes
    (reach : Reachable rwWorkaround (fun a => a.sized = true ∧ a.internal = true) s)
    {caller : Caller} (checking : s.request = .sizeCheck caller) (listed : Bool) :
    s.sizeChecked listed = (s, if listed then 0 else - ENOENT) := by
  obtain ⟨file, present, size⟩ := Option.map_eq_some'.mp (reach.stored.checking caller checking)
  cases listed <;> simp [sizeChecked, getattr, present, size]

def sizeChecking : Handle :=
  (handingOff.run false [.work, .work, .work, .call 4, .work, .work, .proceed true true, .flush,
    .proceed true true, .proceed true true, .proceed true true, .work, .work, .complete, .work, .work,
    .proceed true true]).getD handingOff

theorem sizeChecking_reachable :
    Reachable false (fun a => a.sized = true ∧ a.internal = true) sizeChecking :=
  Reachable.run (.initial none) (by decide)
    (show (initial none).run false [.open createFlags .started, .work, .call 4, .work, .work,
      .proceed true true, .write 0 [7] .started true, .proceed true true,
      .work, .work, .work, .call 4, .work, .work, .proceed true true,
      .flush, .proceed true true, .proceed true true, .proceed true true,
      .work, .work, .complete, .work, .work, .proceed true true] = some sizeChecking from rfl)

theorem sizeCheck_passes_sizeChecking :
    sizeChecking.request = .sizeCheck .flush ∧
      sizeChecking.sizeChecked false = (sizeChecking, if false then 0 else - ENOENT) :=
  ⟨rfl, sizeCheck_passes sizeChecking_reachable rfl false⟩

end Steps

end Handle

end CurlFtpFs
