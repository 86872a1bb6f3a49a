import CurlFtpFs.ReadWindow

namespace CurlFtpFs

/-! Whole runs of the read side. Every upcall keeps the shared connection
consistent and a handle's window exact, as long as `ftpfs.current_fh` names an
open handle afterwards. -/

/-- `ftpfs.current_fh` is `NULL` or designates an open handle. -/
def CurrentLive (w : World) : Prop :=
  ∀ g, w.ftpfs.currentFh = some g → (w.files g).isSome

instance (w : World) : Decidable (CurrentLive w) :=
  decidable_of_iff ((w.ftpfs.currentFh.all fun g => (w.files g).isSome) = true) <| by
    unfold CurrentLive
    cases w.ftpfs.currentFh <;> simp

/-- The runs of the read side from mount in which every upcall meets `allowed`,
a condition on the world before it, the upcall, its reply, and the world after it. -/
inductive Run (remote : String → List UInt8) (allowed : World → Upcall → Reply → World → Prop) :
    World → Prop
  | mount : Run remote allowed World.initial
  | step {w w' : World} {u : Upcall} {reply : Reply} : Run remote allowed w →
      dispatch remote w u = some (w', reply) → allowed w u reply w' → Run remote allowed w'

def Upcall.ReadsFit (remote : String → List UInt8) (x : Nat) (w : World) : Upcall → Prop
  | .read fh fullPath _ offset _ => fh = x → Fits remote w fh fullPath offset
  | _ => True

/-! ### Who owns the connection, and which handles are open -/

section Frame

variable {remote : String → List UInt8}

theorem World.Grows.isSome {w w' : World} (grows : w.Grows w') (g : Nat) :
    (w'.files g).isSome = (w.files g).isSome := by
  obtain ⟨extra, grown⟩ := grows g
  rw [grown]
  cases w.files g <;> rfl

theorem takeConnection_currentFh (w : World) (fullPath : String) (offset fh : Nat)
    (f : FtpfsFile) (probe : Delivery) :
    (takeConnection remote w fullPath offset fh f probe).ftpfs.currentFh = some fh := by
  unfold takeConnection restartTest
  dsimp only
  split
  · rfl
  · next owner =>
      split
      · rfl
      · rw [curlMultiPerform_currentFh]
        by_contra other
        exact owner (.inl other)

theorem takeConnection_isSome (w : World) (fullPath : String) (offset fh : Nat)
    (f : FtpfsFile) (probe : Delivery) (g : Nat) :
    ((takeConnection remote w fullPath offset fh f probe).files g).isSome =
      (w.files g).isSome := by
  have restarted : ∀ w' : World, ((restart w' fh fullPath offset).files g).isSome =
      (w'.files g).isSome := by
    intro w'
    by_cases here : g = fh
    · subst here; simp
    · simp [restart, Function.update_noteq here]
  unfold takeConnection restartTest
  dsimp only
  split
  · exact restarted w
  · split
    · rw [restarted, (curlMultiPerform_grows w probe).isSome]
    · exact (curlMultiPerform_grows w probe).isSome g

theorem fetch_frame {w : World} {fh : Nat} {f : FtpfsFile} {fullPath : String}
    {size offset : Nat} {net : ReadNetwork} {w' : World} {err : Bool}
    (fetched : fetch remote w fullPath size offset fh f net = some (w', err)) :
    w'.ftpfs.currentFh = some fh ∧ ∀ g, (w'.files g).isSome = (w.files g).isSome := by
  obtain ⟨pumped, looped, rest⟩ := fetch_some fetched
  have frame := pumpLoop_keeps
    (fun w' => w'.ftpfs.currentFh = some fh ∧ ∀ g, (w'.files g).isSome = (w.files g).isSome)
    (fun w₁ d frame => ⟨(curlMultiPerform_currentFh w₁ d).trans frame.1,
      fun g => ((curlMultiPerform_grows w₁ d).isSome g).trans (frame.2 g)⟩)
    ⟨(curlMultiPerform_currentFh _ _).trans (takeConnection_currentFh _ _ _ _ _ _),
      fun g => ((curlMultiPerform_grows _ _).isSome g).trans
        (takeConnection_isSome _ _ _ _ _ _ g)⟩ looped
  rcases rest with ⟨-, rfl, -⟩ | ⟨-, rfl, -⟩ <;> exact frame

theorem ftpfsReadChunk_frame {w : World} {fullPath : String} {size offset fh : Nat}
    {updateOffset : Bool} {net : ReadNetwork} {w' : World} {copied : List UInt8}
    {r : ReadResult}
    (read : ftpfsReadChunk remote w fullPath size offset fh updateOffset net =
      some (w', copied, r)) :
    (w'.ftpfs.currentFh = w.ftpfs.currentFh ∨ w'.ftpfs.currentFh = some fh) ∧
      ∀ g, (w'.files g).isSome = (w.files g).isSome := by
  obtain ⟨f, ⟨w₁, err⟩, g, found, filled, got, rfl, -, -⟩ := ftpfsReadChunk_some read
  have prepared : (w₁.ftpfs.currentFh = w.ftpfs.currentFh ∨ w₁.ftpfs.currentFh = some fh) ∧
      ∀ g, (w₁.files g).isSome = (w.files g).isSome := by
    unfold fillWindow at filled
    split at filled
    · exact ⟨.inr (fetch_frame filled).1, (fetch_frame filled).2⟩
    · cases filled
      exact ⟨.inl rfl, fun _ => rfl⟩
  refine ⟨prepared.1, fun g' => ?_⟩
  by_cases here : g' = fh
  · subst here
    simp [found]
  · simp only [Function.update_noteq here]
    exact prepared.2 g'

end Frame

/-! ### `ftpfs.current_fh` stays live unless a probe fails -/

section CurrentLive

variable {remote : String → List UInt8}

theorem CurrentLive.alloc {w : World} (live : CurrentLive w) (fh : Nat) (f : FtpfsFile) :
    CurrentLive (w.alloc fh f) := by
  intro g current
  by_cases here : g = fh
  · subst here; simp [World.alloc]
  · simpa [World.alloc, Function.update_noteq here] using live g current

theorem CurrentLive.free {w : World} (live : CurrentLive w) {fh : Nat}
    (other : w.ftpfs.currentFh ≠ some fh) : CurrentLive (w.free fh) := by
  intro g current
  have distinct : g ≠ fh := fun same => other (same ▸ current)
  simpa [World.free, Function.update_noteq distinct] using live g current

theorem CurrentLive.cancel {w : World} (live : CurrentLive w) :
    CurrentLive { w with ftpfs := cancelPreviousMulti w.ftpfs } :=
  fun g current => live g (by simpa using current)

theorem CurrentLive.readChunk {w : World} (live : CurrentLive w) {fullPath : String}
    {size offset fh : Nat} {updateOffset : Bool} {net : ReadNetwork} {w' : World}
    {copied : List UInt8} {r : ReadResult}
    (read : ftpfsReadChunk remote w fullPath size offset fh updateOffset net =
      some (w', copied, r)) :
    CurrentLive w' := by
  obtain ⟨current, handles⟩ := ftpfsReadChunk_frame read
  obtain ⟨f, -, -, found, -⟩ := ftpfsReadChunk_some read
  intro g now
  rw [handles]
  rcases current with same | reader
  · exact live g (same ▸ now)
  · rw [reader, Option.some.injEq] at now
    subst now
    simp [found]

theorem ftpfsOpenRdonly_currentLive {w w' : World} {fh : Nat} {fullPath : String}
    {creat mknodOk : Bool} {net : ReadNetwork} {ret : Int} (live : CurrentLive w)
    (opened : ftpfsOpenRdonly remote w fh fullPath creat mknodOk net = some (w', ret))
    (probed : creat = false → ret = 0) :
    CurrentLive w' := by
  have other : w.files fh = none → w.ftpfs.currentFh ≠ some fh :=
    fun fresh current => by simpa [fresh] using live fh current
  cases creat
  · obtain ⟨fresh, probe, read, result⟩ := ftpfsOpenRdonly_probe opened
    split at result <;> simp only [Prod.mk.injEq] at result <;> obtain ⟨rfl, rfl⟩ := result
    · exact absurd (probed rfl) (by decide)
    · exact (live.alloc fh _).readChunk read
  · obtain ⟨fresh, result⟩ := ftpfsOpenRdonly_creat opened
    split at result <;> simp only [Prod.mk.injEq] at result <;> obtain ⟨rfl, rfl⟩ := result
    · exact (live.alloc fh _).cancel
    · exact (live.alloc fh _).cancel.free (by simpa using other fresh)

theorem ftpfsRelease_currentLive {w w' : World} {fh : Nat} (live : CurrentLive w)
    (released : ftpfsRelease w fh = some w') : CurrentLive w' := by
  rw [ftpfsRelease_eq released]
  intro g current
  simp only [World.free] at current ⊢
  split at current
  · cases current
  · next other =>
      have distinct : g ≠ fh := fun same => other (same ▸ current)
      simpa [Function.update_noteq distinct] using live g current

theorem dispatch_currentLive {w w' : World} {u : Upcall} {reply : Reply} (live : CurrentLive w)
    (step : dispatch remote w u = some (w', reply))
    (probed : ∀ fh fullPath mknodOk net, u = .openRdonly fh fullPath false mknodOk net →
      reply.ret = 0) :
    CurrentLive w' := by
  cases u with
  | openRdonly fh fullPath creat mknodOk net =>
      obtain ⟨⟨w₁, ret⟩, opened, same⟩ := Option.map_eq_some'.mp step
      cases same
      refine ftpfsOpenRdonly_currentLive live opened fun plain => ?_
      subst plain
      exact probed fh fullPath mknodOk net rfl
  | read fh fullPath size offset net =>
      rcases ftpfsRead_world step with rfl | ⟨copied, r, chunk⟩
      · exact live
      · exact live.readChunk chunk
  | release fh =>
      obtain ⟨w₁, released, same⟩ := Option.map_eq_some'.mp step
      cases same
      exact ftpfsRelease_currentLive live released
  | metadata =>
      cases step
      exact live.cancel

end CurrentLive

/-! ### Every upcall keeps the windows -/

section Keeps

variable {remote : String → List UInt8}

theorem opened_window (fullPath : String) (canShrink : Bool) :
    (FtpfsFile.opened fullPath canShrink).Window remote :=
  List.nil_prefix

theorem tracks_alloc {w : World} {fh x : Nat} {f : FtpfsFile} (live : CurrentLive w)
    (fresh : w.files fh = none) (window : f.Window remote) (tracks : Tracks remote w x) :
    Tracks remote (w.alloc fh f) x := by
  intro f' present
  by_cases here : x = fh
  · subst here
    simp only [World.alloc, Function.update_same, Option.some.injEq] at present
    subst present
    refine ⟨window, fun _ current => ?_⟩
    simpa [fresh] using live x current
  · simp only [World.alloc, Function.update_noteq here] at present
    exact tracks f' present

theorem tracks_free {w : World} {x : Nat} (tracks : Tracks remote w x) (fh : Nat) :
    Tracks remote (w.free fh) x := by
  intro f present
  by_cases here : x = fh
  · subst here; simp [World.free] at present
  · simp only [World.free, Function.update_noteq here] at present
    exact tracks f present

theorem tracks_cancel {w : World} {x : Nat} (tracks : Tracks remote w x) :
    Tracks remote { w with ftpfs := cancelPreviousMulti w.ftpfs } x :=
  fun f present => ⟨(tracks f present).1, fun attached => by simp at attached⟩

theorem tracks_forget {w : World} {x : Nat} {current : Option Nat}
    (tracks : Tracks remote w x) (forgets : current = none ∨ current = w.ftpfs.currentFh) :
    Tracks remote { w with ftpfs := { w.ftpfs with currentFh := current } } x := by
  intro f present
  refine ⟨(tracks f present).1, fun attached owner => ?_⟩
  rcases forgets with rfl | rfl
  · cases owner
  · exact (tracks f present).2 attached owner

theorem Ftpfs.Consistent.forget {s : Ftpfs} (consistent : s.Consistent remote)
    {current : Option Nat} (forgets : current = none ∨ current = s.currentFh) :
    { s with currentFh := current }.Consistent remote where
  quiet := consistent.quiet
  complete := consistent.complete
  target g attached owner := by
    rcases forgets with rfl | rfl
    · cases owner
    · exact consistent.target g attached owner

theorem ftpfsOpenRdonly_keeps {w w' : World} {fh x : Nat} {fullPath : String}
    {creat mknodOk : Bool} {net : ReadNetwork} {ret : Int}
    (consistent : w.ftpfs.Consistent remote) (tracks : Tracks remote w x)
    (live : CurrentLive w)
    (opened : ftpfsOpenRdonly remote w fh fullPath creat mknodOk net = some (w', ret)) :
    w'.ftpfs.Consistent remote ∧ Tracks remote w' x := by
  cases creat
  · obtain ⟨fresh, probe, read, result⟩ := ftpfsOpenRdonly_probe opened
    have fits : fh = x → Fits remote (w.alloc fh (.opened fullPath true)) fh fullPath 0 := by
      intro _ f found
      simp only [World.alloc, Function.update_same, Option.some.injEq] at found
      subst found
      exact ⟨rfl, by norm_num⟩
    obtain ⟨consistent', tracks'⟩ := ftpfsReadChunk_keeps
      (show (w.alloc fh (.opened fullPath true)).ftpfs.Consistent remote from consistent)
      (tracks_alloc live fresh (opened_window _ _) tracks) fits read
    split at result <;> simp only [Prod.mk.injEq] at result <;> obtain ⟨rfl, rfl⟩ := result
    · exact ⟨consistent', tracks_free tracks' fh⟩
    · exact ⟨consistent', tracks'⟩
  · obtain ⟨fresh, result⟩ := ftpfsOpenRdonly_creat opened
    have cancelled := tracks_cancel (tracks_alloc live fresh (opened_window fullPath false) tracks)
    split at result <;> simp only [Prod.mk.injEq] at result <;> obtain ⟨rfl, rfl⟩ := result
    · exact ⟨consistent.cancel, cancelled⟩
    · exact ⟨consistent.cancel, tracks_free cancelled fh⟩

theorem ftpfsRelease_keeps {w w' : World} {fh x : Nat}
    (consistent : w.ftpfs.Consistent remote) (tracks : Tracks remote w x)
    (released : ftpfsRelease w fh = some w') :
    w'.ftpfs.Consistent remote ∧ Tracks remote w' x := by
  rw [ftpfsRelease_eq released]
  have forgets : (if w.ftpfs.currentFh = some fh then none else w.ftpfs.currentFh) = none ∨
      (if w.ftpfs.currentFh = some fh then none else w.ftpfs.currentFh) = w.ftpfs.currentFh := by
    split <;> simp
  exact ⟨consistent.forget forgets, tracks_free (tracks_forget tracks forgets) fh⟩

/-- Every upcall keeps the shared connection consistent and the window of `x`,
when `ftpfs.current_fh` designates an open handle before it and the reads of `x`
fit. -/
theorem dispatch_keeps {w w' : World} {u : Upcall} {reply : Reply} {x : Nat}
    (consistent : w.ftpfs.Consistent remote) (tracks : Tracks remote w x)
    (live : CurrentLive w) (fits : u.ReadsFit remote x w)
    (step : dispatch remote w u = some (w', reply)) :
    w'.ftpfs.Consistent remote ∧ Tracks remote w' x := by
  cases u with
  | openRdonly fh fullPath creat mknodOk net =>
      obtain ⟨⟨w₁, ret⟩, opened, same⟩ := Option.map_eq_some'.mp step
      cases same
      exact ftpfsOpenRdonly_keeps consistent tracks live opened
  | read fh fullPath size offset net =>
      rcases ftpfsRead_world step with rfl | ⟨copied, r, chunk⟩
      · exact ⟨consistent, tracks⟩
      · exact ftpfsReadChunk_keeps consistent tracks fits chunk
  | release fh =>
      obtain ⟨w₁, released, same⟩ := Option.map_eq_some'.mp step
      cases same
      exact ftpfsRelease_keeps consistent tracks released
  | metadata =>
      cases step
      exact ⟨consistent.cancel, tracks_cancel tracks⟩

theorem initial_consistent : World.initial.ftpfs.Consistent remote where
  quiet := .inl rfl
  complete t found := by cases found
  target g attached := by cases attached

theorem initial_tracks (x : Nat) : Tracks remote World.initial x :=
  fun f present => by cases present

end Keeps

/-! ### The windows over whole runs -/

/-- The runs in which `ftpfs.current_fh` only ever designates open handles and
every read of `x` fits `x`'s window. -/
def ReadsOf (remote : String → List UInt8) (x : Nat) (w : World) (u : Upcall) (_ : Reply)
    (w' : World) : Prop :=
  u.ReadsFit remote x w ∧ CurrentLive w'

theorem readsOf_invariant {remote : String → List UInt8} {x : Nat} {w : World}
    (run : Run remote (ReadsOf remote x) w) :
    w.ftpfs.Consistent remote ∧ Tracks remote w x ∧ CurrentLive w := by
  induction run with
  | mount => exact ⟨initial_consistent, initial_tracks x, fun g current => by cases current⟩
  | step _ step allowed invariant =>
      obtain ⟨consistent, tracks, live⟩ := invariant
      exact ⟨(dispatch_keeps consistent tracks live allowed.1 step).1,
        (dispatch_keeps consistent tracks live allowed.1 step).2, allowed.2⟩

/-- In every run where `ftpfs.current_fh` only designates open handles and the
reads of `x` name `x`'s file at offsets below `10^14`, `x`'s window holds its
file from `begin_offset` on; and every read of `x` from such a state that fits
and whose `size + offset` does not wrap in `size_t`, unless it fails, copies
exactly the requested bytes and returns their number. -/
theorem readsOf_window_exact {remote : String → List UInt8} {x : Nat} {w : World}
    (run : Run remote (ReadsOf remote x) w) :
    (∀ f, w.files x = some f → f.Window remote) ∧
      ∀ fullPath size offset updateOffset net w' copied n,
        Fits remote w x fullPath offset → size + offset < 2 ^ 64 →
        ftpfsReadChunk remote w fullPath size offset x updateOffset net =
          some (w', copied, .served n) →
        copied = ((remote fullPath).drop offset).take n ∧
          n = min size ((remote fullPath).length - offset) := by
  obtain ⟨consistent, tracks, -⟩ := readsOf_invariant run
  exact ⟨fun f found => (tracks f found).1,
    fun _ _ _ _ _ _ _ _ fits small read => ftpfsReadChunk_exact consistent tracks fits small read⟩

def twentyBytes : String → List UInt8 := fun _ => (List.range 20).map Nat.toUInt8

def tenArrive : ReadNetwork := ⟨⟨0, .pending⟩, ⟨10, .pending⟩, []⟩

def openedTen : World :=
  (dispatch twentyBytes World.initial (.openRdonly 0 "f" false false tenArrive)).elim
    World.initial Prod.fst

theorem openedTen_run : Run twentyBytes (ReadsOf twentyBytes 0) openedTen := by
  have step : dispatch twentyBytes World.initial (.openRdonly 0 "f" false false tenArrive) =
      some (openedTen, ⟨0, []⟩) := by rfl
  exact .step .mount step ⟨trivial, by decide⟩

theorem window_exact_after_open :
    (∀ f, openedTen.files 0 = some f → f.Window twentyBytes) ∧
      [2, 3, 4, 5, 6] = ((twentyBytes "f").drop 2).take 5 ∧
        5 = min 5 ((twentyBytes "f").length - 2) :=
  ⟨(readsOf_window_exact openedTen_run).1,
    (readsOf_window_exact openedTen_run).2 "f" 5 2 true tenArrive _ _ _
      (fun _ _ => ⟨rfl, by norm_num⟩) (by norm_num) rfl⟩

/-! ### `ftpfs.current_fh` over whole runs -/

/-- The runs in which every plain read-only open's probe succeeds. -/
def ProbesSucceed (_ : World) (u : Upcall) (reply : Reply) (_ : World) : Prop :=
  ∀ fh fullPath mknodOk net, u = .openRdonly fh fullPath false mknodOk net → reply.ret = 0

/-- In every run in which no read-only open's probe fails, `ftpfs.current_fh`
is `NULL` or designates an open handle. -/
theorem probesSucceed_currentLive {remote : String → List UInt8} {w : World}
    (run : Run remote ProbesSucceed w) : CurrentLive w := by
  induction run with
  | mount => exact fun g current => by cases current
  | step _ step probed live => exact dispatch_currentLive live step probed

theorem probesSucceed_currentLive_openedTen : CurrentLive openedTen := by
  have step : dispatch twentyBytes World.initial (.openRdonly 0 "f" false false tenArrive) =
      some (openedTen, ⟨0, []⟩) := by rfl
  exact probesSucceed_currentLive (.step .mount step fun _ _ _ _ _ => rfl)

def twoFiles : String → List UInt8 := fun path => if path = "a" then [1, 2, 3, 4] else [5, 6, 7, 8]

def selectFails : ReadNetwork := ⟨⟨0, .pending⟩, ⟨0, .pending⟩, [(true, ⟨0, .pending⟩)]⟩

def twoArrive : ReadNetwork := ⟨⟨2, .pending⟩, ⟨0, .pending⟩, []⟩

/-- A read-only open of `a` at address 0 whose probe fails frees the handle and
leaves `ftpfs.current_fh` designating it, with the download of `a` attached.
When the next open gets the same address for `b`, its probe finds itself
current and pumps that download without restarting, so a read of `b` returns
bytes of `a`. -/
theorem failedProbe_leaves_current :
    (dispatch twoFiles World.initial (.openRdonly 0 "a" false false selectFails)).map
        (fun step => (step.2.ret, step.1.ftpfs.currentFh, (step.1.files 0).isSome)) =
      some (-EACCES, some 0, false) ∧
    ((dispatch twoFiles World.initial (.openRdonly 0 "a" false false selectFails)).bind
        fun failed => (dispatch twoFiles failed.1 (.openRdonly 0 "b" false false twoArrive)).bind
        fun reopened => dispatch twoFiles reopened.1 (.read 0 "b" 2 0 twoArrive)).map
        (·.2) = some ⟨2, [1, 2]⟩ ∧
    (twoFiles "b").take 2 = [5, 6] := by
  decide

/-! ### A read returns once the transfer ends -/

section Returns

variable {remote : String → List UInt8}

theorem curlMultiPerform_ended (w : World) {d : Delivery} (ended : d.outcome ≠ .pending) :
    (curlMultiPerform remote w d).2 = 0 := by
  rcases curlMultiPerform_cases remote w d with same | ⟨t, -, -, -, moved⟩
  · rw [same]
  · rw [moved]
    cases outcome : d.outcome
    · exact absurd outcome ended
    all_goals simp [Download.advance, Outcome.status, outcome]

theorem pumpLoop_stopped {fh size offset : Nat} {rounds : List (Bool × Delivery)} (w : World) :
    pumpLoop remote fh size offset rounds w 0 = some ⟨w, 0, false⟩ := by
  unfold pumpLoop; simp

theorem pumpLoop_covered {fh size offset running : Nat} {rounds : List (Bool × Delivery)}
    {w : World} (covered : (w.files fh).any (·.short size offset) = false) :
    pumpLoop remote fh size offset rounds w running = some ⟨w, running, false⟩ := by
  rw [pumpLoop.eq_def]; simp [covered]

theorem pumpLoop_returns {fh size offset : Nat} {rounds : List (Bool × Delivery)}
    (ends : ∃ round ∈ rounds, round.1 = true ∨ round.2.outcome ≠ .pending) (w : World)
    (running : Nat) : (pumpLoop remote fh size offset rounds w running).isSome := by
  induction rounds generalizing w running with
  | nil => obtain ⟨_, member, -⟩ := ends; cases member
  | cons round rest induction =>
      unfold pumpLoop
      split
      · obtain ⟨failed, d⟩ := round
        cases failed
        · obtain ⟨ender, member, ended⟩ := ends
          rcases List.mem_cons.mp member with rfl | later
          · have stopped : (curlMultiPerform remote w d).2 = 0 :=
              curlMultiPerform_ended w (by simpa using ended)
            show (pumpLoop remote fh size offset rest _ _).isSome
            rw [stopped, pumpLoop_stopped]; rfl
          · exact induction ⟨ender, later, ended⟩ _ _
        · rfl
      · rfl

theorem fetch_returns {w : World} {fullPath : String} {size offset fh : Nat} {f : FtpfsFile}
    {net : ReadNetwork} (ends : ∃ round ∈ net.rounds, round.1 = true ∨ round.2.outcome ≠ .pending) :
    ∃ fetched, fetch remote w fullPath size offset fh f net = some fetched := by
  have returns : (pumpLoop remote fh size offset net.rounds _ _).isSome := pumpLoop_returns ends
    (curlMultiPerform remote (takeConnection remote w fullPath offset fh f net.probe) net.first).1
    (curlMultiPerform remote (takeConnection remote w fullPath offset fh f net.probe) net.first).2
  obtain ⟨pumped, looped⟩ := Option.isSome_iff_exists.mp returns
  simp only [fetch, looped, Option.bind_eq_bind, Option.some_bind]
  split <;> exact ⟨_, rfl⟩

/-- `ftpfs_read_chunk` on an open handle returns once one round of the network
ends the transfer, whatever the window, the offset and the rounds before it. -/
theorem ftpfsReadChunk_returns {w : World} {fullPath : String} {size offset fh : Nat}
    (present : (w.files fh).isSome) (updateOffset : Bool) {net : ReadNetwork}
    (ends : ∃ round ∈ net.rounds, round.1 = true ∨ round.2.outcome ≠ .pending) :
    ∃ result, ftpfsReadChunk remote w fullPath size offset fh updateOffset net = some result := by
  obtain ⟨f, found⟩ := Option.isSome_iff_exists.mp present
  have filled : ∃ fetched, fillWindow remote w fullPath size offset fh f net = some fetched ∧
      (fetched.1.files fh).isSome := by
    unfold fillWindow
    split
    · have returns : ∃ fetched, fetch remote w fullPath size offset fh f net = some fetched :=
        fetch_returns ends
      obtain ⟨⟨w', err⟩, fetched⟩ := returns
      exact ⟨_, fetched, ((fetch_frame fetched).2 fh).trans present⟩
    · exact ⟨_, rfl, present⟩
  obtain ⟨fetched, filled, kept⟩ := filled
  obtain ⟨g, got⟩ := Option.isSome_iff_exists.mp kept
  simp [ftpfsReadChunk, found, filled, got]

def fiveThenClose : ReadNetwork :=
  ⟨⟨0, .pending⟩, ⟨0, .pending⟩, [(false, ⟨5, .pending⟩), (false, ⟨10, .closed⟩)]⟩

theorem ftpfsReadChunk_returns_openedTen :
    ∃ result, ftpfsReadChunk twentyBytes openedTen "f" 15 0 0 true fiveThenClose = some result :=
  ftpfsReadChunk_returns (by decide) true ⟨(false, ⟨10, .closed⟩), by decide, .inr (by decide)⟩

end Returns

/-! ### A read past the range text

A restart asks the server for the bytes from the number the range text starts
with, but sets `begin_offset` to the requested offset; from `10^14` on the two
differ, and the window holds bytes from before the offset. -/

section RangeSlip

variable {remote : String → List UInt8}

theorem restart_perform (w : World) (fh : Nat) (fullPath : String) (offset k : Nat) :
    (curlMultiPerform remote (restart w fh fullPath offset) ⟨k, .pending⟩).2 = 1 ∧
      (curlMultiPerform remote (restart w fh fullPath offset) ⟨k, .pending⟩).1.files fh =
        (w.files fh).map fun f =>
          { f with buf := ⟨((remote fullPath).drop (rangeStart offset)).take k, offset⟩ } := by
  constructor
  · simp [curlMultiPerform, restart, Download.advance, Outcome.status]
  · cases found : w.files fh <;>
      simp [curlMultiPerform, restart, Download.advance, Download.chunk, World.appendTo, found]

/-- A read outside the window restarts the download; when the first perform
brings what the read asks, it is served the bytes from the range start on. -/
theorem ftpfsReadChunk_restarted {w : World} {fh : Nat} {f : FtpfsFile} {fullPath : String}
    {size offset k : Nat} {probe : Delivery} {rounds : List (Bool × Delivery)}
    (updateOffset : Bool) (found : w.files fh = some f) (leaves : f.outside offset = true)
    (arrives : size ≤ k) (enough : rangeStart offset + size ≤ (remote fullPath).length) :
    (ftpfsReadChunk remote w fullPath size offset fh updateOffset
        ⟨probe, ⟨k, .pending⟩, rounds⟩).map (·.2) =
      some (((remote fullPath).drop (rangeStart offset)).take size, .served size) := by
  obtain ⟨running, window⟩ := @restart_perform remote w fh fullPath offset k
  rw [found, Option.map_some'] at window
  have long : size ≤ (((remote fullPath).drop (rangeStart offset)).take k).length := by
    simp only [List.length_take, List.length_drop]; omega
  have covered : ((curlMultiPerform remote (restart w fh fullPath offset) ⟨k, .pending⟩).1.files
      fh).any (·.short size offset) = false := by
    have wraps : sizeT (size + offset - offset) ≤ size := by unfold sizeT; omega
    simp only [window, Option.any_some, FtpfsFile.short, Buffer.len, decide_eq_false_iff_not]
    omega
  have fetched : fetch remote w fullPath size offset fh f ⟨probe, ⟨k, .pending⟩, rounds⟩ =
      some ((curlMultiPerform remote (restart w fh fullPath offset) ⟨k, .pending⟩).1, false) := by
    have taken : takeConnection remote w fullPath offset fh f probe =
        restart w fh fullPath offset := by
      simp [takeConnection, restartTest, leaves]
    simp only [fetch, taken, pumpLoop_covered covered, running]
    rfl
  have filled : fillWindow remote w fullPath size offset fh f ⟨probe, ⟨k, .pending⟩, rounds⟩ =
      some ((curlMultiPerform remote (restart w fh fullPath offset) ⟨k, .pending⟩).1, false) := by
    simp only [fillWindow, leaves, Bool.or_true, if_true, fetched]
  simp only [ftpfsReadChunk, Option.bind_eq_bind, Option.some_bind, found, filled, window,
    FtpfsFile.serve, Buffer.len, Nat.sub_self, List.drop_zero, Nat.add_sub_cancel_left,
    Nat.min_eq_left long, List.take_take, Nat.min_eq_left arrives, Bool.false_eq_true, if_false,
    Option.pure_def, Option.map_some']

end RangeSlip

/-- `10^14` zero bytes and a one, at every path. -/
def zerosThenOne : String → List UInt8 := fun _ => List.replicate (10 ^ 14) 0 ++ [1]

def openedZeros : World :=
  (dispatch zerosThenOne World.initial (.openRdonly 0 "f" false false tenArrive)).elim
    World.initial Prod.fst

def oneArrives : ReadNetwork := ⟨⟨0, .pending⟩, ⟨1, .pending⟩, []⟩

/-- Handle 0 opens `f` and its probe brings ten bytes; a read of one byte at
offset `10^14` restarts the download at the range text's `10^13` and is served
a zero, where the file holds a one. -/
theorem readChunk_range_slip :
    dispatch zerosThenOne World.initial (.openRdonly 0 "f" false false tenArrive) =
        some (openedZeros, ⟨0, []⟩) ∧
      (ftpfsReadChunk zerosThenOne openedZeros "f" 1 (10 ^ 14) 0 true oneArrives).map (·.2) =
        some ([0], .served 1) ∧
      ((zerosThenOne "f").drop (10 ^ 14)).take 1 = [1] := by
  have found : openedZeros.files 0 =
      some ⟨⟨List.replicate 10 0, 0⟩, true, 0, "f", 0, false⟩ := rfl
  have file : zerosThenOne "f" = List.replicate (10 ^ 14) 0 ++ [1] := rfl
  have zeros : (List.replicate (10 ^ 14) (0 : UInt8)).length = 10 ^ 14 := List.length_replicate _ _
  have enough : rangeStart (10 ^ 14) + 1 ≤ (zerosThenOne "f").length := by
    rw [rangeStart_ten_pow, file, List.length_append, zeros]
    norm_num
  refine ⟨rfl, ?_, ?_⟩
  · rw [oneArrives, ftpfsReadChunk_restarted true found (by decide) le_rfl enough,
      rangeStart_ten_pow, file, List.drop_append_of_le_length (by rw [zeros]; norm_num),
      List.drop_replicate, List.take_append_of_le_length (by rw [List.length_replicate]; norm_num),
      List.take_replicate]
    rfl
  · rw [file, List.drop_left' zeros]
    rfl

end CurlFtpFs
