import CurlFtpFs.ReadRun

namespace CurlFtpFs

/-! How the reads of one handle bear on the windows of all. The shared download
only ever writes into the window of the handle that owns the connection, and a
restart clears only the reader's window, so an upcall changes the record of no
handle but the one it names.

And how large a read-only window grows. Once a shrinkable window holds more
than `MAX_BUFFER_LEN` bytes, the read that finds it so drops everything before
the end of the bytes it served. What stays is what the last performs of the
read brought past the end of the request: the pump loop performs only while
the window is short of the request, and before it come the `check_running`
perform of the restart test and the first perform. So when no perform delivers
more than `c` bytes, every shrinkable window holds at most
`max MAX_BUFFER_LEN (2 * c)` bytes between upcalls. -/

/-! ### The copy and the shrink -/

namespace FtpfsFile

theorem serve_len_le (f : FtpfsFile) (size offset : Nat) (updateOffset : Bool) :
    (f.serve size offset updateOffset).1.buf.len ≤ f.buf.len := by
  rw [serve_buf]
  split
  · simp only [Buffer.len, List.length_drop]; omega
  · exact le_refl _

theorem serve_len_shrunk {f : FtpfsFile} {size offset k : Nat} (updateOffset : Bool)
    (shrinkable : f.canShrink = true) (after : f.buf.beginOffset ≤ offset)
    (ends : f.buf.beginOffset + f.buf.len ≤ offset + size + k) :
    (f.serve size offset updateOffset).1.buf.len ≤ max MAX_BUFFER_LEN k := by
  rw [serve_buf]
  split
  · simp only [Buffer.len, List.length_drop] at ends ⊢
    omega
  · next small =>
      simp only [shrinkable, true_and, not_lt] at small
      exact le_max_of_le_left small

theorem end_lt_of_short {f : FtpfsFile} {size offset : Nat} (after : f.buf.beginOffset ≤ offset)
    (short : f.short size offset = true) : f.buf.beginOffset + f.buf.len < offset + size := by
  simp only [FtpfsFile.short, sizeT, decide_eq_true_eq] at short
  omega

end FtpfsFile

theorem World.alloc_files_ne (w : World) {fh g : Nat} (f : FtpfsFile) (distinct : g ≠ fh) :
    (w.alloc fh f).files g = w.files g :=
  Function.update_noteq distinct _ _

theorem World.free_files_ne (w : World) {fh g : Nat} (distinct : g ≠ fh) :
    (w.free fh).files g = w.files g :=
  Function.update_noteq distinct _ _

section Handles

variable {remote : String → List UInt8}

theorem curlMultiPerform_only {w : World} {fh : Nat} (consistent : w.ftpfs.Consistent remote)
    (current : w.ftpfs.currentFh = some fh) (d : Delivery) :
    (∀ g, g ≠ fh → (curlMultiPerform remote w d).1.files g = w.files g) ∧
      ∃ extra : List UInt8, extra.length ≤ d.chunk ∧ (curlMultiPerform remote w d).1.files fh =
        (w.files fh).map fun f => { f with buf := { f.buf with p := f.buf.p ++ extra } } := by
  rcases curlMultiPerform_cases remote w d with same | ⟨t, found, attached, -, moved⟩
  · rw [same]
    exact ⟨fun _ _ => rfl, [], Nat.zero_le _, by cases w.files fh <;> simp⟩
  · obtain ⟨t', found', target⟩ := consistent.target fh attached current
    obtain rfl : t' = t := Option.some_inj.mp (found'.symm.trans found)
    subst target
    rw [moved]
    exact ⟨fun g other => World.appendTo_files_ne w _ other, t'.chunk remote d,
      List.length_take_le _ _, World.appendTo_files_self w t'.target _⟩

/-! ### One read -/

/-- What holds while `fh` reads: the connection stays consistent, `fh` owns it,
and no other handle's record has changed since `w₀`. -/
structure Reading (remote : String → List UInt8) (w₀ : World) (fh : Nat) (w : World) : Prop where
  consistent : w.ftpfs.Consistent remote
  current : w.ftpfs.currentFh = some fh
  others : ∀ g, g ≠ fh → w.files g = w₀.files g

/-- The reader's window starts at or before `offset` and ends at or before `limit`. -/
def EndsBy (fh offset limit : Nat) (w : World) : Prop :=
  ∀ g, w.files fh = some g → g.buf.beginOffset ≤ offset ∧ g.buf.beginOffset + g.buf.len ≤ limit

theorem EndsBy.mono {w : World} {fh offset limit limit' : Nat} (ends : EndsBy fh offset limit w)
    (le : limit ≤ limit') : EndsBy fh offset limit' w :=
  fun g found => ⟨(ends g found).1, (ends g found).2.trans le⟩

theorem EndsBy.short {w : World} {fh size offset limit : Nat} (ends : EndsBy fh offset limit w)
    (short : (w.files fh).any (·.short size offset) = true) : EndsBy fh offset (offset + size) w := by
  intro g found
  rw [found, Option.any_some] at short
  exact ⟨(ends g found).1, (FtpfsFile.end_lt_of_short (ends g found).1 short).le⟩

theorem Reading.perform {w₀ w : World} {fh : Nat} (reading : Reading remote w₀ fh w) (d : Delivery) :
    Reading remote w₀ fh (curlMultiPerform remote w d).1 :=
  ⟨reading.consistent.perform d, (curlMultiPerform_currentFh w d).trans reading.current,
    fun g other => ((curlMultiPerform_only reading.consistent reading.current d).1 g other).trans
      (reading.others g other)⟩

theorem EndsBy.perform {w₀ w : World} {fh offset limit : Nat} (reading : Reading remote w₀ fh w)
    (ends : EndsBy fh offset limit w) (d : Delivery) :
    EndsBy fh offset (limit + d.chunk) (curlMultiPerform remote w d).1 := by
  obtain ⟨-, extra, small, grown⟩ := curlMultiPerform_only reading.consistent reading.current d
  intro g found
  rw [grown] at found
  obtain ⟨f, original, rfl⟩ := Option.map_eq_some'.mp found
  have ends := ends f original
  simp only [Buffer.len, List.length_append] at ends ⊢
  omega

theorem restart_reading {w₀ w : World} {fh : Nat} (consistent : w.ftpfs.Consistent remote)
    (others : ∀ g, g ≠ fh → w.files g = w₀.files g) (fullPath : String) {offset limit : Nat}
    (reaches : offset ≤ limit) :
    Reading remote w₀ fh (restart w fh fullPath offset) ∧
      EndsBy fh offset limit (restart w fh fullPath offset) := by
  refine ⟨⟨consistent.restart fh fullPath offset, rfl, fun g other => ?_⟩, fun g found => ?_⟩
  · simp only [restart, Function.update_noteq other]
    exact others g other
  · rw [restart_files_self] at found
    obtain ⟨f, -, rfl⟩ := Option.map_eq_some'.mp found
    exact ⟨le_refl _, by simpa [Buffer.len] using reaches⟩

theorem takeConnection_reading {w : World} {fh : Nat} {f : FtpfsFile} {size offset c : Nat}
    (consistent : w.ftpfs.Consistent remote) (found : w.files fh = some f)
    (needed : (f.short size offset || f.outside offset) = true) (fullPath : String)
    {probe : Delivery} (small : probe.chunk ≤ c) :
    Reading remote w fh (takeConnection remote w fullPath offset fh f probe) ∧
      EndsBy fh offset (offset + size + c) (takeConnection remote w fullPath offset fh f probe) := by
  unfold takeConnection restartTest
  dsimp only
  split
  · exact restart_reading consistent (fun _ _ => rfl) fullPath (by omega)
  · next owner =>
      have reading : Reading remote w fh w :=
        ⟨consistent, by by_contra other; exact owner (.inl other), fun _ _ => rfl⟩
      split
      · exact restart_reading (reading.perform probe).consistent (reading.perform probe).others
          fullPath (by omega)
      · have inside : f.outside offset = false := by simpa using fun other => owner (.inr other)
        have short : f.short size offset = true := by simpa [inside] using needed
        have ends : EndsBy fh offset (offset + size) w := by
          intro g present
          rw [found] at present
          cases present
          simp only [FtpfsFile.outside, Bool.or_eq_false_iff, decide_eq_false_iff_not,
            Nat.not_lt] at inside
          exact ⟨inside.1, (FtpfsFile.end_lt_of_short inside.1 short).le⟩
        exact ⟨reading.perform probe, (ends.perform reading probe).mono (by omega)⟩

theorem fetch_reading {w w' : World} {fh : Nat} {f : FtpfsFile} {fullPath : String}
    {size offset : Nat} {net : ReadNetwork} {err : Bool} (consistent : w.ftpfs.Consistent remote)
    (found : w.files fh = some f) (needed : (f.short size offset || f.outside offset) = true)
    (fetched : fetch remote w fullPath size offset fh f net = some (w', err)) :
    Reading remote w fh w' := by
  obtain ⟨pumped, looped, rest⟩ := fetch_some fetched
  have pumped := pumpLoop_keeps (Reading remote w fh) (fun _ d reading => reading.perform d)
    ((takeConnection_reading consistent found needed fullPath (le_refl _)).1.perform net.first)
    looped
  rcases rest with ⟨-, rfl, -⟩ | ⟨-, rfl, -⟩
  · exact ⟨pumped.consistent.readMsgs, pumped.current, pumped.others⟩
  · exact pumped

theorem ftpfsReadChunk_others {w w' : World} {fullPath : String} {size offset fh : Nat}
    {updateOffset : Bool} {net : ReadNetwork} {copied : List UInt8} {r : ReadResult}
    (consistent : w.ftpfs.Consistent remote)
    (read : ftpfsReadChunk remote w fullPath size offset fh updateOffset net =
      some (w', copied, r)) :
    w'.ftpfs.Consistent remote ∧ ∀ g, g ≠ fh → w'.files g = w.files g := by
  obtain ⟨f, ⟨w₁, err⟩, g, found, filled, -, rfl, -, -⟩ := ftpfsReadChunk_some read
  have fetched : w₁.ftpfs.Consistent remote ∧ ∀ g, g ≠ fh → w₁.files g = w.files g := by
    unfold fillWindow at filled
    split at filled
    · next needed =>
        have reading := fetch_reading consistent found needed filled
        exact ⟨reading.consistent, reading.others⟩
    · cases filled
      exact ⟨consistent, fun _ _ => rfl⟩
  exact ⟨fetched.1, fun other distinct =>
    (Function.update_noteq distinct _ _).trans (fetched.2 other distinct)⟩

/-! ### Every upcall -/

def Upcall.handle : Upcall → Option Nat
  | .openRdonly fh _ _ _ _ | .read fh _ _ _ _ | .release fh => some fh
  | .metadata => none

theorem dispatch_others {w w' : World} {u : Upcall} {reply : Reply}
    (consistent : w.ftpfs.Consistent remote) (step : dispatch remote w u = some (w', reply)) :
    w'.ftpfs.Consistent remote ∧ ∀ g, u.handle ≠ some g → w'.files g = w.files g := by
  cases u with
  | openRdonly fh fullPath creat mknodOk net =>
      obtain ⟨⟨w₁, ret⟩, opened, same⟩ := Option.map_eq_some'.mp step
      cases same
      cases creat
      · obtain ⟨-, probed, read, result⟩ := ftpfsOpenRdonly_probe opened
        obtain ⟨consistent', others⟩ := ftpfsReadChunk_others
          (show (w.alloc fh (.opened fullPath true)).ftpfs.Consistent remote from consistent) read
        have kept : ∀ g, some fh ≠ some g → probed.1.files g = w.files g := fun g other =>
          (others g (Ne.symm (mt (congrArg some) other))).trans
            (w.alloc_files_ne _ (Ne.symm (mt (congrArg some) other)))
        split at result <;> simp only [Prod.mk.injEq] at result <;> obtain ⟨rfl, rfl⟩ := result
        · exact ⟨consistent', fun g other =>
            (probed.1.free_files_ne (Ne.symm (mt (congrArg some) other))).trans (kept g other)⟩
        · exact ⟨consistent', kept⟩
      · obtain ⟨-, result⟩ := ftpfsOpenRdonly_creat opened
        have kept : ∀ g, some fh ≠ some g →
            (w.alloc fh (.opened fullPath false)).files g = w.files g :=
          fun g other => w.alloc_files_ne _ (Ne.symm (mt (congrArg some) other))
        split at result <;> simp only [Prod.mk.injEq] at result <;> obtain ⟨rfl, rfl⟩ := result
        · exact ⟨consistent.cancel, kept⟩
        · exact ⟨consistent.cancel, fun g other =>
            (World.free_files_ne _ (Ne.symm (mt (congrArg some) other))).trans (kept g other)⟩
  | read fh fullPath size offset net =>
      rcases ftpfsRead_world step with rfl | ⟨copied, r, chunk⟩
      · exact ⟨consistent, fun _ _ => rfl⟩
      · obtain ⟨consistent', others⟩ := ftpfsReadChunk_others consistent chunk
        exact ⟨consistent', fun g other => others g (Ne.symm (mt (congrArg some) other))⟩
  | release fh =>
      obtain ⟨w₁, released, same⟩ := Option.map_eq_some'.mp step
      cases same
      rw [ftpfsRelease_eq released]
      exact ⟨consistent.forget (by split <;> simp), fun g other =>
        World.free_files_ne { w with ftpfs := _ } (Ne.symm (mt (congrArg some) other))⟩
  | metadata =>
      cases step
      exact ⟨consistent.cancel, fun _ _ => rfl⟩

/-- Over every run of the read side the shared connection stays consistent. -/
theorem run_consistent {allowed : World → Upcall → Reply → World → Prop} {w : World}
    (run : Run remote allowed w) : w.ftpfs.Consistent remote := by
  induction run with
  | mount => exact initial_consistent
  | step _ step _ consistent => exact (dispatch_others consistent step).1

/-- In every run of the read side, whatever the network does, an upcall changes
the record of no handle but the one it names. -/
theorem upcall_isolated {allowed : World → Upcall → Reply → World → Prop} {w w' : World}
    {u : Upcall} {reply : Reply} (run : Run remote allowed w)
    (step : dispatch remote w u = some (w', reply)) {g : Nat} (other : u.handle ≠ some g) :
    w'.files g = w.files g :=
  (dispatch_others (run_consistent run) step).2 g other

end Handles

def bothOpen : World :=
  ((dispatch twoFiles World.initial (.openRdonly 0 "a" false false tenArrive)).bind fun opened =>
    dispatch twoFiles opened.1 (.openRdonly 1 "b" false false tenArrive)).elim World.initial Prod.fst

theorem upcall_isolated_bothOpen :
    (dispatch twoFiles bothOpen (.read 0 "a" 6 0 fiveThenClose)).map (·.1.files 1) =
      some (bothOpen.files 1) := by
  obtain ⟨opened, first⟩ : ∃ opened,
      dispatch twoFiles World.initial (.openRdonly 0 "a" false false tenArrive) = some opened :=
    ⟨_, rfl⟩
  have second : dispatch twoFiles opened.1 (.openRdonly 1 "b" false false tenArrive) =
      some (bothOpen, ⟨0, []⟩) := by
    rw [show opened = _ from Option.some_inj.mp (first.symm.trans rfl)]
    rfl
  obtain ⟨⟨w', reply⟩, step⟩ := Option.isSome_iff_exists.mp
    (show (dispatch twoFiles bothOpen (.read 0 "a" 6 0 fiveThenClose)).isSome = true by decide)
  have run : Run twoFiles (fun _ _ _ _ => True) bothOpen :=
    .step (.step .mount first trivial) second trivial
  rw [step]
  exact congrArg some (upcall_isolated run step (by decide))

/-! ### The size of a shrinkable window -/

def ReadNetwork.ChunksAtMost (c : Nat) (net : ReadNetwork) : Prop :=
  net.probe.chunk ≤ c ∧ net.first.chunk ≤ c ∧ ∀ round ∈ net.rounds, round.2.chunk ≤ c

def Upcall.ChunksAtMost (c : Nat) : Upcall → Prop
  | .openRdonly _ _ _ _ net | .read _ _ _ _ net => net.ChunksAtMost c
  | .release _ | .metadata => True

/-- The runs in which no perform delivers more than `c` bytes. -/
def ChunksAtMost (c : Nat) (_ : World) (u : Upcall) (_ : Reply) (_ : World) : Prop :=
  u.ChunksAtMost c

/-- Every shrinkable handle's window holds at most `bound` bytes. -/
def Bounded (bound : Nat) (w : World) : Prop :=
  ∀ fh f, w.files fh = some f → f.canShrink = true → f.buf.len ≤ bound

section Bound

variable {remote : String → List UInt8}

theorem pumpLoop_keeps_short (P : World → Prop) {fh size offset : Nat}
    {rounds : List (Bool × Delivery)}
    (keeps : ∀ w d, (false, d) ∈ rounds → (w.files fh).any (·.short size offset) = true →
      P w → P (curlMultiPerform remote w d).1)
    {w : World} {running : Nat} {pumped : Pumped}
    (holds : P w) (looped : pumpLoop remote fh size offset rounds w running = some pumped) :
    P pumped.world := by
  induction rounds generalizing w running with
  | nil =>
      unfold pumpLoop at looped
      split at looped
      · cases looped
      · cases looped; exact holds
  | cons round rest induction =>
      unfold pumpLoop at looped
      split at looped
      · next guard =>
          obtain ⟨failed, d⟩ := round
          cases failed
          · exact induction (fun w d' kept => keeps w d' (.tail _ kept))
              (keeps w d (.head _) guard.1 holds) looped
          · cases looped; exact holds
      · cases looped; exact holds

theorem fetch_ends {w w' : World} {fh : Nat} {f : FtpfsFile} {fullPath : String}
    {size offset c : Nat} {net : ReadNetwork} {err : Bool} (consistent : w.ftpfs.Consistent remote)
    (found : w.files fh = some f) (needed : (f.short size offset || f.outside offset) = true)
    (chunks : net.ChunksAtMost c)
    (fetched : fetch remote w fullPath size offset fh f net = some (w', err)) :
    EndsBy fh offset (offset + size + 2 * c) w' := by
  obtain ⟨pumped, looped, rest⟩ := fetch_some fetched
  obtain ⟨taken, ends⟩ := takeConnection_reading consistent found needed fullPath chunks.1
  have pumped := pumpLoop_keeps_short
    (fun w₁ => Reading remote w fh w₁ ∧ EndsBy fh offset (offset + size + 2 * c) w₁)
    (fun _ d kept short held => ⟨held.1.perform d, ((held.2.short short).perform held.1 d).mono
        (by have : d.chunk ≤ c := chunks.2.2 _ kept; omega)⟩)
    ⟨taken.perform net.first, (ends.perform taken net.first).mono (by have := chunks.2.1; omega)⟩
    looped
  rcases rest with ⟨-, rfl, -⟩ | ⟨-, rfl, -⟩ <;> exact pumped.2

theorem Bounded.alloc {bound : Nat} {w : World} {fh : Nat} {f : FtpfsFile}
    (others : ∀ g f', g ≠ fh → w.files g = some f' → f'.canShrink = true → f'.buf.len ≤ bound)
    (small : f.canShrink = true → f.buf.len ≤ bound) : Bounded bound (w.alloc fh f) := by
  intro g f' found
  by_cases here : g = fh
  · subst here
    simp only [World.alloc, Function.update_same, Option.some.injEq] at found
    exact found ▸ small
  · rw [w.alloc_files_ne f here] at found
    exact others g f' here found

theorem Bounded.free {bound : Nat} {w : World} (bounded : Bounded bound w) (fh : Nat) :
    Bounded bound (w.free fh) := by
  intro g f found
  by_cases here : g = fh
  · subst here
    simp [World.free] at found
  · rw [w.free_files_ne here] at found
    exact bounded g f found

theorem ftpfsReadChunk_bounded {w w' : World} {fullPath : String} {size offset fh c : Nat}
    {updateOffset : Bool} {net : ReadNetwork} {copied : List UInt8} {r : ReadResult}
    (consistent : w.ftpfs.Consistent remote) (bounded : Bounded (max MAX_BUFFER_LEN (2 * c)) w)
    (chunks : net.ChunksAtMost c)
    (read : ftpfsReadChunk remote w fullPath size offset fh updateOffset net =
      some (w', copied, r)) :
    Bounded (max MAX_BUFFER_LEN (2 * c)) w' := by
  obtain ⟨f, ⟨w₁, err⟩, g, found, filled, got, rfl, -, -⟩ := ftpfsReadChunk_some read
  unfold fillWindow at filled
  split at filled
  · next needed =>
      obtain ⟨after, reaches⟩ := fetch_ends consistent found needed chunks filled g got
      refine Bounded.alloc (fun other f' distinct present => ?_)
        fun shrinkable => FtpfsFile.serve_len_shrunk updateOffset shrinkable after reaches
      rw [(fetch_reading consistent found needed filled).others other distinct] at present
      exact bounded other f' present
  · cases filled
    rw [found] at got
    cases got
    exact Bounded.alloc (fun other f' _ present => bounded other f' present)
      fun shrinkable => (f.serve_len_le size offset updateOffset).trans
        (bounded fh f found shrinkable)

theorem dispatch_bounded {w w' : World} {u : Upcall} {reply : Reply} {c : Nat}
    (consistent : w.ftpfs.Consistent remote) (bounded : Bounded (max MAX_BUFFER_LEN (2 * c)) w)
    (chunks : u.ChunksAtMost c) (step : dispatch remote w u = some (w', reply)) :
    Bounded (max MAX_BUFFER_LEN (2 * c)) w' := by
  cases u with
  | openRdonly fh fullPath creat mknodOk net =>
      obtain ⟨⟨w₁, ret⟩, opened, same⟩ := Option.map_eq_some'.mp step
      cases same
      have others := fun g f (_ : g ≠ fh) (present : w.files g = some f) => bounded g f present
      cases creat
      · obtain ⟨-, probed, read, result⟩ := ftpfsOpenRdonly_probe opened
        have probed' := ftpfsReadChunk_bounded
          (show (w.alloc fh (.opened fullPath true)).ftpfs.Consistent remote from consistent)
          (Bounded.alloc others fun _ => Nat.zero_le _) chunks read
        split at result <;> simp only [Prod.mk.injEq] at result <;> obtain ⟨rfl, rfl⟩ := result
        · exact probed'.free fh
        · exact probed'
      · obtain ⟨-, result⟩ := ftpfsOpenRdonly_creat opened
        have allocated : Bounded _ (w.alloc fh (.opened fullPath false)) :=
          Bounded.alloc others fun shrinkable => absurd shrinkable Bool.false_ne_true
        split at result <;> simp only [Prod.mk.injEq] at result <;> obtain ⟨rfl, rfl⟩ := result
        · exact allocated
        · exact allocated.free fh
  | read fh fullPath size offset net =>
      rcases ftpfsRead_world step with rfl | ⟨copied, r, chunk⟩
      · exact bounded
      · exact ftpfsReadChunk_bounded consistent bounded chunks chunk
  | release fh =>
      obtain ⟨w₁, released, same⟩ := Option.map_eq_some'.mp step
      cases same
      rw [ftpfsRelease_eq released]
      exact Bounded.free (w := { w with ftpfs := _ }) bounded fh
  | metadata =>
      cases step
      exact bounded

theorem chunksAtMost_bounded {c : Nat} {w : World} (run : Run remote (ChunksAtMost c) w) :
    Bounded (max MAX_BUFFER_LEN (2 * c)) w := by
  induction run with
  | mount => exact fun _ _ present => by cases present
  | step before step allowed bounded =>
      exact dispatch_bounded (run_consistent before) bounded allowed step

/-- In every run of the read side where no perform delivers more than `c` bytes,
the shared connection stays consistent, and every shrinkable handle's window
holds at most `max MAX_BUFFER_LEN (2 * c)` bytes between upcalls, whatever the
reads' offsets and sizes. -/
theorem shrinkable_window_bounded {c : Nat} {w : World} (run : Run remote (ChunksAtMost c) w) :
    w.ftpfs.Consistent remote ∧ ∀ fh f, w.files fh = some f → f.canShrink = true →
      f.buf.len ≤ max MAX_BUFFER_LEN (2 * c) :=
  ⟨run_consistent run, chunksAtMost_bounded run⟩

end Bound

theorem shrinkable_window_bounded_openedTen :
    openedTen.ftpfs.Consistent twentyBytes ∧ ∀ fh f, openedTen.files fh = some f →
      f.canShrink = true → f.buf.len ≤ max MAX_BUFFER_LEN (2 * 10) := by
  have step : dispatch twentyBytes World.initial (.openRdonly 0 "f" false false tenArrive) =
      some (openedTen, ⟨0, []⟩) := by rfl
  exact shrinkable_window_bounded
    (.step .mount step ⟨Nat.zero_le _, le_refl _, fun _ none => by cases none⟩)

end CurlFtpFs
