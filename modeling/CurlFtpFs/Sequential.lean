import CurlFtpFs.ReadRun

namespace CurlFtpFs

/-! Forward-sequential reads of one handle that has the connection to itself.
Each read starts where the last one ended, inside the window, so it restarts
the download only when `check_running` finds no running transfer, or when the
probe's shrink already moved the window past offset 0. -/

/-- Whether `ftpfs_read_chunk` restarts the download (clears the window and
starts a new transfer) for a read: the window cannot answer it and the restart
test asks for a restart. -/
def readRestarts (remote : String → List UInt8) (w : World) (size offset fh : Nat)
    (probe : Delivery) : Bool :=
  match w.files fh with
  | some f => (f.short size offset || f.outside offset) &&
      (restartTest remote w fh f offset probe).2
  | none => false

/-- The reads of the handle at `h` after a successful read-only open, each
starting where the last one ended and returning its byte count, with no other
upcall in between: the world, and the offset of the next read. Each read is the
`ftpfs_read_chunk` that `ftpfs_read` makes, whose guard never fires on a
read-only handle. -/
inductive Sequential (remote : String → List UInt8) (h : Nat) : World → Nat → Prop
  | opened {w w' : World} {fullPath : String} {mknodOk : Bool} {net : ReadNetwork} :
      ftpfsOpenRdonly remote w h fullPath false mknodOk net = some (w', 0) →
      Sequential remote h w' 0
  | read {w w' : World} {fullPath : String} {size offset n : Nat} {net : ReadNetwork}
      {copied : List UInt8} :
      Sequential remote h w offset →
      ftpfsReadChunk remote w fullPath size offset h true net = some (w', copied, .served n) →
      Sequential remote h w' (offset + n)

namespace FtpfsFile

theorem serve_advance (f : FtpfsFile) {size offset : Nat} (updateOffset : Bool)
    (after : f.buf.beginOffset ≤ offset) (within : offset ≤ f.buf.beginOffset + f.buf.len) :
    (f.serve size offset updateOffset).1.buf.beginOffset ≤
        offset + (f.serve size offset updateOffset).2.2 ∧
      offset + (f.serve size offset updateOffset).2.2 ≤
        (f.serve size offset updateOffset).1.buf.beginOffset +
          (f.serve size offset updateOffset).1.buf.len := by
  rw [f.serve_end updateOffset after within, serve_buf]
  refine ⟨?_, by simp only [serve]; omega⟩
  split
  · simp [serve]
  · simp only [serve]; omega

end FtpfsFile

section Sequential

variable {remote : String → List UInt8}

theorem ftpfsReadChunk_advance {w : World} {fullPath : String} {size offset fh n : Nat}
    {updateOffset : Bool} {net : ReadNetwork} {w' : World} {copied : List UInt8}
    (read : ftpfsReadChunk remote w fullPath size offset fh updateOffset net =
      some (w', copied, .served n)) :
    ∃ g, w'.files fh = some g ∧ g.buf.beginOffset ≤ offset + n ∧
      offset + n ≤ g.buf.beginOffset + g.buf.len := by
  obtain ⟨f, ⟨w₁, err⟩, g, found, filled, got, rfl, -, served⟩ := ftpfsReadChunk_some read
  obtain ⟨g', got', -, after, within⟩ := fillWindow_window found filled
  rw [got] at got'
  cases got'
  cases err
  · simp only [Bool.false_eq_true, if_false, ReadResult.served.injEq] at served
    subst served
    exact ⟨_, by simp, g.serve_advance updateOffset after within⟩
  · simp at served

/-- Along forward-sequential reads the handle stays current, and the next
offset lies in its window or is the first read's offset 0. -/
theorem Sequential.invariant {h : Nat} {w : World} {offset : Nat}
    (run : Sequential remote h w offset) :
    w.ftpfs.currentFh = some h ∧ ∃ f, w.files h = some f ∧
      offset ≤ f.buf.beginOffset + f.buf.len ∧ (f.buf.beginOffset ≤ offset ∨ offset = 0) := by
  induction run with
  | @opened w₀ w' fullPath mknodOk net opened =>
      obtain ⟨-, ⟨w₁, copied, r⟩, read, result⟩ := ftpfsOpenRdonly_probe opened
      split at result
      · simp [EACCES] at result
      · next succeeded =>
          obtain ⟨rfl, -⟩ := Prod.mk.inj result
          cases r with
          | badRead => exact absurd rfl succeeded
          | served n =>
              obtain ⟨f, fetched, g, found, filled, -, rfl, -, -⟩ := ftpfsReadChunk_some read
              simp only [World.alloc, Function.update_same, Option.some.injEq] at found
              subst found
              have miss : ((FtpfsFile.opened fullPath true).short 1 0 ||
                  (FtpfsFile.opened fullPath true).outside 0) = true := rfl
              simp only [fillWindow, miss, if_true] at filled
              obtain ⟨g', got, -, ending⟩ := ftpfsReadChunk_advance read
              exact ⟨(fetch_frame filled).1, g', got, by omega, .inr rfl⟩
  | read _ read invariant =>
      obtain ⟨current, -⟩ := invariant
      obtain ⟨g, got, after, within⟩ := ftpfsReadChunk_advance read
      refine ⟨?_, g, got, within, .inl after⟩
      rcases (ftpfsReadChunk_frame read).1 with same | reader
      · exact same.trans current
      · exact reader

/-- A forward-sequential read restarts the download only when `check_running`
reports no running transfer (it has ended, or ends during that check), or when
it reads offset 0 and the probe's shrink moved the window past it. -/
theorem sequential_restarts {h : Nat} {w : World} {offset : Nat}
    (run : Sequential remote h w offset) {size : Nat} {probe : Delivery}
    (restarts : readRestarts remote w size offset h probe = true) :
    (curlMultiPerform remote w probe).2 = 0 ∨
      offset = 0 ∧ ∃ f, w.files h = some f ∧ offset < f.buf.beginOffset := by
  obtain ⟨current, f, found, within, after⟩ := run.invariant
  simp only [readRestarts, found, Bool.and_eq_true] at restarts
  obtain ⟨-, test⟩ := restarts
  unfold restartTest at test
  split at test
  · next owner =>
      simp only [current, ne_eq, not_true_eq_false, FtpfsFile.outside, Bool.or_eq_true,
        decide_eq_true_eq, false_or] at owner
      rcases owner with before | past
      · rcases after with inside | first
        · omega
        · exact .inr ⟨first, f, found, before⟩
      · omega
  · exact .inl (by simpa using test)

def oneByte : String → List UInt8 := fun _ => [42]

def wholeAtOnce : ReadNetwork := ⟨⟨0, .pending⟩, ⟨1, .closed⟩, []⟩

def openedOne : World :=
  (ftpfsOpenRdonly oneByte World.initial 0 "f" false false wholeAtOnce).elim
    World.initial Prod.fst

theorem openedOne_sequential : Sequential oneByte 0 openedOne 0 :=
  .opened (show ftpfsOpenRdonly oneByte World.initial 0 "f" false false wholeAtOnce =
    some (openedOne, 0) by rfl)

theorem sequential_restarts_openedOne :
    (curlMultiPerform oneByte openedOne ⟨0, .pending⟩).2 = 0 ∨
      0 = 0 ∧ ∃ f, openedOne.files 0 = some f ∧ 0 < f.buf.beginOffset :=
  sequential_restarts openedOne_sequential
    (show readRestarts oneByte openedOne 2 0 0 ⟨0, .pending⟩ = true by decide)

/-- The first read after an open whose probe received the whole one-byte file
asks for two bytes; the transfer has completed, `check_running` reports no
running handle, and the read restarts the download. -/
theorem firstRead_restarts :
    Sequential oneByte 0 openedOne 0 ∧ readRestarts oneByte openedOne 2 0 0 ⟨0, .pending⟩ = true :=
  ⟨openedOne_sequential, by decide⟩

end Sequential

end CurlFtpFs
