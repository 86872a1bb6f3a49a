import CurlFtpFs.UploadContent
import CurlFtpFs.ReadRun

namespace CurlFtpFs

/-! Write, then read back. A session of sequential writes leaves on the server
exactly the bytes written, and the read engine serves a handle's file slice by
slice. The two halves meet at the server's file: a read side whose server
holds at a path what the upload left reads the written bytes back. -/

section RoundTrip

variable {rwWorkaround : Bool} {old : Option (List UInt8)} {actions : List Action} {s : Handle}

/-- Write, then read back. Take a session of sequential writes from before the
open that ends idle and flushed with every upcall succeeding, and a read side
whose server holds at `path` the file the upload left. In every run of the read
side where `current_fh` designates open handles and the reads of `x` fit, a read
of `x` at `path` that does not fail copies the written bytes from `offset` on,
as many as were written past `offset`, up to `size`. -/
theorem written_reads_back (ran : (Handle.initial old).run rwWorkaround actions = some s)
    (admitted : ∀ a ∈ actions, a.session = true) (sequential : sequentialFrom 0 actions = true)
    (succeeded : ∀ r ∈ s.log, 0 ≤ r) (idle : s.request = .idle) (flushed : s.writeConn = false)
    (wrote : payload actions ≠ []) {remote : String → List UInt8} {path : String}
    (served : s.remote = some (remote path)) {x : Nat} {w : World}
    (run : Run remote (ReadsOf remote x) w) {size offset : Nat} {updateOffset : Bool}
    {net : ReadNetwork} {w' : World} {copied : List UInt8} {n : Nat}
    (fits : Fits remote w x path offset) (small : size + offset < 2 ^ 64)
    (read : ftpfsReadChunk remote w path size offset x updateOffset net =
      some (w', copied, .served n)) :
    copied = ((payload actions).drop offset).take n ∧
      n = min size ((payload actions).length - offset) := by
  have session := (Handle.initial_session old).run (.initial old) ran admitted sequential succeeded
  rw [List.nil_append] at session
  have stored := session.idle_stored (Handle.Reachable.run (.initial old) admitted ran) idle
    flushed wrote
  have file : remote path = payload actions := Option.some_inj.mp (served.symm.trans stored.2)
  obtain ⟨consistent, tracks, -⟩ := readsOf_invariant run
  rw [← file]
  exact ftpfsReadChunk_exact consistent tracks fits small read

end RoundTrip

def sevenEight : String → List UInt8 := fun _ => [7, 8]

def readingBack : World :=
  (dispatch sevenEight World.initial (.openRdonly 0 "f" false false tenArrive)).elim
    World.initial Prod.fst

theorem written_reads_back_writtenTwice :
    [7, 8] = ((payload Handle.writtenTwice).drop 0).take 2 ∧
      2 = min 2 ((payload Handle.writtenTwice).length - 0) := by
  have opened : dispatch sevenEight World.initial (.openRdonly 0 "f" false false tenArrive) =
      some (readingBack, ⟨0, []⟩) := by rfl
  obtain ⟨w', read⟩ : ∃ w', ftpfsReadChunk sevenEight readingBack "f" 2 0 0 true tenArrive =
      some (w', [7, 8], .served 2) := ⟨_, rfl⟩
  have ran : (Handle.initial none).run false Handle.writtenTwice =
      some Handle.writtenTwiceHandle := rfl
  exact written_reads_back ran (by decide) (by decide) (by decide) rfl rfl (by decide)
    (show Handle.writtenTwiceHandle.remote = some (sevenEight "f") from rfl)
    (.step .mount opened ⟨trivial, by decide⟩) (fun _ _ => ⟨rfl, by norm_num⟩) (by norm_num)
    read

end CurlFtpFs
