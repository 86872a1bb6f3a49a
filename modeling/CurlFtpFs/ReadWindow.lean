import CurlFtpFs.ReadDispatch

namespace CurlFtpFs

/-! What the read engine keeps true: every open handle's window is a slice of
its remote file, and the download a handle owns delivers that file at the end
of its window. From this, a read that does not fail copies exactly the
requested bytes of the file. -/

section Window

variable (remote : String → List UInt8)

/-- The window of `f` holds its remote file `F` from `begin_offset` on: `p` is
`F[begin_offset, begin_offset + len)`, and it is empty past the end of `F`. -/
def FtpfsFile.Window (f : FtpfsFile) : Prop :=
  f.buf.p <+: (remote f.fullPath).drop f.buf.beginOffset

/-- What every state of the shared connection satisfies: a queued completion
message is the attached download's result, a download that succeeded has
delivered the whole file, and the attached download writes into the current
handle. -/
structure Ftpfs.Consistent (s : Ftpfs) : Prop where
  quiet : s.msgs = [] ∨ ∃ t ok, s.attachedToMulti = true ∧ s.download = some t ∧
    t.status = .done ok ∧ s.msgs = [ok]
  complete : ∀ t, s.download = some t → t.status = .done true →
    (remote t.url).length ≤ t.pos
  target : ∀ g, s.attachedToMulti = true → s.currentFh = some g →
    ∃ t, s.download = some t ∧ t.target = g

/-- The handle at `fh` reads its remote file: its window is a slice of the file,
and while it owns the attached download, that download fetches the same file
and delivers at the end of the window. -/
def Tracks (w : World) (fh : Nat) : Prop :=
  ∀ f, w.files fh = some f → f.Window remote ∧
    (w.ftpfs.attachedToMulti = true → w.ftpfs.currentFh = some fh →
      ∀ t, w.ftpfs.download = some t →
        remote t.url = remote f.fullPath ∧ t.pos = f.buf.beginOffset + f.buf.len)

/-- A read of the handle at `fh` that its window can follow: it names a path
holding the handle's file, at an offset whose range text is exact. -/
def Fits (w : World) (fh : Nat) (fullPath : String) (offset : Nat) : Prop :=
  ∀ f, w.files fh = some f → remote fullPath = remote f.fullPath ∧ offset < 10 ^ 14

end Window

/-! ### Windows -/

theorem window_append {file p : List UInt8} {b : Nat} (window : p <+: file.drop b) (k : Nat) :
    p ++ ((file.drop (b + p.length)).take k) <+: file.drop b := by
  obtain ⟨rest, split⟩ := window
  have : file.drop (b + p.length) = rest := by
    rw [← List.drop_drop, ← split, List.drop_left]
  rw [this, ← split]
  exact (List.prefix_append_right_inj p).mpr (List.take_prefix k rest)

theorem window_drop {file p : List UInt8} {b : Nat} (window : p <+: file.drop b) (k : Nat) :
    p.drop k <+: file.drop (b + k) := by
  obtain ⟨rest, split⟩ := window
  rw [← List.drop_drop, ← split, List.drop_append_eq_append_drop]
  exact List.prefix_append _ _

theorem window_slice {file p : List UInt8} {b offset n : Nat} (window : p <+: file.drop b)
    (after : b ≤ offset) (within : offset - b + n ≤ p.length) :
    (p.drop (offset - b)).take n = (file.drop offset).take n := by
  obtain ⟨rest, split⟩ := window
  have : file.drop offset = (file.drop b).drop (offset - b) := by
    rw [List.drop_drop]; congr 1; omega
  rw [this, ← split, List.drop_append_of_le_length (by omega),
    List.take_append_of_le_length (by simp; omega)]

theorem window_end {file p : List UInt8} {b : Nat} (window : p <+: file.drop b) :
    p.length ≤ file.length - b := by
  simpa using window.length_le

/-! ### One `curl_multi_perform` -/

section Perform

variable {remote : String → List UInt8}

/-- Every open file only gains bytes at the end of its window. -/
def World.Grows (w w' : World) : Prop :=
  ∀ fh, ∃ extra, w'.files fh =
    (w.files fh).map fun f => { f with buf := { f.buf with p := f.buf.p ++ extra } }

theorem World.Grows.refl (w : World) : w.Grows w :=
  fun fh => ⟨[], by cases w.files fh <;> simp⟩

theorem World.Grows.trans {w₁ w₂ w₃ : World} (first : w₁.Grows w₂) (second : w₂.Grows w₃) :
    w₁.Grows w₃ := by
  intro fh
  obtain ⟨extra, found₂⟩ := first fh
  obtain ⟨more, found₃⟩ := second fh
  exact ⟨extra ++ more, by rw [found₃, found₂]; cases w₁.files fh <;> simp⟩

theorem World.Grows.file {w w' : World} (grows : w.Grows w') {fh : Nat} {g : FtpfsFile}
    (found : w'.files fh = some g) :
    ∃ f extra, w.files fh = some f ∧ g = { f with buf := { f.buf with p := f.buf.p ++ extra } } := by
  obtain ⟨extra, grown⟩ := grows fh
  rw [grown] at found
  obtain ⟨f, original, rfl⟩ := Option.map_eq_some'.mp found
  exact ⟨f, extra, original, rfl⟩

theorem curlMultiPerform_cases (remote : String → List UInt8) (w : World) (d : Delivery) :
    curlMultiPerform remote w d = (w, 0) ∨
    ∃ t, w.ftpfs.download = some t ∧ w.ftpfs.attachedToMulti = true ∧ t.status = .running ∧
      curlMultiPerform remote w d =
        ({ w.appendTo t.target (t.chunk remote d) with
            ftpfs := { w.ftpfs with
              download := some (t.advance remote d),
              msgs := match (t.advance remote d).status with
                | .running => w.ftpfs.msgs
                | .done ok => w.ftpfs.msgs ++ [ok] } },
          if (t.advance remote d).status = .running then 1 else 0) := by
  unfold curlMultiPerform
  split
  · next t found =>
      split
      · next active => exact .inr ⟨t, found, active.1, active.2, rfl⟩
      · exact .inl rfl
  · exact .inl rfl

theorem curlMultiPerform_currentFh (w : World) (d : Delivery) :
    (curlMultiPerform remote w d).1.ftpfs.currentFh = w.ftpfs.currentFh := by
  rcases curlMultiPerform_cases remote w d with same | ⟨t, -, -, -, moved⟩ <;> simp [*]

theorem curlMultiPerform_grows (w : World) (d : Delivery) :
    w.Grows (curlMultiPerform remote w d).1 := by
  rcases curlMultiPerform_cases remote w d with same | ⟨t, -, -, -, moved⟩
  · rw [same]; exact World.Grows.refl w
  · intro fh
    rw [moved]
    by_cases here : fh = t.target
    · subst here
      exact ⟨t.chunk remote d, World.appendTo_files_self _ _ _⟩
    · exact ⟨[], by rw [World.appendTo_files_ne _ _ here]; cases w.files fh <;> simp⟩

end Perform

/-! ### The shared connection stays consistent -/

namespace Ftpfs.Consistent

variable {remote : String → List UInt8}

theorem cancel {s : Ftpfs} (consistent : s.Consistent remote) :
    (cancelPreviousMulti s).Consistent remote where
  quiet := by
    unfold cancelPreviousMulti; split
    · exact .inl rfl
    · exact consistent.quiet
  complete t := by simpa using consistent.complete t
  target g attached := by simp at attached

theorem readMsgs {s : Ftpfs} (consistent : s.Consistent remote) :
    (CurlFtpFs.readMsgs s).1.Consistent remote where
  quiet := .inl rfl
  complete := consistent.complete
  target := consistent.target

theorem restart {w : World} (consistent : w.ftpfs.Consistent remote) (fh : Nat)
    (fullPath : String) (offset : Nat) :
    (CurlFtpFs.restart w fh fullPath offset).ftpfs.Consistent remote where
  quiet := by
    left
    show (cancelPreviousMulti w.ftpfs).msgs = []
    unfold cancelPreviousMulti; split
    · rfl
    · rcases consistent.quiet with empty | ⟨t, ok, attached, -⟩
      · exact empty
      · simp_all
  complete t found done := by
    simp only [CurlFtpFs.restart, Option.some.injEq] at found
    subst found; simp at done
  target g _ current := by
    simp only [CurlFtpFs.restart, Option.some.injEq] at current
    exact ⟨_, rfl, current⟩

theorem perform {w : World} (consistent : w.ftpfs.Consistent remote) (d : Delivery) :
    (curlMultiPerform remote w d).1.ftpfs.Consistent remote := by
  rcases curlMultiPerform_cases remote w d with same | ⟨t, found, attached, running, moved⟩
  · rw [same]; exact consistent
  have quiet : w.ftpfs.msgs = [] := by
    rcases consistent.quiet with empty | ⟨t', ok, -, found', done, -⟩
    · exact empty
    · rw [found] at found'; cases found'; simp [running] at done
  rw [moved]
  refine ⟨?_, ?_, ?_⟩
  · simp only
    split
    · next stillRunning => exact .inl (by simpa [stillRunning] using quiet)
    · next ok finished => exact .inr ⟨_, ok, attached, rfl, finished, by simp [quiet]⟩
  · intro t' found' done
    simp only [Option.some.injEq] at found'
    subst found'
    simp only [Download.advance, Outcome.status] at done ⊢
    split at done <;> simp_all
  · intro g _ current
    obtain ⟨t', found', target⟩ := consistent.target g attached current
    rw [found] at found'; cases found'
    exact ⟨_, rfl, target⟩

end Ftpfs.Consistent

/-! ### Each step of `ftpfs_read_chunk` keeps a handle's window -/

section Tracks

variable {remote : String → List UInt8}

theorem tracks_perform {w : World} {fh x : Nat} (consistent : w.ftpfs.Consistent remote)
    (current : w.ftpfs.currentFh = some fh) (tracks : Tracks remote w x) (d : Delivery) :
    Tracks remote (curlMultiPerform remote w d).1 x := by
  rcases curlMultiPerform_cases remote w d with same | ⟨t, downloading, attached, -, moved⟩
  · rw [same]; exact tracks
  obtain ⟨t', found', target⟩ := consistent.target fh attached current
  rw [downloading] at found'; cases found'
  rw [moved]
  intro f' present
  by_cases here : x = t.target
  · subst here
    rw [World.appendTo_files_self] at present
    obtain ⟨f, found, rfl⟩ := Option.map_eq_some'.mp present
    obtain ⟨window, owns⟩ := tracks f found
    obtain ⟨url, pos⟩ := owns attached (target ▸ current) t downloading
    refine ⟨?_, fun _ _ t' download => ?_⟩
    · have := window_append window d.chunk
      simpa [FtpfsFile.Window, Download.chunk, url, pos, Buffer.len] using this
    · simp only [Option.some.injEq] at download
      subst download
      simp only [Download.advance, pos, Buffer.len, Download.chunk, url, List.length_take,
        List.length_drop, Nat.add_assoc, List.length_append, and_self]
  · rw [World.appendTo_files_ne _ _ here] at present
    refine ⟨(tracks f' present).1, fun _ current' => ?_⟩
    rw [current, ← target] at current'
    exact absurd (Option.some.inj current').symm here

theorem tracks_restart {w : World} {fh x : Nat} {fullPath : String} {offset : Nat}
    (tracks : Tracks remote w x)
    (fits : fh = x → Fits remote w fh fullPath offset) :
    Tracks remote (restart w fh fullPath offset) x := by
  intro f' present
  by_cases here : x = fh
  · subst here
    simp only [restart, Function.update_same, Option.map_eq_some'] at present
    obtain ⟨f, found, rfl⟩ := present
    obtain ⟨path, below⟩ := fits rfl f found
    refine ⟨List.nil_prefix, fun _ _ t download => ?_⟩
    simp only [restart, Option.some.injEq] at download
    subst download
    simp [path, rangeStart_of_lt below, Buffer.len]
  · simp only [restart, Function.update_noteq here] at present
    refine ⟨(tracks f' present).1, fun _ current => ?_⟩
    simp only [restart, Option.some.injEq] at current
    exact absurd current.symm here

theorem tracks_readMsgs {w : World} {x : Nat} (tracks : Tracks remote w x) :
    Tracks remote { w with ftpfs := (readMsgs w.ftpfs).1 } x :=
  tracks

theorem tracks_serve {w : World} {fh x : Nat} {f : FtpfsFile} {size offset : Nat}
    (updateOffset : Bool) (tracks : Tracks remote w x) (found : w.files fh = some f)
    (after : f.buf.beginOffset ≤ offset) (within : offset ≤ f.buf.beginOffset + f.buf.len) :
    Tracks remote
      { w with files := Function.update w.files fh (some (f.serve size offset updateOffset).1) } x := by
  intro f' present
  by_cases here : x = fh
  · subst here
    simp only [Function.update_same, Option.some.injEq] at present
    subst present
    obtain ⟨window, owns⟩ := tracks f found
    refine ⟨?_, fun attached current t download => ?_⟩
    · unfold FtpfsFile.Window
      rw [FtpfsFile.serve_buf, FtpfsFile.serve_fullPath]
      split
      · have := window_drop window
          (offset - f.buf.beginOffset + min size (f.buf.beginOffset + f.buf.len - offset))
        rwa [show f.buf.beginOffset + (offset - f.buf.beginOffset +
          min size (f.buf.beginOffset + f.buf.len - offset)) =
            offset + min size (f.buf.beginOffset + f.buf.len - offset) by omega] at this
      · exact window
    · obtain ⟨url, pos⟩ := owns attached current t download
      exact ⟨url, pos.trans (f.serve_end updateOffset after within).symm⟩
  · simp only [Function.update_noteq here] at present
    exact tracks f' present

end Tracks

/-! ### Whole reads -/

section Read

variable {remote : String → List UInt8}

theorem World.Grows.found {w w' : World} (grows : w.Grows w') {fh : Nat} {f : FtpfsFile}
    (found : w.files fh = some f) :
    ∃ extra, w'.files fh = some { f with buf := { f.buf with p := f.buf.p ++ extra } } := by
  obtain ⟨extra, grown⟩ := grows fh
  exact ⟨extra, by rw [grown, found]; rfl⟩

@[simp] theorem restart_files_self (w : World) (fh : Nat) (fullPath : String) (offset : Nat) :
    (restart w fh fullPath offset).files fh =
      (w.files fh).map fun f => { f with buf := ⟨[], offset⟩ } := by
  simp [restart]

theorem short_eq_false_iff {f : FtpfsFile} {size offset : Nat}
    (after : f.buf.beginOffset ≤ offset) (small : size + offset - f.buf.beginOffset < 2 ^ 64) :
    f.short size offset = false ↔ size + offset - f.buf.beginOffset ≤ f.buf.len := by
  have : ((size : Int) + offset - f.buf.beginOffset) =
      ((size + offset - f.buf.beginOffset : Nat) : Int) := by
    omega
  simp only [FtpfsFile.short, this, sizeT_of_lt small, decide_eq_false_iff_not, Nat.not_lt]

theorem Fits.grows {w w' : World} (grows : w.Grows w') {fh : Nat} {fullPath : String}
    {offset : Nat} (fits : Fits remote w fh fullPath offset) : Fits remote w' fh fullPath offset := by
  intro g found
  obtain ⟨f, extra, original, rfl⟩ := grows.file found
  exact fits f original

/-- What the read engine keeps for the handle at `x` while `fh` reads. -/
structure Keeps (remote : String → List UInt8) (fh x : Nat) (w : World) : Prop where
  consistent : w.ftpfs.Consistent remote
  current : w.ftpfs.currentFh = some fh
  tracks : Tracks remote w x

theorem Keeps.perform {w : World} {fh x : Nat} (keeps : Keeps remote fh x w) (d : Delivery) :
    Keeps remote fh x (curlMultiPerform remote w d).1 :=
  ⟨keeps.consistent.perform d, (curlMultiPerform_currentFh w d).trans keeps.current,
    tracks_perform keeps.consistent keeps.current keeps.tracks d⟩

theorem pumpLoop_keeps (P : World → Prop)
    (keeps : ∀ w d, P w → P (curlMultiPerform remote w d).1) {fh size offset : Nat}
    {rounds : List (Bool × Delivery)} {w : World} {running : Nat} {pumped : Pumped}
    (holds : P w) (looped : pumpLoop remote fh size offset rounds w running = some pumped) :
    P pumped.world := by
  induction rounds generalizing w running with
  | nil =>
      unfold pumpLoop at looped
      split at looped
      · cases looped
      · cases looped; exact holds
  | cons round rest induction =>
      unfold pumpLoop at looped
      split at looped
      · obtain ⟨failed, d⟩ := round
        cases failed
        · exact induction (keeps w d holds) looped
        · cases looped; exact holds
      · cases looped; exact holds

theorem pumpLoop_exit {fh size offset : Nat} {rounds : List (Bool × Delivery)} {w : World}
    {running : Nat} {pumped : Pumped}
    (looped : pumpLoop remote fh size offset rounds w running = some pumped)
    (ok : pumped.err = false) :
    (pumped.world.files fh).any (·.short size offset) = false ∨ pumped.running = 0 := by
  induction rounds generalizing w running with
  | nil =>
      unfold pumpLoop at looped
      split at looped
      · cases looped
      · next stop =>
          cases looped
          by_cases covered : (w.files fh).any (·.short size offset) = true
          · exact .inr (by simpa [covered] using stop)
          · exact .inl (by simpa using covered)
  | cons round rest induction =>
      unfold pumpLoop at looped
      split at looped
      · obtain ⟨failed, d⟩ := round
        cases failed
        · exact induction looped
        · cases looped; cases ok
      · next stop =>
          cases looped
          by_cases covered : (w.files fh).any (·.short size offset) = true
          · exact .inr (by simpa [covered] using stop)
          · exact .inl (by simpa using covered)

theorem takeConnection_keeps {w : World} {fh x : Nat} {f : FtpfsFile} {fullPath : String}
    {offset : Nat} (consistent : w.ftpfs.Consistent remote) (tracks : Tracks remote w x)
    (fits : fh = x → Fits remote w fh fullPath offset) (probe : Delivery) :
    Keeps remote fh x (takeConnection remote w fullPath offset fh f probe) := by
  unfold takeConnection restartTest
  dsimp only
  split
  · exact ⟨consistent.restart fh fullPath offset, rfl, tracks_restart tracks fits⟩
  · next owner =>
      have current : w.ftpfs.currentFh = some fh := by
        by_contra other; exact owner (.inl other)
      have keeps := Keeps.perform ⟨consistent, current, tracks⟩ probe
      split
      · exact ⟨keeps.consistent.restart fh fullPath offset, rfl, tracks_restart keeps.tracks
          fun same => (fits same).grows (curlMultiPerform_grows w probe)⟩
      · exact keeps

theorem takeConnection_window (remote : String → List UInt8) {w : World} {fh : Nat}
    {f : FtpfsFile} (fullPath : String) (offset : Nat) (found : w.files fh = some f) (probe : Delivery) :
    ∃ g, (takeConnection remote w fullPath offset fh f probe).files fh = some g ∧
      g.fullPath = f.fullPath ∧ g.buf.beginOffset ≤ offset ∧
      offset ≤ g.buf.beginOffset + g.buf.len := by
  unfold takeConnection restartTest
  dsimp only
  split
  · exact ⟨{ f with buf := ⟨[], offset⟩ }, by simp [found], rfl, by simp [Buffer.len]⟩
  · next owner =>
      obtain ⟨extra, grown⟩ := (show w.Grows (curlMultiPerform remote w probe).1 from curlMultiPerform_grows w probe).found found
      have inside : f.outside offset = false := by simpa using fun other => owner (.inr other)
      simp only [FtpfsFile.outside, Bool.or_eq_false_iff, decide_eq_false_iff_not,
        Nat.not_lt] at inside
      split
      · exact ⟨{ f with buf := ⟨[], offset⟩ }, by simp [grown], rfl, by simp [Buffer.len]⟩
      · exact ⟨_, grown, rfl, inside.1, by simp [Buffer.len] at inside ⊢; omega⟩

theorem fetch_some {w : World} {fh : Nat} {f : FtpfsFile} {fullPath : String}
    {size offset : Nat} {net : ReadNetwork} {w' : World} {err : Bool}
    (fetched : fetch remote w fullPath size offset fh f net = some (w', err)) :
    ∃ pumped, pumpLoop remote fh size offset net.rounds
        (curlMultiPerform remote (takeConnection remote w fullPath offset fh f net.probe)
          net.first).1
        (curlMultiPerform remote (takeConnection remote w fullPath offset fh f net.probe)
          net.first).2 = some pumped ∧
      (pumped.running = 0 ∧ w' = { pumped.world with ftpfs := (readMsgs pumped.world.ftpfs).1 } ∧
          err = (pumped.err || (readMsgs pumped.world.ftpfs).2) ∨
        pumped.running ≠ 0 ∧ w' = pumped.world ∧ err = pumped.err) := by
  simp only [fetch, Option.bind_eq_bind, Option.bind_eq_some] at fetched
  obtain ⟨pumped, looped, rest⟩ := fetched
  refine ⟨pumped, looped, ?_⟩
  split at rest <;> simp only [Option.pure_def, Option.some.injEq, Prod.mk.injEq] at rest
  · exact .inl ⟨‹_›, rest.1.symm, rest.2.symm⟩
  · exact .inr ⟨‹_›, rest.1.symm, rest.2.symm⟩

theorem fetch_keeps {w : World} {fh x : Nat} {f : FtpfsFile} {fullPath : String}
    {size offset : Nat} {net : ReadNetwork} {w' : World} {err : Bool}
    (consistent : w.ftpfs.Consistent remote) (tracks : Tracks remote w x)
    (fits : fh = x → Fits remote w fh fullPath offset)
    (fetched : fetch remote w fullPath size offset fh f net = some (w', err)) :
    Keeps remote fh x w' := by
  obtain ⟨pumped, looped, ⟨-, rfl, -⟩ | ⟨-, rfl, -⟩⟩ := fetch_some fetched <;>
  have keeps := pumpLoop_keeps (Keeps remote fh x) (fun w d keeps => keeps.perform d)
    ((takeConnection_keeps consistent tracks fits net.probe).perform net.first) looped
  · exact ⟨keeps.consistent.readMsgs, keeps.current, tracks_readMsgs keeps.tracks⟩
  · exact keeps

theorem fetch_window {w : World} {fh : Nat} {f : FtpfsFile} {fullPath : String}
    {size offset : Nat} {net : ReadNetwork} {w' : World} {err : Bool}
    (found : w.files fh = some f)
    (fetched : fetch remote w fullPath size offset fh f net = some (w', err)) :
    ∃ g, w'.files fh = some g ∧ g.fullPath = f.fullPath ∧ g.buf.beginOffset ≤ offset ∧
      offset ≤ g.buf.beginOffset + g.buf.len := by
  obtain ⟨pumped, looped, rest⟩ := fetch_some fetched
  obtain ⟨g, taken, path, after, within⟩ := takeConnection_window remote fullPath offset found net.probe
  have grows := pumpLoop_keeps (takeConnection remote w fullPath offset fh f net.probe).Grows
    (fun w₁ d grows => grows.trans (curlMultiPerform_grows w₁ d))
    (curlMultiPerform_grows _ net.first) looped
  obtain ⟨extra, grown⟩ := grows.found taken
  have files : w'.files = pumped.world.files := by
    rcases rest with ⟨-, rfl, -⟩ | ⟨-, rfl, -⟩ <;> rfl
  refine ⟨{ g with buf := { g.buf with p := g.buf.p ++ extra } }, files ▸ grown, path, after, ?_⟩
  simp only [Buffer.len, List.length_append] at within ⊢
  omega

theorem fetch_served {w : World} {fh : Nat} {f : FtpfsFile} {fullPath : String}
    {size offset : Nat} {net : ReadNetwork} {w' : World}
    (consistent : w.ftpfs.Consistent remote) (tracks : Tracks remote w fh)
    (fits : Fits remote w fh fullPath offset)
    (fetched : fetch remote w fullPath size offset fh f net = some (w', false)) :
    ∀ g, w'.files fh = some g →
      g.short size offset = false ∨ (remote g.fullPath).length ≤ g.buf.beginOffset + g.buf.len := by
  obtain ⟨pumped, looped, rest⟩ := fetch_some fetched
  have keeps := pumpLoop_keeps (Keeps remote fh fh) (fun w d keeps => keeps.perform d)
    ((takeConnection_keeps consistent tracks (fun _ => fits) net.probe).perform net.first) looped
  intro g found
  rcases rest with ⟨-, rfl, bad⟩ | ⟨running, rfl, ok⟩
  · rcases keeps.consistent.quiet with empty | ⟨t, ok, attached, download, done, msgs⟩
    · simp [readMsgs, empty] at bad
    · have succeeded : ok = true := by simp [readMsgs, msgs] at bad; exact bad.2
      subst succeeded
      obtain ⟨url, pos⟩ := (keeps.tracks g found).2 attached keeps.current t download
      exact .inr (url ▸ pos ▸ keeps.consistent.complete t download done)
  · rcases pumpLoop_exit looped ok.symm with covered | drained
    · exact .inl (by simpa [found] using covered)
    · exact absurd drained running

theorem serve_exact {file : List UInt8} {g : FtpfsFile} {size offset : Nat} (updateOffset : Bool)
    (window : g.buf.p <+: file.drop g.buf.beginOffset) (after : g.buf.beginOffset ≤ offset)
    (within : offset ≤ g.buf.beginOffset + g.buf.len) (small : size + offset < 2 ^ 64)
    (enough : g.short size offset = false ∨ file.length ≤ g.buf.beginOffset + g.buf.len) :
    (g.serve size offset updateOffset).2.1 =
        (file.drop offset).take (g.serve size offset updateOffset).2.2 ∧
      (g.serve size offset updateOffset).2.2 = min size (file.length - offset) := by
  rw [short_eq_false_iff after (by omega)] at enough
  have bound := window_end window
  simp only [FtpfsFile.serve, Buffer.len] at within bound enough ⊢
  exact ⟨window_slice window after (by omega), by omega⟩

theorem ftpfsReadChunk_some {w : World} {fullPath : String} {size offset fh : Nat}
    {updateOffset : Bool} {net : ReadNetwork} {w' : World} {copied : List UInt8}
    {r : ReadResult}
    (read : ftpfsReadChunk remote w fullPath size offset fh updateOffset net =
      some (w', copied, r)) :
    ∃ f fetched g, w.files fh = some f ∧
      fillWindow remote w fullPath size offset fh f net = some fetched ∧
      fetched.1.files fh = some g ∧
      w' = { fetched.1 with
        files := Function.update fetched.1.files fh (some (g.serve size offset updateOffset).1) } ∧
      copied = (g.serve size offset updateOffset).2.1 ∧
      r = if fetched.2 then .badRead else .served (g.serve size offset updateOffset).2.2 := by
  simp only [ftpfsReadChunk, Option.bind_eq_bind, Option.bind_eq_some, Option.pure_def,
    Option.some.injEq, Prod.mk.injEq] at read
  obtain ⟨f, found, fetched, filled, g, got, rfl, rfl, rfl⟩ := read
  exact ⟨f, fetched, g, found, filled, got, rfl, rfl, rfl⟩

theorem fillWindow_keeps {w : World} {fh x : Nat} {f : FtpfsFile} {fullPath : String}
    {size offset : Nat} {net : ReadNetwork} {fetched : World × Bool}
    (consistent : w.ftpfs.Consistent remote) (tracks : Tracks remote w x)
    (fits : fh = x → Fits remote w fh fullPath offset)
    (filled : fillWindow remote w fullPath size offset fh f net = some fetched) :
    fetched.1.ftpfs.Consistent remote ∧ Tracks remote fetched.1 x := by
  unfold fillWindow at filled
  split at filled
  · have keeps := fetch_keeps consistent tracks fits filled
    exact ⟨keeps.consistent, keeps.tracks⟩
  · cases filled; exact ⟨consistent, tracks⟩

theorem fillWindow_window {w : World} {fh : Nat} {f : FtpfsFile} {fullPath : String}
    {size offset : Nat} {net : ReadNetwork} {fetched : World × Bool}
    (found : w.files fh = some f)
    (filled : fillWindow remote w fullPath size offset fh f net = some fetched) :
    ∃ g, fetched.1.files fh = some g ∧ g.fullPath = f.fullPath ∧
      g.buf.beginOffset ≤ offset ∧ offset ≤ g.buf.beginOffset + g.buf.len := by
  unfold fillWindow at filled
  split at filled
  · exact fetch_window found filled
  · next hit =>
      cases filled
      simp only [Bool.or_eq_true, not_or, Bool.not_eq_true, FtpfsFile.outside,
        Bool.or_eq_false_iff, decide_eq_false_iff_not, Nat.not_lt] at hit
      exact ⟨f, found, rfl, hit.2.1, hit.2.2⟩

theorem fillWindow_enough {w : World} {fh : Nat} {f : FtpfsFile} {fullPath : String}
    {size offset : Nat} {net : ReadNetwork} {w' : World}
    (consistent : w.ftpfs.Consistent remote) (tracks : Tracks remote w fh)
    (fits : Fits remote w fh fullPath offset) (found : w.files fh = some f)
    (filled : fillWindow remote w fullPath size offset fh f net = some (w', false)) :
    ∀ g, w'.files fh = some g →
      g.short size offset = false ∨ (remote g.fullPath).length ≤ g.buf.beginOffset + g.buf.len := by
  unfold fillWindow at filled
  split at filled
  · exact fetch_served consistent tracks fits filled
  · next hit =>
      simp only [Option.some.injEq, Prod.mk.injEq] at filled
      obtain ⟨rfl, -⟩ := filled
      intro g got
      rw [found] at got
      cases got
      exact .inl (by simpa using (Bool.or_eq_false_iff.mp (by simpa using hit)).1)

theorem ftpfsReadChunk_keeps {w : World} {fullPath : String} {size offset fh x : Nat}
    {updateOffset : Bool} {net : ReadNetwork} {w' : World} {copied : List UInt8}
    {r : ReadResult} (consistent : w.ftpfs.Consistent remote) (tracks : Tracks remote w x)
    (fits : fh = x → Fits remote w fh fullPath offset)
    (read : ftpfsReadChunk remote w fullPath size offset fh updateOffset net =
      some (w', copied, r)) :
    w'.ftpfs.Consistent remote ∧ Tracks remote w' x := by
  obtain ⟨f, fetched, g, found, filled, got, rfl, -, -⟩ := ftpfsReadChunk_some read
  obtain ⟨consistent', tracks'⟩ := fillWindow_keeps consistent tracks fits filled
  obtain ⟨g', got', -, after, within⟩ := fillWindow_window found filled
  rw [got] at got'
  cases got'
  exact ⟨consistent', tracks_serve updateOffset tracks' got after within⟩

/-- A read of a handle that fits its window and does not fail copies exactly
the requested bytes of the handle's file, as many as the file has from
`offset` on, up to `size`. -/
theorem ftpfsReadChunk_exact {w : World} {fullPath : String} {size offset fh : Nat}
    {updateOffset : Bool} {net : ReadNetwork} {w' : World} {copied : List UInt8} {n : Nat}
    (consistent : w.ftpfs.Consistent remote) (tracks : Tracks remote w fh)
    (fits : Fits remote w fh fullPath offset) (small : size + offset < 2 ^ 64)
    (read : ftpfsReadChunk remote w fullPath size offset fh updateOffset net =
      some (w', copied, .served n)) :
    copied = ((remote fullPath).drop offset).take n ∧
      n = min size ((remote fullPath).length - offset) := by
  obtain ⟨f, ⟨w₁, err⟩, g, found, filled, got, -, rfl, served⟩ := ftpfsReadChunk_some read
  cases err
  · simp only [Bool.false_eq_true, if_false, ReadResult.served.injEq] at served
    subst served
    obtain ⟨g', got', path, after, within⟩ := fillWindow_window found filled
    rw [got] at got'
    cases got'
    have enough := fillWindow_enough consistent tracks fits found filled g got
    have window := ((fillWindow_keeps consistent tracks (fun _ => fits) filled).2 g got).1
    rw [(fits f found).1, ← path]
    exact serve_exact updateOffset window after within small enough
  · simp at served

end Read

end CurlFtpFs
