import CurlFtpFs.RangeText
import CurlFtpFs.Upload

namespace CurlFtpFs

/-! The operations that send server commands of their own: `ftpfs_mknod`,
`ftpfs_mkdir`, `ftpfs_rmdir`, `ftpfs_unlink`, `ftpfs_rename`, `ftpfs_chmod`,
`ftpfs_chown` and `ftpfs_truncate`, over `ftpfs_do_cmd`, `create_empty_file`
and `test_size`. Each is a few blocking requests on the shared connection,
made under `ftpfs.lock` after `cancel_previous_multi`; to the read side they
are the `metadata` upcall. `get_file_name` is not among the sources and is a
parameter; the charset conversion of a configured codepage is left out. -/

/-- What one blocking request on `ftpfs.connection` asks of the server. -/
inductive ServerRequest
  /-- `ftpfs_do_cmd(header, path)`: the quote commands run after a transfer of
  the directory URL of `path`, or of the host URL when `path` is `NULL`. -/
  | quote (header : List (List Char)) (path : Option (List Char))
  /-- `create_empty_file(path)`: an upload of zero bytes to `path`. -/
  | createEmpty (path : List Char)
  /-- `ftpfs_getattr(path)`: the listing of the directory of `path`. -/
  | getattr (path : List Char)
  deriving Repr, DecidableEq

/-- How the server answers: whether a request succeeds (`curl_easy_perform`
returns `CURLE_OK`), and the size the listing of a path's directory gives it
(`none` when `parse_dir` does not find it). -/
structure Server where
  accepts : ServerRequest → Bool
  sizeOf : List Char → Option Nat

/-! ### The numbers in the command texts -/

/-- `%.<precision>o` of a nonnegative value: its octal numeral, with zeros in
front up to `precision` digits; zero has no digits of its own. -/
def octalText (precision n : Nat) : List Char :=
  List.replicate (precision - (Nat.digits 8 n).length) '0' ++
    (Nat.digits 8 n).reverse.map digitChar

/-- `%i` of an `int`: its decimal numeral, after a minus sign when it is negative. -/
def intText (i : Int) : List Char :=
  if i < 0 then '-' :: lldText i.natAbs else lldText i.toNat

def pushOctal (acc : Nat) (c : Char) : Nat := 8 * acc + (c.toNat - 48)

def octalValue (field : List Char) : Nat := field.foldl pushOctal 0

def intValue (field : List Char) : Int :=
  if field.head? = some '-' then -((field.tail.foldl pushDigit 0 : Nat) : Int)
  else (field.foldl pushDigit 0 : Nat)

theorem pushOctal_digitChar {d : Nat} (acc : Nat) (small : d < 8) :
    pushOctal acc (digitChar d) = 8 * acc + d := by
  simp [pushOctal, digitChar_toNat d (by omega)]

theorem foldl_pushOctal (acc : Nat) {digits : List Nat} (small : ∀ d ∈ digits, d < 8) :
    (digits.reverse.map digitChar).foldl pushOctal acc =
      acc * 8 ^ digits.length + Nat.ofDigits 8 digits := by
  induction digits generalizing acc with
  | nil => simp
  | cons d rest induction =>
      have smallRest : ∀ e ∈ rest, e < 8 := fun e member => small e (by simp [member])
      simp only [List.reverse_cons, List.map_append, List.map_cons, List.map_nil,
        List.foldl_append, List.foldl_cons, List.foldl_nil, induction acc smallRest,
        pushOctal_digitChar _ (small d (by simp)), Nat.ofDigits_cons, List.length_cons]
      ring

theorem foldl_pushOctal_zeros (k : Nat) : (List.replicate k '0').foldl pushOctal 0 = 0 := by
  induction k with
  | zero => rfl
  | succ k induction => rwa [List.replicate_succ, List.foldl_cons]

theorem octalValue_octalText (precision n : Nat) : octalValue (octalText precision n) = n := by
  rw [octalValue, octalText, List.foldl_append, foldl_pushOctal_zeros,
    foldl_pushOctal 0 fun d member => Nat.digits_lt_base (by norm_num) member,
    Nat.ofDigits_digits]
  simp

theorem digits_length_le {b m k : Nat} (base : 1 < b) (small : m < b ^ k) :
    (Nat.digits b m).length ≤ k := by
  rcases Nat.eq_zero_or_pos m with zero | positive
  · simp [zero]
  · by_contra long
    have grown : b ^ (k + 1) ≤ b ^ (Nat.digits b m).length :=
      Nat.pow_le_pow_right (by omega) (by omega)
    have : b ^ (k + 1) < b ^ (k + 1) := calc
      b ^ (k + 1) ≤ b ^ (Nat.digits b m).length := grown
      _ ≤ b * m := Nat.base_pow_length_digits_le b m base positive.ne'
      _ < b * b ^ k := Nat.mul_lt_mul_of_pos_left small (by omega)
      _ = b ^ (k + 1) := (pow_succ' b k).symm
    exact lt_irrefl _ this

theorem octalText_length (precision n : Nat) :
    (octalText precision n).length = max precision (Nat.digits 8 n).length := by
  simp only [octalText, List.length_append, List.length_replicate, List.length_map,
    List.length_reverse]
  omega

theorem octalText_digits (precision n : Nat) :
    ∀ c ∈ octalText precision n, ∃ d < 8, c = digitChar d := by
  intro c member
  rcases List.mem_append.mp member with zero | digit
  · exact ⟨0, by norm_num, (List.eq_of_mem_replicate zero).trans rfl⟩
  · obtain ⟨d, inDigits, rfl⟩ := List.mem_map.mp digit
    exact ⟨d, Nat.digits_lt_base (by norm_num) (List.mem_reverse.mp inDigits), rfl⟩

theorem lldText_value (n : Nat) : (lldText n).foldl pushDigit 0 = n := by
  unfold lldText
  split
  · next zero => subst zero; rfl
  · rw [foldl_pushDigit 0 fun d member => Nat.digits_lt_base (by norm_num) member,
      Nat.ofDigits_digits]
    simp

theorem lldText_isDigit (n : Nat) : ∀ c ∈ lldText n, c.isDigit = true := by
  intro c member
  unfold lldText at member
  split at member
  · simp only [List.mem_singleton] at member
    subst member
    rfl
  · obtain ⟨d, inDigits, rfl⟩ := List.mem_map.mp member
    exact digitChar_isDigit d (Nat.digits_lt_base (by norm_num) (List.mem_reverse.mp inDigits))

theorem intValue_intText (i : Int) : intValue (intText i) = i := by
  unfold intText intValue
  split
  · next negative =>
      simp only [List.head?_cons, List.tail_cons, if_true, lldText_value]
      omega
  · next nonnegative =>
      have unsigned : (lldText i.toNat).head? ≠ some '-' := fun first =>
        absurd (lldText_isDigit i.toNat '-' (List.mem_of_mem_head? first)) (by decide)
      rw [if_neg unsigned, lldText_value]
      omega

section Commands

variable (server : Server) (getFileName : List Char → List Char)

/-- `ftpfs_do_cmd(header, path)`: one request; `-EPERM` when it fails. With no
path its URL is `ftpfs.host` itself, which it frees at the end
(`ServerRequest.hostAccesses`). -/
def ftpfsDoCmd (header : List (List Char)) (path : Option (List Char)) : List ServerRequest × Int :=
  ([.quote header path], if server.accepts (.quote header path) then 0 else -EPERM)

/-- `create_empty_file(path)`: one upload of zero bytes; `-EPERM` when it fails. -/
def createEmptyFile (path : List Char) : List ServerRequest × Int :=
  ([.createEmpty path], if server.accepts (.createEmpty path) then 0 else -EPERM)

/-- `test_size(path)`: the size `ftpfs_getattr` finds, or its `-ENOENT`. -/
def testSize (path : List Char) : List ServerRequest × Int :=
  ([.getattr path], testSizeResult (server.sizeOf path))

/-- `mode - (mode / 0x1000 * 0x1000)` in `mode_t`. -/
def modeC (mode : UInt32) : UInt32 := mode - mode / 0x1000 * 0x1000

/-- `g_strdup_printf("SITE CHMOD %.3o %s", mode_c, filename)`. -/
def chmodCommand (mode : UInt32) (fileName : List Char) : List Char :=
  "SITE CHMOD ".toList ++ octalText 3 (modeC mode).toNat ++ ' ' :: fileName

/-- `ftpfs_chmod(path, mode)`. -/
def ftpfsChmod (path : List Char) (mode : UInt32) : List ServerRequest × Int :=
  ftpfsDoCmd server [chmodCommand mode (getFileName path)] (some path)

/-- The `SITE CHUID %i %s` and `SITE CHGID %i %s` lines of `ftpfs_chown`:
`printf` reads the `uid_t` and the `gid_t` as `int`s. -/
def chownCommands (uid gid : UInt32) (fileName : List Char) : List (List Char) :=
  ["SITE CHUID ".toList ++ intText uid.toBitVec.toInt ++ ' ' :: fileName,
    "SITE CHGID ".toList ++ intText gid.toBitVec.toInt ++ ' ' :: fileName]

/-- `ftpfs_chown(path, uid, gid)`: both lines in one request. -/
def ftpfsChown (path : List Char) (uid gid : UInt32) : List ServerRequest × Int :=
  ftpfsDoCmd server (chownCommands uid gid (getFileName path)) (some path)

/-- The shape `ftpfs_rmdir`, `ftpfs_unlink` and `ftpfs_mkdir` share: the
command `<verb> <file name>` on the directory of `path`. -/
def fileCommand (verb : String) (path : List Char) : List ServerRequest × Int :=
  ftpfsDoCmd server [verb.toList ++ ' ' :: getFileName path] (some path)

def ftpfsRmdir (path : List Char) : List ServerRequest × Int :=
  fileCommand server getFileName "RMD" path

def ftpfsUnlink (path : List Char) : List ServerRequest × Int :=
  fileCommand server getFileName "DELE" path

/-- What `ftpfs_mkdir` and `ftpfs_mknod` do after making the file: `ftpfs_chmod`
when it was made, whose result they drop. -/
def chmodAfter (made : List ServerRequest × Int) (path : List Char) (mode : UInt32) :
    List ServerRequest × Int :=
  if made.2 = 0 then (made.1 ++ (ftpfsChmod server getFileName path mode).1, made.2) else made

def ftpfsMkdir (path : List Char) (mode : UInt32) : List ServerRequest × Int :=
  chmodAfter server getFileName (fileCommand server getFileName "MKD" path) path mode

/-- `ftpfs_rename(from, to)`: `RNFR` and `RNTO` with the paths after their
leading `/`, in one request on the host URL. -/
def ftpfsRename (fromPath toPath : List Char) : List ServerRequest × Int :=
  ftpfsDoCmd server ["RNFR ".toList ++ fromPath.tail, "RNTO ".toList ++ toPath.tail] none

def S_IFMT : UInt32 := 0o170000

def S_IFREG : UInt32 := 0o100000

/-- `ftpfs_mknod(path, mode, rdev)`: only regular files, made by
`create_empty_file`. -/
def ftpfsMknod (path : List Char) (mode : UInt32) : List ServerRequest × Int :=
  if mode &&& S_IFMT ≠ S_IFREG then ([], -EPERM)
  else chmodAfter server getFileName (createEmptyFile server path) path mode

/-- `ftpfs_truncate(path, offset)`: truncating to 0 uploads an empty file;
otherwise only the size `ftpfs_getattr` reports is accepted. -/
def ftpfsTruncate (path : List Char) (offset : Int) : List ServerRequest × Int :=
  if offset = 0 then createEmptyFile server path
  else
    let size := testSize server path
    (size.1, if offset = size.2 then 0 else -EPERM)

end Commands

/-! ### What the texts carry -/

theorem modeC_toNat (mode : UInt32) : (modeC mode).toNat = mode.toNat % 4096 := by
  have mul : (mode / 0x1000 * 0x1000).toNat = mode.toNat / 4096 * 4096 := by
    rw [UInt32.toNat.eq_1, UInt32.mul_def, BitVec.toNat_mul, ← UInt32.toNat.eq_1,
      ← UInt32.toNat.eq_1, UInt32.toNat_div]
    have bound : mode.toNat < 2 ^ 32 := mode.toBitVec.isLt
    show mode.toNat / 4096 * 4096 % 2 ^ 32 = _
    omega
  have le : mode / 0x1000 * 0x1000 ≤ mode := UInt32.le_def.mpr (BitVec.le_def.mpr (by
    rw [← UInt32.toNat.eq_1, ← UInt32.toNat.eq_1, mul]; omega))
  rw [modeC, UInt32.toNat_sub_of_le _ _ le, mul]
  omega

section Texts

variable (server : Server) (getFileName : List Char → List Char)

/-- `ftpfs_chmod` sends one request: the `SITE CHMOD` command with, between the
command and the file name, three or four octal digits whose value is the mode
modulo 4096. The server gets the permission, set-id and sticky bits, and never
the file type. -/
theorem ftpfsChmod_mode (path : List Char) (mode : UInt32) :
    ∃ field, (ftpfsChmod server getFileName path mode).1 =
        [.quote ["SITE CHMOD ".toList ++ field ++ ' ' :: getFileName path] (some path)] ∧
      3 ≤ field.length ∧ field.length ≤ 4 ∧ (∀ c ∈ field, ∃ d < 8, c = digitChar d) ∧
      octalValue field = mode.toNat % 4096 := by
  have digits : (Nat.digits 8 (mode.toNat % 4096)).length ≤ 4 :=
    digits_length_le (by norm_num) (Nat.mod_lt _ (by norm_num))
  refine ⟨octalText 3 (modeC mode).toNat, rfl, ?_, ?_, octalText_digits 3 _, ?_⟩
  · rw [octalText_length]
    exact le_max_left _ _
  · rw [octalText_length, modeC_toNat]
    omega
  · rw [octalValue_octalText, modeC_toNat]

example : chmodCommand 0o100644 ['f'] = "SITE CHMOD 644 f".toList := by
  simp [chmodCommand, octalText, modeC_toNat, digitChar, UInt32.size]

/-- `ftpfs_chown` sends one request with the `SITE CHUID` and `SITE CHGID`
lines, whose numbers are the ids read as signed 32-bit integers: an id from
`2^31` on goes to the server as a negative number, and `(uid_t) -1`, which
leaves the owner as it is, as `-1`. -/
theorem ftpfsChown_ids (path : List Char) (uid gid : UInt32) :
    ∃ uidField gidField, (ftpfsChown server getFileName path uid gid).1 =
        [.quote ["SITE CHUID ".toList ++ uidField ++ ' ' :: getFileName path,
          "SITE CHGID ".toList ++ gidField ++ ' ' :: getFileName path] (some path)] ∧
      intValue uidField = (if uid.toNat < 2 ^ 31 then uid.toNat else uid.toNat - 2 ^ 32 : Int) ∧
      intValue gidField = (if gid.toNat < 2 ^ 31 then gid.toNat else gid.toNat - 2 ^ 32 : Int) := by
  have signed : ∀ id : UInt32, intValue (intText id.toBitVec.toInt) =
      (if id.toNat < 2 ^ 31 then id.toNat else id.toNat - 2 ^ 32 : Int) := by
    intro id
    rw [intValue_intText, BitVec.toInt_eq_toNat_cond]
    simp only [UInt32.toNat.eq_1]
    split <;> split <;> first | rfl | omega
  exact ⟨_, _, rfl, signed uid, signed gid⟩

example : intText (0xFFFFFFFF : UInt32).toBitVec.toInt = ['-', '1'] := by
  simp [intText, lldText, BitVec.toInt_eq_toNat_cond, digitChar]

theorem creatMode_regular (mode : UInt32) :
    ((mode &&& 0o7777) ||| S_IFREG) &&& S_IFMT = S_IFREG := by
  apply UInt32.eq_of_toBitVec_eq
  show (mode.toBitVec &&& 0o7777#32 ||| 0o100000#32) &&& 0o170000#32 = 0o100000#32
  ext i
  have bits : ∀ i : Fin 32, ∀ b : Bool,
      (((b && (0o7777 : Nat).testBit i) || (0o100000 : Nat).testBit i) &&
        (0o170000 : Nat).testBit i) = (0o100000 : Nat).testBit i := by decide
  simpa only [BitVec.getLsbD_and, BitVec.getLsbD_or, BitVec.getLsbD_ofNat, i.isLt, decide_True,
    Bool.true_and] using bits i (mode.toBitVec.getLsbD i)

theorem creatMode_low (mode : UInt32) :
    ((mode &&& 0o7777) ||| S_IFREG).toNat % 4096 = mode.toNat % 4096 := by
  show (mode.toBitVec &&& 0o7777#32 ||| 0o100000#32).toNat % 4096 = mode.toBitVec.toNat % 4096
  rw [BitVec.toNat_or, BitVec.toNat_and]
  show (mode.toBitVec.toNat &&& (2 ^ 12 - 1) ||| 2 ^ 12 * 8) % 4096 = _
  rw [Nat.and_pow_two_sub_one_eq_mod, Nat.or_comm,
    ← Nat.mul_add_lt_is_or (Nat.mod_lt _ (by norm_num))]
  omega

/-- The `ftpfs_mknod` of a read-only `O_CREAT` open never fails its type test: it
uploads an empty file and, only when that succeeds, sends `SITE CHMOD` with the
permission bits of the open's mode; its result is the upload's alone. -/
theorem ftpfsMknod_creat (path : List Char) (mode : UInt32) :
    ftpfsMknod server getFileName path ((mode &&& 0o7777) ||| S_IFREG) =
      if server.accepts (.createEmpty path) then
        ([.createEmpty path, .quote [chmodCommand mode (getFileName path)] (some path)], 0)
      else ([.createEmpty path], -EPERM) := by
  have chmod : chmodCommand ((mode &&& 0o7777) ||| S_IFREG) (getFileName path) =
      chmodCommand mode (getFileName path) := by
    simp only [chmodCommand, modeC_toNat, creatMode_low]
  unfold ftpfsMknod chmodAfter createEmptyFile ftpfsChmod ftpfsDoCmd
  rw [if_neg (not_not.mpr (creatMode_regular mode)), chmod]
  cases server.accepts (.createEmpty path) <;> simp [EPERM]

end Texts

/-! ### Every command -/

/-- The operations of this module as FUSE calls them. -/
inductive Command
  | mknod (path : List Char) (mode : UInt32)
  | mkdir (path : List Char) (mode : UInt32)
  | rmdir (path : List Char)
  | unlink (path : List Char)
  | rename (fromPath toPath : List Char)
  | chmod (path : List Char) (mode : UInt32)
  | chown (path : List Char) (uid gid : UInt32)
  | truncate (path : List Char) (offset : Int)
  deriving Repr, DecidableEq

def Command.run (server : Server) (getFileName : List Char → List Char) :
    Command → List ServerRequest × Int
  | .mknod path mode => ftpfsMknod server getFileName path mode
  | .mkdir path mode => ftpfsMkdir server getFileName path mode
  | .rmdir path => ftpfsRmdir server getFileName path
  | .unlink path => ftpfsUnlink server getFileName path
  | .rename fromPath toPath => ftpfsRename server fromPath toPath
  | .chmod path mode => ftpfsChmod server getFileName path mode
  | .chown path uid gid => ftpfsChown server getFileName path uid gid
  | .truncate path offset => ftpfsTruncate server path offset

section Results

variable (server : Server) (getFileName : List Char → List Char)

theorem ftpfsDoCmd_result (header : List (List Char)) (path : Option (List Char)) :
    (ftpfsDoCmd server header path).2 = 0 ∨ (ftpfsDoCmd server header path).2 = -EPERM := by
  unfold ftpfsDoCmd
  split <;> simp

theorem createEmptyFile_result (path : List Char) :
    (createEmptyFile server path).2 = 0 ∨ (createEmptyFile server path).2 = -EPERM := by
  unfold createEmptyFile
  split <;> simp

theorem chmodAfter_result {made : List ServerRequest × Int} (path : List Char) (mode : UInt32)
    (result : made.2 = 0 ∨ made.2 = -EPERM) :
    (chmodAfter server getFileName made path mode).2 = 0 ∨
      (chmodAfter server getFileName made path mode).2 = -EPERM := by
  unfold chmodAfter
  split <;> exact result

theorem ftpfsMknod_result (path : List Char) (mode : UInt32) :
    (ftpfsMknod server getFileName path mode).2 = 0 ∨
      (ftpfsMknod server getFileName path mode).2 = -EPERM := by
  unfold ftpfsMknod
  split
  · exact .inr rfl
  · exact chmodAfter_result server getFileName path mode (createEmptyFile_result server path)

theorem ftpfsTruncate_result (path : List Char) (offset : Int) :
    (ftpfsTruncate server path offset).2 = 0 ∨ (ftpfsTruncate server path offset).2 = -EPERM := by
  unfold ftpfsTruncate
  split
  · exact createEmptyFile_result server path
  · dsimp only
    split <;> simp

/-- Every command returns 0 or `-EPERM`, whatever the server answers: a refused
request, a mode that is not a regular file's, and a truncation to a length
other than 0 or the file's size all report permission denied. -/
theorem Command.run_result (command : Command) :
    (command.run server getFileName).2 = 0 ∨ (command.run server getFileName).2 = -EPERM := by
  cases command with
  | mknod path mode => exact ftpfsMknod_result server getFileName path mode
  | mkdir path mode =>
      exact chmodAfter_result server getFileName path mode (ftpfsDoCmd_result server _ _)
  | truncate path offset => exact ftpfsTruncate_result server path offset
  | _ => exact ftpfsDoCmd_result server _ _

end Results

/-! ### `ftpfs.host` over a run of commands

`ftpfs_do_cmd` with no path sets `url = ftpfs.host`, hands it to libcurl as
`CURLOPT_URL` and ends with `free((char *) url)`: the first `ftpfs_rename`
frees the mount's host string. Later requests still read it, as
`ftpfs_getattr` takes `strlen(ftpfs.host)`, and a second rename frees it again. -/

/-- An access of the string `ftpfs.host`. -/
inductive HostAccess
  | read
  | free
  deriving Repr, DecidableEq

/-- The accesses of `ftpfs.host` the code of `ftpfs.c` makes for a request:
`ftpfs_do_cmd` with no path reads it as the URL and frees it, and
`ftpfs_getattr` takes its length. With a path, `ftpfs_do_cmd` frees the URL
`get_dir_path` made instead; that helper and `get_full_path`, which build a
path's URL, are not part of the source, and what they read is not counted. -/
def ServerRequest.hostAccesses : ServerRequest → List HostAccess
  | .quote _ none => [.read, .free]
  | .getattr _ => [.read]
  | _ => []

/-- A memory error on `ftpfs.host`. -/
inductive Fault
  | useAfterFree
  | doubleFree
  deriving Repr, DecidableEq

def HostAccess.fault : HostAccess → Fault
  | .read => .useAfterFree
  | .free => .doubleFree

/-- `ftpfs.host`, allocated or freed, and the memory errors made on it so far. -/
structure Host where
  live : Bool
  faults : List Fault
  deriving Repr, DecidableEq

def Host.initial : Host := ⟨true, []⟩

def Host.access (h : Host) (a : HostAccess) : Host :=
  if h.live then { h with live := a != .free } else { h with faults := h.faults ++ [a.fault] }

def Command.hostAccesses (server : Server) (getFileName : List Char → List Char)
    (command : Command) : List HostAccess :=
  (command.run server getFileName).1.flatMap ServerRequest.hostAccesses

/-- A command on the mount: `ftpfs.host` after the accesses of its requests, and
its result. -/
def Host.exec (server : Server) (getFileName : List Char → List Char) (h : Host)
    (command : Command) : Host × Int :=
  ((command.hostAccesses server getFileName).foldl Host.access h,
    (command.run server getFileName).2)

def Host.execAll (server : Server) (getFileName : List Char → List Char) :
    Host → List Command → Host × List Int
  | h, [] => (h, [])
  | h, command :: rest =>
      let first := h.exec server getFileName command
      let later := first.1.execAll server getFileName rest
      (later.1, first.2 :: later.2)

def Command.renames : Command → Bool
  | .rename _ _ => true
  | _ => false

def afterRename (commands : List Command) : List Command :=
  (commands.dropWhile fun command => !command.renames).tail

section Host

variable (server : Server) (getFileName : List Char → List Char)

theorem chmodAfter_hostAccesses (made : List ServerRequest × Int) (path : List Char)
    (mode : UInt32) :
    (chmodAfter server getFileName made path mode).1.flatMap ServerRequest.hostAccesses =
      made.1.flatMap ServerRequest.hostAccesses := by
  unfold chmodAfter
  split
  · rw [List.flatMap_append]
    exact List.append_nil _
  · rfl

/-- Only `ftpfs_rename` frees `ftpfs.host`, and only `ftpfs_rename` and a
truncation to a length other than 0 read it. -/
theorem Command.hostAccesses_eq (command : Command) :
    command.hostAccesses server getFileName =
      match command with
      | .rename _ _ => [.read, .free]
      | .truncate _ offset => if offset = 0 then [] else [.read]
      | _ => [] := by
  unfold Command.hostAccesses
  cases command with
  | mknod path mode =>
      dsimp only [Command.run, ftpfsMknod]
      split
      · rfl
      · exact chmodAfter_hostAccesses server getFileName _ path mode
  | mkdir path mode => exact chmodAfter_hostAccesses server getFileName _ path mode
  | truncate path offset =>
      dsimp only [Command.run, ftpfsTruncate]
      split <;> rfl
  | _ => rfl

theorem Host.access_freed (faults : List Fault) (accesses : List HostAccess) :
    accesses.foldl Host.access ⟨false, faults⟩ = ⟨false, faults ++ accesses.map HostAccess.fault⟩ := by
  induction accesses generalizing faults with
  | nil => simp
  | cons a rest induction => simp [Host.access, induction]

theorem Host.exec_live (faults : List Fault) (command : Command) :
    (Host.exec server getFileName ⟨true, faults⟩ command).1 = ⟨!command.renames, faults⟩ := by
  unfold Host.exec
  rw [Command.hostAccesses_eq]
  cases command with
  | truncate path offset =>
      dsimp only
      split <;> rfl
  | _ => rfl

theorem Host.exec_freed (faults : List Fault) (command : Command) :
    (Host.exec server getFileName ⟨false, faults⟩ command).1 =
      ⟨false, faults ++ (command.hostAccesses server getFileName).map HostAccess.fault⟩ :=
  Host.access_freed faults _

theorem Host.execAll_freed (faults : List Fault) (commands : List Command) :
    (Host.execAll server getFileName ⟨false, faults⟩ commands).1 =
      ⟨false, faults ++ commands.flatMap fun command =>
        (command.hostAccesses server getFileName).map HostAccess.fault⟩ := by
  induction commands generalizing faults with
  | nil => simp [Host.execAll]
  | cons command rest induction =>
      simp only [Host.execAll, Host.exec_freed, induction, List.flatMap_cons, List.append_assoc]

theorem Host.execAll_live (faults : List Fault) (commands : List Command) :
    (Host.execAll server getFileName ⟨true, faults⟩ commands).1 =
      ⟨!commands.any Command.renames, faults ++ (afterRename commands).flatMap fun command =>
        (command.hostAccesses server getFileName).map HostAccess.fault⟩ := by
  induction commands with
  | nil => simp [Host.execAll, afterRename]
  | cons command rest induction =>
      simp only [Host.execAll, Host.exec_live]
      cases renames : command.renames
      · simpa [afterRename, renames] using induction
      · simp [Host.execAll_freed, afterRename, renames]

theorem Host.execAll_results (h : Host) (commands : List Command) :
    ∀ r ∈ (h.execAll server getFileName commands).2, r = 0 ∨ r = -EPERM := by
  induction commands generalizing h with
  | nil => simp [Host.execAll]
  | cons command rest induction =>
      simp only [Host.execAll, List.mem_cons, forall_eq_or_imp]
      exact ⟨Command.run_result server getFileName command, induction _⟩

end Host

example : (Host.initial.execAll ⟨fun _ => true, fun _ => none⟩ id
    [.rename ['/', 'a'] ['/', 'b'], .truncate ['/', 'b'] 1, .rename ['/', 'b'] ['/', 'c']]).1 =
      ⟨false, [.useAfterFree, .useAfterFree, .doubleFree]⟩ := by
  decide

/-! ### `ftpfs_truncate` and `ftpfs_ftruncate` -/

theorem testSize_eq {s : Handle} {server : Server} {path : List Char} {listed : Bool}
    (sizes : server.sizeOf path = s.getattr listed) :
    (testSize server path).2 = s.testSize listed :=
  congrArg testSizeResult sizes

/-- `ftpfs_ftruncate` answers as `ftpfs_truncate` of its path does, on a server
whose listing agrees with the handle, except that it refuses to truncate to 0 a
handle that has written. -/
theorem ftpfsFtruncate_log {s : Handle} (idle : s.request = .idle) (server : Server)
    (path : List Char) {listed : Bool} (sizes : server.sizeOf path = s.getattr listed)
    (offset : Nat) :
    (s.ftpfsFtruncate offset (server.accepts (.createEmpty path)) listed).map (·.log) =
      some (s.log ++ [if offset = 0 ∧ 0 < s.pos then -EPERM
        else (ftpfsTruncate server path offset).2]) := by
  unfold Handle.ftpfsFtruncate ftpfsTruncate createEmptyFile
  rw [if_neg (not_not.mpr idle)]
  by_cases zero : offset = 0
  · subst zero
    by_cases unwritten : s.pos = 0
    · cases server.accepts (.createEmpty path) <;> simp [unwritten, Handle.reply, EPERM]
    · simp [unwritten, Handle.reply, Nat.pos_of_ne_zero unwritten]
  · simp only [zero, if_false, false_and, Nat.cast_eq_zero, Option.map_some', Handle.reply,
      testSize_eq sizes]
    simp only [eq_comm]

end CurlFtpFs
