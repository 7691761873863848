/-
**`ConvertReturnErrorCode`** (`core/libraries/network/posix_sockets.cpp`, the same in
`unix_sockets.cpp`), and what it comes to in a call that the guest makes.

The function turns the errno of a host call that failed into the guest's: an error the `switch`
names into the constant of that name, any other into `ORBISNETEINTERNAL`. `sysconnect` and `sysbind`
pass the failure on as `-1`, and `NetErrorHandler` makes the call again as long as the errno is
`ORBISNETEINTR`.

`returnCodes_told`: through all three, the guest is told the outcome of the first host call that is
not interrupted, and never the errnos `ORBISNETEINTR` and `ORBISNETENOTSOCK`.

The methods of a socket, which end in `ConvertReturnErrorCode`, are cut off in the repository:
`Converts` says this of a method and the host call it makes. `ReturnErrors` takes the constants as
they are.
-/

import LayraPS4.Net.SysNet
import Mathlib.Logic.Function.Iterate

namespace LayraPS4.Net

open Cxx Loops

/-! ### The code -/

/-- The errors that the `switch` has a case for, on one platform or another. -/
inductive ErrorName
  | ePerm | eNoent | eNomem | eExist | eNodev | eNfile | eNospc | ePipe | eCanceled | eNodata
  | eIntr | eBadf | eAcces | eFault | eInval | eMfile | eWouldblock | eInprogress | eAlready
  | eNotsock | eDestaddrreq | eMsgsize | ePrototype | eNoprotoopt | eProtonosupport | eOpnotsupp
  | eAfnosupport | eAddrinuse | eAddrnotavail | eNetdown | eNetunreach | eNetreset | eConnaborted
  | eConnreset | eNobufs | eIsconn | eNotconn | eTimedout | eConnrefused | eLoop | eNametoolong
  | eHostunreach | eNotempty
  deriving DecidableEq, Repr

inductive Platform
  | win32
  | apple
  | other
  deriving DecidableEq, Repr

/-- The cases that are left out for WinSock. -/
def posixCases : List ErrorName :=
  [.ePerm, .eNoent, .eNomem, .eExist, .eNodev, .eNfile, .eNospc, .ePipe, .eCanceled, .eNodata]

/-- The cases after these, up to the one that stands for Apple and Windows only. -/
def earlyCases : List ErrorName :=
  [.eIntr, .eBadf, .eAcces, .eFault, .eInval, .eMfile, .eWouldblock, .eInprogress, .eAlready,
    .eNotsock, .eDestaddrreq, .eMsgsize, .ePrototype, .eNoprotoopt, .eProtonosupport]

def lateCases : List ErrorName :=
  [.eAfnosupport, .eAddrinuse, .eAddrnotavail, .eNetdown, .eNetunreach, .eNetreset, .eConnaborted,
    .eConnreset, .eNobufs, .eIsconn, .eNotconn, .eTimedout, .eConnrefused, .eLoop, .eNametoolong,
    .eHostunreach, .eNotempty]

/-- The cases of the `switch`, in order. -/
def errorCases : Platform → List ErrorName
  | .win32 => earlyCases ++ .eOpnotsupp :: lateCases
  | .apple => posixCases ++ earlyCases ++ .eOpnotsupp :: lateCases
  | .other => posixCases ++ earlyCases ++ lateCases

/-- The constants of a platform: the labels of the `switch`, which are distinct, and the guest's,
which are small, positive and distinct. -/
structure ReturnErrors (platform : Platform) where
  errors : NetErrors
  /-- The errno macro; on Windows the one with `WSA` in front. -/
  host : ErrorName → Int32
  /-- The macro with `ORBISNET` in front. -/
  orbis : ErrorName → Int32
  /-- `ORBISNETEINTERNAL` -/
  eInternal : Int32
  labels : ((errorCases platform).map host).Nodup
  orbis_eIntr : orbis .eIntr = errors.eIntr
  orbis_eNotsock : orbis .eNotsock = errors.eNotSock
  orbis_eBadf : orbis .eBadf = errors.eBadf
  orbis_small : ∀ name, 0 < orbis name ∧ orbis name &&& 0xfff0000 = 0
  eInternal_small : 0 < eInternal ∧ eInternal &&& 0xfff0000 = 0
  orbis_injective : Function.Injective orbis
  orbis_ne_eInternal : ∀ name, orbis name ≠ eInternal
  eNetIntr_apart : errors.eNetIntr ≠ eInternal ∧ ∀ name, orbis name ≠ errors.eNetIntr

variable {platform : Platform} {FileType Socket Sockaddr World : Type}

/-- What `ConvertReturnErrorCode` returns, and `*_Error()` after it. -/
def convertReturnErrorCode (table : ReturnErrors platform) (errno retval error : Int32) :
    Int32 × Int32 :=
  if retval < 0 then
    match (errorCases platform).find? fun name => table.host name = errno with
    | some name => (-1, table.orbis name)
    | none => (-1, table.eInternal)
  else (retval, error)

/-- A method that makes this host call and ends in `ConvertReturnErrorCode`. A host call returns a
value, the errno after it and the world after it. -/
def Converts (table : ReturnErrors platform)
    (method : Socket → Ptr Sockaddr → UInt32 → Int32 → World → Int32 × Int32 × World)
    (native : Socket → Ptr Sockaddr → UInt32 → World → Int32 × Int32 × World) : Prop :=
  ∀ socket addr addrlen error world,
    let did := native socket addr addrlen world
    let told := convertReturnErrorCode table did.2.1 did.1 error
    method socket addr addrlen error world = (told.1, told.2, did.2.2)

/-! ### Host calls -/

/-- The world after so many host calls. -/
def worldAfter (native : World → Int32 × Int32 × World) (calls : Nat) (world : World) : World :=
  (fun world => (native world).2.2)^[calls] world

/-- What the next host call comes to after so many others. -/
def hostAttempt (native : World → Int32 × Int32 × World) (calls : Nat) (world : World) : Attempt :=
  let did := native (worldAfter native calls world)
  ⟨did.1, did.2.1⟩

/-- The host call failed with `EINTR`. -/
def HostInterrupted (table : ReturnErrors platform) (attempt : Attempt) : Prop :=
  attempt.result < 0 ∧ attempt.errno = table.host .eIntr

/-- What the guest is told of a host call: a success, the error of that name, that the descriptor is
bad where the host says it is no socket, or an internal error. -/
inductive Told (table : ReturnErrors platform) (attempt : Attempt) (netErrno : Int32) :
    Int32 → Int32 → Prop
  | success : 0 ≤ attempt.result → Told table attempt netErrno attempt.result netErrno
  | named {name : ErrorName} : attempt.result < 0 → name ∈ errorCases platform →
      attempt.errno = table.host name → name ≠ .eIntr → name ≠ .eNotsock →
      Told table attempt netErrno (table.orbis name ||| table.errors.errorBase) (table.orbis name)
  | notSocket : attempt.result < 0 → attempt.errno = table.host .eNotsock →
      Told table attempt netErrno (table.errors.eBadf ||| table.errors.errorBase) table.errors.eBadf
  | internal : attempt.result < 0 → (∀ name ∈ errorCases platform, attempt.errno ≠ table.host name) →
      Told table attempt netErrno (table.eInternal ||| table.errors.errorBase) table.eInternal

/-! ### One conversion -/

section Conversion

variable {table : ReturnErrors platform} {errno retval error : Int32}

/-- Whatever the platform, the `switch` has cases for the errors that are treated apart. -/
theorem apart_mem (platform : Platform) :
    .eIntr ∈ errorCases platform ∧ .eNotsock ∈ errorCases platform := by
  cases platform <;> decide

theorem host_inj {name other : ErrorName} (member : name ∈ errorCases platform)
    (member' : other ∈ errorCases platform) (same : table.host name = table.host other) :
    name = other :=
  List.inj_on_of_nodup_map table.labels member member' same

/-- **The conversion** of a failure: to the constant of a name the `switch` has, or an internal error. -/
theorem convertReturnErrorCode_failed (table : ReturnErrors platform) (errno error : Int32)
    (failed : retval < 0) :
    (∃ name ∈ errorCases platform, errno = table.host name ∧
        convertReturnErrorCode table errno retval error = (-1, table.orbis name)) ∨
      (∀ name ∈ errorCases platform, errno ≠ table.host name) ∧
        convertReturnErrorCode table errno retval error = (-1, table.eInternal) := by
  unfold convertReturnErrorCode
  rw [if_pos failed]
  rcases found : (errorCases platform).find? fun name => table.host name = errno with _ | name
  · refine .inr ⟨fun name member same => ?_, rfl⟩
    exact List.find?_eq_none.mp found name member (decide_eq_true same.symm)
  · have label : table.host name = errno := by simpa using List.find?_some found
    exact .inl ⟨name, List.mem_of_find?_eq_some found, label.symm, rfl⟩

theorem convertReturnErrorCode_succeeded (succeeded : 0 ≤ retval) :
    convertReturnErrorCode table errno retval error = (retval, error) :=
  if_neg (Int32.not_lt.mpr succeeded)

/-- A failure is passed on as `-1`, which is what every conversion of one returns. -/
theorem convertReturnErrorCode_fst (table : ReturnErrors platform) (errno retval error : Int32) :
    (if 0 ≤ (convertReturnErrorCode table errno retval error).1
      then (convertReturnErrorCode table errno retval error).1 else -1) =
      (convertReturnErrorCode table errno retval error).1 := by
  by_cases failed : retval < 0
  · obtain ⟨_, _, _, told⟩ | ⟨_, told⟩ := convertReturnErrorCode_failed table errno error failed
    · rw [told]
      rfl
    · rw [told]
      rfl
  · rw [convertReturnErrorCode_succeeded (Int32.not_lt.mp failed), if_pos (Int32.not_lt.mp failed)]

theorem minusOne_lt_zero : (-1 : Int32) < 0 := by decide

theorem magnitude_of_pos {value : Int32} (positive : 0 < value) : magnitude value = value :=
  if_neg (Int32.not_lt.mpr (Int32.le_of_lt positive))

/-- **The handler goes round** on a conversion exactly if the host call was interrupted. -/
theorem interrupted_convert_iff :
    Attempt.Interrupted table.errors ⟨(convertReturnErrorCode table errno retval error).1,
        (convertReturnErrorCode table errno retval error).2⟩ ↔
      HostInterrupted table ⟨retval, errno⟩ := by
  unfold Attempt.Interrupted HostInterrupted
  dsimp only
  by_cases failed : retval < 0
  · rcases convertReturnErrorCode_failed table errno error failed with
      ⟨name, member, label, told⟩ | ⟨unnamed, told⟩
    · rw [told, label, magnitude_of_pos (table.orbis_small name).1, ← table.orbis_eIntr]
      refine and_congr (iff_of_true minusOne_lt_zero failed) ⟨fun same => ?_, fun same => ?_⟩
      · rw [table.orbis_injective same]
      · rw [host_inj member (apart_mem platform).1 same]
    · rw [told, magnitude_of_pos table.eInternal_small.1, ← table.orbis_eIntr]
      refine iff_of_false (fun both => ?_) fun both => ?_
      · exact table.orbis_ne_eInternal _ both.2.symm
      · exact unnamed _ (apart_mem platform).1 both.2
  · rw [convertReturnErrorCode_succeeded (Int32.not_lt.mp failed)]
    exact iff_of_false (fun both => failed both.1) fun both => failed both.1

/-- A small errno is told as it is, but for a descriptor that is no socket. -/
theorem handled_small {guest result netErrno : Int32} (failed : result < 0) (positive : 0 < guest)
    (small : guest &&& 0xfff0000 = 0) (notNetIntr : guest ≠ table.errors.eNetIntr) :
    handled table.errors ⟨result, guest⟩ netErrno =
      if guest = table.errors.eNotSock then
        (table.errors.eBadf ||| table.errors.errorBase, table.errors.eBadf)
      else (guest ||| table.errors.errorBase, guest) := by
  unfold handled guestErrno
  rw [if_neg (Int32.not_le.mpr failed), magnitude_of_pos positive, if_neg (not_not.mpr small)]
  split_ifs <;> rfl

/-- **What the handler makes of a conversion** that was not interrupted. -/
theorem handled_convert (error netErrno : Int32) (goesOn : ¬ HostInterrupted table ⟨retval, errno⟩) :
    Told table ⟨retval, errno⟩ netErrno
      (handled table.errors ⟨(convertReturnErrorCode table errno retval error).1,
        (convertReturnErrorCode table errno retval error).2⟩ netErrno).1
      (handled table.errors ⟨(convertReturnErrorCode table errno retval error).1,
        (convertReturnErrorCode table errno retval error).2⟩ netErrno).2 := by
  by_cases failed : retval < 0
  · rcases convertReturnErrorCode_failed table errno error failed with
      ⟨name, member, label, told⟩ | ⟨unnamed, told⟩
    · have notIntr : name ≠ .eIntr := by
        rintro rfl
        exact goesOn ⟨failed, label⟩
      rw [told, handled_small minusOne_lt_zero (table.orbis_small name).1 (table.orbis_small name).2
        (table.eNetIntr_apart.2 name)]
      split_ifs with notSock
      · rw [← table.orbis_eNotsock] at notSock
        rw [table.orbis_injective notSock] at label
        exact .notSocket failed label
      · refine .named failed member label notIntr ?_
        rintro rfl
        exact notSock table.orbis_eNotsock
    · rw [told, handled_small minusOne_lt_zero table.eInternal_small.1 table.eInternal_small.2
        table.eNetIntr_apart.1.symm, if_neg]
      · exact .internal failed unnamed
      · rw [← table.orbis_eNotsock]
        exact (table.orbis_ne_eInternal _).symm
  · have succeeded : 0 ≤ retval := Int32.not_lt.mp failed
    rw [convertReturnErrorCode_succeeded succeeded]
    unfold handled
    rw [if_pos succeeded]
    exact .success succeeded

/-- The guest never sees `ORBISNETEINTR` or `ORBISNETENOTSOCK`. -/
theorem Told.apart {attempt : Attempt} {netErrno value after : Int32}
    (told : Told table attempt netErrno value after) (failed : attempt.result < 0) :
    value < 0 ∧ after ≠ table.errors.eIntr ∧ after ≠ table.errors.eNotSock := by
  rw [← table.orbis_eIntr, ← table.orbis_eNotsock]
  cases told with
  | success succeeded => exact absurd failed (Int32.not_lt.mpr succeeded)
  | named _ _ _ notIntr notSock =>
      refine ⟨or_lt_zero _ table.errors.errorBase_sign, ?_, ?_⟩
      · exact fun same => notIntr (table.orbis_injective same)
      · exact fun same => notSock (table.orbis_injective same)
  | notSocket =>
      rw [← table.orbis_eBadf]
      refine ⟨or_lt_zero _ table.errors.errorBase_sign, ?_, ?_⟩
      · exact fun same => ErrorName.noConfusion (table.orbis_injective same)
      · exact fun same => ErrorName.noConfusion (table.orbis_injective same)
  | internal =>
      refine ⟨or_lt_zero _ table.errors.errorBase_sign, ?_, ?_⟩
      · exact (table.orbis_ne_eInternal _).symm
      · exact (table.orbis_ne_eInternal _).symm

end Conversion

/-! ### The three together -/

section Calls

variable {table : ReturnErrors platform} {host : NetHost FileType Socket Sockaddr World} {s : Int32}
  {method : Socket → Ptr Sockaddr → UInt32 → Int32 → World → Int32 × Int32 × World}
  {native : Socket → Ptr Sockaddr → UInt32 → World → Int32 × Int32 × World} {socket : Socket}

/-- The thread after a host call. -/
def afterCall (table : ReturnErrors platform) (thread : NetThread (NetState FileType Socket World))
    (did : Int32 × Int32 × World) : NetThread (NetState FileType Socket World) :=
  { thread with
    error := (convertReturnErrorCode table did.2.1 did.1 thread.error).2
    rest := { thread.rest with world := did.2.2 } }

/-- One call of `sysconnect` or `sysbind` makes one host call, and returns what is made of it. -/
theorem sysSocketCall_converts (converts : Converts table method native) (addr : Ptr Sockaddr)
    (addrlen : UInt32) (thread : NetThread (NetState FileType Socket World))
    (leads : LeadsTo host thread.rest.table s socket) :
    sysSocketCall method table.errors host s addr addrlen thread =
      .ok ((convertReturnErrorCode table (native socket addr addrlen thread.rest.world).2.1
          (native socket addr addrlen thread.rest.world).1 thread.error).1,
        afterCall table thread (native socket addr addrlen thread.rest.world)) := by
  obtain ⟨file, looked, held⟩ := leads
  have did := converts socket addr addrlen thread.error thread.rest.world
  have passedOn := convertReturnErrorCode_fst table
    (native socket addr addrlen thread.rest.world).2.1
    (native socket addr addrlen thread.rest.world).1 thread.error
  unfold sysSocketCall afterCall
  simp only [looked, held, deref, did, bind, Except.bind]
  split_ifs with succeeded
  · rfl
  · rw [if_neg succeeded] at passedOn
    rw [← passedOn]
    rfl

/-- So many interrupted host calls are as many rounds of the handler. -/
theorem rounds_of_interrupted (converts : Converts table method native) (addr : Ptr Sockaddr)
    (addrlen : UInt32) (calls : Nat) (thread : NetThread (NetState FileType Socket World))
    (leads : LeadsTo host thread.rest.table s socket)
    (interrupted : ∀ call < calls, HostInterrupted table
      (hostAttempt (native socket addr addrlen) call thread.rest.world)) :
    ∃ error, Rounds
      (handlerPass table.errors (sysSocketCall method table.errors host s addr addrlen)) calls thread
      { thread with
        error
        rest := ⟨thread.rest.table,
          worldAfter (native socket addr addrlen) calls thread.rest.world⟩ } := by
  induction calls generalizing thread with
  | zero => exact ⟨thread.error, .none⟩
  | succ calls ih =>
      have called := sysSocketCall_converts converts addr addrlen thread leads
      have around := handlerPass_interrupted called
        (interrupted_convert_iff.mpr (interrupted 0 calls.succ_pos))
      obtain ⟨error, went⟩ := ih
        (afterCall table thread (native socket addr addrlen thread.rest.world)) leads
        fun call fewer => interrupted (call + 1) (Nat.succ_lt_succ fewer)
      exact ⟨error, .round around went⟩

/-- **What the guest is told.** A guest's `sysconnect` or `sysbind` on a socket, retried by the
handler, makes host calls up to the first that is not interrupted, and returns what that one comes to.
A failure is told as the constant of its name if the platform's `switch` has the name, and as an
internal error if not; `ORBISNETEINTR` and `ORBISNETENOTSOCK` are never told. If the host interrupts
every call, the guest's never returns. -/
theorem returnCodes_told (converts : Converts table method native) (addr : Ptr Sockaddr)
    (addrlen : UInt32) (thread : NetThread (NetState FileType Socket World))
    (leads : LeadsTo host thread.rest.table s socket) :
    (∀ calls, (∀ call < calls, HostInterrupted table
        (hostAttempt (native socket addr addrlen) call thread.rest.world)) →
      ¬ HostInterrupted table (hostAttempt (native socket addr addrlen) calls thread.rest.world) →
      ∃ value final, (∀ passes, calls < passes → netErrorHandler table.errors
            (sysSocketCall method table.errors host s addr addrlen) passes thread =
          some (.ok (value, final))) ∧
        final.rest = ⟨thread.rest.table,
          worldAfter (native socket addr addrlen) (calls + 1) thread.rest.world⟩ ∧
        Told table (hostAttempt (native socket addr addrlen) calls thread.rest.world)
          thread.netErrno value final.netErrno ∧
        ((hostAttempt (native socket addr addrlen) calls thread.rest.world).result < 0 → value < 0 ∧
          final.netErrno ≠ table.errors.eIntr ∧ final.netErrno ≠ table.errors.eNotSock)) ∧
    ((∀ call, HostInterrupted table
        (hostAttempt (native socket addr addrlen) call thread.rest.world)) →
      ∀ passes, netErrorHandler table.errors (sysSocketCall method table.errors host s addr addrlen)
        passes thread = none) := by
  constructor
  · intro calls interrupted goesOn
    obtain ⟨error, went⟩ :=
      rounds_of_interrupted converts addr addrlen calls thread leads interrupted
    have called := sysSocketCall_converts converts addr addrlen
      { thread with
        error
        rest := ⟨thread.rest.table,
          worldAfter (native socket addr addrlen) calls thread.rest.world⟩ } leads
    have leaves := handlerPass_leaves called (mt interrupted_convert_iff.mp goesOn)
    have told := handled_convert error thread.netErrno goesOn
    refine ⟨_, _, fun passes enough => loop_returns went leaves enough, ?_, told, told.apart⟩
    unfold worldAfter
    rw [Function.iterate_succ_apply']
    rfl
  · intro always
    refine loop_diverges fun rounds => ?_
    obtain ⟨error, went⟩ := rounds_of_interrupted converts addr addrlen rounds thread leads
      fun call _ => always call
    exact ⟨_, went⟩

end Calls

section Session

/-- The errnos of Linux, in the order of `ErrorName`. -/
def linuxErrnos : List Int32 :=
  [1, 2, 12, 17, 19, 23, 28, 32, 125, 61, 4, 9, 13, 14, 22, 24, 11, 115, 114, 88, 89, 90, 91, 92, 93,
    95, 97, 98, 99, 100, 101, 102, 103, 104, 105, 106, 107, 110, 111, 40, 36, 113, 39]

/-- Those of the console. -/
def consoleErrnos : List Int32 :=
  [1, 2, 12, 17, 19, 23, 28, 32, 85, 1040, 4, 9, 13, 14, 22, 24, 35, 36, 37, 38, 39, 40, 41, 42, 43,
    45, 47, 48, 49, 50, 51, 52, 53, 54, 55, 56, 57, 60, 61, 62, 63, 65, 66]

def consoleErrno (name : ErrorName) : Int32 := consoleErrnos.getD name.ctorIdx 0

theorem consoleErrno_injective : Function.Injective consoleErrno := by
  have distinct : ((errorCases .apple).map consoleErrno).Nodup := by decide
  have every (name : ErrorName) : name ∈ errorCases .apple := by cases name <;> decide
  exact fun name other same => List.inj_on_of_nodup_map distinct (every name) (every other) same

/-- A console on Linux. -/
def linuxErrors : ReturnErrors .other where
  errors := consoleErrors
  host name := linuxErrnos.getD name.ctorIdx 0
  orbis := consoleErrno
  eInternal := 204
  labels := by decide
  orbis_eIntr := rfl
  orbis_eNotsock := rfl
  orbis_eBadf := rfl
  orbis_small name := by cases name <;> decide
  eInternal_small := by decide
  orbis_injective := consoleErrno_injective
  orbis_ne_eInternal name := by cases name <;> decide
  eNetIntr_apart := ⟨by decide, fun name => by cases name <;> decide⟩

/-- `bind`, by a script of return values and errnos. -/
def scriptedBind (_ : Nat) (_ : Ptr Unit) (_ : UInt32) :
    List (Int32 × Int32) → Int32 × Int32 × List (Int32 × Int32)
  | [] => (0, 0, [])
  | (retval, errno) :: rest => (retval, errno, rest)

/-- A socket whose `Bind` makes that call. -/
def scriptedMethods : SocketMethods Nat Unit (List (Int32 × Int32)) where
  connect _ _ _ error world := (0, error, world)
  bind socket addr addrlen error world :=
    let (retval, errno, world) := scriptedBind socket addr addrlen world
    let (result, error) := convertReturnErrorCode linuxErrors errno retval error
    (result, error, world)

/-- A file table that is only looked up. -/
def lookupHost : NetHost Bool Nat Unit (List (Int32 × Int32)) where
  socketType := true
  getSocket table s := table s
  createHandle table := (0, table)
  accept _ _ _ error world := (none, error, world)

/-- `bind` is interrupted twice, and then finds no socket. -/
theorem returnCodes_told_session :
    ∃ value final, (∀ passes, 2 < passes → netErrorHandler consoleErrors
          (sysbind scriptedMethods consoleErrors lookupHost 3 none 0) passes
          ⟨0, 0, ⟨oneSocket, [(-1, 4), (-1, 4), (-1, 88)]⟩⟩ = some (.ok (value, final))) ∧
      final.rest = ⟨oneSocket, []⟩ ∧ Told linuxErrors ⟨-1, 88⟩ 0 value final.netErrno ∧
      ((-1 : Int32) < 0 → value < 0 ∧ final.netErrno ≠ 4 ∧ final.netErrno ≠ 38) := by
  have leads : LeadsTo lookupHost oneSocket 3 7 := ⟨_, rfl, rfl⟩
  have converts : Converts linuxErrors scriptedMethods.bind scriptedBind := fun _ _ _ _ _ => rfl
  have told := (returnCodes_told converts none 0
    ⟨0, 0, ⟨oneSocket, [(-1, 4), (-1, 4), (-1, 88)]⟩⟩ leads).1 2
  refine told ?_ fun interrupted => ?_
  · rintro (_ | _ | call) fewer
    · exact ⟨minusOne_lt_zero, rfl⟩
    · exact ⟨minusOne_lt_zero, rfl⟩
    · omega
  · exact absurd interrupted.2 (show (88 : Int32) ≠ 4 by decide)

end Session

end LayraPS4.Net
