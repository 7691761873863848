/-
**`sceNetAccept`** (`core/libraries/network/net.cpp`, `sys_net.cpp`).

`sysaccept` looks the socket up, lets it accept a connection, and puts the accepted socket in a new
entry of the file table. `sceNetAccept` retries it through `NetErrorHandler`.

The file table (`core/filesys/fs.h`) and the sockets are not in the repository: `NetHost` stands for
`GetSocket`, `CreateHandle` and `Accept`, with what `Accept` does outside the table as a `World` of
its own. `CreatesFresh` is what `CreateHandle` is relied on for, in the table it is called on.

`sceNetAccept_once`: over any number of interrupted attempts, one new entry is made if the last
attempt accepts a socket, and none otherwise.
-/

import LayraPS4.Net.ErrorHandler
import Mathlib.Logic.Function.Basic

namespace LayraPS4.Net

open Cxx Loops

/-! ### The code -/

/-- `Core::FileSys::File`, as far as `sysaccept` uses it. -/
structure File (FileType Socket : Type) where
  guestName : StdString
  isOpened : Bool
  type : FileType
  socket : Ptr Socket

/-- `Core::FileSys::HandleTable`: the files by their handles, as `GetFile` looks them up. -/
abbrev HandleTable (FileType Socket : Type) := Int32 → Ptr (File FileType Socket)

/-- What `sysaccept` works on besides the errno: the file table, and everything outside it. -/
structure NetState (FileType Socket World : Type) where
  table : HandleTable FileType Socket
  world : World

/-- The code `sysaccept` calls. `accept` is given the kernel errno and may set it. -/
structure NetHost (FileType Socket Sockaddr World : Type) where
  /-- `FileType::Socket` -/
  socketType : FileType
  getSocket : HandleTable FileType Socket → Int32 → Ptr (File FileType Socket)
  createHandle : HandleTable FileType Socket → Int32 × HandleTable FileType Socket
  accept : Socket → Ptr Sockaddr → Ptr UInt32 → Int32 → World → Ptr Socket × Int32 × World

/-- `CreateHandle` called on this table: a fresh handle that is not negative, and a file for it. -/
structure CreatesFresh {FileType Socket Sockaddr World : Type}
    (host : NetHost FileType Socket Sockaddr World) (table : HandleTable FileType Socket) : Prop where
  nonneg : 0 ≤ (host.createHandle table).1
  fresh : table (host.createHandle table).1 = none
  file : (host.createHandle table).2 (host.createHandle table).1 ≠ none
  others : ∀ other, other ≠ (host.createHandle table).1 →
    (host.createHandle table).2 other = table other

variable {FileType Socket Sockaddr World : Type}

/-- `gisNetInitialized`, which nothing sets. -/
def gIsNetInitialized : Bool := true

def sysaccept (errors : NetErrors) (host : NetHost FileType Socket Sockaddr World) (s : Int32)
    (addr : Ptr Sockaddr) (paddrlen : Ptr UInt32) :
    Operation (NetState FileType Socket World) := fun thread =>
  match host.getSocket thread.rest.table s with
  | none => .ok (-1, { thread with error := errors.eBadf })
  | some file => do
      let socket ← deref file.socket
      match host.accept socket addr paddrlen thread.error thread.rest.world with
      | (none, error, world) => return (-1, { thread with error, rest := { thread.rest with world } })
      | (some newsock, error, world) =>
          let (fd, table) := host.createHandle thread.rest.table
          let newfile ← deref (table fd)
          let newfile := { newfile with
            isOpened := true, type := host.socketType, socket := some newsock }
          return (fd,
            { thread with error, rest := ⟨Function.update table fd (some newfile), world⟩ })

/-- `sceNetAccept`, for at most so many passes of `NetErrorHandler`. -/
def sceNetAccept (errors : NetErrors) (host : NetHost FileType Socket Sockaddr World) (s : Int32)
    (addr : Ptr Sockaddr) (paddrlen : Ptr UInt32) (passes : Nat)
    (thread : NetThread (NetState FileType Socket World)) :
    Option (Except Fault (Int32 × NetThread (NetState FileType Socket World))) :=
  if !gIsNetInitialized then some (.ok (errors.errorENotInit, thread))
  else netErrorHandler errors (sysaccept errors host s addr paddrlen) passes thread

/-! ### One attempt -/

/-- An attempt in this state finds the socket, and its `Accept` produces another. -/
def Accepts (host : NetHost FileType Socket Sockaddr World) (s : Int32) (addr : Ptr Sockaddr)
    (paddrlen : Ptr UInt32) (thread : NetThread (NetState FileType Socket World))
    (newsock : Socket) : Prop :=
  ∃ file socket, host.getSocket thread.rest.table s = some file ∧ file.socket = some socket ∧
    (host.accept socket addr paddrlen thread.error thread.rest.world).1 = some newsock

/-- One new entry in the file table: an open file that holds the socket. -/
structure NewHandle (host : NetHost FileType Socket Sockaddr World)
    (before after : HandleTable FileType Socket) (fd : Int32) (newsock : Socket) : Prop where
  fresh : before fd = none
  file : ∃ file, after fd = some file ∧ file.isOpened = true ∧ file.type = host.socketType ∧
    file.socket = some newsock
  others : ∀ other, other ≠ fd → after other = before other

section Accept

variable {errors : NetErrors} {host : NetHost FileType Socket Sockaddr World} {s : Int32}
  {addr : Ptr Sockaddr} {paddrlen : Ptr UInt32}
  {thread before after : NetThread (NetState FileType Socket World)} {result : Int32}
  {attempts : List Attempt}

/-- **One attempt**: it returns the handle of a new entry, or fails and leaves the table. -/
theorem sysaccept_cases (creates : CreatesFresh host thread.rest.table)
    (called : sysaccept errors host s addr paddrlen thread = .ok (result, after)) :
    after.netErrno = thread.netErrno ∧
      ((∃ newsock, Accepts host s addr paddrlen thread newsock ∧ 0 ≤ result ∧
          NewHandle host thread.rest.table after.rest.table result newsock) ∨
        (∀ newsock, ¬ Accepts host s addr paddrlen thread newsock) ∧ result = -1 ∧
          after.rest.table = thread.rest.table) := by
  unfold sysaccept at called
  rcases looked : host.getSocket thread.rest.table s with _ | file
  · rw [looked] at called
    cases called
    refine ⟨rfl, .inr ⟨?_, rfl, rfl⟩⟩
    rintro newsock ⟨file, socket, found, _⟩
    cases looked.symm.trans found
  rcases held : file.socket with _ | socket
  · simp [looked, held, deref, bind, Except.bind] at called
  rcases accepted : host.accept socket addr paddrlen thread.error thread.rest.world with
    ⟨_ | newsock, error, world⟩
  · simp only [looked, held, deref, accepted, bind, Except.bind] at called
    cases called
    refine ⟨rfl, .inr ⟨?_, rfl, rfl⟩⟩
    rintro newsock ⟨file', socket', found, held', produced⟩
    cases looked.symm.trans found
    cases held.symm.trans held'
    cases (congrArg Prod.fst accepted).symm.trans produced
  · obtain ⟨newfile, filed⟩ := Option.ne_none_iff_exists'.mp creates.file
    simp only [looked, held, deref, accepted, filed, bind, Except.bind] at called
    cases called
    refine ⟨rfl, .inl ⟨newsock, ⟨file, socket, looked, held, congrArg Prod.fst accepted⟩,
      creates.nonneg, creates.fresh, ⟨_, Function.update_self _ _ _, rfl, rfl, rfl⟩, ?_⟩⟩
    intro other different
    exact (Function.update_of_ne different _ _).trans (creates.others other different)

/-- Interrupted attempts leave the table, and the guest errno. -/
theorem interrupted_table (creates : CreatesFresh host thread.rest.table)
    (made : Attempts (sysaccept errors host s addr paddrlen) thread attempts before)
    (interrupted : ∀ attempt ∈ attempts, attempt.Interrupted errors) :
    before.rest.table = thread.rest.table ∧ before.netErrno = thread.netErrno := by
  induction made with
  | none => exact ⟨rfl, rfl⟩
  | call called _ ih =>
      obtain ⟨⟨failed, _⟩, later⟩ := List.forall_mem_cons.mp interrupted
      obtain ⟨errno, ⟨_, _, succeeded, _⟩ | ⟨_, _, table⟩⟩ := sysaccept_cases creates called
      · exact absurd succeeded (Int32.not_le.mpr failed)
      · obtain ⟨kept, errno'⟩ := ih (table ▸ creates) later
        exact ⟨kept.trans table, errno'.trans errno⟩

/-- **`sceNetAccept` makes a descriptor exactly once.** The attempts before the last are interrupted
and the last is not. The call returns a value that is not negative if and only if the last attempt
accepts a socket. That value is then the handle of the one new entry in the file table; in every
other case the table is as it was, and the errno of the last attempt decides what is returned. -/
theorem sceNetAccept_once (creates : CreatesFresh host thread.rest.table)
    (made : Attempts (sysaccept errors host s addr paddrlen) thread attempts before)
    (interrupted : ∀ attempt ∈ attempts, attempt.Interrupted errors)
    (called : sysaccept errors host s addr paddrlen before = .ok (result, after))
    (goesOn : ¬ Attempt.Interrupted errors ⟨result, after.error⟩) :
    ∃ value final, (∀ passes, attempts.length < passes →
        sceNetAccept errors host s addr paddrlen passes thread = some (.ok (value, final))) ∧
      (0 ≤ value ↔ ∃ newsock, Accepts host s addr paddrlen before newsock) ∧
      (∀ newsock, Accepts host s addr paddrlen before newsock →
        NewHandle host thread.rest.table final.rest.table value newsock ∧
          final.netErrno = thread.netErrno) ∧
      (value < 0 → final.rest.table = thread.rest.table ∧
        (value, final.netErrno) = handled errors ⟨-1, after.error⟩ thread.netErrno) := by
  obtain ⟨table, errno⟩ := interrupted_table creates made interrupted
  have returns := fun passes (enough : attempts.length < passes) =>
    loop_returns (rounds_of_attempts made interrupted) (handlerPass_leaves called goesOn) enough
  have sign := handled_nonneg errors ⟨result, after.error⟩ after.netErrno
  refine ⟨_, _, returns, ?_⟩
  obtain ⟨errno', ⟨newsock, accepts, succeeded, created⟩ | ⟨none, rfl, kept⟩⟩ :=
    sysaccept_cases (table ▸ creates) called
  · have value : handled errors ⟨result, after.error⟩ after.netErrno = (result, after.netErrno) :=
      if_pos succeeded
    rw [value]
    refine ⟨iff_of_true succeeded ⟨newsock, accepts⟩, fun other accepts' => ⟨?_, errno'.trans errno⟩,
      fun failed => absurd succeeded (Int32.not_le.mpr failed)⟩
    obtain ⟨file, socket, found, held, produced⟩ := accepts
    obtain ⟨file', socket', found', held', produced'⟩ := accepts'
    cases found.symm.trans found'
    cases held.symm.trans held'
    cases produced.symm.trans produced'
    exact table ▸ created
  · refine ⟨iff_of_false (mt sign.mp (show ¬ (0 : Int32) ≤ -1 by decide)) (not_exists.mpr none),
      fun newsock accepts => absurd accepts (none newsock), fun _ => ⟨kept.trans table, ?_⟩⟩
    rw [errno', errno]

end Accept

section Session

/-- A host whose one listening socket accepts by a script, and whose next free handle is 4. -/
def scriptedHost : NetHost Bool Nat Unit (List (Ptr Nat × Int32)) where
  socketType := true
  getSocket table s := (table s).filter fun file => file.type
  createHandle table := (4, Function.update table 4 (some ⟨[], false, false, none⟩))
  accept _ _ _ error world :=
    match world with
    | [] => (none, error, [])
    | (newsock, error) :: rest => (newsock, error, rest)

/-- Handle 3 is a socket. -/
def oneSocket : HandleTable Bool Nat := fun fd => if fd = 3 then some ⟨[], true, true, some 7⟩ else none

/-- The first attempt is interrupted and the second accepts a connection. -/
theorem sceNetAccept_once_session :
    ∃ value final, (∀ passes, 1 < passes → sceNetAccept consoleErrors scriptedHost 3 none none passes
        ⟨0, 0, ⟨oneSocket, [(none, 4), (some 8, 0)]⟩⟩ = some (.ok (value, final))) ∧
      (0 ≤ value ↔ ∃ newsock, Accepts scriptedHost 3 none none
        ⟨4, 0, ⟨oneSocket, [(some 8, 0)]⟩⟩ newsock) ∧
      (∀ newsock, Accepts scriptedHost 3 none none ⟨4, 0, ⟨oneSocket, [(some 8, 0)]⟩⟩ newsock →
        NewHandle scriptedHost oneSocket final.rest.table value newsock ∧ final.netErrno = 0) ∧
      (value < 0 → final.rest.table = oneSocket ∧
        (value, final.netErrno) = handled consoleErrors ⟨-1, 0⟩ 0) := by
  have creates : CreatesFresh scriptedHost oneSocket :=
    ⟨by decide, rfl, nofun, fun _ other => Function.update_of_ne other _ _⟩
  have first : sysaccept consoleErrors scriptedHost 3 none none
      ⟨0, 0, ⟨oneSocket, [(none, 4), (some 8, 0)]⟩⟩ =
        .ok (-1, ⟨4, 0, ⟨oneSocket, [(some 8, 0)]⟩⟩) := rfl
  have second : sysaccept consoleErrors scriptedHost 3 none none
      ⟨4, 0, ⟨oneSocket, [(some 8, 0)]⟩⟩ = .ok (4, ⟨0, 0, ⟨_, []⟩⟩) := rfl
  have made := Attempts.call first .none
  have once := sceNetAccept_once creates made (by decide) second (by decide)
  exact once

end Session

end LayraPS4.Net
