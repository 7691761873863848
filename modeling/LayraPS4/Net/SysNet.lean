/-
**The socket calls** (`core/libraries/network/sys_net.cpp`).

`sysconnect` and `sysbind` look the socket up in the file table and hand the call on to it; they differ
in the method they call. `socketCalls` is any number of threads making these calls and `sysaccept` on
the one file table, in any order; the errno is the thread's own. The calls do not overlap: each is one
step, although `sys_net.cpp` holds no lock over it, so two calls that are under way at once are left
out.

* `sysSocketCall_cases`: what `sysconnect` and `sysbind` return, and that they leave the table.
* `accepted_sockets`: over a whole run the handles that `sysaccept` returned are distinct, none was in
  use before, nothing else in the table has changed, and each leads to the socket it was returned for.
-/

import LayraPS4.Net.Accept
import LayraPS4.Library.GrowingMap

namespace LayraPS4.Net

open Cxx Runs GrowingMap

variable {FileType Socket Sockaddr World Thread : Type}

/-! ### The code -/

/-- `Socket::Connect` and `Socket::Bind`. They are given the kernel errno and may set it. -/
structure SocketMethods (Socket Sockaddr World : Type) where
  connect : Socket → Ptr Sockaddr → UInt32 → Int32 → World → Int32 × Int32 × World
  bind : Socket → Ptr Sockaddr → UInt32 → Int32 → World → Int32 × Int32 × World

/-- What `sysconnect` and `sysbind` share: `method` is the one the socket is asked for. -/
def sysSocketCall (method : Socket → Ptr Sockaddr → UInt32 → Int32 → World → Int32 × Int32 × World)
    (errors : NetErrors) (host : NetHost FileType Socket Sockaddr World) (s : Int32)
    (addr : Ptr Sockaddr) (addrlen : UInt32) : Operation (NetState FileType Socket World) :=
  fun thread =>
    match host.getSocket thread.rest.table s with
    | none => .ok (-1, { thread with error := errors.eBadf })
    | some file => do
        let socket ← deref file.socket
        let (returncode, error, world) := method socket addr addrlen thread.error thread.rest.world
        let thread := { thread with error, rest := { thread.rest with world } }
        if 0 ≤ returncode then return (returncode, thread)
        return (-1, thread)

def sysconnect (methods : SocketMethods Socket Sockaddr World) (errors : NetErrors)
    (host : NetHost FileType Socket Sockaddr World) (s : Int32) (addr : Ptr Sockaddr)
    (addrlen : UInt32) : Operation (NetState FileType Socket World) :=
  sysSocketCall methods.connect errors host s addr addrlen

def sysbind (methods : SocketMethods Socket Sockaddr World) (errors : NetErrors)
    (host : NetHost FileType Socket Sockaddr World) (s : Int32) (addr : Ptr Sockaddr)
    (addrlen : UInt32) : Operation (NetState FileType Socket World) :=
  sysSocketCall methods.bind errors host s addr addrlen

/-! ### Threads on one file table -/

/-- The calls of `sys_net.cpp`. -/
inductive SocketCall (Sockaddr : Type)
  | connect (s : Int32) (addr : Ptr Sockaddr) (addrlen : UInt32)
  | bind (s : Int32) (addr : Ptr Sockaddr) (addrlen : UInt32)
  | accept (s : Int32) (addr : Ptr Sockaddr) (paddrlen : Ptr UInt32)

def SocketCall.operation (methods : SocketMethods Socket Sockaddr World) (errors : NetErrors)
    (host : NetHost FileType Socket Sockaddr World) :
    SocketCall Sockaddr → Operation (NetState FileType Socket World)
  | .connect s addr addrlen => sysconnect methods errors host s addr addrlen
  | .bind s addr addrlen => sysbind methods errors host s addr addrlen
  | .accept s addr paddrlen => sysaccept errors host s addr paddrlen

/-- Both errnos of every thread, and what the threads share. -/
structure SocketProcess (Thread FileType Socket World : Type) where
  error : Thread → Int32
  netErrno : Thread → Int32
  rest : NetState FileType Socket World

/-- The process as one of its threads sees it. -/
def SocketProcess.thread (process : SocketProcess Thread FileType Socket World) (thread : Thread) :
    NetThread (NetState FileType Socket World) :=
  ⟨process.error thread, process.netErrno thread, process.rest⟩

section System

variable [DecidableEq Thread]

/-- What one of the threads has made of it. -/
def SocketProcess.store (process : SocketProcess Thread FileType Socket World) (thread : Thread)
    (after : NetThread (NetState FileType Socket World)) :
    SocketProcess Thread FileType Socket World where
  error := Function.update process.error thread after.error
  netErrno := Function.update process.netErrno thread after.netErrno
  rest := after.rest

/-- The calls of any number of threads, one at a time, on a process that starts with this file
table. -/
def socketCalls (Thread : Type) [DecidableEq Thread] (methods : SocketMethods Socket Sockaddr World)
    (errors : NetErrors) (host : NetHost FileType Socket Sockaddr World)
    (table : HandleTable FileType Socket) :
    System (SocketProcess Thread FileType Socket World) (Thread × SocketCall Sockaddr) Int32 Fault where
  start process := process.rest.table = table
  step process := fun (thread, call) => do
    let (result, after) ← call.operation methods errors host (process.thread thread)
    return (result, process.store thread after)

end System

/-- A call as one of the threads made it. -/
abbrev SocketStep (Thread FileType Socket Sockaddr World : Type) :=
  Transition (SocketProcess Thread FileType Socket World) (Thread × SocketCall Sockaddr) Int32

/-- The call is a `sysaccept`. -/
def IsAccept (t : SocketStep Thread FileType Socket Sockaddr World) : Prop :=
  ∃ s addr paddrlen, t.action.2 = .accept s addr paddrlen

/-- The handle of the entry a call made. -/
def acceptedHandle (t : SocketStep Thread FileType Socket Sockaddr World) : Option Int32 :=
  match t.action.2 with
  | .accept .. => if 0 ≤ t.answer then some t.answer else none
  | _ => none

/-- The call is a `sysaccept`, and its socket's `Accept` produced this one. -/
def Produced (host : NetHost FileType Socket Sockaddr World)
    (t : SocketStep Thread FileType Socket Sockaddr World) (newsock : Socket) : Prop :=
  ∃ s addr paddrlen, t.action.2 = .accept s addr paddrlen ∧
    Accepts host s addr paddrlen (t.pre.thread t.action.1) newsock

/-- A call on this handle is made on this socket. -/
def LeadsTo (host : NetHost FileType Socket Sockaddr World) (table : HandleTable FileType Socket)
    (s : Int32) (socket : Socket) : Prop :=
  ∃ file, host.getSocket table s = some file ∧ file.socket = some socket

/-- `GetSocket` finds the open files that are sockets. -/
def FindsSockets (host : NetHost FileType Socket Sockaddr World) : Prop :=
  ∀ (table : HandleTable FileType Socket) fd file, table fd = some file → file.isOpened = true →
    file.type = host.socketType → host.getSocket table fd = some file

/-! ### One call -/

section Call

variable {methods : SocketMethods Socket Sockaddr World} {errors : NetErrors}
  {host : NetHost FileType Socket Sockaddr World} {s : Int32} {addr : Ptr Sockaddr}
  {addrlen : UInt32} {thread after : NetThread (NetState FileType Socket World)} {result : Int32}
  {method : Socket → Ptr Sockaddr → UInt32 → Int32 → World → Int32 × Int32 × World}

/-- **`sysconnect` and `sysbind`** leave the table and the guest errno. Without a socket of that handle
they fail with `ORBISNETEBADF`; else the socket's method decides, and any failure of it is `-1`. -/
theorem sysSocketCall_cases
    (called : sysSocketCall method errors host s addr addrlen thread = .ok (result, after)) :
    after.rest.table = thread.rest.table ∧ after.netErrno = thread.netErrno ∧
      (host.getSocket thread.rest.table s = none ∧ result = -1 ∧ after.error = errors.eBadf ∧
          after.rest.world = thread.rest.world ∨
        ∃ socket, LeadsTo host thread.rest.table s socket ∧
          let did := method socket addr addrlen thread.error thread.rest.world
          result = (if 0 ≤ did.1 then did.1 else -1) ∧ after.error = did.2.1 ∧
            after.rest.world = did.2.2) := by
  unfold sysSocketCall at called
  rcases looked : host.getSocket thread.rest.table s with _ | file
  · rw [looked] at called
    cases called
    exact ⟨rfl, rfl, .inl ⟨rfl, rfl, rfl, rfl⟩⟩
  rcases held : file.socket with _ | socket
  · simp [looked, held, deref, bind, Except.bind] at called
  simp only [looked, held, deref, bind, Except.bind] at called
  by_cases succeeded : 0 ≤ (method socket addr addrlen thread.error thread.rest.world).1
  · rw [if_pos succeeded] at called
    cases called
    exact ⟨rfl, rfl, .inr ⟨socket, ⟨file, looked, held⟩, (if_pos succeeded).symm, rfl, rfl⟩⟩
  · rw [if_neg succeeded] at called
    cases called
    exact ⟨rfl, rfl, .inr ⟨socket, ⟨file, looked, held⟩, (if_neg succeeded).symm, rfl, rfl⟩⟩

end Call

section Runs

variable [DecidableEq Thread] {methods : SocketMethods Socket Sockaddr World} {errors : NetErrors}
  {host : NetHost FileType Socket Sockaddr World} {table : HandleTable FileType Socket}
  {t : SocketStep Thread FileType Socket Sockaddr World}
  {history : List (SocketStep Thread FileType Socket Sockaddr World)}
  {process : SocketProcess Thread FileType Socket World}

/-- A call of a thread is a call of the function, on what the thread sees. -/
theorem operation_of_step (taken : (socketCalls Thread methods errors host table).step t.pre t.action =
    .ok (t.answer, t.post)) :
    ∃ after, t.action.2.operation methods errors host (t.pre.thread t.action.1) =
      .ok (t.answer, after) ∧ t.post = t.pre.store t.action.1 after := by
  unfold socketCalls at taken
  rcases called : t.action.2.operation methods errors host (t.pre.thread t.action.1) with
    fault | ⟨result, after⟩
  · simp [called, bind, Except.bind] at taken
  · simp only [called, bind, Except.bind] at taken
    obtain ⟨answer, post⟩ := Prod.mk.inj (Except.ok.inj taken)
    exact ⟨after, by rw [answer], post.symm⟩

/-- A call makes an entry for the socket its `Accept` produced, or leaves the table. -/
theorem step_table (creates : IsAccept t → CreatesFresh host t.pre.rest.table)
    (taken : (socketCalls Thread methods errors host table).step t.pre t.action =
      .ok (t.answer, t.post)) :
    (∃ newsock, acceptedHandle t = some t.answer ∧ 0 ≤ t.answer ∧ Produced host t newsock ∧
        NewHandle host t.pre.rest.table t.post.rest.table t.answer newsock) ∨
      acceptedHandle t = none ∧ (∀ newsock, ¬ Produced host t newsock) ∧
        t.post.rest.table = t.pre.rest.table := by
  obtain ⟨after, called, post⟩ := operation_of_step taken
  rw [post]
  unfold acceptedHandle Produced
  rcases action : t.action.2 with ⟨s, addr, addrlen⟩ | ⟨s, addr, addrlen⟩ | ⟨s, addr, paddrlen⟩
  · rw [action] at called
    exact .inr ⟨rfl, nofun, (sysSocketCall_cases called).1⟩
  · rw [action] at called
    exact .inr ⟨rfl, nofun, (sysSocketCall_cases called).1⟩
  · rw [action] at called
    obtain ⟨_, ⟨newsock, accepts, succeeded, created⟩ | ⟨none, failed, kept⟩⟩ :=
      sysaccept_cases (creates ⟨s, addr, paddrlen, action⟩) called
    · exact .inl ⟨newsock, if_pos succeeded, succeeded, ⟨s, addr, paddrlen, rfl, accepts⟩, created⟩
    · refine .inr ⟨if_neg (by rw [failed]; decide), ?_, kept⟩
      rintro newsock ⟨_, _, _, ⟨⟩, accepts⟩
      exact none newsock accepts

/-- The table of a process. -/
abbrev tableOf (process : SocketProcess Thread FileType Socket World) :
    HandleTable FileType Socket := process.rest.table

theorem step_addsFresh (creates : IsAccept t → CreatesFresh host t.pre.rest.table)
    (taken : (socketCalls Thread methods errors host table).step t.pre t.action =
      .ok (t.answer, t.post)) :
    AddsFresh tableOf (acceptedHandle t) t.pre t.post := by
  obtain ⟨newsock, handle, _, _, created⟩ | ⟨handle, _, same⟩ := step_table creates taken
  · rw [handle]
    obtain ⟨file, filed, _⟩ := created.file
    refine ⟨?_, ?_, ?_⟩
    · rintro _ ⟨⟩
      exact created.fresh
    · rintro _ ⟨⟩
      exact fun gone => Option.some_ne_none file (filed.symm.trans gone)
    · intro other different
      exact created.others other fun same => different (congrArg some same.symm)
  · rw [handle]
    exact .nothing same

/-- **The sockets of a run.** Whatever the threads call, and in whatever order, one call at a time: the
handles `sysaccept` returned are distinct and were free, every other entry of the table is as it was,
and a call on one of them is made on the socket that was produced for it. -/
theorem accepted_sockets (finds : FindsSockets host)
    (run : (socketCalls Thread methods errors host table).Run history process)
    (creates : ∀ t ∈ history, IsAccept t → CreatesFresh host t.pre.rest.table) :
    (history.filterMap acceptedHandle).Nodup ∧
      (∀ fd ∈ history.filterMap acceptedHandle, 0 ≤ fd ∧ table fd = none) ∧
      (∀ fd ∉ history.filterMap acceptedHandle, process.rest.table fd = table fd) ∧
      ∀ t ∈ history, ∀ newsock, Produced host t newsock →
        acceptedHandle t = some t.answer ∧ LeadsTo host process.rest.table t.answer newsock := by
  have grown : Grown tableOf acceptedHandle table history process :=
    .of_run run (fun _ begins => begins)
      fun t member => step_addsFresh (creates t member) (run.of_mem member).2
  refine ⟨grown.nodup, ?_, grown.others, ?_⟩
  · intro fd member
    refine ⟨?_, grown.fresh fd member⟩
    obtain ⟨t, here, handle⟩ := List.mem_filterMap.mp member
    obtain ⟨_, handle', nonneg, _⟩ | ⟨handle', _⟩ :=
      step_table (creates t here) (run.of_mem here).2
    · cases handle.symm.trans handle'
      exact nonneg
    · cases handle.symm.trans handle'
  · intro t member newsock produced
    obtain ⟨other, handle, _, produced', created⟩ | ⟨_, none, _⟩ :=
      step_table (creates t member) (run.of_mem member).2
    · obtain ⟨file, filed, isOpened, type, held⟩ := created.file
      have kept : process.rest.table t.answer = t.post.rest.table t.answer :=
        grown.kept t member t.answer handle
      refine ⟨handle, file, finds _ _ _ (kept.trans filed) isOpened type, ?_⟩
      obtain ⟨_, _, _, action, _, _, found, socket, accepted⟩ := produced
      obtain ⟨_, _, _, action', _, _, found', socket', accepted'⟩ := produced'
      cases action.symm.trans action'
      cases found.symm.trans found'
      cases socket.symm.trans socket'
      exact held.trans (accepted'.symm.trans accepted)
    · exact absurd produced (none newsock)

end Runs

section Session

/-- A host with two handles to give out, whose listening sockets accept by a script. -/
def twoHandles : NetHost Bool Nat Unit (List (Ptr Nat × Int32)) :=
  { scriptedHost with
    getSocket := fun table s => (table s).filter fun file => file.isOpened && file.type
    createHandle := fun table =>
      let fd := if (table 4).isNone then 4 else 5
      (fd, Function.update table fd (some ⟨[], false, false, none⟩)) }

theorem twoHandles_creates {table : HandleTable Bool Nat} (free : table 4 = none ∨ table 5 = none) :
    CreatesFresh twoHandles table := by
  have handle : (twoHandles.createHandle table).1 = if (table 4).isNone then 4 else 5 := rfl
  have after : (twoHandles.createHandle table).2 = Function.update table
      (twoHandles.createHandle table).1 (some ⟨[], false, false, none⟩) := rfl
  refine ⟨?_, ?_, ?_, ?_⟩
  · rw [handle]
    split_ifs <;> decide
  · rw [handle]
    split_ifs with none4
    · exact Option.isNone_iff_eq_none.mp none4
    · exact free.resolve_left fun none => none4 (Option.isNone_iff_eq_none.mpr none)
  · rw [after, Function.update_self]
    exact Option.some_ne_none _
  · intro other different
    rw [after, Function.update_of_ne different]

/-- Every address can be bound, and no peer answers. -/
def boundOnly : SocketMethods Nat Unit (List (Ptr Nat × Int32)) where
  connect _ _ _ _ world := (-1, 61, world)
  bind _ _ _ error world := (0, error, world)

/-- Two threads accept from handle 3; one binds the first new socket, the other fails to connect it. -/
theorem accepted_sockets_session :
    ∃ history process, (socketCalls Bool boundOnly consoleErrors twoHandles oneSocket).Run history
        process ∧ (history.map fun t => t.answer) = [-1, 0, 5, 4] ∧
      (history.filterMap acceptedHandle).Nodup ∧
      (∀ fd ∈ history.filterMap acceptedHandle, 0 ≤ fd ∧ oneSocket fd = none) ∧
      (∀ fd ∉ history.filterMap acceptedHandle, process.rest.table fd = oneSocket fd) ∧
      ∀ t ∈ history, ∀ newsock, Produced twoHandles t newsock →
        acceptedHandle t = some t.answer ∧
          LeadsTo twoHandles process.rest.table t.answer newsock := by
  have run : (socketCalls Bool boundOnly consoleErrors twoHandles oneSocket).Run _ _ :=
    .of_exec (show (socketCalls Bool boundOnly consoleErrors twoHandles oneSocket).start
        ⟨fun _ => 0, fun _ => 0, oneSocket, [(some 8, 0), (some 9, 0)]⟩ from rfl)
      [(false, .accept 3 none none), (true, .accept 3 none none), (false, .bind 4 none 0),
        (true, .connect 4 none 0)] rfl
  have finds : FindsSockets twoHandles := by
    intro table fd file filed isOpened type
    show (table fd).filter _ = some file
    rw [filed]
    exact Option.filter_some_pos (by simp_all [twoHandles, scriptedHost])
  refine ⟨_, _, run, rfl, accepted_sockets finds run ?_⟩
  simp only [List.forall_mem_cons]
  refine ⟨?_, ?_, ?_, ?_, List.forall_mem_nil _⟩
  · rintro ⟨_, _, _, ⟨⟩⟩
  · rintro ⟨_, _, _, ⟨⟩⟩
  · exact fun _ => twoHandles_creates (.inr rfl)
  · exact fun _ => twoHandles_creates (.inl rfl)

end Session

end LayraPS4.Net
