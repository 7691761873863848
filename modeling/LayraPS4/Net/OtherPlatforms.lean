/-
**`RetrieveEthernetAddr` on Apple and on Windows** (`core/libraries/network/net_util.cpp`).

On Apple the function goes through a list of `getifaddrs` to the first link-level address; a null
`ifa_addr` on the way, or an address of fewer than six bytes, is undefined. On Windows it calls
`GetAdaptersInfo` twice, the second time with a buffer of the size the first asked for.

* `apple_run`: over any run every list is freed once, and a call that returns true has the first
  link-level address.
* `win32_within`: every access to the buffer is inside it, whatever the two calls report.
-/

import LayraPS4.Library.Cxx
import LayraPS4.Library.Runs
import Mathlib.Data.Finset.Basic

namespace LayraPS4.NetUtil

open Cxx Runs

/-- `memcpy(etheraddress.data(), data + start, 6)`: the bytes it reads. -/
def sixBytes (data : List UInt8) (start : Nat) : Except Fault (Vector UInt8 6) :=
  if inside : start + 6 ≤ data.length then
    .ok (Vector.ofFn fun byte => data[start + byte.val])
  else .error .outOfBounds

/-! ### Apple: the code -/

/-- `sockaddr_dl`, as far as the code reads it. -/
structure SockaddrDl where
  sdlFamily : UInt8
  sdlNlen : UInt8
  sdlData : List UInt8
  deriving DecidableEq, Repr

/-- `AF_LINK`. -/
def afLink : UInt8 := 18

/-- The `ifa_addr` of each entry of a list. -/
abbrev Ifaddrs := List (Ptr SockaddrDl)

/-- `getifaddrs` in one call of the function: nothing where it fails, else the list and its address,
which is none of those that are held. -/
structure AppleHost where
  getifaddrs : Finset Nat → Option (Nat × Ifaddrs)
  fresh : ∀ held ifap list, getifaddrs held = some (ifap, list) → ifap ∉ held

/-- The lists obtained and not freed, the calls of `freeifaddrs` (newest first), and `etheraddress`. -/
structure AppleProcess where
  held : Finset Nat
  freed : List Nat
  etherAddress : Vector UInt8 6

/-- The `for` loop, up to the `memcpy`. -/
def appleScan : Ifaddrs → Except Fault (Option (Vector UInt8 6))
  | [] => .ok none
  | p :: rest => do
      let sdp ← deref p
      if sdp.sdlFamily = afLink then
        let address ← sixBytes sdp.sdlData sdp.sdlNlen.toNat
        return some address
      appleScan rest

def appleRetrieveEthernetAddr (host : AppleHost) (process : AppleProcess) :
    Except Fault (Bool × AppleProcess) :=
  match host.getifaddrs process.held with
  | none => .ok (false, process)
  | some (ifap, list) => do
      let process := { process with held := insert ifap process.held }
      let found ← appleScan list
      let process := { process with
        held := process.held.erase ifap, freed := ifap :: process.freed }
      match found with
      | none => return (false, process)
      | some address => return (true, { process with etherAddress := address })

/-- Calls of the function, one after the other. -/
def appleRetrievals (held : Finset Nat) : System AppleProcess AppleHost Bool Fault where
  start process := process.held = held ∧ process.freed = []
  step process host := appleRetrieveEthernetAddr host process

abbrev AppleRetrieval := Transition AppleProcess AppleHost Bool

/-! ### Apple: one call -/

/-- The list a call obtained. -/
def obtained (t : AppleRetrieval) : Option Nat := (t.action.getifaddrs t.pre.held).map Prod.fst

/-- An entry the loop passes over. -/
def Passed (entry : Ptr SockaddrDl) : Prop := ∃ sdp, entry = some sdp ∧ sdp.sdlFamily ≠ afLink

/-- The six bytes of the first link-level address of a list. -/
def FirstLink (list : Ifaddrs) (address : Vector UInt8 6) : Prop :=
  ∃ before sdp rest, list = before ++ some sdp :: rest ∧ (∀ entry ∈ before, Passed entry) ∧
    sdp.sdlFamily = afLink ∧ sixBytes sdp.sdlData sdp.sdlNlen.toNat = .ok address

section Apple

variable {held : Finset Nat} {t : AppleRetrieval} {history : List AppleRetrieval}
  {process : AppleProcess}

/-- **The loop** ends with the first link-level address, or at the end of the list. -/
theorem appleScan_cases {list : Ifaddrs} {found : Option (Vector UInt8 6)}
    (scanned : appleScan list = .ok found) :
    (∃ address, found = some address ∧ FirstLink list address) ∨
      found = none ∧ ∀ entry ∈ list, Passed entry := by
  induction list with
  | nil =>
      cases scanned
      exact .inr ⟨rfl, List.forall_mem_nil _⟩
  | cons entry rest ih =>
      rcases entry with _ | sdp
      · cases scanned
      have unfolded : (if sdp.sdlFamily = afLink then
          (sixBytes sdp.sdlData sdp.sdlNlen.toNat).map some else appleScan rest) = .ok found := by
        rw [← scanned, appleScan]
        simp only [deref, bind, Except.bind]
        split_ifs
        · rcases sixBytes sdp.sdlData sdp.sdlNlen.toNat with _ | _ <;> rfl
        · rfl
      by_cases link : sdp.sdlFamily = afLink
      · rw [if_pos link] at unfolded
        rcases copied : sixBytes sdp.sdlData sdp.sdlNlen.toNat with fault | address
        · rw [copied] at unfolded
          cases unfolded
        · rw [copied] at unfolded
          cases unfolded
          exact .inl ⟨address, rfl, [], sdp, rest, rfl, List.forall_mem_nil _, link, copied⟩
      · rw [if_neg link] at unfolded
        have here : Passed (some sdp) := ⟨sdp, rfl, link⟩
        rcases ih unfolded with ⟨address, same, before, first, after, split, passed, isLink, copied⟩ |
          ⟨none, passed⟩
        · refine .inl ⟨address, same, some sdp :: before, first, after, ?_, ?_, isLink, copied⟩
          · rw [split, List.cons_append]
          · exact List.forall_mem_cons.mpr ⟨here, passed⟩
        · exact .inr ⟨none, List.forall_mem_cons.mpr ⟨here, passed⟩⟩

theorem appleScan_passed {before : Ifaddrs} (passed : ∀ entry ∈ before, Passed entry)
    (rest : Ifaddrs) : appleScan (before ++ rest) = appleScan rest := by
  induction before with
  | nil => rfl
  | cons entry before ih =>
      obtain ⟨⟨sdp, rfl, other⟩, later⟩ := List.forall_mem_cons.mp passed
      rw [List.cons_append, appleScan]
      simp only [deref, bind, Except.bind, if_neg other]
      exact ih later

/-- **When the loop has a defined behaviour**: it meets no null pointer and copies six bytes. -/
theorem appleScan_defined_iff (list : Ifaddrs) :
    (∃ found, appleScan list = .ok found) ↔
      (∀ entry ∈ list, Passed entry) ∨ ∃ address, FirstLink list address := by
  constructor
  · rintro ⟨found, scanned⟩
    rcases appleScan_cases scanned with ⟨address, _, first⟩ | ⟨_, passed⟩
    · exact .inr ⟨address, first⟩
    · exact .inl passed
  · rintro (passed | ⟨address, before, sdp, rest, rfl, passed, link, copied⟩)
    · refine ⟨none, ?_⟩
      rw [← List.append_nil list, appleScan_passed passed]
      rfl
    · refine ⟨some address, ?_⟩
      rw [appleScan_passed passed, appleScan]
      simp only [deref, bind, Except.bind, if_pos link, copied]
      rfl

/-- **A call** frees the list it obtained, and stores the address it found. -/
theorem apple_cases (called : appleRetrieveEthernetAddr t.action t.pre = .ok (t.answer, t.post)) :
    t.post.held = t.pre.held ∧ t.post.freed = (obtained t).toList ++ t.pre.freed ∧
      ((t.answer = true ∧ ∃ ifap list, t.action.getifaddrs t.pre.held = some (ifap, list) ∧
          FirstLink list t.post.etherAddress) ∨
        t.answer = false ∧ t.post.etherAddress = t.pre.etherAddress ∧
          ∀ ifap list, t.action.getifaddrs t.pre.held = some (ifap, list) →
            ∀ entry ∈ list, Passed entry) := by
  unfold appleRetrieveEthernetAddr at called
  unfold obtained
  rcases got : t.action.getifaddrs t.pre.held with _ | ⟨ifap, list⟩
  · rw [got] at called
    obtain ⟨answer, post⟩ := Prod.mk.inj (Except.ok.inj called)
    rw [← answer, ← post]
    exact ⟨rfl, rfl, .inr ⟨rfl, rfl, nofun⟩⟩
  have restored : (insert ifap t.pre.held).erase ifap = t.pre.held :=
    Finset.erase_insert (t.action.fresh _ _ _ got)
  rw [got] at called
  rcases scanned : appleScan list with fault | found
  · simp [scanned, bind, Except.bind] at called
  rcases appleScan_cases scanned with ⟨address, rfl, first⟩ | ⟨rfl, passed⟩
  · simp only [scanned, bind, Except.bind] at called
    obtain ⟨answer, post⟩ := Prod.mk.inj (Except.ok.inj called)
    rw [← answer, ← post]
    exact ⟨restored, rfl, .inl ⟨rfl, ifap, list, rfl, first⟩⟩
  · simp only [scanned, bind, Except.bind] at called
    obtain ⟨answer, post⟩ := Prod.mk.inj (Except.ok.inj called)
    rw [← answer, ← post]
    refine ⟨restored, rfl, .inr ⟨rfl, rfl, ?_⟩⟩
    rintro _ _ ⟨⟩
    exact passed

/-- A call has a defined behaviour exactly if its loop has. -/
theorem apple_defined_iff (host : AppleHost) (process : AppleProcess) :
    (∃ result, appleRetrieveEthernetAddr host process = .ok result) ↔
      ∀ ifap list, host.getifaddrs process.held = some (ifap, list) →
        (∀ entry ∈ list, Passed entry) ∨ ∃ address, FirstLink list address := by
  unfold appleRetrieveEthernetAddr
  rcases host.getifaddrs process.held with _ | ⟨ifap, list⟩
  · exact iff_of_true ⟨_, rfl⟩ nofun
  have both : (∃ found, appleScan list = .ok found) ↔ _ := appleScan_defined_iff list
  constructor
  · rintro ⟨result, called⟩ _ _ ⟨⟩
    rcases scanned : appleScan list with fault | found
    · simp [scanned, bind, Except.bind] at called
    · exact both.mp ⟨found, scanned⟩
  · intro defined
    obtain ⟨found, scanned⟩ := both.mpr (defined ifap list rfl)
    simp only [scanned, bind, Except.bind]
    rcases found with _ | address
    · exact ⟨_, rfl⟩
    · exact ⟨_, rfl⟩

/-- **The lists of a run.** After any run the function holds the lists it held before it, and has freed
each list it obtained, once and in order. A call that returned true has stored the first link-level
address of its list, and one that returned false found none. The next call is defined exactly if its
list, up to the first link-level address, has no null pointer, and that address has six bytes. -/
theorem apple_run (run : (appleRetrievals held).Run history process) :
    process.held = held ∧ process.freed = history.filterMap obtained ∧
      (∀ t ∈ history, (t.answer = true ∧ ∃ ifap list,
          t.action.getifaddrs t.pre.held = some (ifap, list) ∧ FirstLink list t.post.etherAddress) ∨
        t.answer = false ∧ t.post.etherAddress = t.pre.etherAddress ∧
          ∀ ifap list, t.action.getifaddrs t.pre.held = some (ifap, list) →
            ∀ entry ∈ list, Passed entry) ∧
      ∀ host, (∃ result, appleRetrieveEthernetAddr host process = .ok result) ↔
        ∀ ifap list, host.getifaddrs held = some (ifap, list) →
          (∀ entry ∈ list, Passed entry) ∨ ∃ address, FirstLink list address := by
  have kept : process.held = held ∧ process.freed = history.filterMap obtained := by
    refine run.history_invariant (fun history process =>
      process.held = held ∧ process.freed = history.filterMap obtained) ?_ ?_
    · exact fun _ begins => begins
    · rintro t older _ ⟨same, freed⟩ taken
      obtain ⟨held', freed', _⟩ := apple_cases taken
      refine ⟨held'.trans same, ?_⟩
      rw [freed', freed]
      rcases list : obtained t with _ | ifap
      · rw [List.filterMap_cons_none list]
        rfl
      · rw [List.filterMap_cons_some list]
        rfl
  refine ⟨kept.1, kept.2, fun t member => (apple_cases (run.of_mem member).2).2.2, fun host => ?_⟩
  rw [apple_defined_iff, kept.1]

theorem apple_run_session :
    ∃ history process, (appleRetrievals ∅).Run history process ∧ history.length = 2 ∧
      (process.held = ∅ ∧ process.freed = history.filterMap obtained ∧
        (∀ t ∈ history, (t.answer = true ∧ ∃ ifap list,
            t.action.getifaddrs t.pre.held = some (ifap, list) ∧
              FirstLink list t.post.etherAddress) ∨
          t.answer = false ∧ t.post.etherAddress = t.pre.etherAddress ∧
            ∀ ifap list, t.action.getifaddrs t.pre.held = some (ifap, list) →
              ∀ entry ∈ list, Passed entry) ∧
        ∀ host, (∃ result, appleRetrieveEthernetAddr host process = .ok result) ↔
          ∀ ifap list, host.getifaddrs ∅ = some (ifap, list) →
            (∀ entry ∈ list, Passed entry) ∨ ∃ address, FirstLink list address) := by
  have run : (appleRetrievals ∅).Run _ _ :=
    .of_exec (show (appleRetrievals ∅).start ⟨∅, [], .replicate 6 0⟩ from ⟨rfl, rfl⟩)
      [⟨fun _ => none, nofun⟩,
        { getifaddrs := fun held => if 7 ∈ held then none else
            some (7, [some ⟨2, 0, []⟩, some ⟨18, 2, [101, 110, 1, 2, 3, 4, 5, 6]⟩])
          fresh := fun held _ _ got => by
            split_ifs at got with taken
            cases got
            exact taken }] rfl
  exact ⟨_, _, run, rfl, apple_run run⟩

end Apple

/-! ### Windows: the code -/

inductive AdaptersCode
  | noError
  | bufferOverflow
  | other
  deriving DecidableEq, Repr

/-- What a call of `GetAdaptersInfo` returns, leaves in `sizeinfos`, and writes to the buffer. -/
structure AdaptersInfo where
  returned : AdaptersCode
  sizeinfos : Nat
  written : List UInt8

/-- `GetAdaptersInfo`, by the number of the call and the size it is told, with what its documentation
says of the sizes; and where `Address` stands in an `IP_ADAPTER_INFO`. -/
structure Win32Host where
  getAdaptersInfo : Nat → Nat → AdaptersInfo
  writtenWithin : ∀ call size, (getAdaptersInfo call size).written.length ≤ size
  asksForMore : ∀ call size, (getAdaptersInfo call size).returned = .bufferOverflow →
    size < (getAdaptersInfo call size).sizeinfos
  asksForNoMore : ∀ call size, (getAdaptersInfo call size).returned ≠ .bufferOverflow →
    (getAdaptersInfo call size).sizeinfos ≤ size
  sizeofInfo : Nat
  address : Nat
  addressWithin : address + 6 ≤ sizeofInfo

/-- Writing to the front of a buffer. -/
def overwrite (buffer written : List UInt8) : Except Fault (List UInt8) :=
  if written.length ≤ buffer.length then .ok (written ++ buffer.drop written.length)
  else .error .outOfBounds

/-- `vector.resize(size)`. -/
def resize (buffer : List UInt8) (size : Nat) : List UInt8 :=
  buffer.take size ++ List.replicate (size - buffer.length) 0

def win32RetrieveEthernetAddr (host : Win32Host) (etherAddress : Vector UInt8 6) :
    Except Fault (Bool × Vector UInt8 6) := do
  let adapterinfos := List.replicate host.sizeofInfo 0
  let first := host.getAdaptersInfo 0 host.sizeofInfo
  let adapterinfos ← overwrite adapterinfos first.written
  let adapterinfos := if first.returned = .bufferOverflow then resize adapterinfos first.sizeinfos
    else adapterinfos
  let second := host.getAdaptersInfo 1 first.sizeinfos
  let adapterinfos ← overwrite adapterinfos second.written
  if second.returned = .noError ∧ second.sizeinfos ≠ 0 then
    let address ← sixBytes adapterinfos host.address
    return (true, address)
  return (false, etherAddress)

/-! ### Windows: the buffer -/

section Win32

theorem resize_length (buffer : List UInt8) (size : Nat) : (resize buffer size).length = size := by
  unfold resize
  rw [List.length_append, List.length_take, List.length_replicate]
  omega

theorem overwrite_ok {buffer written : List UInt8} (within : written.length ≤ buffer.length) :
    ∃ after, overwrite buffer written = .ok after ∧ after.length = buffer.length ∧
      written <+: after := by
  refine ⟨_, if_pos within, ?_, List.prefix_append _ _⟩
  rw [List.length_append, List.length_drop]
  omega

/-- The buffer the second call is given: it has room for one `IP_ADAPTER_INFO`, and for as many bytes as
the second call is told. -/
theorem first_buffer (host : Win32Host) :
    ∃ after, overwrite (List.replicate host.sizeofInfo 0)
        (host.getAdaptersInfo 0 host.sizeofInfo).written = .ok after ∧
      ∀ buffer, buffer = (if (host.getAdaptersInfo 0 host.sizeofInfo).returned = .bufferOverflow then
          resize after (host.getAdaptersInfo 0 host.sizeofInfo).sizeinfos else after) →
        host.sizeofInfo ≤ buffer.length ∧
          (host.getAdaptersInfo 0 host.sizeofInfo).sizeinfos ≤ buffer.length := by
  have within : (host.getAdaptersInfo 0 host.sizeofInfo).written.length ≤
      (List.replicate host.sizeofInfo (0 : UInt8)).length := by
    rw [List.length_replicate]
    exact host.writtenWithin 0 host.sizeofInfo
  obtain ⟨after, wrote, length, _⟩ := overwrite_ok within
  rw [List.length_replicate] at length
  refine ⟨after, wrote, ?_⟩
  rintro _ rfl
  split_ifs with more
  · have := host.asksForMore 0 host.sizeofInfo more
    rw [resize_length]
    exact ⟨this.le, le_rfl⟩
  · have := host.asksForNoMore 0 host.sizeofInfo more
    rw [length]
    exact ⟨le_rfl, this⟩

/-- The six bytes of a buffer, where the call before has written them. -/
theorem sixBytes_of_written {written after : List UInt8} {start : Nat} (front : written <+: after)
    (covered : start + 6 ≤ written.length) : sixBytes after start = sixBytes written start := by
  obtain ⟨rest, rfl⟩ := front
  have inside : start + 6 ≤ (written ++ rest).length := by
    rw [List.length_append]
    omega
  unfold sixBytes
  rw [dif_pos inside, dif_pos covered]
  refine congrArg _ (Vector.ext fun byte small => ?_)
  rw [Vector.getElem_ofFn, Vector.getElem_ofFn]
  exact List.getElem_append_left (by omega)

/-- **Windows**: whatever the two calls report, no access leaves the buffer. The function returns true
exactly if the second call succeeds with a size other than 0; then `etheraddress` is what that call
wrote at `Address`, if it wrote so far, and otherwise it is as before. -/
theorem win32_within (host : Win32Host) (etherAddress : Vector UInt8 6) :
    ∃ second result, second = host.getAdaptersInfo 1
        (host.getAdaptersInfo 0 host.sizeofInfo).sizeinfos ∧
      win32RetrieveEthernetAddr host etherAddress = .ok result ∧
      (result.1 = true ↔ second.returned = .noError ∧ second.sizeinfos ≠ 0) ∧
      (result.1 = false → result.2 = etherAddress) ∧
      (result.1 = true → host.address + 6 ≤ second.written.length →
        sixBytes second.written host.address = .ok result.2) := by
  obtain ⟨after, wrote, room⟩ := first_buffer host
  obtain ⟨one, asked⟩ := room _ rfl
  have within := host.writtenWithin 1 (host.getAdaptersInfo 0 host.sizeofInfo).sizeinfos
  obtain ⟨filled, wroteAgain, length, front⟩ := overwrite_ok (within.trans asked)
  have inside : host.address + 6 ≤ filled.length :=
    (host.addressWithin.trans one).trans length.ge
  unfold win32RetrieveEthernetAddr
  simp only [wrote, wroteAgain, bind, Except.bind, pure, Except.pure]
  by_cases good : (host.getAdaptersInfo 1
      (host.getAdaptersInfo 0 host.sizeofInfo).sizeinfos).returned = .noError ∧
    (host.getAdaptersInfo 1 (host.getAdaptersInfo 0 host.sizeofInfo).sizeinfos).sizeinfos ≠ 0
  · have read : sixBytes filled host.address = .ok _ := dif_pos inside
    rw [if_pos good, read]
    refine ⟨_, _, rfl, rfl, iff_of_true rfl good, nofun, fun _ covered => ?_⟩
    rw [← sixBytes_of_written front covered, read]
  · rw [if_neg good]
    exact ⟨_, _, rfl, rfl, iff_of_false nofun good, fun _ => rfl, nofun⟩

/-- Two adapters, each with a block of 704 bytes and its address from byte 408 on. -/
def twoAdapters : Win32Host where
  getAdaptersInfo _ size :=
    if size < 1408 then ⟨.bufferOverflow, 1408, []⟩
    else ⟨.noError, 1408, .replicate 408 0 ++ [2, 0, 0, 1, 2, 3] ++ .replicate 994 0⟩
  writtenWithin _ size := by
    split_ifs
    · exact Nat.zero_le size
    · rw [List.length_append, List.length_append, List.length_replicate, List.length_replicate]
      show 1408 ≤ size
      omega
  asksForMore _ size asked := by
    split_ifs at asked ⊢
    assumption
  asksForNoMore _ size asked := by
    split_ifs at asked ⊢
    · exact absurd rfl asked
    · show 1408 ≤ size
      omega
  sizeofInfo := 704
  address := 408
  addressWithin := by decide

/-- The first call asks for room for both; the second gives the address of the first adapter. -/
example : win32RetrieveEthernetAddr twoAdapters (.replicate 6 0) =
    .ok (true, #v[2, 0, 0, 1, 2, 3]) := by decide +kernel

end Win32

end LayraPS4.NetUtil
