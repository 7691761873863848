/-
**`NetUtilInternal::RetrieveEthernetAddr`**, the Linux path (`core/libraries/network/net_util.cpp`).

The function asks the kernel for the list of interfaces and takes the hardware address of the first
that is up to it: its flags can be read, it is not a loopback, and its address can be read. One
`ifreq` serves all requests; its flags and its address share memory.

A `Host` is what the kernel answers in one call of the function. `SIOCGIFFLAGS` and `SIOCGIFHWADDR`
may answer differently each time they are asked, and a request that fails may leave anything in the
record.

* `retrieveEthernetAddr_first`: the address is that of the first usable interface;
* `descriptors_kept_iff`: the socket is closed on every path but one, the early return where
  `SIOCGIFCONF` fails.
-/

import LayraPS4.Library.Cxx
import LayraPS4.Library.Runs
import Mathlib.Data.Finset.Basic

namespace LayraPS4.NetUtil

open Cxx Runs

/-! ### The code -/

/-- `IFNAMSIZ`, the size of `ifr_name`. -/
def ifNameSize : Nat := 16

/-- An interface name in the list of `SIOCGIFCONF`: a C string that fits the array. -/
structure IfName where
  bytes : StdString
  fits : (cString bytes).length < ifNameSize

/-- `ifreq`: the name, and the union of everything else. -/
structure Ifreq where
  ifrName : StdString
  ifrIfru : Vector UInt8 24
  size : ifrName.length = ifNameSize

/-- `strcpy(ifr.ifr_name, name)`. -/
def Ifreq.setName (ifr : Ifreq) (name : IfName) : Ifreq where
  ifrName := strcpy ifr.ifrName name.bytes
  ifrIfru := ifr.ifrIfru
  size := (strcpy_length (ifr.size ▸ name.fits)).trans ifr.size

/-- `ifr_flags`: a `short` at the start of the union. -/
def flagsOf (ifru : Vector UInt8 24) : UInt16 := ifru[0].toUInt16 ||| ifru[1].toUInt16 <<< 8

/-- The first six bytes of `ifr_hwaddr.sa_data`, behind the family. -/
def addressOf (ifru : Vector UInt8 24) : Vector UInt8 6 :=
  Vector.ofFn fun byte => ifru[byte.val + 2]

/-- `IFF_LOOPBACK`. -/
def iffLoopback : UInt16 := 0x8

/-- What an `ioctl` on an `ifreq` returns, and leaves in the union. -/
structure Ioctl where
  returned : Int32
  ifru : Vector UInt8 24

/-- The kernel, for one call of the function: what `socket` returns (`none` for `-1`), the list of
`SIOCGIFCONF` (`none` where it fails), and the answers to the other two requests, by the position in
the list they are made for and the name in the record. `stack` is what the record holds at first. -/
structure Host where
  socket : Finset Int32 → Option Int32
  socket_fresh : ∀ opened sock, socket opened = some sock → sock ∉ opened
  stack : Ifreq
  siocgifconf : Option (List IfName)
  siocgifflags : Nat → StdString → Ioctl
  siocgifhwaddr : Nat → StdString → Ioctl

/-- The open descriptors, the `close` calls so far (newest first), and `etheraddress`. -/
structure Process where
  opened : Finset Int32
  closed : List Int32
  etherAddress : Vector UInt8 6

/-- The `for` loop: `success`, and the record it leaves. -/
def scan (host : Host) : Nat → List IfName → Ifreq → Bool × Ifreq
  | _, [], ifr => (false, ifr)
  | position, it :: rest, ifr =>
      let ifr := ifr.setName it
      let flags := host.siocgifflags position (cString ifr.ifrName)
      let ifr := { ifr with ifrIfru := flags.ifru }
      if flags.returned = 0 then
        if flagsOf ifr.ifrIfru &&& iffLoopback = 0 then
          let hwaddr := host.siocgifhwaddr position (cString ifr.ifrName)
          let ifr := { ifr with ifrIfru := hwaddr.ifru }
          if hwaddr.returned = 0 then (true, ifr) else scan host (position + 1) rest ifr
        else scan host (position + 1) rest ifr
      else scan host (position + 1) rest ifr

def retrieveEthernetAddr (host : Host) (process : Process) : Bool × Process :=
  match host.socket process.opened with
  | none => (false, process)
  | some sock =>
      let process := { process with opened := insert sock process.opened }
      match host.siocgifconf with
      | none => (false, process)
      | some names =>
          let (success, ifr) := scan host 0 names host.stack
          let process := { process with
            opened := process.opened.erase sock, closed := sock :: process.closed }
          if success then (true, { process with etherAddress := addressOf ifr.ifrIfru })
          else (false, process)

/-! ### The first usable interface -/

/-- The interface at this position is up to the function. -/
def Usable (host : Host) (position : Nat) (name : IfName) : Prop :=
  (host.siocgifflags position (cString name.bytes)).returned = 0 ∧
    flagsOf (host.siocgifflags position (cString name.bytes)).ifru &&& iffLoopback = 0 ∧
    (host.siocgifhwaddr position (cString name.bytes)).returned = 0

/-- The hardware address the kernel answers with at this position. -/
def hardwareAddress (host : Host) (position : Nat) (name : IfName) : Vector UInt8 6 :=
  addressOf (host.siocgifhwaddr position (cString name.bytes)).ifru

/-- The first usable interface of a list whose first position is this one. -/
def FirstUsable (host : Host) (position : Nat) (names : List IfName) (index : Nat) (name : IfName) :
    Prop :=
  names[index]? = some name ∧ Usable host (position + index) name ∧
    ∀ earlier < index, ∀ other, names[earlier]? = some other → ¬ Usable host (position + earlier) other

section Scan

variable {host : Host} {position : Nat} {names : List IfName} {ifr : Ifreq}

/-- One turn of the loop: it ends at a usable interface, and goes on from any other. -/
theorem scan_cons (host : Host) (position : Nat) (it : IfName) (rest : List IfName) (ifr : Ifreq) :
    (Usable host position it ∧ ∃ found : Ifreq, scan host position (it :: rest) ifr = (true, found) ∧
        addressOf found.ifrIfru = hardwareAddress host position it) ∨
      ¬ Usable host position it ∧ ∃ left, scan host position (it :: rest) ifr =
        scan host (position + 1) rest left := by
  have asked : cString (ifr.setName it).ifrName = cString it.bytes := cString_strcpy _ _
  unfold Usable hardwareAddress
  rw [scan]
  simp only [asked]
  by_cases flags : (host.siocgifflags position (cString it.bytes)).returned = 0
  · by_cases loopback :
        flagsOf (host.siocgifflags position (cString it.bytes)).ifru &&& iffLoopback = 0
    · by_cases hwaddr : (host.siocgifhwaddr position (cString it.bytes)).returned = 0
      · left
        simp [flags, loopback, hwaddr]
      · right
        simp only [flags, loopback, hwaddr, if_true, if_false]
        exact ⟨fun usable => usable.2.2, _, rfl⟩
    · right
      simp only [flags, loopback, if_true, if_false]
      exact ⟨fun usable => usable.2.1, _, rfl⟩
  · right
    simp only [flags, if_false]
    exact ⟨fun usable => usable.1, _, rfl⟩

/-- **The loop** finds the first usable interface if there is one. -/
theorem scan_first (host : Host) (position : Nat) (names : List IfName) (ifr : Ifreq) :
    (∃ index name found, FirstUsable host position names index name ∧
        scan host position names ifr = (true, found) ∧
        addressOf found.ifrIfru = hardwareAddress host (position + index) name) ∨
      (∀ (index : Nat) name, names[index]? = some name → ¬ Usable host (position + index) name) ∧
        (scan host position names ifr).1 = false := by
  induction names generalizing position ifr with
  | nil => exact .inr ⟨nofun, rfl⟩
  | cons it rest ih =>
      rcases scan_cons host position it rest ifr with ⟨usable, found, scanned, address⟩ |
        ⟨unusable, left, goesOn⟩
      · exact .inl ⟨0, it, found, ⟨rfl, usable, nofun⟩, scanned, address⟩
      · rw [goesOn]
        have first : ∀ other, (it :: rest)[0]? = some other → ¬ Usable host (position + 0) other := by
          rintro _ ⟨⟩
          exact unusable
        have shift : ∀ index, position + 1 + index = position + (index + 1) := fun index => by omega
        rcases ih (position + 1) left with ⟨index, name, found, ⟨here, usable, earliest⟩, scanned,
          address⟩ | ⟨none, failed⟩
        · rw [shift] at usable address
          refine .inl ⟨index + 1, name, found, ⟨here, usable, ?_⟩, scanned, address⟩
          intro earlier before other
          match earlier with
          | 0 => exact first other
          | earlier + 1 =>
              rw [← shift]
              exact earliest earlier (by omega) other
        · refine .inr ⟨?_, failed⟩
          intro index name
          match index with
          | 0 => exact first name
          | index + 1 =>
              rw [← shift]
              exact none index name

/-- **`RetrieveEthernetAddr`** returns true if and only if it gets a socket and the list of
interfaces, and one of them is usable. It then stores the address of the first such interface, and
otherwise leaves the address it has. -/
theorem retrieveEthernetAddr_first (host : Host) (process : Process) :
    ((retrieveEthernetAddr host process).1 = true ↔
      host.socket process.opened ≠ none ∧ ∃ names, host.siocgifconf = some names ∧
        ∃ (index : Nat) (name : IfName), names[index]? = some name ∧ Usable host index name) ∧
    ((retrieveEthernetAddr host process).1 = true → ∃ names index name,
      host.siocgifconf = some names ∧ FirstUsable host 0 names index name ∧
        (retrieveEthernetAddr host process).2.etherAddress = hardwareAddress host index name) ∧
    ((retrieveEthernetAddr host process).1 = false →
      (retrieveEthernetAddr host process).2.etherAddress = process.etherAddress) := by
  unfold retrieveEthernetAddr
  rcases host.socket process.opened with _ | sock
  · simp
  rcases host.siocgifconf with _ | names
  · simp
  rcases scan_first host 0 names host.stack with ⟨index, name, found, first, scanned, address⟩ |
    ⟨none, failed⟩
  · rw [Nat.zero_add] at address
    have usable := first.2.1
    rw [Nat.zero_add] at usable
    simp only [scanned, if_true]
    refine ⟨iff_of_true trivial ⟨nofun, names, rfl, index, name, first.1, usable⟩,
      fun _ => ⟨names, index, name, rfl, first, address⟩, nofun⟩
  · simp only [Nat.zero_add] at none
    simp only [failed, Bool.false_eq_true, if_false]
    refine ⟨iff_of_false nofun ?_, nofun, fun _ => trivial⟩
    rintro ⟨_, _, ⟨⟩, index, name, here, usable⟩
    exact none index name here usable

end Scan

section Session

/-- A kernel that gives out descriptor 3 when it is free, and answers like this. -/
def hostOf (siocgifconf : Option (List IfName)) (siocgifflags siocgifhwaddr : Nat → StdString → Ioctl) :
    Host where
  socket opened := if 3 ∈ opened then none else some 3
  socket_fresh := by
    intro opened sock got
    split_ifs at got with used
    cases got
    exact used
  stack := ⟨List.replicate 16 0xff, Vector.replicate 24 0xff, rfl⟩
  siocgifconf := siocgifconf
  siocgifflags := siocgifflags
  siocgifhwaddr := siocgifhwaddr

/-- A union that starts with these flags, or with a family and an address. -/
def union (first second : UInt8) (address : Vector UInt8 6) : Vector UInt8 24 :=
  Vector.ofFn fun byte =>
    if byte = 0 then first else if byte = 1 then second
    else if inside : byte.val - 2 < 6 then address[byte.val - 2] else 0

/-- `lo`, which is a loopback, and `eth0`. -/
def loopbackAndEthernet : Host :=
  hostOf (some [⟨ascii "lo" ++ [0], by decide⟩, ⟨ascii "eth0" ++ [0], by decide⟩])
    (fun _ name => ⟨0, union (if name = ascii "lo" then 0x49 else 0x43) 0x10 #v[0, 0, 0, 0, 0, 0]⟩)
    (fun _ _ => ⟨0, union 1 0 #v[2, 0x42, 0xac, 0x11, 0, 2]⟩)

/-- A process with the three standard descriptors. -/
def standard : Process := ⟨{0, 1, 2}, [], Vector.replicate 6 0⟩

/-- The loopback is passed over. -/
theorem retrieveEthernetAddr_first_session :
    (retrieveEthernetAddr loopbackAndEthernet standard).1 = true ∧ ∃ names index name,
      loopbackAndEthernet.siocgifconf = some names ∧
        FirstUsable loopbackAndEthernet 0 names index name ∧
        (retrieveEthernetAddr loopbackAndEthernet standard).2.etherAddress =
          hardwareAddress loopbackAndEthernet index name :=
  ⟨by decide, (retrieveEthernetAddr_first loopbackAndEthernet standard).2.1 (by decide)⟩

end Session

/-! ### The open descriptors -/

/-- Calls of `RetrieveEthernetAddr`, one after the other, by a process with these descriptors. -/
def retrievals (opened : Finset Int32) : System Process Host Bool Empty where
  start process := process.opened = opened
  step process host := .ok (retrieveEthernetAddr host process)

/-- A call of the function. -/
abbrev Retrieval := Transition Process Host Bool

/-- The socket the call opened, if any, is closed once, and nothing else is. -/
def ClosesSocket (t : Retrieval) : Prop :=
  t.post.closed = (t.action.socket t.pre.opened).toList ++ t.pre.closed

/-- The call gets a socket, and `SIOCGIFCONF` succeeds on it. -/
def GetsList (t : Retrieval) : Prop :=
  t.action.socket t.pre.opened ≠ none → t.action.siocgifconf ≠ none

section Descriptors

variable {opened : Finset Int32} {t : Retrieval}

theorem retrievals_post (taken : (retrievals opened).step t.pre t.action = .ok (t.answer, t.post)) :
    t.post = (retrieveEthernetAddr t.action t.pre).2 := (congrArg Prod.snd (Except.ok.inj taken)).symm

/-- With the list of interfaces, or without a socket, the call leaves no descriptor. -/
theorem GetsList.closes (gets : GetsList t) (post : t.post = (retrieveEthernetAddr t.action t.pre).2) :
    t.post.opened = t.pre.opened ∧ ClosesSocket t := by
  unfold ClosesSocket
  unfold GetsList at gets
  rw [post, retrieveEthernetAddr]
  rcases got : t.action.socket t.pre.opened with _ | sock
  · exact ⟨rfl, rfl⟩
  rcases listed : t.action.siocgifconf with _ | names
  · exact absurd listed (gets (by simp [got]))
  have fresh : sock ∉ t.pre.opened := t.action.socket_fresh _ _ got
  dsimp only
  split_ifs
  · exact ⟨Finset.erase_insert fresh, rfl⟩
  · exact ⟨Finset.erase_insert fresh, rfl⟩

/-- Without it, the socket stays open. -/
theorem opened_of_not_getsList (lost : ¬ GetsList t)
    (post : t.post = (retrieveEthernetAddr t.action t.pre).2) : t.post.opened ≠ t.pre.opened := by
  unfold GetsList at lost
  push Not at lost
  obtain ⟨got, failed⟩ := lost
  obtain ⟨sock, got⟩ := Option.ne_none_iff_exists'.mp got
  rw [post, retrieveEthernetAddr, got, failed]
  intro same
  exact t.action.socket_fresh _ _ got (same ▸ Finset.mem_insert_self sock t.pre.opened)

/-- **The descriptors of a process** are the same after every one of its calls, each of which closes
the socket it opens once, if and only if `SIOCGIFCONF` succeeds in every call that gets a socket. -/
theorem descriptors_kept_iff {history : History Process Host Bool} {process : Process}
    (run : (retrievals opened).Run history process) :
    (∀ t ∈ history, t.post.opened = opened ∧ ClosesSocket t) ↔ ∀ t ∈ history, GetsList t := by
  have kept : (∀ t ∈ history, t.post.opened = opened) ↔ ∀ t ∈ history, GetsList t := by
    refine run.good_iff (fun _ => True) (fun process => process.opened = opened) GetsList
      (fun _ => trivial) (fun _ begins => begins) ?_ ?_
    · intro t _ same taken gets
      exact (gets.closes (retrievals_post taken)).1.trans same
    · intro t _ same taken lost after
      exact opened_of_not_getsList lost (retrievals_post taken) (after.trans same.symm)
  constructor
  · exact fun closes => kept.mp fun t member => (closes t member).1
  · intro gets t member
    exact ⟨kept.mpr gets t member,
      ((gets t member).closes (retrievals_post (run.of_mem member).2)).2⟩

end Descriptors

section Session

/-- `SIOCGIFCONF` fails. -/
def noList : Host :=
  hostOf none (fun _ _ => ⟨-1, Vector.replicate 24 0⟩) fun _ _ => ⟨-1, Vector.replicate 24 0⟩

/-- The socket is left open when `SIOCGIFCONF` fails on it. -/
theorem socket_left_open :
    ∃ history process, (retrievals {0, 1, 2}).Run history process ∧
      (history.map fun t => t.answer) = [false] ∧ process.opened = {0, 1, 2, 3} ∧
      process.closed = [] ∧ ¬ ∀ t ∈ history, t.post.opened = {0, 1, 2} ∧ ClosesSocket t := by
  have run : (retrievals {0, 1, 2}).Run _ _ :=
    .of_exec (show (retrievals {0, 1, 2}).start standard from rfl) [noList] rfl
  refine ⟨_, _, run, rfl, by decide, rfl, fun kept => ?_⟩
  exact absurd (kept _ List.mem_cons_self).1 (by decide)

/-- Two calls that find an interface. -/
theorem descriptors_kept_iff_session :
    ∃ history process, (retrievals {0, 1, 2}).Run history process ∧
      (history.map fun t => t.answer) = [true, true] ∧
      ((∀ t ∈ history, t.post.opened = {0, 1, 2} ∧ ClosesSocket t) ↔ ∀ t ∈ history, GetsList t) := by
  have run : (retrievals {0, 1, 2}).Run _ _ :=
    .of_exec (show (retrievals {0, 1, 2}).start standard from rfl)
      [loopbackAndEthernet, loopbackAndEthernet] rfl
  exact ⟨_, _, run, rfl, descriptors_kept_iff run⟩

end Session

end LayraPS4.NetUtil
