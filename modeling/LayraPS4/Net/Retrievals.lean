/-
**Calling `RetrieveEthernetAddr` again and again** (`core/libraries/network/net_util.cpp`).

The early return where `SIOCGIFCONF` fails leaves the socket open. The descriptors of a process are
then a set that only grows:

* `descriptors_leaked`: the descriptors open after any run, and how many.
* `retrievals_starve`: under a limit on open descriptors the lost ones are bounded, and from the call
  that loses the last of them on no call succeeds or changes anything.
* `etherAddress_newest`: what `GetEthernetAddr` returns after any run.
-/

import LayraPS4.Net.EthernetAddr
import LayraPS4.Library.GrowingMap
import LayraPS4.Library.Observation

namespace LayraPS4.NetUtil

open Cxx Runs GrowingMap

/-! ### The code -/

/-- `NetUtilInternal` as its constructor leaves it, in a process with these descriptors. -/
def constructed (opened : Finset Int32) : Process := ⟨opened, [], Vector.replicate 6 0⟩

def getEthernetAddr (process : Process) : Vector UInt8 6 := process.etherAddress

/-- The descriptor a call leaves open: that of a socket whose `SIOCGIFCONF` failed. -/
def leaked (t : Retrieval) : Option Int32 :=
  if t.action.siocgifconf.isNone then t.action.socket t.pre.opened else none

/-- The kernel gives out no socket to a process with so many descriptors (`RLIMIT_NOFILE`). -/
def KeepsLimit (limit : Nat) (t : Retrieval) : Prop :=
  limit ≤ t.pre.opened.card → t.action.socket t.pre.opened = none

/-! ### One call -/

section Call

variable {t : Retrieval}

theorem leaked_eq_none : leaked t = none ↔ GetsList t := by
  unfold leaked GetsList
  rcases t.action.siocgifconf with _ | names
  · simp
  · simp

theorem leaked_eq_some {sock : Int32} :
    leaked t = some sock ↔ t.action.siocgifconf = none ∧ t.action.socket t.pre.opened = some sock := by
  unfold leaked
  rcases t.action.siocgifconf with _ | names
  · simp
  · simp

/-- What a call did. -/
theorem did_of_step (opened : Finset Int32)
    (taken : (retrievals opened).step t.pre t.action = .ok (t.answer, t.post)) :
    retrieveEthernetAddr t.action t.pre = (t.answer, t.post) := Except.ok.inj taken

/-- A call adds the descriptor it leaks, if any, to those that are open. -/
theorem addsFresh (did : retrieveEthernetAddr t.action t.pre = (t.answer, t.post)) :
    AddsFresh (fun process : Process => asMap process.opened) (leaked t) t.pre t.post := by
  have post : t.post = (retrieveEthernetAddr t.action t.pre).2 := (congrArg Prod.snd did).symm
  rcases lost : leaked t with _ | sock
  · apply AddsFresh.nothing
    rw [((leaked_eq_none.mp lost).closes post).1]
  · obtain ⟨failed, got⟩ := leaked_eq_some.mp lost
    apply AddsFresh.insert (t.action.socket_fresh _ _ got)
    rw [post, retrieveEthernetAddr, got, failed]

/-- Without a socket a call does nothing. -/
theorem starved (did : retrieveEthernetAddr t.action t.pre = (t.answer, t.post))
    (none : t.action.socket t.pre.opened = none) : t.answer = false ∧ t.post = t.pre := by
  rw [retrieveEthernetAddr, none] at did
  exact ⟨(congrArg Prod.fst did).symm, (congrArg Prod.snd did).symm⟩

/-- A call that fails leaves the address, and one that succeeds has the first usable interface's. -/
theorem etherAddress_cases (did : retrieveEthernetAddr t.action t.pre = (t.answer, t.post)) :
    t.answer = false ∧ t.post.etherAddress = t.pre.etherAddress ∨
      t.answer = true ∧ ∃ names index name, t.action.siocgifconf = some names ∧
        FirstUsable t.action 0 names index name ∧
        t.post.etherAddress = hardwareAddress t.action index name := by
  rw [← show _ = t.answer from congrArg Prod.fst did, ← show _ = t.post from congrArg Prod.snd did]
  unfold retrieveEthernetAddr
  rcases t.action.socket t.pre.opened with _ | sock
  · exact .inl ⟨rfl, rfl⟩
  rcases t.action.siocgifconf with _ | names
  · exact .inl ⟨rfl, rfl⟩
  rcases scan_first t.action 0 names t.action.stack with ⟨index, name, found, first, scanned, address⟩ |
    ⟨_, failed⟩
  · rw [Nat.zero_add] at address
    refine .inr ⟨?_, names, index, name, rfl, first, ?_⟩
    · simp only [scanned, if_true]
    · simp only [scanned, if_true, address]
  · refine .inl ⟨?_, ?_⟩
    · simp only [failed, Bool.false_eq_true, if_false]
    · simp only [failed, Bool.false_eq_true, if_false]

end Call

/-! ### Runs -/

section Runs

variable {opened : Finset Int32} {history : History Process Host Bool} {process : Process}

theorem grown (run : (retrievals opened).Run history process) :
    Grown (fun process : Process => asMap process.opened) leaked (asMap opened) history process :=
  .of_run run (fun _ begins => congrArg asMap begins)
    fun _ member => addsFresh (did_of_step opened (run.of_mem member).2)

/-- **The descriptors after a run**: those the process started with and the leaked ones, all of them
different. -/
theorem descriptors_leaked (run : (retrievals opened).Run history process) :
    (history.filterMap leaked).Nodup ∧
      process.opened = opened ∪ (history.filterMap leaked).toFinset ∧
      process.opened.card = opened.card + (history.filterMap leaked).length :=
  ⟨(grown run).nodup, (grown run).keys_eq, (grown run).card_eq⟩

/-- A process under a limit stays within it. -/
theorem card_le_limit {limit : Nat} (room : opened.card ≤ limit)
    (run : (retrievals opened).Run history process) (limited : ∀ t ∈ history, KeepsLimit limit t) :
    process.opened.card ≤ limit := by
  refine run.history_invariant (fun history process =>
    (∀ t ∈ history, KeepsLimit limit t) → process.opened.card ≤ limit) ?_ ?_ limited
  · intro process begins _
    rw [show process.opened = opened from begins]
    exact room
  · intro t older earlier within taken limited
    obtain ⟨here, before⟩ := List.forall_mem_cons.mp limited
    have count := (grown (earlier.step taken)).card_eq
    rw [(grown earlier).card_eq] at within
    rcases lost : leaked t with _ | sock
    · rw [List.filterMap_cons_none lost] at count
      exact count.trans_le (within before)
    · rw [List.filterMap_cons_some lost, List.length_cons] at count
      have below : ¬ limit ≤ t.pre.opened.card := fun full =>
        Option.some_ne_none sock ((leaked_eq_some.mp lost).2.symm.trans (here full))
      rw [(grown earlier).card_eq] at below
      omega

/-- **Starvation.** Under a limit at most so many descriptors are lost as the process had left. Once
they all are, every later call fails and changes nothing. -/
theorem retrievals_starve {limit : Nat} (room : opened.card ≤ limit)
    (run : (retrievals opened).Run history process) (limited : ∀ t ∈ history, KeepsLimit limit t) :
    (history.filterMap leaked).length ≤ limit - opened.card ∧
      ∀ newer older, history = newer ++ older →
        (older.filterMap leaked).length = limit - opened.card →
        ∀ t ∈ newer, t.answer = false ∧ t.post = t.pre := by
  refine ⟨?_, ?_⟩
  · have within := card_le_limit room run limited
    rw [(grown run).card_eq] at within
    omega
  · rintro newer older rfl exhausted t member
    obtain ⟨later, between, rfl⟩ := List.append_of_mem member
    rw [List.append_assoc, List.cons_append] at run limited
    obtain ⟨earlier, taken, _⟩ := run.split.uncons
    refine starved (did_of_step opened taken) (limited t (List.mem_append_right _ List.mem_cons_self) ?_)
    rw [(grown earlier).card_eq, List.filterMap_append, List.length_append]
    omega

/-- **The address after a run** is that of the newest call that succeeded: the hardware address of the
first usable interface that call found. It is zero before. -/
theorem etherAddress_newest
    (run : ((retrievals opened).startingAt (constructed opened)).Run history process) :
    ((∀ t ∈ history, t.answer = false) → getEthernetAddr process = Vector.replicate 6 0) ∧
      ∀ newer t older, history = newer ++ t :: older → t.answer = true →
        (∀ u ∈ newer, u.answer = false) → ∃ names index name,
          t.action.siocgifconf = some names ∧ FirstUsable t.action 0 names index name ∧
            getEthernetAddr process = hardwareAddress t.action index name := by
  refine ⟨?_, ?_⟩
  · refine run.history_invariant (fun history process => (∀ t ∈ history, t.answer = false) →
      getEthernetAddr process = Vector.replicate 6 0) ?_ ?_
    · rintro _ rfl _
      rfl
    · intro t older _ zero taken failed
      obtain ⟨here, before⟩ := List.forall_mem_cons.mp failed
      rcases etherAddress_cases (did_of_step opened taken) with ⟨_, same⟩ | ⟨succeeded, _⟩
      · exact same.trans (zero before)
      · exact absurd (here.symm.trans succeeded) (by decide)
  · rintro newer t older rfl succeeded failed
    obtain ⟨_, taken, _⟩ := run.split.uncons
    rcases etherAddress_cases (did_of_step opened taken) with ⟨failed', _⟩ |
      ⟨_, names, index, name, listed, first, address⟩
    · exact absurd (failed'.symm.trans succeeded) (by decide)
    refine ⟨names, index, name, listed, first, ?_⟩
    rw [← address]
    refine run.after (fun newer process => (∀ u ∈ newer, u.answer = false) →
      getEthernetAddr process = t.post.etherAddress) (fun _ => rfl) ?_ failed
    intro u later _ since taken failed
    obtain ⟨here, before⟩ := List.forall_mem_cons.mp failed
    rcases etherAddress_cases (did_of_step opened taken) with ⟨_, same⟩ | ⟨succeeded, _⟩
    · exact same.trans (since before)
    · exact absurd (here.symm.trans succeeded) (by decide)

end Runs

section Session

/-- With room for one descriptor, the call after the one that loses it fails. -/
theorem retrievals_starve_session :
    ∃ history process, (retrievals {0, 1, 2}).Run history process ∧
      (history.filterMap leaked) = [3] ∧
      (history.filterMap leaked).length ≤ 4 - ({0, 1, 2} : Finset Int32).card ∧
      ∀ newer older, history = newer ++ older →
        (older.filterMap leaked).length = 4 - ({0, 1, 2} : Finset Int32).card →
        ∀ t ∈ newer, t.answer = false ∧ t.post = t.pre := by
  have run : (retrievals {0, 1, 2}).Run _ _ :=
    .of_exec (show (retrievals {0, 1, 2}).start standard from rfl) [noList, loopbackAndEthernet] rfl
  refine ⟨_, _, run, rfl, retrievals_starve (by decide) run ?_⟩
  simp only [List.forall_mem_cons]
  refine ⟨fun _ => rfl, fun full => absurd full (by decide), List.forall_mem_nil _⟩

/-- The address found by the first call stays when the second finds none. -/
theorem etherAddress_newest_session :
    ∃ history process,
      ((retrievals {0, 1, 2}).startingAt (constructed {0, 1, 2})).Run history process ∧
      getEthernetAddr process = #v[2, 0x42, 0xac, 0x11, 0, 2] ∧
      ((∀ t ∈ history, t.answer = false) → getEthernetAddr process = Vector.replicate 6 0) ∧
      ∀ newer t older, history = newer ++ t :: older → t.answer = true →
        (∀ u ∈ newer, u.answer = false) → ∃ names index name,
          t.action.siocgifconf = some names ∧ FirstUsable t.action 0 names index name ∧
            getEthernetAddr process = hardwareAddress t.action index name := by
  have run : ((retrievals {0, 1, 2}).startingAt (constructed {0, 1, 2})).Run _ _ :=
    .of_exec rfl [loopbackAndEthernet, noList] rfl
  exact ⟨_, _, run, by decide, etherAddress_newest run⟩

end Session

end LayraPS4.NetUtil
