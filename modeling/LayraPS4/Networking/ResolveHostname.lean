/-
**`NetworkingCore::ResolveHostname`** (`core/networking/networking.cpp`): which hostnames the
emulator sends to a private server.

The function tests the EZFN markers first and the GTA V markers second; a rule whose server has no
address lets the hostname through to the next. `redirection` is the function up to its last
statement: the server whose address it returns early, if any.

* `ResolvesByTable`, `resolveHostname_resolvesByTable`: the whole decision table.
* `sameDecision_iff`: which two hostnames are sent the same way. The searches are case-sensitive, so
  `caseBlind_iff`: case never matters only under a config that redirects nothing.
* `lookups_settle`: what becomes of a hostname that is resolved again and again.
-/

import LayraPS4.Library.AsciiCase
import LayraPS4.Networking.NetworkingCore
import Mathlib.Logic.Function.Iterate

namespace LayraPS4.Networking

open Cxx

/-- The private servers. -/
inductive Server
  | ezfn
  | gtav
  deriving DecidableEq, Repr

def Config.serverAddress (config : Config) : Server → StdString
  | .ezfn => config.ezfnServerAddress
  | .gtav => config.gtavServerAddress

namespace NetworkingCore

/-- The early returns of `ResolveHostname`. -/
def redirection (core : NetworkingCore) (hostname : StdString) : Option Server := Id.run do
  if core.currentConfig.spoofPsn then
    -- EZFN
    if contains hostname (ascii "fortnite") || contains hostname (ascii "epicgames") then
      if !core.currentConfig.ezfnServerAddress.isEmpty then
        return some .ezfn
    -- Los Santos Online
    if contains hostname (ascii "rockstargames") ||
        contains hostname (ascii "prod.telemetry.rockstargames.com") then
      if !core.currentConfig.gtavServerAddress.isEmpty then
        return some .gtav
  return none

def resolveHostname (core : NetworkingCore) (hostname : StdString) : StdString :=
  match core.redirection hostname with
  | some server => core.currentConfig.serverAddress server
  | none => hostname

end NetworkingCore

/-! ### The two rules -/

/-- The hostname is Fortnite's or Epic's, and there is an EZFN server to send it to. -/
def EzfnRule (config : Config) (hostname : StdString) : Prop :=
  config.spoofPsn = true ∧ config.ezfnServerAddress ≠ [] ∧
    (contains hostname (ascii "fortnite") = true ∨ contains hostname (ascii "epicgames") = true)

/-- The hostname is Rockstar's, and there is a GTA V server to send it to. -/
def GtavRule (config : Config) (hostname : StdString) : Prop :=
  config.spoofPsn = true ∧ config.gtavServerAddress ≠ [] ∧
    contains hostname (ascii "rockstargames") = true

instance (config : Config) (hostname : StdString) : Decidable (EzfnRule config hostname) :=
  inferInstanceAs (Decidable (_ ∧ _ ∧ (_ ∨ _)))

instance (config : Config) (hostname : StdString) : Decidable (GtavRule config hostname) :=
  inferInstanceAs (Decidable (_ ∧ _ ∧ _))

/-- The second marker of the GTA V rule is redundant. -/
theorem contains_rockstargames_of_telemetry {hostname : StdString}
    (found : contains hostname (ascii "prod.telemetry.rockstargames.com") = true) :
    contains hostname (ascii "rockstargames") = true :=
  contains_of_contains (by decide) found

/-- **The first rule that applies decides.** -/
theorem redirection_eq (core : NetworkingCore) (hostname : StdString) :
    core.redirection hostname =
      if EzfnRule core.currentConfig hostname then some .ezfn
      else if GtavRule core.currentConfig hostname then some .gtav
      else none := by
  have redundant := @contains_rockstargames_of_telemetry hostname
  unfold NetworkingCore.redirection EzfnRule GtavRule
  -- the tests of the source one by one; the second marker of the last rule adds nothing
  grind [Id.run]

theorem redirection_eq_ezfn {core : NetworkingCore} {hostname : StdString} :
    core.redirection hostname = some .ezfn ↔ EzfnRule core.currentConfig hostname := by
  rw [redirection_eq]
  split_ifs <;> simp [*]

theorem redirection_eq_gtav {core : NetworkingCore} {hostname : StdString} :
    core.redirection hostname = some .gtav ↔
      ¬ EzfnRule core.currentConfig hostname ∧ GtavRule core.currentConfig hostname := by
  rw [redirection_eq]
  split_ifs <;> simp [*]

theorem redirection_eq_none {core : NetworkingCore} {hostname : StdString} :
    core.redirection hostname = none ↔
      ¬ EzfnRule core.currentConfig hostname ∧ ¬ GtavRule core.currentConfig hostname := by
  rw [redirection_eq]
  split_ifs <;> simp [*]

/-- A hostname is only sent to a server that has an address. -/
theorem serverAddress_ne_nil {core : NetworkingCore} {hostname : StdString} {server : Server}
    (sent : core.redirection hostname = some server) :
    core.currentConfig.serverAddress server ≠ [] := by
  cases server with
  | ezfn => exact (redirection_eq_ezfn.mp sent).2.1
  | gtav => exact (redirection_eq_gtav.mp sent).2.2.1

theorem resolveHostname_sent {core : NetworkingCore} {hostname : StdString} {server : Server}
    (sent : core.redirection hostname = some server) :
    core.resolveHostname hostname = core.currentConfig.serverAddress server := by
  rw [NetworkingCore.resolveHostname, sent]

theorem resolveHostname_kept {core : NetworkingCore} {hostname : StdString}
    (kept : core.redirection hostname = none) : core.resolveHostname hostname = hostname := by
  rw [NetworkingCore.resolveHostname, kept]

theorem resolveHostname_ne_nil {core : NetworkingCore} {hostname : StdString}
    (nonempty : hostname ≠ []) : core.resolveHostname hostname ≠ [] := by
  rcases decided : core.redirection hostname with _ | server
  · rwa [resolveHostname_kept decided]
  · rw [resolveHostname_sent decided]
    exact serverAddress_ne_nil decided

/-- A hostname without a marker is kept under every config. -/
theorem redirection_unmarked {core : NetworkingCore} {hostname : StdString}
    (fortnite : contains hostname (ascii "fortnite") = false)
    (epic : contains hostname (ascii "epicgames") = false)
    (rockstar : contains hostname (ascii "rockstargames") = false) :
    core.redirection hostname = none := by
  rw [redirection_eq_none]
  unfold EzfnRule GtavRule
  simp [fortnite, epic, rockstar]

/-- What the two rules and the addresses do not read does not matter. -/
theorem resolveHostname_congr {core other : NetworkingCore}
    (spoof : other.currentConfig.spoofPsn = core.currentConfig.spoofPsn)
    (ezfn : other.currentConfig.ezfnServerAddress = core.currentConfig.ezfnServerAddress)
    (gtav : other.currentConfig.gtavServerAddress = core.currentConfig.gtavServerAddress)
    (hostname : StdString) : other.resolveHostname hostname = core.resolveHostname hostname := by
  have address : other.currentConfig.serverAddress = core.currentConfig.serverAddress := by
    funext server
    cases server with
    | ezfn => exact ezfn
    | gtav => exact gtav
  have ezfnRule : EzfnRule other.currentConfig hostname = EzfnRule core.currentConfig hostname := by
    rw [EzfnRule, EzfnRule, spoof, ezfn]
  have gtavRule : GtavRule other.currentConfig hostname = GtavRule core.currentConfig hostname := by
    rw [GtavRule, GtavRule, spoof, gtav]
  have decision : other.redirection hostname = core.redirection hostname := by
    simp only [redirection_eq, ezfnRule, gtavRule]
  rw [NetworkingCore.resolveHostname, NetworkingCore.resolveHostname, decision, address]

/-! ### The decision table -/

/-- What `ResolveHostname` does with a hostname under a config. -/
structure ResolvesByTable (core : NetworkingCore) (hostname : StdString) : Prop where
  toEzfn : core.redirection hostname = some .ezfn ↔
    core.currentConfig.spoofPsn = true ∧ core.currentConfig.ezfnServerAddress ≠ [] ∧
      (contains hostname (ascii "fortnite") = true ∨ contains hostname (ascii "epicgames") = true)
  toGtav : core.redirection hostname = some .gtav ↔
    core.redirection hostname ≠ some .ezfn ∧
      core.currentConfig.spoofPsn = true ∧ core.currentConfig.gtavServerAddress ≠ [] ∧
      contains hostname (ascii "rockstargames") = true
  ezfn : core.redirection hostname = some .ezfn →
    core.resolveHostname hostname = core.currentConfig.ezfnServerAddress
  gtav : core.redirection hostname = some .gtav →
    core.resolveHostname hostname = core.currentConfig.gtavServerAddress
  unchanged : core.redirection hostname = none → core.resolveHostname hostname = hostname
  /-- A hostname with the markers of both games. -/
  both : contains hostname (ascii "fortnite") = true ∨ contains hostname (ascii "epicgames") = true →
    contains hostname (ascii "rockstargames") = true →
    core.redirection hostname = some .gtav → core.currentConfig.ezfnServerAddress = []
  nonempty : hostname ≠ [] → core.resolveHostname hostname ≠ []
  /-- The other settings. -/
  others : ∀ mode relay guestIp,
    { core with currentConfig := { core.currentConfig with
        mode, lanPlayRelayAddress := relay, guestIp } }.resolveHostname hostname =
      core.resolveHostname hostname

/-- **The decision table**, for every config and every hostname. -/
theorem resolveHostname_resolvesByTable (core : NetworkingCore) (hostname : StdString) :
    ResolvesByTable core hostname where
  toEzfn := redirection_eq_ezfn
  toGtav := by
    rw [redirection_eq_gtav, ne_eq, redirection_eq_ezfn]
    rfl
  ezfn := resolveHostname_sent
  gtav := resolveHostname_sent
  unchanged := resolveHostname_kept
  both := by
    intro fortnite _ sent
    obtain ⟨notEzfn, spoof, _⟩ := redirection_eq_gtav.mp sent
    by_contra configured
    exact notEzfn ⟨spoof, configured, fortnite⟩
  nonempty := resolveHostname_ne_nil
  others := fun _ _ _ => resolveHostname_congr rfl rfl rfl hostname

/-! ### The case of a hostname -/

/-- Both hostnames are sent to one address, or neither is sent anywhere. -/
def SameDecision (core : NetworkingCore) (first second : StdString) : Prop :=
  (∃ server server', core.redirection first = some server ∧
      core.redirection second = some server' ∧
      core.currentConfig.serverAddress server = core.currentConfig.serverAddress server') ∨
    core.redirection first = none ∧ core.redirection second = none

/-- The searches find a marker of a configured server in both hostnames or in neither, and an EZFN
one too where the two servers differ. -/
def FoundAlike (config : Config) (first second : StdString) : Prop :=
  (EzfnRule config first ∨ GtavRule config first ↔
      EzfnRule config second ∨ GtavRule config second) ∧
    (config.ezfnServerAddress = config.gtavServerAddress ∨
      (EzfnRule config first ↔ EzfnRule config second))

theorem sameDecision_iff {core : NetworkingCore} {first second : StdString} :
    SameDecision core first second ↔ FoundAlike core.currentConfig first second := by
  unfold SameDecision FoundAlike
  rw [redirection_eq, redirection_eq]
  -- the three answers to each of the two
  split_ifs <;> simp [Config.serverAddress, eq_comm, *]

theorem SameDecision.sent {core : NetworkingCore} {first second : StdString}
    (same : SameDecision core first second) (sent : core.redirection first ≠ none) :
    core.redirection second ≠ none := by
  rcases same with ⟨_, server, _, sent', _⟩ | ⟨kept, _⟩
  · rw [sent']
    exact Option.some_ne_none server
  · exact absurd kept sent

/-- The markers are in lower case: in the lower-case spelling of a hostname the searches find what
they find in any spelling. -/
theorem EzfnRule.of_lower {config : Config} {first second : StdString}
    (variants : CaseVariants first second) (rule : EzfnRule config first) :
    EzfnRule config (lower second) := by
  obtain ⟨spoof, configured, found⟩ := rule
  rw [← show lower first = lower second from variants]
  refine ⟨spoof, configured, found.imp ?_ ?_⟩
  · exact contains_lower (by decide)
  · exact contains_lower (by decide)

theorem GtavRule.of_lower {config : Config} {first second : StdString}
    (variants : CaseVariants first second) (rule : GtavRule config first) :
    GtavRule config (lower second) := by
  obtain ⟨spoof, configured, found⟩ := rule
  rw [← show lower first = lower second from variants]
  exact ⟨spoof, configured, contains_lower (by decide) found⟩

/-- **The lower-case spelling never escapes**: it is redirected if any spelling is. -/
theorem redirection_lower {core : NetworkingCore} {first second : StdString}
    (variants : CaseVariants first second) (sent : core.redirection first ≠ none) :
    core.redirection (lower second) ≠ none := by
  rw [ne_eq, redirection_eq_none, not_and_or, not_not, not_not] at sent ⊢
  exact sent.imp (EzfnRule.of_lower variants) (GtavRule.of_lower variants)

/-- Under a config that redirects something, a capital letter lets a hostname escape. -/
theorem caseBlind_iff {core : NetworkingCore} :
    (∀ first second, CaseVariants first second → SameDecision core first second) ↔
      core.currentConfig.spoofPsn = false ∨
        core.currentConfig.ezfnServerAddress = [] ∧ core.currentConfig.gtavServerAddress = [] := by
  constructor
  · intro blind
    by_contra redirects
    rw [not_or, Bool.not_eq_false, not_and_or] at redirects
    obtain ⟨spoof, ezfn | gtav⟩ := redirects
    · have rule : EzfnRule core.currentConfig (ascii "fortnite") :=
        ⟨spoof, ezfn, .inl (by decide)⟩
      have sent := (blind (ascii "fortnite") (ascii "Fortnite") (by decide)).sent
        (by simp [redirection_eq_ezfn.mpr rule])
      exact sent (redirection_unmarked (by decide) (by decide) (by decide))
    · have rule : GtavRule core.currentConfig (ascii "rockstargames") :=
        ⟨spoof, gtav, by decide⟩
      have sent := (blind (ascii "rockstargames") (ascii "Rockstargames") (by decide)).sent
        (by simp [redirection_eq_none, rule])
      exact sent (redirection_unmarked (by decide) (by decide) (by decide))
  · intro idle first second _
    have kept : ∀ hostname, core.redirection hostname = none := by
      intro hostname
      rw [redirection_eq_none]
      unfold EzfnRule GtavRule
      rcases idle with off | ⟨noEzfn, noGtav⟩
      · simp [off]
      · simp [noEzfn, noGtav]
    exact .inr ⟨kept first, kept second⟩

/-- **When the case of a hostname does not matter**: for two spellings, as for any two hostnames,
exactly when the searches find alike in both; for all spellings of all hostnames, exactly under the
configs that redirect nothing. -/
theorem spellings_resolve_alike_iff (core : NetworkingCore) :
    (∀ first second,
      SameDecision core first second ↔ FoundAlike core.currentConfig first second) ∧
    ((∀ first second, CaseVariants first second → SameDecision core first second) ↔
      core.currentConfig.spoofPsn = false ∨
        core.currentConfig.ezfnServerAddress = [] ∧ core.currentConfig.gtavServerAddress = []) :=
  ⟨fun _ _ => sameDecision_iff, caseBlind_iff⟩

/-- A core set up for EZFN. -/
def ezfnCore : NetworkingCore :=
  NetworkingCore.new.updateConfig { spoofPsn := true, ezfnServerAddress := ascii "10.0.0.2" }

/-- `Fortnite.com` is looked up outside, `fortnite.com` is not. -/
theorem capital_escapes :
    CaseVariants (ascii "fortnite.com") (ascii "Fortnite.com") ∧
      ezfnCore.resolveHostname (ascii "fortnite.com") = ascii "10.0.0.2" ∧
      ezfnCore.resolveHostname (ascii "Fortnite.com") = ascii "Fortnite.com" ∧
      ¬ SameDecision ezfnCore (ascii "fortnite.com") (ascii "Fortnite.com") := by
  refine ⟨by decide, by decide, by decide, ?_⟩
  rw [sameDecision_iff]
  unfold FoundAlike
  decide

/-! ### Resolving what has been resolved -/

section Lookups

/-- The address of the EZFN server is itself redirected, to the GTA V server. -/
def EzfnLeadsOn (config : Config) : Prop :=
  (¬ EzfnRule config config.ezfnServerAddress ∧ GtavRule config config.ezfnServerAddress) ∧
    config.gtavServerAddress ≠ config.ezfnServerAddress

/-- The address of the GTA V server is itself redirected, to the EZFN server. -/
def GtavLeadsOn (config : Config) : Prop :=
  EzfnRule config config.gtavServerAddress ∧ config.ezfnServerAddress ≠ config.gtavServerAddress

instance (config : Config) : Decidable (EzfnLeadsOn config) :=
  inferInstanceAs (Decidable ((_ ∧ _) ∧ _))

instance (config : Config) : Decidable (GtavLeadsOn config) :=
  inferInstanceAs (Decidable (_ ∧ _))

/-- A text that holds a marker is not empty. -/
theorem ne_nil_of_contains {text marker : StdString} (found : contains text marker = true)
    (some : marker ≠ []) : text ≠ [] := by
  rintro rfl
  unfold contains at found
  exact some (List.infix_nil.mp (decide_eq_true_eq.mp found))

variable {core : NetworkingCore}

/-- The function by its two rules. -/
theorem resolveHostname_eq (core : NetworkingCore) (hostname : StdString) :
    core.resolveHostname hostname =
      if EzfnRule core.currentConfig hostname then core.currentConfig.ezfnServerAddress
      else if GtavRule core.currentConfig hostname then core.currentConfig.gtavServerAddress
      else hostname := by
  rw [NetworkingCore.resolveHostname, redirection_eq]
  split_ifs <;> rfl

theorem resolveHostname_ezfn :
    core.resolveHostname core.currentConfig.ezfnServerAddress =
      if EzfnLeadsOn core.currentConfig then core.currentConfig.gtavServerAddress
      else core.currentConfig.ezfnServerAddress := by
  rw [resolveHostname_eq]
  unfold EzfnLeadsOn
  split_ifs <;> simp_all

theorem resolveHostname_gtav :
    core.resolveHostname core.currentConfig.gtavServerAddress =
      if GtavLeadsOn core.currentConfig then core.currentConfig.ezfnServerAddress
      else core.currentConfig.gtavServerAddress := by
  rw [resolveHostname_eq]
  unfold GtavLeadsOn
  split_ifs <;> simp_all

/-- A hostname is kept, or becomes one of the two addresses. -/
theorem resolveHostname_cases (core : NetworkingCore) (hostname : StdString) :
    core.resolveHostname hostname = hostname ∨
      core.resolveHostname hostname = core.currentConfig.ezfnServerAddress ∨
      core.resolveHostname hostname = core.currentConfig.gtavServerAddress := by
  rw [resolveHostname_eq]
  split_ifs
  · exact .inr (.inl rfl)
  · exact .inr (.inr rfl)
  · exact .inl rfl

/-- If the EZFN address leads on, some hostname leads to it. -/
theorem EzfnLeadsOn.reached (leads : EzfnLeadsOn core.currentConfig) :
    core.resolveHostname (ascii "fortnite") = core.currentConfig.ezfnServerAddress := by
  obtain ⟨spoof, _, found⟩ := leads.1.2
  rw [resolveHostname_eq, if_pos ⟨spoof, ne_nil_of_contains found (by decide), .inl (by decide)⟩]

/-- If the GTA V address leads on, some hostname leads to it. -/
theorem GtavLeadsOn.reached (leads : GtavLeadsOn core.currentConfig) :
    core.resolveHostname (ascii "rockstargames") = core.currentConfig.gtavServerAddress := by
  obtain ⟨spoof, _, found⟩ := leads.1
  have configured : core.currentConfig.gtavServerAddress ≠ [] := by
    rcases found with found | found
    · exact ne_nil_of_contains found (by decide)
    · exact ne_nil_of_contains found (by decide)
  have notEzfn : ¬ EzfnRule core.currentConfig (ascii "rockstargames") := by
    rintro ⟨_, _, found | found⟩
    · exact absurd found (by decide)
    · exact absurd found (by decide)
  rw [resolveHostname_eq, if_neg notEzfn, if_pos ⟨spoof, configured, by decide⟩]

/-- After two lookups, two more change nothing. -/
theorem resolveHostname_four (core : NetworkingCore) (hostname : StdString) :
    core.resolveHostname^[4] hostname = core.resolveHostname^[2] hostname := by
  have ezfn := @resolveHostname_ezfn core
  have gtav := @resolveHostname_gtav core
  show core.resolveHostname (core.resolveHostname (core.resolveHostname
    (core.resolveHostname hostname))) = core.resolveHostname (core.resolveHostname hostname)
  rcases resolveHostname_cases core hostname with kept | sent | sent
  · simp only [kept]
  · rw [sent]
    split_ifs at ezfn gtav <;> simp only [ezfn, gtav]
  · rw [sent]
    split_ifs at ezfn gtav <;> simp only [ezfn, gtav]

/-- **The second lookup** changes nothing exactly when neither address leads on. -/
theorem two_lookups_iff :
    (∀ hostname, core.resolveHostname^[2] hostname = core.resolveHostname hostname) ↔
      ¬ EzfnLeadsOn core.currentConfig ∧ ¬ GtavLeadsOn core.currentConfig := by
  have ezfn := @resolveHostname_ezfn core
  have gtav := @resolveHostname_gtav core
  refine ⟨fun once => ⟨fun leads => ?_, fun leads => ?_⟩, ?_⟩
  · have here := once (ascii "fortnite")
    rw [Function.iterate_succ_apply, Function.iterate_one, leads.reached, ezfn, if_pos leads] at here
    exact leads.2 here
  · have here := once (ascii "rockstargames")
    rw [Function.iterate_succ_apply, Function.iterate_one, leads.reached, gtav, if_pos leads] at here
    exact leads.2 here
  · rintro ⟨notEzfn, notGtav⟩ hostname
    rw [if_neg notEzfn] at ezfn
    rw [if_neg notGtav] at gtav
    show core.resolveHostname (core.resolveHostname hostname) = _
    rcases resolveHostname_cases core hostname with kept | sent | sent
    · rw [kept, kept]
    · rw [sent, ezfn]
    · rw [sent, gtav]

/-- **The third lookup** changes nothing unless both addresses lead on. -/
theorem three_lookups_iff :
    (∀ hostname, core.resolveHostname^[3] hostname = core.resolveHostname^[2] hostname) ↔
      ¬ (EzfnLeadsOn core.currentConfig ∧ GtavLeadsOn core.currentConfig) := by
  have ezfn := @resolveHostname_ezfn core
  have gtav := @resolveHostname_gtav core
  refine ⟨fun twice both => ?_, ?_⟩
  · have here := twice (ascii "fortnite")
    rw [if_pos both.1] at ezfn
    rw [if_pos both.2] at gtav
    simp only [Function.iterate_succ_apply, Function.iterate_zero_apply, both.1.reached, ezfn,
      gtav] at here
    exact both.2.2 here
  · intro notBoth hostname
    show core.resolveHostname (core.resolveHostname (core.resolveHostname hostname)) =
      core.resolveHostname (core.resolveHostname hostname)
    rcases resolveHostname_cases core hostname with kept | sent | sent
    · rw [kept, kept, kept]
    · rw [sent]
      split_ifs at ezfn gtav <;> simp_all
    · rw [sent]
      split_ifs at ezfn gtav <;> simp_all

/-- If both addresses lead on, a hostname that leads to the first alternates between them. -/
theorem alternates (both : EzfnLeadsOn core.currentConfig ∧ GtavLeadsOn core.currentConfig) (n : Nat) :
    core.resolveHostname^[2 * n + 1] (ascii "fortnite") = core.currentConfig.ezfnServerAddress ∧
      core.resolveHostname^[2 * n + 2] (ascii "fortnite") =
        core.currentConfig.gtavServerAddress := by
  have ezfn := (@resolveHostname_ezfn core).trans (if_pos both.1)
  have gtav := (@resolveHostname_gtav core).trans (if_pos both.2)
  suffices first : core.resolveHostname^[2 * n + 1] (ascii "fortnite") =
      core.currentConfig.ezfnServerAddress by
    exact ⟨first, by rw [Function.iterate_succ_apply', first, ezfn]⟩
  induction n with
  | zero => exact both.1.reached
  | succ n ih =>
      rw [show 2 * (n + 1) + 1 = 2 * n + 1 + 1 + 1 from rfl, Function.iterate_succ_apply',
        Function.iterate_succ_apply', ih, ezfn, gtav]

/-- Only then does a hostname alternate between two addresses. -/
theorem leadOn_of_alternates {hostname : StdString}
    (different : core.currentConfig.ezfnServerAddress ≠ core.currentConfig.gtavServerAddress)
    (alternate : ∀ n,
      core.resolveHostname^[2 * n + 1] hostname = core.currentConfig.ezfnServerAddress ∧
        core.resolveHostname^[2 * n + 2] hostname = core.currentConfig.gtavServerAddress) :
    EzfnLeadsOn core.currentConfig ∧ GtavLeadsOn core.currentConfig := by
  have ezfn := @resolveHostname_ezfn core
  have gtav := @resolveHostname_gtav core
  have toGtav : core.resolveHostname core.currentConfig.ezfnServerAddress =
      core.currentConfig.gtavServerAddress := by
    have next := (alternate 0).2
    rwa [Function.iterate_succ_apply', (alternate 0).1] at next
  have toEzfn : core.resolveHostname core.currentConfig.gtavServerAddress =
      core.currentConfig.ezfnServerAddress := by
    have next := (alternate 1).1
    rwa [Function.iterate_succ_apply', show 2 * 1 = 2 * 0 + 2 from rfl, (alternate 0).2] at next
  refine ⟨by_contra fun stays => ?_, by_contra fun stays => ?_⟩
  · rw [if_neg stays, toGtav] at ezfn
    exact different ezfn.symm
  · rw [if_neg stays, toEzfn] at gtav
    exact different gtav

/-- **Resolving again and again.** From the second lookup on a hostname returns every other lookup. It
stands from the first lookup on, for all hostnames, if and only if neither server's address leads on
to the other server; and from the second on, unless both do. Then, and only then, some hostname
alternates between two different addresses for ever. -/
theorem lookups_settle (core : NetworkingCore) :
    (∀ hostname n, core.resolveHostname^[n + 4] hostname =
      core.resolveHostname^[n + 2] hostname) ∧
    ((∀ hostname, core.resolveHostname^[2] hostname = core.resolveHostname hostname) ↔
      ¬ EzfnLeadsOn core.currentConfig ∧ ¬ GtavLeadsOn core.currentConfig) ∧
    ((∀ hostname, core.resolveHostname^[3] hostname = core.resolveHostname^[2] hostname) ↔
      ¬ (EzfnLeadsOn core.currentConfig ∧ GtavLeadsOn core.currentConfig)) ∧
    ((core.currentConfig.ezfnServerAddress ≠ core.currentConfig.gtavServerAddress ∧
        ∃ hostname, ∀ n,
          core.resolveHostname^[2 * n + 1] hostname = core.currentConfig.ezfnServerAddress ∧
          core.resolveHostname^[2 * n + 2] hostname = core.currentConfig.gtavServerAddress) ↔
      EzfnLeadsOn core.currentConfig ∧ GtavLeadsOn core.currentConfig) := by
  refine ⟨fun hostname n => ?_, two_lookups_iff, three_lookups_iff, ?_, fun both => ?_⟩
  · rw [Function.iterate_add_apply, Function.iterate_add_apply, resolveHostname_four]
  · rintro ⟨different, hostname, alternate⟩
    exact leadOn_of_alternates different alternate
  · exact ⟨both.2.2, _, alternates both⟩

/-- Two addresses that lead on to each other. -/
example :
    let config : Config :=
      { spoofPsn := true
        ezfnServerAddress := ascii "rockstargames.lan"
        gtavServerAddress := ascii "fortnite.lan" }
    EzfnLeadsOn config ∧ GtavLeadsOn config := by decide

end Lookups

end LayraPS4.Networking
