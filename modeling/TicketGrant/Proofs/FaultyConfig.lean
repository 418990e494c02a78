import TicketGrant.Proofs.Session

/-!
# Configurations at fault

How far a client gets under a configuration that is at fault. A negotiation reports the fault before
anything is said to the environment. A discovery does not look at the configuration for faults; so
where the server has to be discovered first, the request for its metadata goes out, and the fault is
reported only if the metadata is found and allows a negotiation (`stops_of_hasFault`).
-/
namespace TicketGrant

open Http Dialogue Trace

/-- What is wrong with a configuration. The delimiter is looked at first. -/
inductive Config.HasFault (config : Config) : ConfigFault → Prop
  | delimiter :
      Text.isControl config.scopeDelimiter = true →
      HasFault config (.delimiter config.scopeDelimiter)
  /-- Somewhere in the list there is a name of blanks only, or an empty one. -/
  | blankAlgorithm {name} :
      Text.isControl config.scopeDelimiter = false → name ∈ config.algorithms →
      (∀ char ∈ name.toList, Text.isBlank char = true) → HasFault config .blankAlgorithm

theorem Config.fault?_eq_some_iff {config : Config} {fault : ConfigFault} :
    config.fault? = some fault ↔ config.HasFault fault := by
  have hblank : (config.algorithms.any fun name => name.toList.all Text.isBlank) = true ↔
      ∃ name ∈ config.algorithms, ∀ char ∈ name.toList, Text.isBlank char = true := by
    simp only [List.any_eq_true, List.all_eq_true]
  rw [fault?]
  constructor
  · intro h
    split at h
    · rename_i hcontrol
      cases h
      exact .delimiter hcontrol
    · rename_i hcontrol
      split at h
      · rename_i hany
        cases h
        obtain ⟨name, hmem, hall⟩ := hblank.mp hany
        exact .blankAlgorithm (Bool.eq_false_iff.mpr hcontrol) hmem hall
      · cases h
  · rintro (hcontrol | ⟨hcontrol, hmem, hall⟩)
    · exact if_pos hcontrol
    · rw [if_neg (Bool.eq_false_iff.mp hcontrol), if_pos (hblank.mpr ⟨_, hmem, hall⟩)]

section Runs
variable {σ : Type} (env : Environment σ) {c : Client} (request : TokenRequest) (s : σ)
  {fault : ConfigFault}

/-- A negotiation under a fault is over before it begins. -/
theorem Entry.play_of_fault (h : c.config.fault? = some fault) (entry : Entry) :
    ∃ stage, entry.play env c request s =
      ⟨.error (.setup (.config fault)), s,
        framed .negotiation stage [] (.error (.setup (.config fault)) : Except Failure Token)⟩ := by
  cases entry with
  | negotiate endpoint budget =>
    refine ⟨"negotiate", ?_⟩
    rw [play, flow, Client.negotiate, Client.negotiation, h]
    rfl
  | token metadata =>
    refine ⟨"token", ?_⟩
    rw [play, flow, Client.token, Client.negotiation, h]
    rfl

/-- A discovery never reports a fault of the configuration. -/
theorem Discovers.ne_config {server : Url} {turns : List Turn} {r : Except Failure Metadata}
    (h : Discovers c server turns r) : r ≠ .error (.setup (.config fault)) := by
  rintro rfl
  cases h

namespace Errand.Continues
variable {found : Played σ (Except Failure Metadata)} {p : Played σ (Except Failure Token)}

/-- Whatever the configuration is, a discovery that fails is the end. -/
theorem result_of_error (h : Continues env c request found p) {failure : Failure}
    (hfailure : found.result = .error failure) : p.result = .error failure := by
  cases h with
  | undiscovered hresult =>
    cases hresult.symm.trans hfailure
    rfl
  | unsupported hresult | negotiated hresult => cases hresult.symm.trans hfailure

variable (hfault : c.config.fault? = some fault)
include hfault

/-- Under a fault no more is said to the environment than the discovery says. -/
theorem heard_of_fault (h : Continues env c request found p) :
    heard p.trace = heard found.trace := by
  cases h with
  | undiscovered | unsupported => rfl
  | @negotiated metadata =>
    obtain ⟨stage, hplay⟩ := Entry.play_of_fault env request found.state hfault (.token metadata)
    rw [hplay, Played.behind, heard_append, heard_framed]
    exact List.append_nil _

/-- The fault is reported where a negotiation would begin. -/
theorem result_eq_config_iff (h : Continues env c request found p)
    (hfound : found.result ≠ .error (.setup (.config fault))) :
    p.result = .error (.setup (.config fault)) ↔
      ∃ metadata, found.result = .ok metadata ∧ metadata.Allows := by
  cases h with
  | undiscovered hresult =>
    refine iff_of_false ?_ (Metadata.not_allows_of_error hresult)
    rintro ⟨⟩
    exact hfound hresult
  | unsupported hresult hallows =>
    refine iff_of_false ?_ (Metadata.not_allows_of_ok hresult hallows)
    rintro ⟨⟩
  | @negotiated metadata hresult hallows =>
    obtain ⟨stage, hplay⟩ := Entry.play_of_fault env request found.state hfault (.token metadata)
    rw [hplay]
    exact iff_of_true rfl ⟨metadata, hresult, hallows⟩

end Errand.Continues
end Runs

/-- Under a configuration at fault a negotiation reports the fault, and nothing is said to the
environment: no request, and no call of the resolver. An errand to a server to be discovered says
what the discovery says, which is at most the request for metadata. It reports the fault exactly if
the discovery has found metadata that allows a negotiation, and so never without that request. -/
theorem stops_of_hasFault {σ : Type} (env : Environment σ) (c : Client) (request : TokenRequest)
    (s : σ) (fault : ConfigFault) (hfault : c.config.HasFault fault) :
    (∀ entry : Entry,
      let p := entry.play env c request s
      p.result = .error (.setup (.config fault)) ∧ heard p.trace = [] ∧ p.state = s) ∧
    ∀ server : Url,
      let found := c.discover env server s
      let p := (Errand.obtain server).play env c request s
      heard p.trace = heard found.trace ∧ resolutions p.trace = [] ∧
      (∀ sending ∈ sendings p.trace, ∃ target, sending.1 = Client.metadataRequest target) ∧
      (p.result = .error (.setup (.config fault)) ↔
        ∃ metadata, found.result = .ok metadata ∧ metadata.Allows) ∧
      (∀ failure, found.result = .error failure → p.result = .error failure) ∧
      (sendings p.trace = [] → p.result ≠ .error (.setup (.config fault))) := by
  have hsome := Config.fault?_eq_some_iff.mpr hfault
  refine ⟨fun entry => ?_, fun server => ?_⟩
  · obtain ⟨stage, hplay⟩ := entry.play_of_fault env request s hsome
    rw [hplay]
    exact ⟨rfl, heard_framed, rfl⟩
  intro found p
  have hcontinues : Errand.Continues env c request found p :=
    Errand.continues_play env c request server s
  obtain ⟨inner, htrace, hdiscovers⟩ := c.discovers_discover env server s
  have hheard : heard p.trace = heard found.trace := hcontinues.heard_of_fault env request hsome
  have hinner : heard p.trace = heard inner := by
    rw [hheard]
    exact (congrArg heard htrace).trans heard_framed
  have hsendings : sendings p.trace = sendings inner := by
    rw [← sendings_heard, hinner, sendings_heard]
  have hiff := hcontinues.result_eq_config_iff env request hsome hdiscovers.ne_config
  refine ⟨hheard, ?_, fun sending hmem => ?_, hiff,
    fun failure => hcontinues.result_of_error env request, fun hnone heq => ?_⟩
  · rw [← resolutions_heard, hinner, resolutions_heard, hdiscovers.resolutions_eq_nil]
  · rw [hsendings] at hmem
    exact hdiscovers.eq_metadataRequest hmem
  · -- metadata that was found has been asked for
    obtain ⟨metadata, hok, -⟩ := hiff.mp heq
    have hfound : Discovers c server inner (.ok metadata) := hok ▸ hdiscovers
    rw [hsendings] at hnone
    cases hfound with
    | found => cases hnone

/-- A line feed as the delimiter: a negotiation sends nothing, and an errand to a server asks for its
metadata first. -/
theorem stops_of_line_feed :
    let c : Client := { config := { scopeDelimiter := '\n' } }
    let s := Sample.script []
    let p := (Entry.negotiate Sample.endpoint 5).play Script.environment c { ticket := "first" } s
    let q := (Errand.obtain Sample.localServer).play Script.environment c { ticket := "first" } s
    c.config.HasFault (.delimiter '\n') ∧
      p.result = .error (.setup (.config (.delimiter '\n'))) ∧ heard p.trace = [] ∧
      (sendings q.trace).length = 1 ∧
      ∀ sending ∈ sendings q.trace, ∃ target, sending.1 = Client.metadataRequest target := by
  intro c s p q
  have hfault : c.config.HasFault (.delimiter '\n') := .delimiter (by decide)
  obtain ⟨hentries, hservers⟩ :=
    stops_of_hasFault Script.environment c { ticket := "first" } s _ hfault
  obtain ⟨hresult, hheard, -⟩ := hentries (.negotiate Sample.endpoint 5)
  obtain ⟨-, -, hrequests, -⟩ := hservers Sample.localServer
  exact ⟨hfault, hresult, hheard, by decide +kernel, hrequests⟩

/-- A blank name behind a good one: the metadata is asked for all the same, and if it does not come
the failure is that of the discovery. -/
theorem asks_of_blank_algorithm :
    let c : Client := { config := { algorithms := ["ES256", " "] } }
    let play (deliveries : List Delivery) :=
      (Errand.obtain Sample.localServer).play Script.environment c { ticket := "first" }
        (Sample.script deliveries)
    c.config.HasFault .blankAlgorithm ∧
      (sendings (play [Sample.document ticketGrant]).trace).map (·.1.method) = [.get] ∧
      (sendings (play []).trace).map (·.1.method) = [.get] ∧
      failure? (play []).result ≠ some (.setup (.config .blankAlgorithm)) := by
  intro c play
  have hmember : " " ∈ c.config.algorithms := by decide
  have hblank : ∀ char ∈ " ".toList, Text.isBlank char = true := List.forall_mem_singleton.mpr rfl
  exact ⟨.blankAlgorithm (by decide) hmember hblank, by decide +kernel⟩

end TicketGrant
