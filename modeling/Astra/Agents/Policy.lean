import Astra.Tools.Registry

/-!
# Agent policy

`agents/policy.py`.  `resolve_allowed_tools` checks the configured names against the
registry before it looks at the request, and the request against both.
-/

namespace Astra.Agents

open Astra.Platform Astra.Tools

structure AgentPolicy where
  maxSteps : Int
  maxToolCalls : Int
  timeoutSeconds : Rat
  defaultAllowedTools : Finset String

def toolNames (names : Finset String) : Json :=
  .obj [("tools", .arr ((sorted names).map .str))]

def configuredToolMissing (names : Finset String) : Exn :=
  .app .agentInvalidTool "Configured agent tool is not registered." 500 (toolNames names)

def requestedToolRefused (names : Finset String) : Exn :=
  .app .agentInvalidTool "Requested agent tool is not allowed." 422 (toolNames names)

def AgentPolicy.resolveAllowedTools (policy : AgentPolicy) (registry : ToolRegistry)
    (requested : Option (List String)) : Except Exn (Finset String) :=
  let registered := registry.names.toFinset
  let configured := policy.defaultAllowedTools
  let unavailable := configured \ registered
  if unavailable.Nonempty then .error (configuredToolMissing unavailable)
  else
    let desired :=
      match requested with
      | some names => names.toFinset
      | none => configured
    let unknown := desired \ registered
    let forbidden := desired \ configured
    if unknown.Nonempty ∨ forbidden.Nonempty then
      .error (requestedToolRefused (unknown ∪ forbidden))
    else .ok desired

/-- The names that pass the configuration, the registry and the request. -/
def AgentPolicy.Permits (policy : AgentPolicy) (registry : ToolRegistry)
    (requested : Option (List String)) (name : String) : Prop :=
  name ∈ policy.defaultAllowedTools ∧ name ∈ registry.names ∧
    ∀ names, requested = some names → name ∈ names

theorem AgentPolicy.mem_resolveAllowedTools {policy : AgentPolicy} {registry : ToolRegistry}
    {requested : Option (List String)} {allowed : Finset String}
    (h : policy.resolveAllowedTools registry requested = .ok allowed) (name : String) :
    name ∈ allowed ↔ policy.Permits registry requested name := by
  unfold resolveAllowedTools at h
  simp only [] at h
  split_ifs at h with hunavailable hrefused
  obtain ⟨hunknown, hforbidden⟩ := not_or.mp hrefused
  rw [Finset.not_nonempty_iff_eq_empty, Finset.sdiff_eq_empty_iff_subset] at hunavailable
  rw [Finset.not_nonempty_iff_eq_empty, Finset.sdiff_eq_empty_iff_subset] at hunknown hforbidden
  cases requested with
  | none =>
      have heq : policy.defaultAllowedTools = allowed := by simpa using h
      subst heq
      constructor
      · intro hname
        exact ⟨hname, List.mem_toFinset.mp (hunavailable hname), by simp⟩
      · rintro ⟨hname, _⟩
        exact hname
  | some names =>
      have heq : names.toFinset = allowed := by simpa using h
      subst heq
      constructor
      · intro hname
        refine ⟨hforbidden hname, List.mem_toFinset.mp (hunknown hname), ?_⟩
        intro names' hnames'
        cases hnames'
        exact List.mem_toFinset.mp hname
      · rintro ⟨_, _, hname⟩
        exact List.mem_toFinset.mpr (hname names rfl)

end Astra.Agents
