import Regnant.Proof.Names

namespace Regnant.Osb

namespace ResourceKind

def virtualHostDomains : List PathStep :=
  [.key "virtual_hosts", .each, .key "domains", .each]

def inlinedDomains : List PathStep :=
  connectionManager ++ [.key "route_config"] ++ virtualHostDomains

def routeDomains : List PathStep :=
  [.key "routes", .each] ++ virtualHostDomains

end ResourceKind

def Value.Serves (matchesHost : String → String → Prop) (domains : List PathStep) (document : Value)
    (host : String) : Prop :=
  ∃ domain ∈ document.names [domains], matchesHost domain host

def domainMatches (domain host : String) : Bool :=
  let domain := domain.toList.map Char.toLower
  let host := host.toList.map Char.toLower
  if domain = ['*'] then true
  else if ['*'].isPrefixOf domain then
    domain.tail.isSuffixOf host && decide (domain.tail.length < host.length)
  else if ['*'].isSuffixOf domain then
    domain.dropLast.isPrefixOf host && decide (domain.dropLast.length < host.length)
  else domain == host

theorem domainMatches_all (host : String) : domainMatches "*" host = true := by
  simp [domainMatches]

/-- `parameters.get("domains", ["*"])`, of which only the strings of a list are domains. -/
def requestedDomains (parameters : Dict) : List String :=
  match parameters.lookup "domains" with
  | some (.list domains) => domains.filterMap Value.str?
  | some _ => []
  | none => ["*"]

variable {id service plan : String} {parameters : Dict} {document : Value}

theorem render_domains (rendered : renderResources id service plan parameters = .ok document) :
    document.names [ResourceKind.inlinedDomains] = ["*"] ∧
      document.names [ResourceKind.routeDomains] = requestedDomains parameters := by
  have requested : requestedDomains parameters =
      (((parameters.lookup "domains").getD (.list [.str "*"])).select [.each]).filterMap
        Value.str? := by
    rw [requestedDomains]
    cases parameters.lookup "domains" with
    | none => rfl
    | some domains =>
        cases domains with
        | list items => simp [Value.select, List.flatMap_singleton']
        | _ => rfl
  rw [requested]
  simp only [renderResources] at rendered
  cases port : ((parameters.lookup "listen_port").getD (.int 10000)).toInt with
  | error e => simp [port, bind, Except.bind] at rendered
  | ok n =>
      simp only [port, bind, Except.bind, pure, Except.pure] at rendered
      repeat' split at rendered
      all_goals cases rendered
      refine ⟨rfl, ?_⟩
      show ((((parameters.lookup "domains").getD (.list [.str "*"])).select [.each] ++ [] ++
        []).filterMap Value.str?) ++ [] = _
      simp only [List.append_nil]

/-- The route configuration in the listener and the one in the routes decide alike on a host exactly
when the host matches a requested domain. -/
theorem inlined_agrees_iff (id service plan : String) (parameters : Dict) (document : Value)
    (matchesHost : String → String → Prop) (host : String)
    (rendered : renderResources id service plan parameters = .ok document)
    (all : ∀ host, matchesHost "*" host) :
    (document.Serves matchesHost ResourceKind.inlinedDomains host ↔
        document.Serves matchesHost ResourceKind.routeDomains host) ↔
      ∃ domain ∈ requestedDomains parameters, matchesHost domain host := by
  obtain ⟨inlined, routes⟩ := render_domains rendered
  have always : document.Serves matchesHost ResourceKind.inlinedDomains host := by
    unfold Value.Serves
    rw [inlined]
    exact ⟨"*", List.mem_singleton_self _, all host⟩
  rw [iff_true_left always]
  unfold Value.Serves
  rw [routes]

def oneDomain (domain : String) : Dict :=
  Finmap.singleton "domains" (.list [.str domain])

theorem renders_oneDomain (domain : String) : Renders "a" "s" "p" (oneDomain domain) := by
  have upstream : (oneDomain domain).lookup "upstream" = none := rfl
  have listen_port : (oneDomain domain).lookup "listen_port" = none := rfl
  rw [Renders, renderResources, upstream, listen_port]
  rfl

theorem inlined_agrees_at_domain :
    ∃ document, renderResources "a" "s" "p" (oneDomain "jira.regnant.local") = .ok document ∧
      (document.Serves (domainMatches · ·) ResourceKind.inlinedDomains "jira.regnant.local" ↔
        document.Serves (domainMatches · ·) ResourceKind.routeDomains "jira.regnant.local") := by
  obtain ⟨document, rendered⟩ := renders_iff.mp (renders_oneDomain "jira.regnant.local")
  refine ⟨document, rendered, ?_⟩
  apply (inlined_agrees_iff _ _ _ _ _ (domainMatches · ·) _ rendered domainMatches_all).mpr
  exact ⟨"jira.regnant.local", List.mem_singleton_self _, by decide⟩

theorem inlined_not_always_agrees :
    ¬∀ (id service plan : String) (parameters : Dict) (document : Value) (host : String),
      renderResources id service plan parameters = .ok document →
      (document.Serves (domainMatches · ·) ResourceKind.inlinedDomains host ↔
        document.Serves (domainMatches · ·) ResourceKind.routeDomains host) := by
  intro always
  obtain ⟨document, rendered⟩ := renders_iff.mp (renders_oneDomain "jira.regnant.local")
  obtain ⟨inlined, routes⟩ := render_domains rendered
  have agrees := always _ _ _ _ document "wiki.regnant.local" rendered
  unfold Value.Serves at agrees
  rw [inlined, routes] at agrees
  obtain ⟨domain, member, matched⟩ :=
    agrees.mp ⟨"*", List.mem_singleton_self _, domainMatches_all _⟩
  obtain rfl := List.mem_singleton.mp member
  revert matched
  decide

end Regnant.Osb
