import CloudDirector.Proofs.Session.Sharing

/-!
# The tenant of a shared context

A client that logs in or joins a session installs a state for the tenant that it saw before its
exchange. The tenant that was set last stays in place just as long as no client installs a state for
a tenant that has been replaced since it looked. A log-in through the newer interface and a log-out
leave the tenant alone whenever they happen.
-/
namespace CloudDirector
open Http

/-- The tenant that an event sets, if it sets one. -/
def ContextEvent.tenant? : ContextEvent → Option (Option String)
  | .setsTenant tenant => some tenant
  | _ => none

/-- The tenant that was set last in a schedule, none if none was. -/
def lastTenant (schedule : List ContextEvent) : Option String :=
  schedule.foldl (fun last e => e.tenant?.getD last) none

@[simp] theorem lastTenant_concat (past : List ContextEvent) (e : ContextEvent) :
    lastTenant (past ++ [e]) = e.tenant?.getD (lastTenant past) := by
  simp [lastTenant]

/-- The tenant of a state from which a session is joined stays. -/
theorem tenant_of_yields_join {s : Settings} {candidate t : AuthState}
    (h : (Transaction.join s candidate).Yields t) : t.tenant = candidate.tenant := by
  obtain ⟨id, now, later, request, o, -, hstate⟩ := h
  obtain ⟨reply, -, hsession⟩ := Result.bind_eq_ok.1 hstate
  obtain ⟨session, -, ht⟩ := Result.bind_eq_ok.1 hsession
  cases ht
  rfl

theorem Candidate.tenant_eq {tenant : Option String} {x : AuthState} (h : Candidate tenant x) :
    x.tenant = tenant := by
  cases h <;> rfl

theorem SessionChange.tenant {seen : AuthState} {f : AuthState → AuthState}
    (h : SessionChange seen f) : (∀ x, (f x).tenant = x.tenant) ∨
      ∃ t, f = (fun _ => t) ∧ t.tenant = seen.tenant := by
  cases h with
  | @login s c t yields =>
    obtain ⟨id, now, later, request, o, -, hstate⟩ := yields
    obtain ⟨reply, -, ht⟩ := Result.bind_eq_ok.1 hstate
    exact .inr ⟨t, rfl, (AuthState.of_stateOfLogin ht).2.1⟩
  | @join s candidate t hcandidate yields =>
    exact .inr ⟨t, rfl, (tenant_of_yields_join yields).trans hcandidate.tenant_eq⟩
  | openApi yields => exact .inl fun x => rfl
  | clear => exact .inl fun x => rfl

/-- A whole state is installed for the tenant at which the client looked. -/
theorem SessionChange.tenant_of_const {seen t : AuthState} (h : SessionChange seen fun _ => t) :
    t.tenant = seen.tenant := by
  rcases h.tenant with hkeeps | ⟨u, hconst, hu⟩
  · have hnone := hkeeps (.ofTenant none)
    have hsome := hkeeps (.ofTenant (some ""))
    cases hnone.symm.trans hsome
  · have htu : t = u := congrFun hconst .empty
    rw [htu, hu]

namespace SharedContext

/-- A call is about to put a state in place, and the tenant is no longer the one that it saw. -/
def IsStale (c : SharedContext) (e : ContextEvent) : Prop :=
  ∃ i x o t p, e = .proceeds i x ∧ c.calls[i]? = some o ∧ o.rest = .update (fun _ => t) p ∧
    o.seen.tenant ≠ c.auth.tenant

theorem tenant_after_stale {past : List ContextEvent} {e : ContextEvent}
    (h : (run past).IsStale e) : (run (past ++ [e])).auth.tenant ≠ (run past).auth.tenant := by
  obtain ⟨i, x, o, t, p, rfl, hcall, hrest, hne⟩ := h
  have hleaves := leaves_run past (.proceeds i x)
  generalize (run (past ++ [.proceeds i x])).auth = auth at hleaves ⊢
  cases hleaves with
  | kept hno => exact absurd hrest (hno o _ p hcall)
  | changed hcall' hupdate hchange =>
    obtain rfl := Option.some.inj (hcall.symm.trans hcall')
    cases hrest.symm.trans hupdate
    rw [hchange.tenant_of_const]
    exact hne

theorem tenant_after_fresh {past : List ContextEvent} {e : ContextEvent}
    (h : ¬ (run past).IsStale e) :
    (run (past ++ [e])).auth.tenant = e.tenant?.getD (run past).auth.tenant := by
  have hleaves := leaves_run past e
  generalize (run (past ++ [e])).auth = auth at hleaves ⊢
  cases hleaves with
  | begun s call => rfl
  | kept _ => rfl
  | tenant t => rfl
  | @changed i x o f p hcall hupdate hchange =>
    change (f (run past).auth).tenant = (run past).auth.tenant
    rcases hchange.tenant with hkeeps | ⟨t, rfl, ht⟩
    · exact hkeeps _
    · -- A whole state was installed, so the call saw the tenant that is still in place.
      rw [ht]
      by_contra hne
      exact h ⟨i, x, o, t, p, rfl, hcall, hupdate, hne⟩

/-- The tenant of a shared context is the one that was set last, all along a schedule, just if no
client installs a state for a tenant that has been replaced since it looked. -/
theorem tenant_kept_iff (schedule : List ContextEvent) :
    (∀ past, past <+: schedule → (run past).auth.tenant = lastTenant past) ↔
      ∀ past e, past ++ [e] <+: schedule → ¬ (run past).IsStale e := by
  constructor
  · intro hkept past e hprefix hstale
    have hbefore := hkept past ((List.prefix_append past [e]).trans hprefix)
    have hafter := hkept (past ++ [e]) hprefix
    have hsame : lastTenant (past ++ [e]) = lastTenant past := by
      obtain ⟨i, x, -, -, -, rfl, -⟩ := hstale
      exact lastTenant_concat past _
    apply tenant_after_stale hstale
    rw [hafter, hsame, hbefore]
  · intro hfresh past
    induction past using List.reverseRecOn with
    | nil => exact fun _ => rfl
    | append_singleton past e ih =>
      intro hprefix
      have hbefore := ih ((List.prefix_append past [e]).trans hprefix)
      rw [tenant_after_fresh (hfresh past e hprefix), lastTenant_concat, hbefore]

/-- Two clients: while one logs in, the other sets a tenant, which the log-in takes back. -/
theorem tenant_lost : ∃ schedule, (run schedule).auth.tenant ≠ lastTenant schedule ∧
    ∃ past e, past ++ [e] <+: schedule ∧ (run past).IsStale e := by
  let endpoint : Url :=
    ⟨"https".toList, some ⟨[], none, "vcd".toList, none⟩, .segments ["api".toList, []], none, none⟩
  let s : Settings := { Settings.ofEndpoint endpoint with requestIds := .off }
  let alice : Credentials := .basic ⟨"alice", "org", "secret"⟩
  let welcome : Answers :=
    { (default : Answers) with
      id := "", outcome := .reply ⟨.ok, ⟨[(Name.legacyToken, "t")]⟩, "\x7b\x7d"⟩ }
  -- Five steps take the log-in from its look at the context to the reply of the server.
  let schedule : List ContextEvent :=
    .begins s (.enter (.login alice)) :: List.replicate 5 (.proceeds 0 welcome) ++
      [.setsTenant (some "org"), .proceeds 0 welcome]
  have hlost : (run schedule).auth.tenant ≠ lastTenant schedule := by decide +kernel
  refine ⟨schedule, hlost, ?_⟩
  by_contra hnone
  have hfresh : ∀ past e, past ++ [e] <+: schedule → ¬ (run past).IsStale e :=
    fun past e hprefix hstale => hnone ⟨past, e, hprefix, hstale⟩
  exact hlost ((tenant_kept_iff schedule).2 hfresh schedule List.prefix_rfl)

end SharedContext

end CloudDirector
