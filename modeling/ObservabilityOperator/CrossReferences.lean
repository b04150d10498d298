import ObservabilityOperator.CredentialSecrets
import ObservabilityOperator.RemoteWriteTargets
import ObservabilityOperator.TokenRefresherPruning

/-!
# References between the objects of a sync

Some of the objects that a sync writes name others: a remote write target and
the client of a Promtail name the Service of a token refresher, the address of
a container names the Service in front of it, and the Prometheus lists the
secrets of tokens.  The namespace in such a reference is chosen where it is
written, and so is the condition under which it is written.
-/

namespace ObservabilityOperator

open Program

/-! ## The Services a sync creates -/

section Services

variable {platform : Platform} {cr : Observability}
  {indexes : List RepositoryIndex} {env : Surroundings}
  {cluster after : Cluster}

end Services

/-! ## The references -/

def resourcesHost (cr : Observability) : ObjectKey :=
  ⟨cr.getPrometheusOperatorNamespace, getResourcesDefaultName cr⟩

def promtailUrl (cr : Observability) (index : RepositoryIndex) :
    Option TargetUrl :=
  match promtailObservatorium cr index with
  | none => none
  | some (_, observatorium) =>
    match promtailTarget cr observatorium with
    | .ok target => some target.1
    | .error _ => none

section Resolving

variable {platform : Platform} {env : Surroundings}
  {cr : Observability} {indexes : List RepositoryIndex}
  {cluster after : Cluster} {observatorium : ObservatoriumIndex}
  {repos : List RepositoryInfo}

variable {target : ObjectKey} {index : RepositoryIndex}

theorem promtailUrl_eq_service_iff {name ns : String} :
    promtailUrl cr index = some (.service name ns) ↔
      ∃ promtail observatorium sso,
        promtailObservatorium cr index = some (promtail, observatorium) ∧
          observatorium.isValid = true ∧ observatorium.authType = .redhat ∧
          observatorium.redhatSsoConfig = some sso ∧ sso.hasLogs = true ∧
          name = getTokenRefresherName observatorium.id .logs ∧ ns = cr.ns := by
  unfold promtailUrl
  cases hindex : promtailObservatorium cr index with
  | none => simp
  | some found =>
    obtain ⟨promtail, observatorium⟩ := found
    unfold promtailTarget
    cases hvalid : observatorium.isValid with
    | false => simp [hvalid]
    | true =>
      cases htype : observatorium.authType with
      | dex => simp [hvalid, htype]
      | unknown text => simp [hvalid, htype]
      | redhat =>
        cases hsso : observatorium.redhatSsoConfig with
        | none => simp [hvalid, htype, hsso]
        | some sso =>
          cases hlogs : sso.hasLogs with
          | false => simp [hvalid, htype, hsso, hlogs]
          | true =>
            simp only [hvalid, htype, hsso, hlogs, Bool.not_true,
              Bool.false_eq_true, if_false, if_true,
              Option.some.injEq, TargetUrl.service.injEq]
            constructor
            · rintro ⟨rfl, rfl⟩
              exact ⟨promtail, observatorium, sso, rfl, hvalid,
                htype, hsso, hlogs, rfl, rfl⟩
            · rintro ⟨_, _, _, hpair, -, -, -, -, rfl, rfl⟩
              cases hpair
              exact ⟨rfl, rfl⟩

theorem refresherRequested_of_promtail {completed : List RepositoryIndex}
    {promtail : PromtailIndex} {sso : RedhatSsoConfig}
    (hindex : index ∈ completed) (hpromtail :
      promtailObservatorium cr index = some (promtail, observatorium))
    (htype : observatorium.authType = .redhat)
    (hsso : observatorium.redhatSsoConfig = some sso)
    (hlogs : sso.hasLogs = true) :
    cr.observatoriumDisabled = false ∧
      RefresherRequested completed observatorium.id .logs := by
  unfold promtailObservatorium at hpromtail
  split at hpromtail
  next => cases hpromtail
  next found hfound =>
    split at hpromtail
    next => cases hpromtail
    next henabled =>
      split at hpromtail
      next => cases hpromtail
      next hflags =>
        split at hpromtail
        next => cases hpromtail
        next =>
          obtain ⟨config, hconfig, hfound⟩ := Option.bind_eq_some_iff.mp hfound
          obtain ⟨entry, hentry, hpair⟩ := Option.map_eq_some_iff.mp hpromtail
          cases hpair
          have hmem : observatorium ∈ config.observatoria := by
            have hfind := List.mem_of_find?_eq_some hentry
            simpa [RepositoryIndex.observatoria, hconfig] using hfind
          refine ⟨by simp_all, ⟨config.promtailEnabled, observatorium⟩, ?_,
            rfl, ?_⟩
          · apply List.mem_flatMap.mpr
            refine ⟨index, hindex, ?_⟩
            rw [RepositoryIndex.refresherEntries, hconfig]
            exact List.mem_map_of_mem hmem
          · simp only [Bool.not_eq_true, Bool.not_eq_false'] at henabled
            simp [RefresherEntry.requests, RefresherEntry.hasCredentials,
              htype, hsso, hlogs, RepositoryConfig.promtailEnabled, hfound,
              henabled]

section Written

variable {secret : Option (Resource SecretSpec)}
  {completed : List RepositoryIndex}
  (written : TargetsWritten cr secret completed after) {index : RepositoryIndex}
include written

end Written

variable (sync :
  CompletedSync platform env cr indexes cluster after)
include sync

theorem CompletedSync.oauth2Secret_refreshers :
    oauth2Secret cr sync.refreshers = oauth2Secret cr sync.credentials :=
  (writesKinds_syncTokenRefreshers _).find_eq sync.writesRefreshers
    (by decide) _

theorem CompletedSync.oauth2Secret_eq_none_iff
    (hfaultless : env.environment.Faultless) :
    oauth2Secret cr sync.credentials = none ↔
      oauth2Present cr cluster = false := by
  rw [← sync.oauth2Secret_credentials fun _ _ => hfaultless _ _]
  simp

end Resolving

def loggingIndex : RepositoryIndex where
  id := "kafka"
  config := some
    { grafana := some {}
      prometheus := some { observatorium := "first" }
      alertmanager := some {}
      promtail := some { enabled := true, observatorium := "first" }
      observatoria := [plainObservatorium "first" "logs"] }

def loggingSync (cr : Observability) :
    Except (Abort ApiError) Unit × Cluster :=
  answeringSurroundings.run (configure syncPlatform cr [loggingIndex])
    Cluster.empty

def descopedCr : Observability :=
  { plainCr with
    spec :=
      { descopedMode := some
          { enabled := some true
            prometheusOperatorNamespace := "operators" } } }

end ObservabilityOperator
