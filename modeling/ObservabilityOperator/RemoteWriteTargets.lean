import ObservabilityOperator.CompletedSync

/-!
# The remote write targets of a Prometheus

Which target an index gets depends on the Observatorium its metrics are sent
to, and for Red Hat authentication on whether the OAuth2 secret is there.
-/

namespace ObservabilityOperator

open Program

def metricsObservatorium (index : RepositoryIndex) :
    Option ObservatoriumIndex :=
  match index.config.bind RepositoryConfig.prometheus with
  | none => none
  | some prometheus =>
    if prometheus.observatorium = "" then none
    else getObservatoriumConfig index prometheus.observatorium

inductive TargetOf (cr : Observability)
    (secret : Option (Resource SecretSpec)) (index : RepositoryIndex) :
    Option RemoteWriteTarget → Prop where
  | dex {observatorium : ObservatoriumIndex} {remoteWrite : RemoteWriteIndex}
      (hmetrics : metricsObservatorium index = some observatorium)
      (htype : observatorium.authType = .dex) :
      TargetOf cr secret index
        (some (getRemoteWriteSpecForDex index observatorium remoteWrite))
  | refresher {observatorium : ObservatoriumIndex}
      {target : RemoteWriteTarget}
      (hmetrics : metricsObservatorium index = some observatorium)
      (htype : observatorium.authType = .redhat) (habsent : secret = none)
      (hurl : target.spec.url =
        .service (getTokenRefresherName observatorium.id .metrics)
          cr.getPrometheusOperatorNamespace)
      (htoken : target.tokenSecret = "") :
      TargetOf cr secret index (some target)
  | gateway {observatorium : ObservatoriumIndex} {target : RemoteWriteTarget}
      (hmetrics : metricsObservatorium index = some observatorium)
      (htype : observatorium.authType = .redhat)
      (hpresent : secret.isSome = true)
      (hurl : target.spec.url = .external observatorium.gateway)
      (htoken : target.tokenSecret = "") :
      TargetOf cr secret index (some target)
  | none (hnone : ∀ observatorium,
        metricsObservatorium index = some observatorium →
          observatorium.authType ≠ .dex ∧
            (observatorium.authType = .redhat → secret.isSome = true)) :
      TargetOf cr secret index none

def targetNames (platform : Platform)
    (secret : Option (Resource SecretSpec)) (index : RepositoryIndex) :
    Option (String × String) :=
  match metricsObservatorium index with
  | none => none
  | some observatorium =>
    match observatorium.authType with
    | .dex => some (index.id, getObservatoriumTokenSecretName observatorium)
    | .redhat =>
      match secret with
      | none => some (index.id, "")
      | some secret =>
        if (platform.urlJoinPath (secret.spec.data.get "issuer_url")
            "/protocol/openid-connect/token").isOk then
          some (index.id, "")
        else none
    | .unknown _ => none

def RemoteWriteTarget.names (target : RemoteWriteTarget) :
    String × String :=
  (target.spec.name, target.tokenSecret)

structure FindsTarget (platform : Platform) (cr : Observability)
    (secret : Option (Resource SecretSpec)) (index : RepositoryIndex)
    (target : Option RemoteWriteTarget) : Prop where
  targetOf : TargetOf cr secret index target
  names : target.map RemoteWriteTarget.names = targetNames platform secret index

def Oauth2Readable (env : Surroundings) (cr : Observability) :
    Prop :=
  ∀ tick, env.fault tick
    (.get .secret ⟨cr.ns, remoteWriteOIDCSecretName⟩) = none

section Targets

variable {platform : Platform} {env : Surroundings}
  {cr : Observability} {cluster after : Cluster} {index : RepositoryIndex}
  {result : Except (GoError ApiError) RemoteWriteTarget}
  {remoteWrite : RemoteWriteIndex} {indexes : List RepositoryIndex}

theorem run_getOauth2ConfigSecret
    (hreadable : Oauth2Readable env cr) (cluster : Cluster) :
    env.run (getOauth2ConfigSecret cr) cluster =
      (.ok (oauth2Secret cr cluster), cluster.advance) := by
  have hfault : env.environment.fault cluster.tick
      (.get .secret ⟨cr.ns, remoteWriteOIDCSecretName⟩) = none :=
    hreadable cluster.tick
  unfold getOauth2ConfigSecret oauth2Secret
  simp only [Surroundings.run, bind_eq_bind, run_get_bind, hfault,
    withFault, World.read]
  cases cluster.find .secret ⟨cr.ns, remoteWriteOIDCSecretName⟩ <;> rfl

theorem findsTarget_none_of_metrics {secret : Option (Resource SecretSpec)}
    (hmetrics : metricsObservatorium index = none) :
    FindsTarget platform cr secret index none where
  targetOf := .none fun _ hother => by simp [hmetrics] at hother
  names := by simp [targetNames, hmetrics]

theorem findsTarget_of_run_getRemoteWriteSpecForRedHat
    (hreadable : Oauth2Readable env cr)
    {observatorium : ObservatoriumIndex}
    (hmetrics : metricsObservatorium index = some observatorium)
    (htype : observatorium.authType = .redhat)
    (hrun : env.run (getRemoteWriteSpecForRedHat platform cr index
      observatorium remoteWrite).attempt cluster = (.ok result, after)) :
    FindsTarget platform cr (oauth2Secret cr cluster) index result.toOption := by
  have hget : env.run (getOauth2ConfigSecret cr) cluster = _ :=
    run_getOauth2ConfigSecret hreadable cluster
  rw [Surroundings.run, run_attempt] at hrun
  unfold getRemoteWriteSpecForRedHat getRemoteWriteOauth2Config at hrun
  simp only [bind_eq_bind] at hrun
  rw [Program.bind_assoc, run_bind_ok hget] at hrun
  cases hsecret : oauth2Secret cr cluster with
  | none =>
    rw [hsecret] at hrun
    cases hrun
    exact ⟨.refresher hmetrics htype rfl rfl rfl,
      by simp [targetNames, hmetrics, htype, RemoteWriteTarget.names,
        Except.toOption]⟩
  | some secret =>
    rw [hsecret] at hrun
    simp only [Program.bind_assoc, run_ofExcept_bind] at hrun
    cases hjoin : platform.urlJoinPath (secret.spec.data.get "issuer_url")
        "/protocol/openid-connect/token" with
    | error message =>
      rw [hjoin] at hrun
      cases hrun
      refine ⟨.none fun other hother => ?_, ?_⟩
      · obtain rfl : observatorium = other :=
          Option.some.inj (hmetrics.symm.trans hother)
        rw [htype]
        exact ⟨nofun, fun _ => rfl⟩
      · simp [targetNames, hmetrics, htype, hjoin, Except.isOk,
          Except.toBool, Except.toOption]
    | ok tokenUrl =>
      rw [hjoin] at hrun
      cases hrun
      exact ⟨.gateway hmetrics htype rfl rfl rfl,
        by simp [targetNames, hmetrics, htype, hjoin, Except.isOk,
          Except.toBool, Except.toOption, RemoteWriteTarget.names]⟩

theorem findsTarget_of_run_getRemoteWriteSpec
    (hreadable : Oauth2Readable env cr)
    (hrun : env.run
      (getRemoteWriteSpec platform cr index remoteWrite).attempt cluster =
        (.ok result, after)) :
    FindsTarget platform cr (oauth2Secret cr cluster) index result.toOption := by
  unfold getRemoteWriteSpec at hrun
  split at hrun
  next hprometheus =>
    cases hrun
    exact findsTarget_none_of_metrics
      (by simp [metricsObservatorium, hprometheus])
  next prometheus hprometheus =>
    split at hrun
    next hempty =>
      cases hrun
      exact findsTarget_none_of_metrics
        (by simp [metricsObservatorium, hprometheus, hempty])
    next hnonempty =>
      have hmetrics : metricsObservatorium index =
          getObservatoriumConfig index prometheus.observatorium := by
        simp [metricsObservatorium, hprometheus, hnonempty]
      split at hrun
      next hfind =>
        cases hrun
        exact findsTarget_none_of_metrics (hmetrics.trans hfind)
      next observatorium hfind =>
        rw [hfind] at hmetrics
        split at hrun
        next htype =>
          cases hrun
          exact ⟨.dex hmetrics htype,
            by simp [targetNames, hmetrics, htype, Except.toOption,
              RemoteWriteTarget.names, getRemoteWriteSpecForDex]⟩
        next htype =>
          exact findsTarget_of_run_getRemoteWriteSpecForRedHat hreadable
            hmetrics htype hrun
        next text htype =>
          cases hrun
          refine ⟨.none fun other hother => ?_, ?_⟩
          · obtain rfl : observatorium = other :=
              Option.some.inj (hmetrics.symm.trans hother)
            rw [htype]
            exact ⟨nofun, nofun⟩
          · simp [targetNames, hmetrics, htype, Except.toOption]

theorem findsTarget_of_run_remoteWriteTargetOf
    (hreadable : Oauth2Readable env cr)
    {target : Option RemoteWriteTarget}
    (hrun : env.run (remoteWriteTargetOf platform cr index)
      cluster = (.ok target, after)) :
    FindsTarget platform cr (oauth2Secret cr cluster) index target := by
  obtain ⟨remoteWrite, fetched, hfetch, hrun⟩ := run_bind_eq_ok hrun
  obtain ⟨result, attempted, hattempt, hdone⟩ := run_bind_eq_ok hrun
  have hframe : oauth2Secret cr fetched = oauth2Secret cr cluster :=
    (writesKinds_getRemoteWriteIndex index).find_eq hfetch List.not_mem_nil _
  have htarget := findsTarget_of_run_getRemoteWriteSpec hreadable hattempt
  rw [hframe] at htarget
  cases result <;> cases hdone <;> exact htarget

theorem run_remoteWriteTargets_eq_ok (hreadable : Oauth2Readable env cr)
    {targets : List RemoteWriteTarget}
    (henabled : cr.observatoriumDisabled = false)
    (hrun : env.run (remoteWriteTargets platform cr indexes)
      cluster = (.ok targets, after)) :
    ∃ found : List (Option RemoteWriteTarget),
      List.Forall₂ (FindsTarget platform cr (oauth2Secret cr cluster))
        indexes found ∧
        targets = found.filterMap fun target => target := by
  unfold remoteWriteTargets at hrun
  rw [henabled, if_neg (by decide)] at hrun
  obtain ⟨found, collected, hcollect, hdone⟩ := run_bind_eq_ok hrun
  cases hdone
  refine ⟨found, ?_, rfl⟩
  refine run_collect_forall₂_of_inv
    (fun state => oauth2Secret cr state = oauth2Secret cr cluster) _
    (fun index _ state next target hstate hnext => ?_) rfl hcollect
  have hframe : oauth2Secret cr next = oauth2Secret cr state :=
    (writesKinds_remoteWriteTargetOf index).find_eq hnext List.not_mem_nil _
  refine ⟨hframe.trans hstate, ?_⟩
  rw [← hstate]
  exact findsTarget_of_run_remoteWriteTargetOf hreadable hnext

theorem run_reconcilePrometheus_eq_ok {hash : String}
    (hrun : env.run (reconcilePrometheus platform cr indexes hash)
      cluster = (.ok (), after)) :
    ∃ host targets storage prometheus before read,
      env.run (remoteWriteTargets platform cr indexes) before =
        (.ok targets, read) ∧
      oauth2Secret cr before = oauth2Secret cr cluster ∧
      after.find .prometheus (getPrometheus cr) = some prometheus ∧
      prometheus.spec = prometheusSpec cr indexes hash host targets storage ∧
      ∃ labelled stored,
        env.run (prometheusStorage platform cr indexes) labelled =
          (.ok storage, stored) ∧
        ∀ kind, labelled.objects kind = cluster.objects kind := by
  obtain ⟨host, before, hhost, hrun⟩ := run_bind_eq_ok hrun
  obtain ⟨targets, read, htargets, hrun⟩ := run_bind_eq_ok hrun
  obtain ⟨prometheus, written, hwrite, hremove⟩ := run_bind_eq_ok hrun
  obtain ⟨between, hmutate, hstored⟩ := run_createOrUpdate_eq_ok hwrite
  obtain ⟨_, labelled, hlabels, hmutate⟩ := run_bind_eq_ok hmutate
  obtain ⟨storage, stored, hstorage, hdone⟩ := run_bind_eq_ok hmutate
  simp only [pure_eq_done, run_done, Prod.mk.injEq,
    Except.ok.injEq] at hdone
  obtain ⟨hobject, rfl⟩ := hdone
  have hassign : WritesKinds [] (assignLabels [("app", "prometheus")]) :=
    writesKinds_assignLabels
  refine ⟨host, targets, storage, prometheus, before, read, htargets, ?_, ?_,
    by rw [← hobject], labelled, stored, hstorage, fun kind => ?_⟩
  · exact (writesKinds_getRouteHost _).find_eq hhost List.not_mem_nil _
  · have hremoved : WritesKinds [.persistentVolumeClaim]
        (removePVCPostMigration cr) :=
      writesKinds_deleteIfFound (List.mem_singleton.mpr rfl) _
    rw [hremoved.find_eq hremove (by decide)]
    rcases hstored with rfl | ⟨rfl, hfind⟩
    · rw [World.find_advance, World.find_put_self]
    · have hvolume : WritesKinds [.persistentVolume]
          (prometheusStorage platform cr indexes) :=
        writesKinds_prometheusStorage (List.mem_singleton.mpr rfl) _
      rw [hvolume.find_eq hstorage (by decide),
        hassign.find_eq hlabels List.not_mem_nil, World.find_advance, hfind]
  · have hread : labelled.objects kind = read.advance.objects kind :=
      hassign.objects_eq hlabels List.not_mem_nil
    rw [hread, World.advance,
      (writesKinds_remoteWriteTargets _).objects_eq htargets
        List.not_mem_nil, (writesKinds_getRouteHost _).objects_eq hhost
        List.not_mem_nil]

end Targets

theorem oauth2Secret_of_restFramed {cr : Observability}
    {before after : Cluster} (hframed : RestFramed cr before after) :
    oauth2Secret cr after = oauth2Secret cr before :=
  hframed _ _ (not_restWrites_secret (by decide))

structure TargetsWritten (cr : Observability)
    (secret : Option (Resource SecretSpec))
    (completed : List RepositoryIndex) (after : Cluster) where
  prometheus : Resource PrometheusSpec
  found : List (Option RemoteWriteTarget)
  hprometheus : after.find .prometheus (getPrometheus cr) = some prometheus
  remoteWrite : prometheus.spec.remoteWrite =
    (found.filterMap fun target => target).map RemoteWriteTarget.spec
  secrets : prometheus.spec.secrets =
    prometheusSecrets cr (found.filterMap fun target => target)
  disabled : cr.observatoriumDisabled = true → found = []
  enabled : cr.observatoriumDisabled = false →
    List.Forall₂ (TargetOf cr secret) completed found

theorem CompletedSync.exists_targetsWritten {platform : Platform}
    {env : Surroundings} {cr : Observability}
    {indexes : List RepositoryIndex} {cluster after : Cluster}
    (sync : CompletedSync platform env cr indexes cluster after)
    (hfaultless : env.environment.Faultless) :
    Nonempty (TargetsWritten cr (oauth2Secret cr sync.refreshers)
      sync.completed after) := by
  obtain ⟨host, targets, storage, prometheus, before, read, hread, hbefore,
    hfind, hspec, -⟩ := run_reconcilePrometheus_eq_ok sync.writesPrometheus
  rw [oauth2Secret_of_restFramed sync.framedBefore] at hbefore
  rw [← sync.find_prometheus] at hfind
  cases hdisabled : cr.observatoriumDisabled with
  | true =>
    obtain rfl : targets = [] := by
      unfold remoteWriteTargets at hread
      rw [hdisabled, if_pos rfl] at hread
      cases hread
      rfl
    exact ⟨{
      prometheus
      found := []
      hprometheus := hfind
      remoteWrite := by rw [hspec]; rfl
      secrets := by rw [hspec]; rfl
      disabled := fun _ => rfl
      enabled := fun hother => by simp [hdisabled] at hother }⟩
  | false =>
    obtain ⟨found, htargets, rfl⟩ := run_remoteWriteTargets_eq_ok
      (fun tick => hfaultless tick _) hdisabled hread
    rw [hbefore] at htargets
    exact ⟨{
      prometheus, found
      hprometheus := hfind
      remoteWrite := by rw [hspec]; rfl
      secrets := by rw [hspec]; rfl
      disabled := fun hother => by simp [hdisabled] at hother
      enabled := fun _ => htargets.imp fun _ _ hfinds =>
        hfinds.targetOf }⟩

end ObservabilityOperator
