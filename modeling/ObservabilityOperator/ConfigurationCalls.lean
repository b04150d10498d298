import ObservabilityOperator.InstallationCalls

/-!
# What the configuration stage can write

Most of what the configuration stage writes is written with labels by which a
clean-up finds it, whatever has been there before.  The exceptions are two.
The configuration of the blackbox exporter keeps the labels that it is found
with, and a configuration secret is marked as accepted from a copy that has
been made at the start of the stage.
-/

namespace ObservabilityOperator

open Program

theorem managed_managedLabels : Managed managedLabels := rfl

theorem managed_mergeLabels (labels : StringMap) :
    Managed (mergeLabels managedLabels labels) := by
  simp [Managed, mergeLabels, managedLabels, StringMap.merge, StringMap.Matches]

theorem managed_observatoriumTokenLabels :
    Managed observatoriumTokenLabels := rfl

theorem managed_of_tokenLabels {labels : StringMap}
    (hlabels : observatoriumTokenLabels.Matches labels = true) :
    Managed labels := by
  simp only [observatoriumTokenLabels, StringMap.Matches, List.all_cons,
    List.all_nil, Bool.and_true, Bool.and_eq_true] at hlabels
  simpa [Managed, managedLabels, StringMap.Matches] using hlabels.1

theorem authenticationProxy_tokenRefresherLabels (name : String) :
    AuthenticationProxy (tokenRefresherLabels name) := by
  simp [AuthenticationProxy, authenticationProxyLabels, tokenRefresherLabels,
    StringMap.Matches, StringMap.get?]

structure AllowsConfiguration (cr : Observability) (refreshers : Prop)
    (allowed : ApiCall Kind.Spec Action → Prop) : Prop
    extends AllowsOperands cr refreshers allowed where
  http : ∀ request, allowed (.perform (.http request))
  setLabels : allowed (.perform (.setLabels [("app", "prometheus")]))
  setLastSynced : ∀ seconds, allowed (.perform (.setLastSynced seconds))
  setResourcesRoute : ∀ host, allowed (.perform (.setResourcesRoute host))

def RequestsRefreshers (refreshers : Prop) (indexes : List RepositoryIndex) :
    Prop :=
  ∀ index ∈ indexes, ∀ observatorium ∈ index.observatoria,
    observatorium.authType = .redhat → refreshers

namespace AllowsConfiguration

variable {platform : Platform} {cr : Observability} {refreshers : Prop}
  {allowed : ApiCall Kind.Spec Action → Prop}
  (hallowed : AllowsConfiguration cr refreshers allowed)
  (indexes : List RepositoryIndex)
include hallowed

theorem allowsReads : AllowsReads allowed where
  get := hallowed.get
  list := hallowed.list
  now := hallowed.now
  http := hallowed.http
  setLabels := hallowed.setLabels

theorem reads {α : Type} {program : Go α}
    (hprogram : WritesKinds [] program) : program.Uses allowed :=
  hprogram _ hallowed.allowsReads.toAllowsKinds

theorem allowsResources : AllowsResources cr allowed where
  toAllowsLooking := hallowed.allowsReads.toAllowsLooking
  setResourcesRoute := hallowed.setResourcesRoute
  createDeployment _ _ := hallowed.create _ _ _ (.inl rfl)
  updateDeployment _ _ := hallowed.update _ _ _ (.inl rfl)
  createService _ := hallowed.create _ _ _ (.inl (by simp [namedServices]))
  updateService _ := hallowed.update _ _ _ (.inl (by simp [namedServices]))
  createRoute _ := hallowed.create .route _ _ (by simp [Operand, namedRoutes])
  updateRoute _ := hallowed.update .route _ _ (by simp [Operand, namedRoutes])

theorem prepare (migrated : Bool) :
    (prepare platform cr migrated).Uses allowed :=
  hallowed.allowsResources.prepare (hallowed.setLastSynced 0) migrated

theorem writeRefresher (hrefreshers : refreshers)
    (config : TokenRefresherConfigSet) :
    (writeRefresher cr config).Uses allowed := by
  refine .bind (.bind (hallowed.upsert ?_) fun _ => trivial) fun _ =>
    .bind (.bind (hallowed.upsert ?_) fun _ => trivial) fun _ =>
    .bind (hallowed.upsert ?_) fun _ => trivial
  · exact fun _ => .inr hrefreshers
  · exact fun _ => rfl
  · exact fun _ => .inr (authenticationProxy_tokenRefresherLabels _)

theorem reconcileTokenRefresher {indexes : List RepositoryIndex}
    (hrequests : RequestsRefreshers refreshers indexes) :
    (reconcileTokenRefresher platform cr indexes).Uses allowed := by
  refine .forEach fun index hindex => ?_
  split
  · trivial
  next config hconfig =>
    refine .forEach fun observatorium hobservatorium => ?_
    split
    next hredhat =>
      have hrefreshers : refreshers := by
        refine hrequests index hindex observatorium ?_ hredhat
        simpa [RepositoryIndex.observatoria, hconfig] using hobservatorium
      exact reconcileTokenRefresherFor_uses (hallowed.get _ _)
        (hallowed.writeRefresher hrefreshers)
    · trivial

theorem syncTokenRefreshers {indexes : List RepositoryIndex}
    (hrequests : cr.observatoriumDisabled = false →
      RequestsRefreshers refreshers indexes) :
    (syncTokenRefreshers platform cr indexes).Uses allowed := by
  have hlooking := hallowed.allowsReads.toAllowsLooking
  refine .bind (.wrapping (hlooking.deleteUnrequested
    (hallowed.delete _) _ _)) fun _ => .bind (.wrapping
      (hlooking.deleteUnrequested (hallowed.delete _) _ _)) fun _ => ?_
  split
  · trivial
  next hdisabled =>
    exact .wrapping (hallowed.reconcileTokenRefresher
      (hrequests (by simpa using hdisabled)))

theorem syncAlertmanagerSecret :
    (syncAlertmanagerSecret platform cr indexes).Uses allowed :=
  hallowed.allowsReads.syncAlertmanagerSecret
    (fun _ => hallowed.create _ _ _ (.inl (by simp [namedSecrets])))
    (fun _ => hallowed.update _ _ _ (.inl (by simp [namedSecrets]))) indexes

theorem createAdditionalScrapeConfigSecret (patterns : List String) :
    (createAdditionalScrapeConfigSecret cr patterns).Uses allowed :=
  hallowed.allowsReads.createAdditionalScrapeConfigSecret
    (fun _ => hallowed.create _ _ _ (.inl (by simp [namedSecrets])))
    (fun _ => hallowed.update _ _ _ (.inl (by simp [namedSecrets]))) patterns

theorem reconcileAlertmanager :
    (reconcileAlertmanager platform cr indexes).Uses allowed :=
  hallowed.allowsReads.reconcileAlertmanager
    (fun _ => hallowed.create .alertmanager _ _ rfl)
    (fun _ => hallowed.update .alertmanager _ _ rfl) indexes

theorem reconcilePrometheus (configHash : String) :
    (reconcilePrometheus platform cr indexes configHash).Uses allowed := by
  have hprometheus : AllowsPrometheus cr allowed :=
    { toAllowsReads := hallowed.allowsReads
      create := fun _ => hallowed.create .prometheus _ _ rfl
      update := fun _ => hallowed.update .prometheus _ _ rfl
      volume := fun _ _ => hallowed.update _ _ _ trivial
      claim := hallowed.delete _ }
  exact hprometheus.reconcilePrometheus indexes configHash

theorem reconcileGrafanaCr (hscoped : cr.descopedModeEnabled = false)
    (indexes : List RepositoryIndex) :
    (reconcileGrafanaCr platform cr indexes).Uses allowed :=
  hallowed.allowsReads.reconcileGrafanaCr
    (fun _ => hallowed.create .grafana _ _ ⟨rfl, hscoped⟩)
    (fun _ => hallowed.update .grafana _ _ ⟨rfl, hscoped⟩) indexes

theorem applyManifest {kind : Kind} {key : ObjectKey}
    {parsed : Manifest kind.Spec} {content : kind.Spec}
    (hkind : kind ∈ resourceKinds) :
    (applyManifest kind key parsed content).Uses allowed := by
  refine .bind (hallowed.upsert ?_) fun _ => trivial
  intro object
  simp only [resourceKinds, List.mem_cons, List.not_mem_nil, or_false] at hkind
  rcases hkind with rfl | rfl | rfl
  · exact managed_mergeLabels _
  · exact .inl (managed_mergeLabels _)
  · exact managed_mergeLabels _

theorem syncResources : (syncResources platform cr indexes).Uses allowed := by
  have hprune (kind : Kind) (ns : String) (requested : List String) :
      (deleteUnrequestedNames kind ns requested).Uses allowed :=
    hallowed.allowsReads.deleteUnrequestedNames (hallowed.delete kind) ns
      requested
  have hfetch (path tag token : String) :
      (fetchResource platform path tag token).Uses allowed :=
    hallowed.reads (writesKinds_fetchResource _ _ _)
  unfold ObservabilityOperator.syncResources
  split
  next hdisabled =>
    refine .wrapping (.bind (uses_derefSpec _ _) fun selfContained => ?_)
    split
    · trivial
    · refine .bind (hallowed.upsert ?_) fun _ => trivial
      exact fun _ => .inr hdisabled
  · refine .bind ?_ fun _ => .bind ?_ fun _ => ?_
    · split
      · trivial
      · exact .bind (.wrapping (hprune _ _ _)) fun _ => .wrapping
          (.bind (.collect fun info _ => hallowed.reads
            (writesKinds_fetchRequestedDashboard info)) fun _ =>
              .forEach fun _ _ => hallowed.applyManifest (by decide))
    · exact .bind (.wrapping (hprune _ _ _)) fun _ => .wrapping
        (.forEach fun _ _ => .bind (hfetch _ _ _) fun _ =>
          .bind (uses_ofExcept _ _) fun _ =>
            hallowed.applyManifest (by decide))
    · exact .bind (.wrapping (hprune _ _ _)) fun _ => .wrapping
        (.forEach fun _ _ => .bind (hfetch _ _ _) fun _ =>
          .bind (uses_ofExcept _ _) fun _ =>
            hallowed.applyManifest (by decide))

theorem createPromtailDaemonsetFor (index : RepositoryIndex) :
    (createPromtailDaemonsetFor platform cr index).Uses allowed := by
  unfold ObservabilityOperator.createPromtailDaemonsetFor
  split
  · trivial
  · refine .bind (.bind (hallowed.listed fun _ => trivial) fun _ =>
      .bind (hallowed.upsert ?_) fun _ => trivial) fun _ =>
      .bind (hallowed.upsert ?_) fun _ => trivial
    · exact fun _ => managed_managedLabels
    · exact fun _ => managed_managedLabels

theorem syncPromtail : (syncPromtail platform cr indexes).Uses allowed :=
  .bind (.wrapping (hallowed.allowsReads.deleteUnrequestedDaemonsets
    (hallowed.delete _) _)) fun _ => .forEach fun index _ =>
      .wrapping (hallowed.createPromtailDaemonsetFor index)

theorem assignSyncTime : (assignSyncTime cr).Uses allowed :=
  hallowed.allowsReads.assignSyncTime hallowed.setLastSynced

end AllowsConfiguration

end ObservabilityOperator
