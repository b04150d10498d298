import ObservabilityOperator.ComponentStages
import ObservabilityOperator.LoggingInstallation

/-!
# The reconcilers of the stages

Every stage has a part for installations and a part for clean-ups.  An
installation stage is told whether the migration of names is over, which is
kept in the status to be written next.
-/

namespace ObservabilityOperator

structure StageReconciler where
  reconcile : Observability → Bool → Go ObservabilityStageStatus
  cleanup : Observability → Go ObservabilityStageStatus

def getReconcilerForStage (platform : Platform) (order : IterationOrder) :
    ObservabilityStageName → StageReconciler
  | .prometheusInstallation =>
    { reconcile := fun cr _ => PrometheusInstallation.reconcile cr
      cleanup := PrometheusInstallation.cleanup }
  | .prometheusConfiguration =>
    { reconcile := fun cr _ => PrometheusConfiguration.reconcile platform cr
      cleanup := PrometheusConfiguration.cleanup }
  | .grafanaInstallation =>
    { reconcile := fun cr _ => GrafanaInstallation.reconcile cr
      cleanup := GrafanaInstallation.cleanup }
  | .grafanaConfiguration =>
    { reconcile := fun cr _ => GrafanaConfiguration.reconcile platform cr
      cleanup := GrafanaConfiguration.cleanup }
  | .csv =>
    { reconcile := fun cr _ => CsvStage.reconcile cr
      cleanup := CsvStage.cleanup }
  | .tokenRequest =>
    { reconcile := fun _ _ => TokenStage.reconcile
      cleanup := TokenStage.cleanup }
  | .promtailInstallation =>
    { reconcile := fun cr _ => PromtailInstallation.reconcile cr
      cleanup := PromtailInstallation.cleanup }
  | .alertmanagerInstallation =>
    { reconcile := fun cr _ =>
        AlertmanagerInstallation.reconcile platform cr
      cleanup := AlertmanagerInstallation.cleanup }
  | .configuration =>
    { reconcile := reconcileStage platform order
      cleanup := cleanupStage }
  | .loggingInstallation =>
    { reconcile := fun cr _ => LoggingInstallation.reconcile cr
      cleanup := LoggingInstallation.cleanup }
  | .migration =>
    { reconcile := Migration.reconcile
      cleanup := fun _ => .done .success }

end ObservabilityOperator
