import VerticalPodAutoscaler.Api.Quantity
import VerticalPodAutoscaler.Api.Core
import VerticalPodAutoscaler.Updater.Priority
import VerticalPodAutoscaler.Updater.PrioritySpec
import VerticalPodAutoscaler.Updater.ResourceDiff
import VerticalPodAutoscaler.Updater.Sort
import VerticalPodAutoscaler.Updater.Calculator
import VerticalPodAutoscaler.Limitrange.Calculator
import VerticalPodAutoscaler.Target.Fetcher
import VerticalPodAutoscaler.Admission.Json
import VerticalPodAutoscaler.Admission.Decode
import VerticalPodAutoscaler.Admission.Review
import VerticalPodAutoscaler.Admission.Provider
import VerticalPodAutoscaler.Admission.Patches
import VerticalPodAutoscaler.Admission.PatchOrder
import VerticalPodAutoscaler.Admission.Pointer
import VerticalPodAutoscaler.Admission.PodDocument
import VerticalPodAutoscaler.Admission.PatchSteps
import VerticalPodAutoscaler.Admission.PatchApply
import VerticalPodAutoscaler.Admission.Server
import VerticalPodAutoscaler.Recommender.Routines
import VerticalPodAutoscaler.Recommender.Schedule
import VerticalPodAutoscaler.Admission.Webhook
