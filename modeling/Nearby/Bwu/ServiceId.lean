import Mathlib.Data.List.Infix

/-! `service_id.rs`: the initiator records an upgrade under the service id with an
`_UPGRADE` postfix, the responder under the raw one. -/

namespace Nearby.Bwu

def unknownServiceId : String := "UNKNOWN_SERVICE"

def initiatorUpgradeServiceIdPostfix : String := "_UPGRADE"

def isInitiatorUpgradeServiceId (serviceId : String) : Bool :=
  serviceId ≠ "" && decide (initiatorUpgradeServiceIdPostfix.toList <:+ serviceId.toList)

def wrapInitiatorUpgradeServiceId (serviceId : String) : String :=
  if serviceId = "" ∨ isInitiatorUpgradeServiceId serviceId then serviceId
  else serviceId ++ initiatorUpgradeServiceIdPostfix

/-- Once a postfix is found, `strip_suffix` cannot fail. -/
def unwrapInitiatorUpgradeServiceId (serviceId : String) : String :=
  if serviceId = "" ∨ ¬ isInitiatorUpgradeServiceId serviceId then serviceId
  else .ofList
    (serviceId.toList.take
      (serviceId.toList.length - initiatorUpgradeServiceIdPostfix.toList.length))

theorem isInitiator_append (s : String) :
    isInitiatorUpgradeServiceId (s ++ initiatorUpgradeServiceIdPostfix) = true := by
  have hne : s ++ initiatorUpgradeServiceIdPostfix ≠ "" := by
    intro h
    have h' := congrArg (fun t => t.toList.length) h
    simp [initiatorUpgradeServiceIdPostfix] at h'
  simp [isInitiatorUpgradeServiceId, hne, String.toList_append]

theorem isInitiator_wrap {s : String} (h : s ≠ "") :
    isInitiatorUpgradeServiceId (wrapInitiatorUpgradeServiceId s) = true := by
  unfold wrapInitiatorUpgradeServiceId
  split
  case isTrue hs => exact hs.resolve_left h
  case isFalse => exact isInitiator_append s

theorem wrap_of_isInitiator {s : String} (h : isInitiatorUpgradeServiceId s = true) :
    wrapInitiatorUpgradeServiceId s = s :=
  if_pos (.inr h)

/-- An id that ends in the postfix by itself is wrapped already, and comes back shorter. -/
theorem unwrap_wrap {s : String} (h : isInitiatorUpgradeServiceId s = false) :
    unwrapInitiatorUpgradeServiceId (wrapInitiatorUpgradeServiceId s) = s := by
  by_cases hs : s = ""
  · subst hs
    rfl
  have hwrap : wrapInitiatorUpgradeServiceId s = s ++ initiatorUpgradeServiceIdPostfix :=
    if_neg (by simp [hs, h])
  have hinit := isInitiator_append s
  have hne : s ++ initiatorUpgradeServiceIdPostfix ≠ "" := by
    intro heq
    rw [heq] at hinit
    cases hinit
  rw [hwrap, unwrapInitiatorUpgradeServiceId, if_neg (by simp [hne, hinit]), String.toList_append,
    List.length_append, Nat.add_sub_cancel, List.take_left, String.ofList_toList]

example : wrapInitiatorUpgradeServiceId "ServiceA" = "ServiceA_UPGRADE" := by decide
example : wrapInitiatorUpgradeServiceId "ServiceA_UPGRADE" = "ServiceA_UPGRADE" := by decide
example : unwrapInitiatorUpgradeServiceId "ServiceA_UPGRADE" = "ServiceA" := by decide

end Nearby.Bwu
