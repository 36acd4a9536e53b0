import ContinuityOS.Domain

/-! # Corridor factors and states -/
namespace ContinuityOS

inductive CorridorFactor where
  | ice | weather | traffic | port | communications | cyber | dataTrust | commercial
  | geopolitical | escort | inventory
deriving DecidableEq

/-- The members in declaration order. -/
def CorridorFactor.all : List CorridorFactor :=
  [.ice, .weather, .traffic, .port, .communications, .cyber, .dataTrust, .commercial,
    .geopolitical, .escort, .inventory]

def CorridorFactor.value : CorridorFactor → String
  | .ice => "ice"
  | .weather => "weather"
  | .traffic => "traffic"
  | .port => "port"
  | .communications => "communications"
  | .cyber => "cyber"
  | .dataTrust => "data_trust"
  | .commercial => "commercial"
  | .geopolitical => "geopolitical"
  | .escort => "escort"
  | .inventory => "inventory"

inductive CorridorState where
  | opened
  | openDegraded
  | openCapacityConstrained
  | openButUninsurable
  | openButNoCarrierCapacity
  | openButNavigationUntrusted
  | openButCommunicationsDegraded
  | openButServiceDependent
  | recoveryBacklogged
  | functionallyClosed
  | physicallyClosed
  | unknown
deriving DecidableEq

def CorridorState.value : CorridorState → String
  | .opened => "open"
  | .openDegraded => "open_degraded"
  | .openCapacityConstrained => "open_capacity_constrained"
  | .openButUninsurable => "open_but_uninsurable"
  | .openButNoCarrierCapacity => "open_but_no_carrier_capacity"
  | .openButNavigationUntrusted => "open_but_navigation_untrusted"
  | .openButCommunicationsDegraded => "open_but_communications_degraded"
  | .openButServiceDependent => "open_but_service_dependent"
  | .recoveryBacklogged => "recovery_backlogged"
  | .functionallyClosed => "functionally_closed"
  | .physicallyClosed => "physically_closed"
  | .unknown => "unknown"

/-- A point in time, in microseconds. -/
abbrev Instant := ℤ

end ContinuityOS
