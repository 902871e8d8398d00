import TransportHandler.Handler.Sol

/-!
# DHCP mode of one family

`setDHCPv4Property` keeps the IPv6 half of the mode, except when IPv4 is turned off while
only IPv6 is on.
-/

namespace Ipmi.Transport

def DHCPConf.v4On : DHCPConf → Bool
  | .both | .v4 => true
  | _ => false

def DHCPConf.v6On : DHCPConf → Bool
  | .both | .v6 => true
  | _ => false

def ipSrcRequest (requestedDhcp : DHCPConf) : Prop := requestedDhcp = .v4 ∨ requestedDhcp = .none

theorem nextDhcp_v4On {currentDhcp requestedDhcp : DHCPConf} (request : ipSrcRequest requestedDhcp) :
    (nextDhcp .v4 .v6 currentDhcp requestedDhcp).v4On = (requestedDhcp == .v4) := by
  rcases request with rfl | rfl <;> cases currentDhcp <;> rfl

/-- One channel, `eth0`, with DHCP on for IPv6 only. -/
def dhcpv6Platform : Platform := .ofNames [(1, "eth0")] 15 15

def dhcpv6State : State :=
  .init (.ofObjs [⟨.iface "eth0", .ethernet .v6 (Mathlib.Vector.replicate 6 2)⟩] none none []
    (by decide) (by decide)) ⟨[], none⟩

/-- Bug: Set IPSrc Static with DHCPv6 on succeeds and turns DHCP off for both families. -/
theorem ipSrc_static_clears_dhcpv6 :
    (dhcpv6State.net.getDHCP (.iface "eth0")).toOption = some .v6 ∧
    respond (setLan dhcpv6Platform 1 1 0 4 [1] dhcpv6State).1 = responseSuccess ∧
    ((setLan dhcpv6Platform 1 1 0 4 [1] dhcpv6State).2.net.getDHCP (.iface "eth0")).toOption =
      some .none := by
  decide

end Ipmi.Transport
