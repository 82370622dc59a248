import VirtualKubelet.Config.Merge

/-!
# The families with lists of entries

The writers registered for IOS-XE whose block is a list of entries, with the
name the list stands under and what tells one entry from another. The merger of
the scopes is told the key fields of some of these lists by `KeyRulesForXE`.
-/

namespace VirtualKubelet.Config

open Go

def ethernetTypes : List String :=
  ["GigabitEthernet", "TwoGigabitEthernet", "FiveGigabitEthernet", "TenGigabitEthernet",
    "TwentyFiveGigE", "FortyGigabitEthernet", "HundredGigE", "TwoHundredGigE", "FourHundredGigE"]

/-- What the `Diff` of a writer tells the desired entries apart by. -/
inductive Identity
  /-- The text of one field: the generic writers. -/
  | field (keyField : String)
  | vlanID
  | poolName
  /-- The type and the name of an Ethernet port. -/
  | port
  deriving DecidableEq

namespace Identity

def fields : Identity → List String
  | field keyField => [keyField]
  | vlanID => ["id"]
  | poolName => ["name"]
  | port => ["type", "name"]

variable [Formatting]

/-- The identity of an entry, `none` if `Diff` refuses it. -/
def of (i : Identity) (e : Fields) : Option (List String) :=
  match i with
  | field keyField => (entryKey e keyField).toOption.map fun key => [key]
  | vlanID => (VLANWriter.vlanID e).toOption.map fun id => [decimal id.toInt]
  | poolName =>
    match e.find "name" with
    | none => none
    | some raw =>
      if DHCPWriter.sprintPoolName raw = "" then none else some [DHCPWriter.sprintPoolName raw]
  | port =>
    match e.find "type", e.find "name" with
    | some (.text t), some (.text n) =>
      if t = "" ∨ n = "" then none
      else if ethernetTypes.contains t then some [t, n]
      else none
    | _, _ => none

end Identity

structure ListFamily where
  family : String
  innerKey : String
  identity : Identity
  deriving DecidableEq

/-- The registered writers of lists of entries. -/
def listFamilies : List ListFamily :=
  [{ family := "access_list_extended", innerKey := "extended", identity := .field "name" },
    { family := "access_list_standard", innerKey := "standard", identity := .field "name" },
    { family := "class_map", innerKey := "class_maps", identity := .field "name" },
    { family := "crypto_ikev2_profile", innerKey := "profiles", identity := .field "name" },
    { family := "crypto_ipsec_profile", innerKey := "profiles", identity := .field "name" },
    { family := "crypto_ipsec_transform_set", innerKey := "transform_sets",
      identity := .field "tag" },
    { family := "crypto_map", innerKey := "maps", identity := .field "name" },
    { family := "crypto_pki_trustpoint", innerKey := "trustpoints", identity := .field "id" },
    { family := "dhcp", innerKey := "pools", identity := .poolName },
    { family := "eigrp", innerKey := "processes", identity := .field "id" },
    { family := "interface_ethernet", innerKey := "interfaces", identity := .port },
    { family := "interface_loopback", innerKey := "interfaces", identity := .field "name" },
    { family := "interface_port_channel", innerKey := "interfaces", identity := .field "name" },
    { family := "interface_switchport", innerKey := "interfaces", identity := .port },
    { family := "interface_tunnel", innerKey := "interfaces", identity := .field "name" },
    { family := "interface_virtual_port_group", innerKey := "interfaces",
      identity := .field "id" },
    { family := "interface_vlan", innerKey := "interfaces", identity := .field "name" },
    { family := "ip_as_path_access_list", innerKey := "as_path_access_lists",
      identity := .field "name" },
    { family := "ip_nat_pool", innerKey := "pools", identity := .field "id" },
    { family := "ipv6_access_list_extended", innerKey := "acls", identity := .field "name" },
    { family := "ipv6_access_list_standard", innerKey := "acls", identity := .field "name" },
    { family := "ipv6_prefix_list", innerKey := "prefixes", identity := .field "name" },
    { family := "isis", innerKey := "processes", identity := .field "tag" },
    { family := "line", innerKey := "vty", identity := .field "first" },
    { family := "ntp", innerKey := "servers", identity := .field "name" },
    { family := "ospf", innerKey := "processes", identity := .field "id" },
    { family := "policy_map", innerKey := "policy_maps", identity := .field "name" },
    { family := "prefix_list", innerKey := "prefixes", identity := .field "name" },
    { family := "radius_server", innerKey := "servers", identity := .field "id" },
    { family := "route_map", innerKey := "route_maps", identity := .field "name" },
    { family := "static_route", innerKey := "routes", identity := .field "prefix" },
    { family := "tacacs_server", innerKey := "servers", identity := .field "name" },
    { family := "track", innerKey := "tracks", identity := .field "name" },
    { family := "username", innerKey := "users", identity := .field "name" },
    { family := "vlan", innerKey := "vlans", identity := .vlanID },
    { family := "vrf", innerKey := "vrfs", identity := .field "name" }]

def keyRulesForXE : KeyRules :=
  [("vlan.vlans", "id"), ("vrf.vrfs", "name"), ("interface_ethernet.interfaces", "name"),
    ("interface_loopback.interfaces", "name"), ("interface_virtual_port_group.interfaces", "id"),
    ("dhcp.pools", "name"), ("access_list_extended.extended", "name")].foldl
      (fun rules rule => rules.set rule.1 rule.2) ∅

end VirtualKubelet.Config
