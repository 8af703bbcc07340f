import Rios.Device

/-!
# OSPFv2 link-state advertisements

The five supported types with their bodies, and the identity of an
advertisement within its flooding scope.
-/

namespace Rios.Ospf
open Rios.Device

/-- The supported area-local and AS-external types. -/
inductive LsaType where
  | Router
  | Network
  | Summary
  | AsbrSummary
  | External
deriving DecidableEq

namespace LsaType

/-- `LsaType as u8`. -/
def byte : LsaType → UInt8
  | .Router => 1
  | .Network => 2
  | .Summary => 3
  | .AsbrSummary => 4
  | .External => 5

theorem byte_injective : Function.Injective byte := by
  intro a b same
  cases a <;> cases b <;> first | rfl | cases same

end LsaType

/-- Identity of one advertisement within its flooding scope. -/
structure LsaKey where
  kind : LsaType
  link_state_id : Ipv4Addr
  advertising_router : Ipv4Addr
deriving DecidableEq

/-- The derived `Ord`. -/
instance keyLinearOrder : LinearOrder LsaKey :=
  LinearOrder.lift' (fun key => toLex (key.kind.byte,toLex (key.link_state_id,key.advertising_router))) (by
    rintro ⟨kind,id,router⟩ ⟨kind',id',router'⟩ same
    obtain ⟨kinds,rest⟩ := Prod.mk.inj (toLex.injective same)
    obtain ⟨ids,routers⟩ := Prod.mk.inj (toLex.injective rest)
    cases LsaType.byte_injective kinds
    cases ids
    cases routers
    rfl)

/-- Link types of a router advertisement. -/
inductive RouterLinkType where
  | PointToPoint
  | Transit
  | Stub
  | Virtual
deriving DecidableEq

/-- One link of a router advertisement. -/
structure RouterLink where
  id : Ipv4Addr
  data : Ipv4Addr
  kind : RouterLinkType
  metric : UInt16
deriving DecidableEq

/-- Bodies of the supported types. -/
inductive LsaBody where
  | Router (flags : UInt8) (links : List RouterLink)
  | Network (mask : Ipv4Addr) (routers : List Ipv4Addr)
  | Summary (mask : Ipv4Addr) (metric : UInt32)
  | AsbrSummary (metric : UInt32)
  | External (mask : Ipv4Addr) (metric : UInt32) (type_two : Bool) (forwarding_address : Ipv4Addr) (tag : UInt32)
deriving DecidableEq

/-- The type that a body belongs to. -/
def LsaBody.kind : LsaBody → LsaType
  | .Router .. => .Router
  | .Network .. => .Network
  | .Summary .. => .Summary
  | .AsbrSummary .. => .AsbrSummary
  | .External .. => .External

/-- An advertisement; checksum and length derive from its body. -/
structure Lsa where
  age : UInt16
  options : UInt8
  link_state_id : Ipv4Addr
  advertising_router : Ipv4Addr
  sequence : Int32
  body : LsaBody
deriving DecidableEq

def LSA_MAX_AGE : UInt16 := 3600

/-- Identity derived from body type and advertising router. -/
def Lsa.key (self : Lsa) : LsaKey := ⟨self.body.kind,self.link_state_id,self.advertising_router⟩

end Rios.Ospf
