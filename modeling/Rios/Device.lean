import Rios.Machine

/-!
# Addresses and device types

IPv4 addresses are their `u32` values; a network holds its prefix length and an
address whose host bits are clear.
-/

namespace Rios.Device
open Rios.Machine

/-- `std::net::Ipv4Addr`, as `u32::from` reads it. -/
abbrev Ipv4Addr := UInt32
/-- `InterfaceId(u64)`. -/
abbrev InterfaceId := UInt64

/-- A six-octet Ethernet address. -/
@[ext] structure MacAddress where
  octets : Vector UInt8 6
deriving DecidableEq

/-- The derived `Ord`: octets are compared from the first one on. -/
instance macLinearOrder : LinearOrder MacAddress :=
  LinearOrder.lift' (fun mac => mac.octets.toList) (fun _ _ same => MacAddress.ext (Vector.toList_inj.mp same))

/-- The first octet of an address. -/
def first_octet (address : Ipv4Addr) : UInt32 := address >>> 24

inductive AddressError where
  | InvalidPrefix
  | InvalidMask
deriving DecidableEq

/-- The mask of a prefix length of at most 32. -/
def mask_of (prefix_len : UInt8) : UInt32 := if prefix_len = 0 then 0 else 0xffffffff <<< (32 - prefix_len.toUInt32)

/-- Masking with high ones rounds down. -/
private theorem and_high_ones {x k : Nat} (within : k ≤ 32) (small : x < 2 ^ 32) :
    x &&& ((2 ^ (32 - k) - 1) <<< k) = x / 2 ^ k * 2 ^ k := by
  rw [← Nat.shiftRight_eq_div_pow,← Nat.shiftLeft_eq]
  apply Nat.eq_of_testBit_eq
  intro i
  rw [Nat.testBit_and,Nat.testBit_shiftLeft,Nat.testBit_shiftLeft,Nat.testBit_shiftRight,Nat.testBit_two_pow_sub_one]
  by_cases low : k ≤ i
  · have back : k + (i - k) = i := by omega
    by_cases inside : i - k < 32 - k
    · simp [low,inside,back]
    · have beyond : x < 2 ^ i := lt_of_lt_of_le small (Nat.pow_le_pow_right (by norm_num) (by omega))
      simp [Nat.testBit_lt_two_pow beyond,back]
  · simp [low]

/-- Masking keeps the prefix and clears the host bits. -/
theorem mask_of_toNat (address : Ipv4Addr) {prefix_len : UInt8} (valid : prefix_len ≤ 32) :
    (address &&& mask_of prefix_len).toNat =
      address.toNat / 2 ^ (32 - prefix_len.toNat) * 2 ^ (32 - prefix_len.toNat) := by
  have small : prefix_len.toNat ≤ 32 := UInt8.le_iff_toNat_le.mp valid
  have mask : ∀ p : Nat, p ≤ 32 → (mask_of (UInt8.ofNat p)).toNat = (2 ^ (32 - (32 - p)) - 1) <<< (32 - p) := by
    intro p inside
    interval_cases p <;> rfl
  have here := mask prefix_len.toNat small
  rw [UInt8.ofNat_toNat] at here
  rw [UInt32.toNat_and,here]
  exact and_high_ones (by omega) address.toNat_lt

/-- IPv4 prefix normalized to its network address. -/
structure Ipv4Network where
  address : Ipv4Addr
  prefix_len : UInt8
  valid : prefix_len ≤ 32
  normal : address &&& mask_of prefix_len = address
deriving DecidableEq

namespace Ipv4Network

/-- Normalize an address to the requested prefix. -/
def new (address : Ipv4Addr) (prefix_len : UInt8) : Except AddressError Ipv4Network :=
  if valid : prefix_len ≤ 32 then
    .ok ⟨address &&& mask_of prefix_len,prefix_len,valid,by rw [UInt32.and_assoc,UInt32.and_self]⟩
  else .error .InvalidPrefix

/-- Dotted-decimal subnet mask. -/
def mask (self : Ipv4Network) : Ipv4Addr := mask_of self.prefix_len

/-- Last address in the prefix. -/
def broadcast (self : Ipv4Network) : Ipv4Addr := self.address ||| ~~~self.mask

/-- Whether an address belongs to this prefix. -/
def contains (self : Ipv4Network) (address : Ipv4Addr) : Bool :=
  match new address self.prefix_len with
  | .ok network => network = self
  | .error _ => false

theorem ext_iff {first second : Ipv4Network} :
    first = second ↔ first.address = second.address ∧ first.prefix_len = second.prefix_len := by
  constructor
  · rintro rfl; exact ⟨rfl,rfl⟩
  · obtain ⟨a,p,_,_⟩ := first
    obtain ⟨b,q,_,_⟩ := second
    rintro ⟨address,prefix_len⟩
    simp only at address prefix_len
    subst address prefix_len
    rfl

/-- The derived `Ord`: the address first, then the length. -/
instance networkLinearOrder : LinearOrder Ipv4Network :=
  LinearOrder.lift' (fun network => toLex (network.address,network.prefix_len)) (fun _ _ same =>
    ext_iff.mpr (Prod.mk.inj (toLex.injective same)))

theorem contains_iff (self : Ipv4Network) (address : Ipv4Addr) :
    self.contains address = true ↔ address &&& self.mask = self.address := by
  rw [contains,new,dif_pos self.valid,decide_eq_true_iff,ext_iff]
  exact and_iff_left rfl

/-- The number of addresses of a prefix. -/
def span (self : Ipv4Network) : Nat := 2 ^ (32 - self.prefix_len.toNat)

theorem span_pos (self : Ipv4Network) : 0 < self.span := Nat.two_pow_pos _

/-- The block that a prefix is. -/
theorem address_block (self : Ipv4Network) : self.address.toNat = self.address.toNat / self.span * self.span := by
  have rounded := mask_of_toNat self.address self.valid
  rw [self.normal] at rounded
  exact rounded

theorem broadcast_toNat (self : Ipv4Network) : self.broadcast.toNat = self.address.toNat + (self.span - 1) := by
  have small : self.prefix_len.toNat ≤ 32 := UInt8.le_iff_toNat_le.mp self.valid
  have hosts : ∀ p : Nat, p ≤ 32 → (~~~mask_of (UInt8.ofNat p)).toNat = 2 ^ (32 - p) - 1 := by
    intro p inside
    interval_cases p <;> rfl
  have here := hosts self.prefix_len.toNat small
  rw [UInt8.ofNat_toNat] at here
  have block := self.address_block
  have below : self.span - 1 < 2 ^ (32 - self.prefix_len.toNat) := Nat.sub_lt self.span_pos one_pos
  have shifted := Nat.shiftLeft_add_eq_or_of_lt below (self.address.toNat / self.span)
  rw [Nat.shiftLeft_eq] at shifted
  rw [broadcast,mask,UInt32.toNat_or,here,block]
  exact shifted.symm

/-- The addresses of a prefix are those from its network address to its broadcast address. -/
theorem within_iff (self : Ipv4Network) (id : Ipv4Addr) :
    id &&& self.mask = self.address ↔ self.address.toNat ≤ id.toNat ∧ id.toNat ≤ self.broadcast.toNat := by
  have rounded : (id &&& self.mask).toNat = id.toNat / self.span * self.span := mask_of_toNat id self.valid
  have block := self.address_block
  have positive := self.span_pos
  rw [← UInt32.toNat_inj,rounded,broadcast_toNat]
  constructor
  · intro same
    have division := Nat.div_add_mod' id.toNat self.span
    have remainder := Nat.mod_lt id.toNat positive
    omega
  · rintro ⟨above,below⟩
    have quotient : id.toNat / self.span = self.address.toNat / self.span := by
      rw [Nat.div_eq_iff positive,← block]
      omega
    rw [quotient,← block]

end Ipv4Network

/-- An interface address with its prefix length. -/
structure Ipv4InterfaceConfig where
  address : Ipv4Addr
  prefix_len : UInt8
  valid : prefix_len ≤ 32
deriving DecidableEq

/-- Validate a prefix length before constructing an address. -/
def Ipv4InterfaceConfig.new (address : Ipv4Addr) (prefix_len : UInt8) : Except AddressError Ipv4InterfaceConfig :=
  if valid : prefix_len ≤ 32 then .ok ⟨address,prefix_len,valid⟩ else .error .InvalidPrefix

/-- `u32::leading_ones`. -/
def leading_ones (bits : UInt32) : UInt8 :=
  UInt8.ofNat ((List.range 32).takeWhile (fun i => bits &&& (1 <<< UInt32.ofNat (31 - i)) ≠ 0)).length

/-- An address with the length of a mask, if the mask is contiguous. -/
def Ipv4InterfaceConfig.from_mask (address mask : Ipv4Addr) : Except AddressError Ipv4InterfaceConfig :=
  match Ipv4InterfaceConfig.new address (leading_ones mask) with
  | .error error => .error error
  | .ok result => if mask_of result.prefix_len ≠ mask then .error .InvalidMask else .ok result

inductive DeviceType where
  | Router
  | Switch
  | Layer3Switch
  | Host
deriving DecidableEq

def DeviceType.supports_routing : DeviceType → Bool
  | .Router | .Layer3Switch => true
  | .Switch | .Host => false

/-- The errors of the modelled setters. -/
inductive DeviceError where
  | DhcpUnsupported
  | InvalidDhcpPoolName
  | MissingDhcpPool
  | InvalidDhcpNetwork
deriving DecidableEq

end Rios.Device
