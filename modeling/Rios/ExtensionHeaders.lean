import Rios.OspfV3NormalForm

/-!
# IPv6 extension headers

The walk over the headers between the fixed header of a packet and its upper
layer. A chain of headers is described apart from the walk, header by header from
the front; the walk accepts the chains and nothing else, and its pointers name
the octet it rejects.
-/

namespace Rios.Ipv6
open Rios.Wire

/-- `NextHeader::from`. -/
def NextHeader.from_number (value : UInt8) : NextHeader :=
  if value = 0 then .HopByHop else if value = 6 then .Tcp else if value = 17 then .Udp else if value = 43 then .Routing
  else if value = 44 then .Fragment else if value = 50 then .Esp else if value = 51 then .Authentication
  else if value = 58 then .Icmpv6 else if value = 59 then .NoNextHeader else if value = 60 then .DestinationOptions
  else if value = 89 then .Ospf else .Other value

theorem NextHeader.number_from_number (value : UInt8) : (NextHeader.from_number value).number = value := by
  unfold NextHeader.from_number
  split_ifs <;> simp_all [NextHeader.number]

/-- Upper-layer payload behind validated extensions. -/
structure UpperLayer where
  protocol : NextHeader
  payload : List UInt8
  next_header_offset : UInt32
  had_fragment_header : Bool
deriving DecidableEq

/-! ### Options of a header -/

/-- One option, at a position of the body. -/
def option_round (base : Nat) (multicast : Bool) (pos : Nat) (rest : List UInt8) : Except Ipv6PacketError (Nat × Nat) :=
  let kind := rest.getD 0 0
  if kind = 0 then .ok (pos + 1,0)
  else
    match rest[1]? with
    | none => .error .Malformed
    | some length =>
      match slice? rest 2 length.toNat with
      | none => .error .Malformed
      | some data =>
        let next := (pos + 2 + length.toNat,1 + length.toNat)
        -- PadN contents carry no semantics
        if kind = 1 then .ok next
        else if kind = 5 then if data.length = 2 then .ok next else .error .Malformed
        else if kind >>> 6 = 0 then .ok next
        else .error (.ParameterProblem (UInt32.ofNat (base + pos)) 2 (kind >>> 6 = 2 || kind >>> 6 = 3 && !multicast))

def validate_options (body : List UInt8) (base : Nat) (multicast : Bool) : Except Ipv6PacketError Unit :=
  (while_nonempty (option_round base multicast) 2 (body.drop 2)).map (fun _ => ())

/-! ### The walk -/

/-- The variables of the loop. -/
structure Walk where
  offset : Nat
  next : NextHeader
  next_offset : UInt32
  had_fragment_header : Bool

namespace Ipv6Packet

/-- What a header holds besides its length. -/
def check_body (self : Ipv6Packet) (next : NextHeader) (body : List UInt8) (base : Nat) : Except Ipv6PacketError Unit :=
  if next = .Routing then if body.getD 3 0 ≠ 0 then .error (.ParameterProblem (UInt32.ofNat (base + 2)) 0 true) else .ok ()
  else validate_options body base (is_multicast self.destination)

/-- A header with its length in units of eight octets. -/
def sized_header (self : Ipv6Packet) (walk : Walk) : Except Ipv6PacketError Walk :=
  if walk.next = .HopByHop ∧ walk.offset ≠ 0 then .error (.ParameterProblem walk.next_offset 1 true)
  else
    match slice? self.payload walk.offset 2 with
    | none => .error .Malformed
    | some start =>
      let length := ((start.getD 1 0).toNat + 1) * 8
      match slice? self.payload walk.offset length with
      | none => .error .Malformed
      | some body =>
        match self.check_body walk.next body (40 + walk.offset) with
        | .error error => .error error
        | .ok () => .ok ⟨walk.offset + length,.from_number (body.getD 0 0),UInt32.ofNat (40 + walk.offset),walk.had_fragment_header⟩

def fragment_header (self : Ipv6Packet) (walk : Walk) : Except Ipv6PacketError Walk :=
  if walk.had_fragment_header then .error .Malformed
  else
    match slice? self.payload walk.offset 8 with
    | none => .error .Malformed
    | some body =>
      if u16_at body 2 &&& 0xfff9 ≠ 0 then .error .Fragmented
      else if body.getD 1 0 ≠ 0 ∨ body.getD 3 0 &&& 6 ≠ 0 then .error .Malformed
      else .ok ⟨walk.offset + 8,.from_number (body.getD 0 0),UInt32.ofNat (40 + walk.offset),true⟩

/-- One round of the loop: another header, or the upper layer. -/
def round (self : Ipv6Packet) (walk : Walk) : Except Ipv6PacketError (Walk ⊕ UpperLayer) :=
  match walk.next with
  | .HopByHop | .DestinationOptions | .Routing => (self.sized_header walk).map .inl
  | .Fragment => (self.fragment_header walk).map .inl
  | .Authentication | .Esp => .error .SecurityHeader
  | .NoNextHeader => .ok (.inr ⟨walk.next,[],walk.next_offset,walk.had_fragment_header⟩)
  | _ => .ok (.inr ⟨walk.next,self.payload.drop walk.offset,walk.next_offset,walk.had_fragment_header⟩)

def rounds (self : Ipv6Packet) : Nat → Walk → Except Ipv6PacketError UpperLayer
  | 0,_ => .error .ExtensionLimit
  | count + 1,walk =>
    match self.round walk with
    | .error error => .error error
    | .ok (.inl next) => self.rounds count next
    | .ok (.inr upper) => .ok upper

/-- Reject unsafe or unsupported extensions rather than treating their bytes as transport data. -/
def upper_layer (self : Ipv6Packet) : Except Ipv6PacketError UpperLayer := self.rounds 16 ⟨0,self.next_header,6,false⟩

end Ipv6Packet

/-! ### Chains of headers -/

/-- An area of options that parses to its end. -/
inductive Options : List UInt8 → Prop where
  | done : Options []
  | pad {rest : List UInt8} (others : Options rest) : Options (0 :: rest)
  | option {kind length : UInt8} {data rest : List UInt8} (named : kind ≠ 0) (sized : data.length = length.toNat)
    (skippable : kind >>> 6 = 0) (alert : kind = 5 → data.length = 2) (others : Options rest) :
    Options (kind :: length :: (data ++ rest))

/-- A complete extension header of a kind. -/
inductive ExtensionHeader : NextHeader → List UInt8 → Prop where
  | options {kind : NextHeader} {body : List UInt8} (named : kind = .HopByHop ∨ kind = .DestinationOptions)
    (sized : body.length = ((body.getD 1 0).toNat + 1) * 8) (parsed : Options (body.drop 2)) : ExtensionHeader kind body
  | routing {body : List UInt8} (sized : body.length = ((body.getD 1 0).toNat + 1) * 8) (arrived : body.getD 3 0 = 0) :
    ExtensionHeader .Routing body
  | fragment {body : List UInt8} (sized : body.length = 8) (whole : u16_at body 2 &&& 0xfff9 = 0) :
    ExtensionHeader .Fragment body

/-- Headers from one named in the fixed header to what the last of them names: hop-by-hop options only in front,
and one fragment header at most. -/
inductive Chain (first : NextHeader) : List (NextHeader × List UInt8) → NextHeader → Prop where
  | none : Chain first [] first
  | snoc {headers : List (NextHeader × List UInt8)} {kind : NextHeader} {body : List UInt8} (front : Chain first headers kind)
    (header : ExtensionHeader kind body) (hop : kind = .HopByHop → headers = [])
    (once : kind = .Fragment → ∀ other, (NextHeader.Fragment,other) ∉ headers) :
    Chain first (headers ++ [(kind,body)]) (.from_number (body.getD 0 0))

/-- The bytes of headers. -/
def octets_of (headers : List (NextHeader × List UInt8)) : List UInt8 := headers.flatMap Prod.snd

@[simp] theorem octets_of_snoc (headers : List (NextHeader × List UInt8)) (kind : NextHeader) (body : List UInt8) :
    octets_of (headers ++ [(kind,body)]) = octets_of headers ++ body := by
  simp [octets_of]

/-- The reserved bits of fragment headers are zero. -/
def Unreserved (headers : List (NextHeader × List UInt8)) : Prop :=
  ∀ body, (NextHeader.Fragment,body) ∈ headers → body.getD 1 0 = 0 ∧ body.getD 3 0 &&& 6 = 0

/-- Where a packet names what follows the headers. -/
def named_at (headers : List (NextHeader × List UInt8)) : Nat :=
  if headers = [] then 6 else 40 + (octets_of headers.dropLast).length

@[simp] theorem named_at_snoc (headers : List (NextHeader × List UInt8)) (kind : NextHeader) (body : List UInt8) :
    named_at (headers ++ [(kind,body)]) = 40 + (octets_of headers).length := by
  rw [named_at,if_neg (by simp),List.dropLast_concat]

/-- What is behind a chain, and in front of the payload of an upper layer. -/
def NextHeader.upper : NextHeader → Bool
  | HopByHop | DestinationOptions | Routing | Fragment | Authentication | Esp => false
  | _ => true

/-! ### Reading options -/

section OptionArea

variable {base pos next skip final : Nat} {multicast : Bool} {head : UInt8} {tail area : List UInt8}

/-- A round that goes on has read an option. -/
theorem option_round_ok (read : option_round base multicast pos (head :: tail) = .ok (next,skip)) :
    ∃ written rest, head :: tail = written ++ rest ∧ written.length = skip + 1 ∧ next = pos + (skip + 1) ∧
      ∀ others, Options others → Options (written ++ others) := by
  unfold option_round at read
  dsimp only at read
  rw [List.getD_cons_zero] at read
  by_cases pad : head = 0
  · rw [if_pos pad] at read
    cases read
    subst pad
    exact ⟨[0],tail,rfl,rfl,rfl,fun others parsed => .pad parsed⟩
  rw [if_neg pad] at read
  cases tail with
  | nil => cases read
  | cons length tail =>
    rw [List.getElem?_cons_succ,List.getElem?_cons_zero] at read
    dsimp only at read
    cases sliced : slice? (head :: length :: tail) 2 length.toNat with
    | none =>
      rw [sliced] at read
      cases read
    | some data =>
      rw [sliced] at read
      dsimp only at read
      obtain ⟨inside,taken,sized⟩ := slice?_eq_some sliced
      have split : head :: length :: tail = head :: length :: data ++ tail.drop length.toNat := by
        rw [taken,List.drop_succ_cons,List.drop_succ_cons,List.drop_zero,List.cons_append,List.cons_append,List.take_append_drop]
      have whole : (head :: length :: data).length = 1 + length.toNat + 1 := by
        rw [List.length_cons,List.length_cons,sized]
        omega
      have parse : head >>> 6 = 0 → (head = 5 → data.length = 2) →
          ∀ others, Options others → Options (head :: length :: data ++ others) :=
        fun skippable alert others parsed => .option pad sized skippable alert parsed
      by_cases padding : head = 1
      · rw [if_pos padding] at read
        cases read
        subst padding
        exact ⟨_,_,split,whole,by omega,parse (by decide) (fun impossible => absurd impossible (by decide))⟩
      rw [if_neg padding] at read
      by_cases alert : head = 5
      · rw [if_pos alert] at read
        by_cases two : data.length = 2
        · rw [if_pos two] at read
          cases read
          subst alert
          exact ⟨_,_,split,whole,by omega,parse (by decide) (fun _ => two)⟩
        · rw [if_neg two] at read
          cases read
      rw [if_neg alert] at read
      by_cases skippable : head >>> 6 = 0
      · rw [if_pos skippable] at read
        cases read
        exact ⟨_,_,split,whole,by omega,parse skippable (fun same => absurd same alert)⟩
      · rw [if_neg skippable] at read
        cases read

/-- An option that is reported is one that must not be skipped. -/
theorem option_round_problem {pointer : UInt32} {code : UInt8} {send_icmp : Bool}
    (read : option_round base multicast pos (head :: tail) = .error (.ParameterProblem pointer code send_icmp)) :
    pointer = UInt32.ofNat (base + pos) ∧ code = 2 ∧ head >>> 6 ≠ 0 := by
  unfold option_round at read
  dsimp only at read
  rw [List.getD_cons_zero] at read
  by_cases pad : head = 0
  · rw [if_pos pad] at read
    cases read
  rw [if_neg pad] at read
  cases following : (head :: tail)[1]? with
  | none =>
    rw [following] at read
    cases read
  | some length =>
    rw [following] at read
    dsimp only at read
    cases sliced : slice? (head :: tail) 2 length.toNat with
    | none =>
      rw [sliced] at read
      cases read
    | some data =>
      rw [sliced] at read
      dsimp only at read
      by_cases padding : head = 1
      · rw [if_pos padding] at read
        cases read
      rw [if_neg padding] at read
      by_cases alert : head = 5
      · rw [if_pos alert] at read
        by_cases two : data.length = 2
        · rw [if_pos two] at read
          cases read
        · rw [if_neg two] at read
          cases read
      rw [if_neg alert] at read
      by_cases skippable : head >>> 6 = 0
      · rw [if_pos skippable] at read
        cases read
      · rw [if_neg skippable] at read
        cases read
        exact ⟨rfl,rfl,skippable⟩

theorem options_rounds_ok (read : while_nonempty (option_round base multicast) pos area = .ok final) : Options area := by
  induction measured : area.length using Nat.strong_induction_on generalizing area pos with
  | _ size ih =>
    subst measured
    cases area with
    | nil => exact .done
    | cons head tail =>
      rw [while_nonempty_cons] at read
      cases first : option_round base multicast pos (head :: tail) with
      | error error =>
        rw [first] at read
        cases read
      | ok pair =>
        obtain ⟨next,skip⟩ := pair
        obtain ⟨written,rest,split,sized,-,parse⟩ := option_round_ok first
        rw [← while_nonempty_cons,split,while_nonempty_append (split ▸ first) sized] at read
        have less : rest.length < (head :: tail).length := by
          rw [split,List.length_append]
          omega
        have parsed := ih rest.length less read rfl
        rw [split]
        exact parse rest parsed

/-- The round that reports an option has parsed what stands before it. -/
theorem options_rounds_problem {pointer : UInt32} {code : UInt8} {send_icmp : Bool}
    (read : while_nonempty (option_round base multicast) pos area = .error (.ParameterProblem pointer code send_icmp)) :
    code = 2 ∧ ∃ (parsed : List UInt8) (kind : UInt8) (rest : List UInt8), area = parsed ++ kind :: rest ∧
      Options parsed ∧ kind >>> 6 ≠ 0 ∧
      pointer = UInt32.ofNat (base + pos + parsed.length) := by
  induction measured : area.length using Nat.strong_induction_on generalizing area pos with
  | _ size ih =>
    subst measured
    cases area with
    | nil => cases read
    | cons head tail =>
      rw [while_nonempty_cons] at read
      cases first : option_round base multicast pos (head :: tail) with
      | error error =>
        rw [first] at read
        cases read
        obtain ⟨here,rfl,critical⟩ := option_round_problem first
        exact ⟨rfl,[],head,tail,rfl,.done,critical,here⟩
      | ok pair =>
        obtain ⟨next,skip⟩ := pair
        obtain ⟨written,rest,split,sized,moved,parse⟩ := option_round_ok first
        rw [← while_nonempty_cons,split,while_nonempty_append (split ▸ first) sized] at read
        have less : rest.length < (head :: tail).length := by
          rw [split,List.length_append]
          omega
        obtain ⟨coded,parsed,kind,behind,joined,options,critical,here⟩ := ih rest.length less read rfl
        refine ⟨coded,written ++ parsed,kind,behind,?_,parse parsed options,critical,?_⟩
        · rw [split,joined,List.append_assoc]
        · rw [here,moved,List.length_append,sized]
          congr 1
          omega

theorem options_rounds_parsed (parsed : Options area) (base : Nat) (multicast : Bool) (pos : Nat) :
    ∃ final, while_nonempty (option_round base multicast) pos area = .ok final := by
  induction parsed generalizing pos with
  | done => exact ⟨pos,rfl⟩
  | pad others ih =>
    obtain ⟨final,rest⟩ := ih (pos + 1)
    have read : ∀ rest, option_round base multicast pos ([0] ++ rest) = .ok (pos + 1,0) := fun rest => rfl
    exact ⟨final,(while_nonempty_append (read _) rfl).trans rest⟩
  | @option kind length data rest named sized skippable alert others ih =>
    obtain ⟨final,behind⟩ := ih (pos + 2 + length.toNat)
    have sliced : slice? (kind :: length :: (data ++ rest)) 2 length.toNat = some data :=
      slice?_append [kind,length] data rest rfl sized
    have read : option_round base multicast pos (kind :: length :: data ++ rest) = .ok (pos + 2 + length.toNat,1 + length.toNat) := by
      unfold option_round
      dsimp only [List.cons_append]
      rw [List.getD_cons_zero,if_neg named,List.getElem?_cons_succ,List.getElem?_cons_zero]
      dsimp only
      rw [sliced]
      dsimp only
      by_cases padding : kind = 1
      · rw [if_pos padding]
      rw [if_neg padding]
      by_cases router : kind = 5
      · rw [if_pos router,if_pos (alert router)]
      · rw [if_neg router,if_pos skippable]
    have whole : (kind :: length :: data).length = 1 + length.toNat + 1 := by
      rw [List.length_cons,List.length_cons,sized]
      omega
    exact ⟨final,(while_nonempty_append read whole).trans behind⟩

theorem validate_options_eq_ok {body : List UInt8} : validate_options body base multicast = .ok () ↔
    Options (body.drop 2) := by
  rw [validate_options]
  constructor
  · intro valid
    cases read : while_nonempty (option_round base multicast) 2 (body.drop 2) with
    | error error =>
      rw [read] at valid
      cases valid
    | ok final => exact options_rounds_ok read
  · intro parsed
    obtain ⟨final,read⟩ := options_rounds_parsed parsed base multicast 2
    rw [read]
    rfl

theorem validate_options_problem {body : List UInt8} {pointer : UInt32} {code : UInt8} {send_icmp : Bool}
    (rejected : validate_options body base multicast = .error (.ParameterProblem pointer code send_icmp)) :
    code = 2 ∧ ∃ (parsed : List UInt8) (kind : UInt8) (rest : List UInt8), body.drop 2 = parsed ++ kind :: rest ∧
      Options parsed ∧ kind >>> 6 ≠ 0 ∧
      pointer = UInt32.ofNat (base + 2 + parsed.length) := by
  rw [validate_options] at rejected
  cases read : while_nonempty (option_round base multicast) 2 (body.drop 2) with
  | error error =>
    rw [read] at rejected
    cases rejected
    exact options_rounds_problem read
  | ok final =>
    rw [read] at rejected
    cases rejected

end OptionArea

/-! ### Walking a chain -/

theorem ExtensionHeader.sizes {kind : NextHeader} {body : List UInt8} (header : ExtensionHeader kind body) :
    8 ≤ body.length ∧ body.length ≤ 2048 ∧ kind.upper = false := by
  cases header with
  | options named sized parsed =>
    have small := (body.getD 1 0).toNat_lt
    refine ⟨by omega,by omega,?_⟩
    rcases named with rfl | rfl <;> rfl
  | routing sized arrived =>
    have small := (body.getD 1 0).toNat_lt
    exact ⟨by omega,by omega,rfl⟩
  | fragment sized whole => exact ⟨by omega,by omega,rfl⟩

theorem getD_take {bytes : List UInt8} {i count : Nat} (inside : i < count) :
    (bytes.take count).getD i 0 = bytes.getD i 0 := by
  rw [List.getD_eq_getElem?_getD,List.getElem?_take_of_lt inside,List.getD_eq_getElem?_getD]

section Chains

variable {first last : NextHeader} {headers : List (NextHeader × List UInt8)}

theorem Chain.sizes (chain : Chain first headers last) :
    8 * headers.length ≤ (octets_of headers).length ∧ (octets_of headers).length ≤ 2048 * headers.length := by
  induction chain with
  | none => exact ⟨le_rfl,le_rfl⟩
  | snoc front header hop once ih =>
    obtain ⟨long,short,-⟩ := header.sizes
    rw [octets_of_snoc,List.length_append,List.length_append,List.length_singleton]
    omega

theorem Chain.octets_eq_nil (chain : Chain first headers last) : (octets_of headers).length = 0 ↔ headers = [] := by
  constructor
  · intro empty
    have sizes := chain.sizes.1
    exact List.eq_nil_of_length_eq_zero (by omega)
  · rintro rfl
    rfl

end Chains

namespace Ipv6Packet

variable {self : Ipv6Packet} {bytes : List UInt8}

/-- The encoded packet: the octet that names what follows, and the payload behind forty octets. -/
theorem encode_octets (encoded : self.encode = .ok bytes) : bytes[6]? = some self.next_header.number ∧
    (∀ i, bytes[40 + i]? = self.payload[i]?) ∧ bytes.length = 40 + self.payload.length := by
  unfold encode at encoded
  by_cases large : 0x000fffff < self.flow_label ∨ 65535 < self.payload.length
  · rw [if_pos large] at encoded
    cases encoded
  rw [if_neg large] at encoded
  cases encoded
  generalize (0x60000000 : UInt32) ||| self.traffic_class.toUInt32 <<< 20 ||| self.flow_label = version
  refine ⟨?_,?_,?_⟩
  · rw [List.append_assoc,List.append_assoc,List.append_assoc,be32,be16]
    rfl
  · intro i
    rw [List.getElem?_append_right]
    · simp
    · simp
  · simp only [List.length_append,be32_length,be16_length,octets_length,List.length_cons,List.length_nil]

variable {headers : List (NextHeader × List UInt8)} {rest : List UInt8}

/-- The octet that names what follows a chain holds its number. -/
theorem named_octet {last : NextHeader} (chain : Chain self.next_header headers last)
    (payload : self.payload = octets_of headers ++ rest) (encoded : self.encode = .ok bytes) :
    bytes[named_at headers]? = some last.number := by
  obtain ⟨fixed,behind,-⟩ := encode_octets encoded
  cases chain with
  | none => exact fixed
  | @snoc headers kind body front header hop once =>
    have long := header.sizes.1
    rw [named_at_snoc,behind,payload,octets_of_snoc,List.append_assoc,List.getElem?_append_right le_rfl,Nat.sub_self,
      List.getElem?_append_left (by omega),NextHeader.number_from_number,List.getD_eq_getElem?_getD,List.getElem?_eq_getElem (by omega)]
    rfl

/-- A walk behind headers of a chain, in front of the rest of the payload. -/
structure Walked (packet : Ipv6Packet) (headers : List (NextHeader × List UInt8)) (walk : Walk) (rest : List UInt8) : Prop where
  payload : packet.payload = octets_of headers ++ rest
  offset : walk.offset = (octets_of headers).length
  chain : Chain packet.next_header headers walk.next
  unreserved : Unreserved headers
  fragment : walk.had_fragment_header = true ↔ ∃ body, (NextHeader.Fragment,body) ∈ headers
  named : walk.next_offset.toNat = named_at headers

theorem walked_start (self : Ipv6Packet) : self.Walked [] ⟨0,self.next_header,6,false⟩ self.payload where
  payload := rfl
  offset := rfl
  chain := .none
  unreserved := fun body impossible => absurd impossible List.not_mem_nil
  fragment := by simp
  named := rfl

/-- The octet that a pointer names: hop-by-hop options that are not in front, the type of a routing header with
segments left, or an option that must not be skipped. -/
inductive Offending (packet : Ipv6Packet) : UInt8 → Nat → Prop where
  | misplaced {before : List (NextHeader × List UInt8)} {kind : NextHeader} {body rest : List UInt8}
    (chain : Chain packet.next_header (before ++ [(kind,body)]) .HopByHop)
    (payload : packet.payload = octets_of (before ++ [(kind,body)]) ++ rest) :
    Offending packet 1 (40 + (octets_of before).length)
  | routing {headers : List (NextHeader × List UInt8)} {rest : List UInt8} (chain : Chain packet.next_header headers .Routing)
    (payload : packet.payload = octets_of headers ++ rest) (complete : ((rest.getD 1 0).toNat + 1) * 8 ≤ rest.length)
    (left : rest.getD 3 0 ≠ 0) : Offending packet 0 (40 + (octets_of headers).length + 2)
  | option {headers : List (NextHeader × List UInt8)} {kind : NextHeader} {rest parsed behind : List UInt8}
    {critical : UInt8}
    (chain : Chain packet.next_header headers kind) (named : kind = .HopByHop ∨ kind = .DestinationOptions)
    (payload : packet.payload = octets_of headers ++ rest)
    (area : (rest.take (((rest.getD 1 0).toNat + 1) * 8)).drop 2 = parsed ++ critical :: behind) (options : Options parsed)
    (unskippable : critical >>> 6 ≠ 0) : Offending packet 2 (40 + (octets_of headers).length + 2 + parsed.length)

/-- The octet is in the packet, and it is the one its code reports. -/
theorem Offending.octet {code : UInt8} {pointer : Nat} (offending : self.Offending code pointer)
    (encoded : self.encode = .ok bytes) :
    ∃ octet, bytes[pointer]? = some octet ∧ (code = 1 → octet = NextHeader.HopByHop.number) ∧
        (code = 2 → octet >>> 6 ≠ 0) := by
  obtain ⟨-,octets,-⟩ := encode_octets encoded
  cases offending with
  | misplaced chain payload =>
    have named := named_octet chain payload encoded
    rw [named_at_snoc] at named
    exact ⟨_,named,fun _ => rfl,fun impossible => absurd impossible (by decide)⟩
  | @routing headers rest chain payload complete left =>
    have inside : (octets_of headers).length + 2 < self.payload.length := by
      rw [payload,List.length_append]
      omega
    refine ⟨self.payload[(octets_of headers).length + 2],?_,fun impossible => absurd impossible (by decide),
      fun impossible => absurd impossible (by decide)⟩
    rw [Nat.add_assoc,octets,List.getElem?_eq_getElem inside]
  | @option headers kind rest parsed behind critical chain named payload area options unskippable =>
    have front : rest[2 + parsed.length]? = some critical := by
      have found : ((rest.take (((rest.getD 1 0).toNat + 1) * 8)).drop 2)[parsed.length]? = some critical := by
        rw [area,List.getElem?_append_right le_rfl,Nat.sub_self]
        rfl
      rw [List.getElem?_drop,List.getElem?_take] at found
      split_ifs at found with inside
      exact found
    refine ⟨critical,?_,fun impossible => absurd impossible (by decide),fun _ => unskippable⟩
    rw [Nat.add_assoc,Nat.add_assoc,octets,payload,List.getElem?_append_right (by omega),Nat.add_sub_cancel_left]
    exact front

section Step

variable {headers : List (NextHeader × List UInt8)} {walk next : Walk} {rest behind body : List UInt8}

theorem Walked.offset_zero (walked : self.Walked headers walk rest) : walk.offset = 0 ↔ headers = [] := by
  rw [walked.offset]
  exact walked.chain.octets_eq_nil

/-- Where the walk is, as a pointer into the packet. -/
theorem Walked.pointer (walked : self.Walked headers walk rest) (few : headers.length ≤ 15) {more : Nat}
    (near : more ≤ 4096) :
    (UInt32.ofNat (40 + walk.offset + more)).toNat = 40 + (octets_of headers).length + more := by
  have short := walked.chain.sizes.2
  rw [walked.offset,UInt32.toNat_ofNat_of_lt' (by simp only [UInt32.size]; omega)]

theorem Walked.slice (walked : self.Walked headers walk rest) (count : Nat) :
    slice? self.payload walk.offset count = if count ≤ rest.length then some (rest.take count) else none := by
  rw [slice?,walked.payload,walked.offset,List.length_append,List.drop_left]
  by_cases inside : count ≤ rest.length
  · rw [if_pos inside,if_pos (by omega)]
  · rw [if_neg inside,if_neg (by omega)]

/-- One more header. -/
theorem Walked.extend (walked : self.Walked headers walk rest) (few : headers.length ≤ 15)
    (header : ExtensionHeader walk.next body) (split : rest = body ++ behind)
    (hop : walk.next = .HopByHop → walk.offset = 0) (once : walk.next = .Fragment → walk.had_fragment_header = false)
    (reserved : walk.next = .Fragment → body.getD 1 0 = 0 ∧ body.getD 3 0 &&& 6 = 0) (had : Bool)
    (fragment : had = true ↔ walk.had_fragment_header = true ∨ walk.next = .Fragment) :
    self.Walked (headers ++ [(walk.next,body)])
      ⟨walk.offset + body.length,.from_number (body.getD 0 0),UInt32.ofNat (40 + walk.offset),had⟩ behind where
  payload := by rw [walked.payload,split,octets_of_snoc,List.append_assoc]
  offset := by
    dsimp only
    rw [octets_of_snoc,List.length_append,walked.offset]
  chain := by
    refine .snoc walked.chain header (fun first => walked.offset_zero.mp (hop first)) ?_
    intro named other member
    have had := walked.fragment.mpr ⟨other,member⟩
    rw [once named] at had
    cases had
  unreserved := by
    intro other member
    rcases List.mem_append.mp member with earlier | last
    · exact walked.unreserved other earlier
    · obtain ⟨named,rfl⟩ := Prod.mk.inj (List.mem_singleton.mp last)
      exact reserved named.symm
  fragment := by
    dsimp only
    rw [fragment,walked.fragment]
    constructor
    · rintro (⟨other,member⟩ | named)
      · exact ⟨other,List.mem_append_left _ member⟩
      · exact ⟨body,by rw [named]; simp⟩
    · rintro ⟨other,member⟩
      rcases List.mem_append.mp member with earlier | last
      · exact .inl ⟨other,earlier⟩
      · exact .inr (Prod.mk.inj (List.mem_singleton.mp last)).1.symm
  named := by
    have here := walked.pointer few (Nat.zero_le 4096)
    rw [named_at_snoc]
    exact here

theorem check_body_eq_ok (sized : body.length = ((body.getD 1 0).toNat + 1) * 8)
    (named : walk.next = .HopByHop ∨ walk.next = .DestinationOptions ∨ walk.next = .Routing) (base : Nat) :
    self.check_body walk.next body base = .ok () ↔ ExtensionHeader walk.next body := by
  unfold check_body
  generalize walk.next = kind at named
  by_cases routing : kind = .Routing
  · subst routing
    rw [if_pos rfl]
    by_cases arrived : body.getD 3 0 = 0
    · rw [if_neg (not_not.mpr arrived)]
      exact iff_of_true rfl (.routing sized arrived)
    · rw [if_pos arrived]
      refine iff_of_false nofun ?_
      intro header
      cases header with
      | options named => simp at named
      | routing _ zero => exact arrived zero
  · rw [if_neg routing,validate_options_eq_ok]
    have others : kind = .HopByHop ∨ kind = .DestinationOptions := by
      rcases named with hop | destination | same
      · exact .inl hop
      · exact .inr destination
      · exact absurd same routing
    constructor
    · exact fun parsed => .options others sized parsed
    · intro header
      cases header with
      | options _ _ parsed => exact parsed
      | routing => exact absurd rfl routing
      | fragment => simp at others

theorem sized_header_eq (walked : self.Walked headers walk rest) : self.sized_header walk =
    if walk.next = .HopByHop ∧ walk.offset ≠ 0 then .error (.ParameterProblem walk.next_offset 1 true)
    else if rest.length < 2 ∨ rest.length < ((rest.getD 1 0).toNat + 1) * 8 then .error .Malformed
    else
      match self.check_body walk.next (rest.take (((rest.getD 1 0).toNat + 1) * 8)) (40 + walk.offset) with
      | .error error => .error error
      | .ok () => .ok ⟨walk.offset + ((rest.getD 1 0).toNat + 1) * 8,.from_number (rest.getD 0 0),UInt32.ofNat (40 + walk.offset),
          walk.had_fragment_header⟩ := by
  unfold sized_header
  by_cases misplaced : walk.next = .HopByHop ∧ walk.offset ≠ 0
  · rw [if_pos misplaced,if_pos misplaced]
  rw [if_neg misplaced,if_neg misplaced,walked.slice]
  by_cases two : 2 ≤ rest.length
  · rw [if_pos two]
    dsimp only
    have unit : (rest.take 2).getD 1 0 = rest.getD 1 0 := getD_take (by omega)
    rw [unit,walked.slice]
    generalize size : ((rest.getD 1 0).toNat + 1) * 8 = length
    by_cases inside : length ≤ rest.length
    · rw [if_pos inside,if_neg (by omega)]
      dsimp only
      rw [getD_take (by omega)]
    · rw [if_neg inside,if_pos (by omega)]
  · rw [if_neg two,if_pos (by omega)]

theorem sized_header_ok (walked : self.Walked headers walk rest) (few : headers.length ≤ 15)
    (named : walk.next = .HopByHop ∨ walk.next = .DestinationOptions ∨ walk.next = .Routing)
    (read : self.sized_header walk = .ok next) : ∃ body behind, self.Walked (headers ++ [(walk.next,body)]) next behind := by
  rw [sized_header_eq walked] at read
  by_cases misplaced : walk.next = .HopByHop ∧ walk.offset ≠ 0
  · rw [if_pos misplaced] at read
    cases read
  rw [if_neg misplaced] at read
  generalize size : ((rest.getD 1 0).toNat + 1) * 8 = length at read
  by_cases cut : rest.length < 2 ∨ rest.length < length
  · rw [if_pos cut] at read
    cases read
  rw [if_neg cut] at read
  have taken : (rest.take length).length = length := List.length_take_of_le (by omega)
  have sized : (rest.take length).length = (((rest.take length).getD 1 0).toNat + 1) * 8 := by
    rw [getD_take (by omega),taken,size]
  cases checked : self.check_body walk.next (rest.take length) (40 + walk.offset) with
  | error error =>
    rw [checked] at read
    cases read
  | ok =>
    rw [checked] at read
    cases read
    have header := (check_body_eq_ok sized named _).mp checked
    have other : walk.next ≠ .Fragment := by
      rcases named with named | named | named <;> rw [named] <;> nofun
    have more := walked.extend few header (List.take_append_drop length rest).symm
      (fun hop => not_not.mp (fun behind => misplaced ⟨hop,behind⟩)) (fun same => absurd same other)
      (fun same => absurd same other) walk.had_fragment_header
      (by simp [other])
    rw [taken,getD_take (by omega)] at more
    exact ⟨_,_,more⟩

theorem fragment_header_eq (walked : self.Walked headers walk rest) : self.fragment_header walk =
    if walk.had_fragment_header = true ∨ rest.length < 8 then .error .Malformed
    else if u16_at rest 2 &&& 0xfff9 ≠ 0 then .error .Fragmented
    else if rest.getD 1 0 ≠ 0 ∨ rest.getD 3 0 &&& 6 ≠ 0 then .error .Malformed
    else .ok ⟨walk.offset + 8,.from_number (rest.getD 0 0),UInt32.ofNat (40 + walk.offset),true⟩ := by
  unfold fragment_header
  by_cases second : walk.had_fragment_header = true
  · rw [if_pos second,if_pos (.inl second)]
  rw [if_neg second,walked.slice]
  by_cases inside : 8 ≤ rest.length
  · rw [if_pos inside,if_neg (not_or.mpr ⟨second,by omega⟩)]
    dsimp only
    rw [u16_at,getD_take (by omega),getD_take (by omega),getD_take (by omega),getD_take (by omega)]
    rfl
  · rw [if_neg inside,if_pos (.inr (by omega))]

theorem fragment_header_ok (walked : self.Walked headers walk rest) (few : headers.length ≤ 15)
    (named : walk.next = .Fragment) (read : self.fragment_header walk = .ok next) :
    ∃ body behind, self.Walked (headers ++ [(walk.next,body)]) next behind := by
  rw [fragment_header_eq walked] at read
  by_cases cut : walk.had_fragment_header = true ∨ rest.length < 8
  · rw [if_pos cut] at read
    cases read
  rw [if_neg cut] at read
  by_cases part : u16_at rest 2 &&& 0xfff9 ≠ 0
  · rw [if_pos part] at read
    cases read
  rw [if_neg part] at read
  by_cases reserved : rest.getD 1 0 ≠ 0 ∨ rest.getD 3 0 &&& 6 ≠ 0
  · rw [if_pos reserved] at read
    cases read
  rw [if_neg reserved] at read
  cases read
  rw [not_or] at cut reserved
  have taken : (rest.take 8).length = 8 := List.length_take_of_le (by omega)
  have whole : u16_at (rest.take 8) 2 = u16_at rest 2 := by
    rw [u16_at,getD_take (by omega),getD_take (by omega)]
    rfl
  have header : ExtensionHeader walk.next (rest.take 8) := by
    rw [named]
    exact .fragment taken (by rw [whole]; exact not_not.mp part)
  have more := walked.extend few header (List.take_append_drop 8 rest).symm
    (fun hop => by rw [named] at hop; cases hop) (fun _ => Bool.eq_false_of_not_eq_true cut.1)
    (fun _ => by rw [getD_take (by omega),getD_take (by omega)]; exact ⟨not_not.mp reserved.1,not_not.mp reserved.2⟩)
      true (by simp [named])
  rw [taken,getD_take (by omega)] at more
  exact ⟨_,_,more⟩

theorem sized_header_problem {pointer : UInt32} {code : UInt8} {send_icmp : Bool} (walked : self.Walked headers walk rest)
    (few : headers.length ≤ 15) (read : self.sized_header walk = .error (.ParameterProblem pointer code send_icmp))
    (named : walk.next = .HopByHop ∨ walk.next = .DestinationOptions ∨ walk.next = .Routing) :
    self.Offending code pointer.toNat := by
  rw [sized_header_eq walked] at read
  by_cases misplaced : walk.next = .HopByHop ∧ walk.offset ≠ 0
  · rw [if_pos misplaced] at read
    cases read
    obtain ⟨hop,behind⟩ := misplaced
    have chain := walked.chain
    have payload := walked.payload
    rw [hop] at chain
    rw [walked.named]
    rcases List.eq_nil_or_concat headers with empty | ⟨before,⟨kind,body⟩,rfl⟩
    · exact absurd (walked.offset_zero.mpr empty) behind
    · rw [List.concat_eq_append] at chain payload ⊢
      rw [named_at_snoc]
      exact .misplaced chain payload
  rw [if_neg misplaced] at read
  by_cases cut : rest.length < 2 ∨ rest.length < ((rest.getD 1 0).toNat + 1) * 8
  · rw [if_pos cut] at read
    cases read
  rw [if_neg cut] at read
  cases checked : self.check_body walk.next (rest.take (((rest.getD 1 0).toNat + 1) * 8)) (40 + walk.offset) with
  | ok =>
    rw [checked] at read
    cases read
  | error error =>
    rw [checked] at read
    cases read
    unfold check_body at checked
    by_cases routing : walk.next = .Routing
    · rw [if_pos routing,getD_take (by omega)] at checked
      by_cases left : rest.getD 3 0 ≠ 0
      · rw [if_pos left] at checked
        cases checked
        have chain := walked.chain
        rw [routing] at chain
        rw [walked.pointer few (by omega)]
        exact .routing chain walked.payload (by omega) left
      · rw [if_neg left] at checked
        cases checked
    · rw [if_neg routing] at checked
      have others : walk.next = .HopByHop ∨ walk.next = .DestinationOptions := by
        rcases named with hop | destination | same
        · exact .inl hop
        · exact .inr destination
        · exact absurd same routing
      obtain ⟨rfl,parsed,critical,behind,area,options,unskippable,rfl⟩ := validate_options_problem checked
      have short : parsed.length ≤ 2048 := by
        have small := (rest.getD 1 0).toNat_lt
        have sizes := congrArg List.length area
        rw [List.length_drop,List.length_take,List.length_append] at sizes
        omega
      rw [Nat.add_assoc (40 + walk.offset),walked.pointer few (by omega),← Nat.add_assoc]
      exact .option walked.chain others walked.payload area options unskippable

/-- What the walk returns behind a chain. -/
def found (walk : Walk) (rest : List UInt8) : UpperLayer :=
  ⟨walk.next,if walk.next = .NoNextHeader then [] else rest,walk.next_offset,walk.had_fragment_header⟩

/-- A round behind a chain, one kind of header at a time. -/
theorem round_cases (walked : self.Walked headers walk rest) :
    ((walk.next = .HopByHop ∨ walk.next = .DestinationOptions ∨ walk.next = .Routing) ∧
        self.round walk = (self.sized_header walk).map .inl) ∨
      (walk.next = .Fragment ∧ self.round walk = (self.fragment_header walk).map .inl) ∨
      (walk.next.upper = true ∧ self.round walk = .ok (.inr (found walk rest))) ∨
      (walk.next.upper = false ∧ self.round walk = .error .SecurityHeader) := by
  have behind : self.payload.drop walk.offset = rest := by rw [walked.payload,walked.offset,List.drop_left]
  unfold round found
  rw [behind]
  cases named : walk.next <;> simp [NextHeader.upper]

theorem map_inl_eq_ok {read : Except Ipv6PacketError Walk} :
    (read.map .inl : Except Ipv6PacketError (Walk ⊕ UpperLayer)) = .ok (.inl next) ↔ read = .ok next := by
  cases read <;> simp [Except.map]

theorem map_inl_eq_error {read : Except Ipv6PacketError Walk} {error : Ipv6PacketError} :
    (read.map .inl : Except Ipv6PacketError (Walk ⊕ UpperLayer)) = .error error ↔ read = .error error := by
  cases read <;> simp [Except.map]

theorem round_ok (walked : self.Walked headers walk rest) (few : headers.length ≤ 15)
    (read : self.round walk = .ok (.inl next)) :
    ∃ body behind, self.Walked (headers ++ [(walk.next,body)]) next behind := by
  rcases round_cases walked with ⟨named,same⟩ | ⟨named,same⟩ | ⟨-,same⟩ | ⟨-,same⟩
  · exact sized_header_ok walked few named (map_inl_eq_ok.mp (same.symm.trans read))
  · exact fragment_header_ok walked few named (map_inl_eq_ok.mp (same.symm.trans read))
  · cases same.symm.trans read
  · cases same.symm.trans read

theorem round_problem {pointer : UInt32} {code : UInt8} {send_icmp : Bool} (walked : self.Walked headers walk rest)
    (few : headers.length ≤ 15) (read : self.round walk = .error (.ParameterProblem pointer code send_icmp)) :
    self.Offending code pointer.toNat := by
  rcases round_cases walked with ⟨named,same⟩ | ⟨-,same⟩ | ⟨-,same⟩ | ⟨-,same⟩
  · exact sized_header_problem walked few (map_inl_eq_error.mp (same.symm.trans read)) named
  · have fragment := map_inl_eq_error.mp (same.symm.trans read)
    rw [fragment_header_eq walked] at fragment
    -- a Fragment header has errors of its own only
    split_ifs at fragment <;> cases fragment
  · cases same.symm.trans read
  · cases same.symm.trans read

theorem round_of_upper (walked : self.Walked headers walk rest) (upper : walk.next.upper = true) :
    self.round walk = .ok (.inr (found walk rest)) := by
  rcases round_cases walked with ⟨named,-⟩ | ⟨named,-⟩ | ⟨-,same⟩ | ⟨lower,-⟩
  · rcases named with named | named | named <;> rw [named] at upper <;> cases upper
  · rw [named] at upper
    cases upper
  · exact same
  · rw [lower] at upper
    cases upper

theorem round_eq_inr {upper : UpperLayer} (walked : self.Walked headers walk rest)
    (read : self.round walk = .ok (.inr upper)) :
    walk.next.upper = true ∧ upper = found walk rest := by
  rcases round_cases walked with ⟨-,same⟩ | ⟨-,same⟩ | ⟨above,same⟩ | ⟨-,same⟩
  · rw [same] at read
    cases header : self.sized_header walk <;> rw [header] at read <;> cases read
  · rw [same] at read
    cases header : self.fragment_header walk <;> rw [header] at read <;> cases read
  · cases same.symm.trans read
    exact ⟨above,rfl⟩
  · cases same.symm.trans read

/-- A header of a chain is walked over. -/
theorem round_header (walked : self.Walked headers walk rest) (header : ExtensionHeader walk.next body)
    (split : rest = body ++ behind) (hop : walk.next = .HopByHop → walk.offset = 0)
    (once : walk.next = .Fragment → walk.had_fragment_header = false)
    (reserved : walk.next = .Fragment → body.getD 1 0 = 0 ∧ body.getD 3 0 &&& 6 = 0) :
    ∃ had, (had = true ↔ walk.had_fragment_header = true ∨ walk.next = .Fragment) ∧ self.round walk =
      .ok (.inl ⟨walk.offset + body.length,.from_number (body.getD 0 0),UInt32.ofNat (40 + walk.offset),had⟩) := by
  have long := header.sizes.1
  have front : ∀ i < 8, rest.getD i 0 = body.getD i 0 := by
    intro i inside
    rw [split,List.getD_append _ _ _ _ (by omega)]
  have taken : rest.take body.length = body := by rw [split,List.take_left]
  have sized : (walk.next = .HopByHop ∨ walk.next = .DestinationOptions ∨ walk.next = .Routing) →
      body.length = ((body.getD 1 0).toNat + 1) * 8 → self.sized_header walk =
        .ok ⟨walk.offset + body.length,.from_number (body.getD 0 0),UInt32.ofNat (40 + walk.offset),walk.had_fragment_header⟩ := by
    intro named sized
    have inside : ¬ (rest.length < 2 ∨ rest.length < body.length) := by
      rw [split,List.length_append]
      omega
    rw [sized_header_eq walked,front 1 (by omega),front 0 (by omega),← sized,taken,if_neg (fun misplaced =>
      misplaced.2 (hop misplaced.1)),
      if_neg inside,(check_body_eq_ok sized named _).mpr header]
  unfold round
  generalize isKind : walk.next = kind at header
  cases header with
  | options named length parsed =>
    rcases named with rfl | rfl
    · exact ⟨walk.had_fragment_header,by simp,by rw [sized (.inl isKind) length]; rfl⟩
    · exact ⟨walk.had_fragment_header,by simp,by rw [sized (.inr (.inl isKind)) length]; rfl⟩
  | routing length arrived =>
    exact ⟨walk.had_fragment_header,by simp,by rw [sized (.inr (.inr isKind)) length]; rfl⟩
  | fragment length whole =>
    have fits : ¬ (walk.had_fragment_header = true ∨ rest.length < 8) := by
      rw [once isKind,split,List.length_append]
      simp
      omega
    have zero := reserved isKind
    have word : u16_at rest 2 = u16_at body 2 := by
      rw [u16_at,front 2 (by omega),front 3 (by omega)]
      rfl
    dsimp only
    rw [fragment_header_eq walked,word,front 0 (by omega),front 1 (by omega),front 3 (by omega),if_neg fits,
      if_neg (not_not.mpr whole),if_neg (not_or.mpr ⟨not_not.mpr zero.1,not_not.mpr zero.2⟩),length]
    exact ⟨true,by simp,rfl⟩

end Step

/-! ### The whole walk -/

/-- Rounds that return have walked a chain. -/
theorem rounds_ok {count : Nat} {walk : Walk} {upper : UpperLayer} (walked : self.Walked headers walk rest)
    (few : headers.length + count ≤ 16) (read : self.rounds count walk = .ok upper) :
    ∃ headers last behind, self.Walked headers last behind ∧ headers.length ≤ 15 ∧ last.next.upper = true ∧
        upper = found last behind := by
  induction count generalizing headers walk rest with
  | zero => cases read
  | succ count ih =>
    rw [rounds] at read
    cases first : self.round walk with
    | error error =>
      rw [first] at read
      cases read
    | ok outcome =>
      rw [first] at read
      cases outcome with
      | inl next =>
        obtain ⟨body,behind,more⟩ := round_ok walked (by omega) first
        exact ih more (by rw [List.length_append,List.length_singleton]; omega) read
      | inr result =>
        cases read
        obtain ⟨above,same⟩ := round_eq_inr walked first
        exact ⟨headers,walk,rest,walked,by omega,above,same⟩

theorem rounds_problem {count : Nat} {walk : Walk} {pointer : UInt32} {code : UInt8} {send_icmp : Bool}
    (walked : self.Walked headers walk rest) (few : headers.length + count ≤ 16)
    (read : self.rounds count walk = .error (.ParameterProblem pointer code send_icmp)) :
    self.Offending code pointer.toNat := by
  induction count generalizing headers walk rest with
  | zero => cases read
  | succ count ih =>
    rw [rounds] at read
    cases first : self.round walk with
    | error error =>
      rw [first] at read
      cases read
      exact round_problem walked (by omega) first
    | ok outcome =>
      rw [first] at read
      cases outcome with
      | inl next =>
        obtain ⟨body,behind,more⟩ := round_ok walked (by omega) first
        exact ih more (by rw [List.length_append,List.length_singleton]; omega) read
      | inr result => cases read

/-- The walk over a chain, with rounds left behind it. -/
theorem rounds_chain {last : NextHeader} (chain : Chain self.next_header headers last) (unreserved : Unreserved headers)
    (few : headers.length ≤ 15) (payload : self.payload = octets_of headers ++ rest) (left : Nat) :
    ∃ walk, self.Walked headers walk rest ∧ walk.next = last ∧
      self.rounds (left + headers.length) ⟨0,self.next_header,6,false⟩ = self.rounds left walk := by
  induction chain generalizing rest left with
  | none =>
    have start := self.walked_start
    rw [payload] at start
    exact ⟨_,start,rfl,rfl⟩
  | @snoc headers kind body front header hop once ih =>
    rw [List.length_append,List.length_singleton] at few
    rw [octets_of_snoc,List.append_assoc] at payload
    obtain ⟨walk,walked,rfl,run⟩ := ih (fun other member => unreserved other (List.mem_append_left _ member)) (by omega)
      payload (left + 1)
    have reserved : walk.next = .Fragment → body.getD 1 0 = 0 ∧ body.getD 3 0 &&& 6 = 0 :=
      fun named => unreserved body (by rw [named]; simp)
    have single : walk.next = .Fragment → walk.had_fragment_header = false := by
      intro named
      refine Bool.eq_false_iff.mpr (fun had => ?_)
      obtain ⟨other,member⟩ := walked.fragment.mp had
      exact once named other member
    have first : walk.next = .HopByHop → walk.offset = 0 := fun named => walked.offset_zero.mpr (hop named)
    obtain ⟨had,fragment,read⟩ := round_header walked header rfl first single reserved
    refine ⟨_,walked.extend (by omega) header rfl first single reserved had fragment,rfl,?_⟩
    have count : left + (headers ++ [(walk.next,body)]).length = left + 1 + headers.length := by
      rw [List.length_append,List.length_singleton]
      omega
    rw [count,run,rounds,read]

end Ipv6Packet

/-- The walk is exact: what it returns lies behind a chain of at most 15 headers, it returns what lies behind every
such chain, and its pointers name the octet they reject. -/
theorem upper_layer_exact :
    (∀ (packet : Ipv6Packet) upper, packet.upper_layer = .ok upper → ∃ headers rest,
      Chain packet.next_header headers upper.protocol ∧ Unreserved headers ∧ headers.length ≤ 15 ∧
        packet.payload = octets_of headers ++ rest ∧ upper.payload = (if upper.protocol = .NoNextHeader then [] else rest) ∧
        upper.protocol.upper = true ∧ (upper.had_fragment_header = true ↔ ∃ body, (NextHeader.Fragment,body) ∈ headers) ∧
        ∀ bytes, packet.encode = .ok bytes → bytes[upper.next_header_offset.toNat]? = some upper.protocol.number) ∧
    (∀ (packet : Ipv6Packet) headers protocol rest, Chain packet.next_header headers protocol → Unreserved headers →
      headers.length ≤ 15 → packet.payload = octets_of headers ++ rest → protocol.upper = true →
        ∃ upper, packet.upper_layer = .ok upper ∧ upper.protocol = protocol ∧
          upper.payload = if protocol = .NoNextHeader then [] else rest) ∧
    (∀ (packet : Ipv6Packet) pointer code send_icmp, packet.upper_layer = .error (.ParameterProblem pointer code send_icmp) →
      packet.Offending code pointer.toNat ∧ ∀ bytes, packet.encode = .ok bytes → ∃ octet, bytes[pointer.toNat]? =
        some octet ∧
        (code = 1 → octet = NextHeader.HopByHop.number) ∧ (code = 2 → octet >>> 6 ≠ 0)) := by
  refine ⟨?_,?_,?_⟩
  · intro packet upper read
    obtain ⟨headers,walk,rest,walked,few,above,rfl⟩ := Ipv6Packet.rounds_ok packet.walked_start (le_of_eq rfl) read
    refine ⟨headers,rest,walked.chain,walked.unreserved,few,walked.payload,rfl,above,walked.fragment,?_⟩
    intro bytes encoded
    rw [Ipv6Packet.found,walked.named]
    exact Ipv6Packet.named_octet walked.chain walked.payload encoded
  · intro packet headers protocol rest chain unreserved few payload above
    obtain ⟨walk,walked,rfl,run⟩ := Ipv6Packet.rounds_chain chain unreserved few payload (16 - headers.length)
    obtain ⟨left,spare⟩ : ∃ left, 16 - headers.length = left + 1 := ⟨15 - headers.length,by omega⟩
    have whole : left + 1 + headers.length = 16 := by omega
    have last : packet.rounds (left + 1) walk = .ok (Ipv6Packet.found walk rest) := by
      rw [Ipv6Packet.rounds,Ipv6Packet.round_of_upper walked above]
    rw [spare,whole,last] at run
    exact ⟨_,run,rfl,rfl⟩
  · intro packet pointer code send_icmp rejected
    have offending := Ipv6Packet.rounds_problem packet.walked_start (le_of_eq rfl) rejected
    exact ⟨offending,fun bytes encoded => offending.octet encoded⟩

/-- A fragment header with a reserved octet set, in front of a TCP segment. -/
def reserved_fragment : Ipv6Packet := ⟨1,2,0,0,64,.Fragment,[6,1,0,0,0,0,0,0]⟩

/-- The reserved octet is checked: a whole fragment header in front of a payload is not enough. -/
theorem reserved_fragment_rejected : ¬ ∀ (packet : Ipv6Packet) headers protocol rest,
    Chain packet.next_header headers protocol → headers.length ≤ 15 → packet.payload = octets_of headers ++ rest →
      protocol.upper = true → ∃ upper, packet.upper_layer = .ok upper ∧ upper.payload = if protocol = .NoNextHeader
          then [] else rest := by
  intro complete
  have header : ExtensionHeader .Fragment [6,1,0,0,0,0,0,0] := .fragment rfl (by decide)
  have chain : Chain reserved_fragment.next_header ([] ++ [(.Fragment,[6,1,0,0,0,0,0,0])]) (.from_number 6) :=
    .snoc .none header nofun (fun _ other => List.not_mem_nil)
  obtain ⟨upper,read,-⟩ := complete reserved_fragment _ _ [] chain (Nat.le_of_ble_eq_true rfl) rfl rfl
  have rejected : reserved_fragment.upper_layer = .error .Malformed := by decide +kernel
  rw [rejected] at read
  cases read

end Rios.Ipv6
