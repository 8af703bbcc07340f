import Rios.BgpNormalForm
import Rios.BgpPolicy

/-!
# What can be encoded

The encoder of attributes as a chain of writers, each of which appends fixed
bytes whenever they fit and its values can be written. An announcement is encoded
exactly if its values can be written and the whole message fits.
-/

namespace Rios.Bgp
open Rios.Machine Rios.Device Rios.Wire Rios.Translation

/-! ### Writers -/

/-- A writer appends fixed bytes whenever they fit and its values can be written. -/
def Writes (write : List UInt8 → Result (List UInt8)) (bytes : List UInt8) (valid : Prop) : Prop :=
  ∀ out : List UInt8, out.length ≤ BGP_MAX_MESSAGE → ∀ next,
    write out = .ok next ↔ next = out ++ bytes ∧ next.length ≤ BGP_MAX_MESSAGE ∧ valid

namespace Writes
variable {first second : List UInt8 → Result (List UInt8)} {bytes more : List UInt8} {valid good : Prop}

theorem nothing : Writes .ok [] True := by
  intro out fits next
  constructor
  · rintro ⟨⟩
    exact ⟨(List.append_nil out).symm,fits,trivial⟩
  · rintro ⟨rfl,-⟩
    rw [List.append_nil]

/-- Two writers one after the other. -/
theorem bind (one : Writes first bytes valid) (two : Writes second more good) :
    Writes (fun out => first out >>= second) (bytes ++ more) (valid ∧ good) := by
  intro out fits next
  constructor
  · intro written
    change first out >>= second = .ok next at written
    cases middle : first out with
    | error error => rw [middle] at written; cases written
    | ok between =>
      rw [middle] at written
      obtain ⟨rfl,room,isValid⟩ := (one out fits between).mp middle
      obtain ⟨rfl,whole,isGood⟩ := (two _ room next).mp written
      exact ⟨List.append_assoc .. ,whole,isValid,isGood⟩
  · rintro ⟨rfl,whole,isValid,isGood⟩
    have room : (out ++ bytes).length ≤ BGP_MAX_MESSAGE := by
      rw [← List.append_assoc,List.length_append] at whole
      omega
    have middle := (one out fits _).mpr ⟨rfl,room,isValid⟩
    have last := (two _ room _).mpr ⟨(List.append_assoc ..).symm,whole,isGood⟩
    show (first out).bind second = _
    rw [middle]
    exact last

theorem congr (one : Writes first bytes valid) (same : valid ↔ good) : Writes first bytes good := by
  intro out fits next
  rw [one out fits next,same]

/-- A list of values, written one after the other. -/
theorem foldlM {α : Type} {write : List UInt8 → α → Result (List UInt8)} {wire : α → List UInt8} {valid : α → Prop}
    {items : List α} (each : ∀ item ∈ items, Writes (write · item) (wire item) (valid item)) :
    Writes (fun out => items.foldlM write out) (items.flatMap wire) (∀ item ∈ items, valid item) := by
  induction items with
  | nil => exact nothing.congr (by simp)
  | cons item rest ih =>
    have whole := (each item List.mem_cons_self).bind (ih (fun other member => each other (List.mem_cons_of_mem item member)))
    refine Writes.congr ?_ List.forall_mem_cons.symm
    rw [List.flatMap_cons]
    exact whole

end Writes

/-! ### Attributes -/

theorem push_attribute_writes (flags code : UInt8) (value : List UInt8) :
    Writes (push_attribute · flags code value) (attributeWire ⟨flags,code,value⟩) True := by
  intro out fits next
  have length := attributeWire_length ⟨flags,code,value⟩
  constructor
  · intro written
    by_cases room : (out ++ attributeWire ⟨flags,code,value⟩).length ≤ BGP_MAX_MESSAGE
    · have expected := @push_attribute_eq out flags code value (List.length_append ▸ room)
      have same : next = out ++ attributeWire ⟨flags,code,value⟩ := Except.ok.inj (written.symm.trans expected)
      exact ⟨same,same ▸ room,trivial⟩
    · rw [List.length_append,length,← Nat.add_assoc] at room
      have refused : push_attribute out flags code value = .error ⟨1,2⟩ := if_pos (not_le.mp room)
      cases written.symm.trans refused
  · rintro ⟨rfl,whole,-⟩
    exact push_attribute_eq (List.length_append ▸ whole)

theorem present_writes (condition : Bool) (flags code : UInt8) (value : List UInt8) :
    Writes (fun out => if condition then push_attribute out flags code value else .ok out)
      ((if condition then [(⟨flags,code,value⟩ : BgpUnknownAttribute)] else []).flatMap attributeWire) True := by
  cases condition with
  | false => exact Writes.nothing
  | true => simpa using push_attribute_writes flags code value

theorem optional_writes {α : Type} (field : Option α) (flags code : UInt8) (value : α → List UInt8) :
    Writes (fun out => field.elim (.ok out) (fun a => push_attribute out flags code (value a)))
      ((field.toList.map (fun a => (⟨flags,code,value a⟩ : BgpUnknownAttribute))).flatMap attributeWire) True := by
  cases field with
  | none => exact Writes.nothing
  | some a => simpa using push_attribute_writes flags code (value a)

theorem encode_member_eq_ok {four : Bool} {path next : List UInt8} {asn : UInt32} :
    encode_member four path asn = .ok next ↔
      next = path ++ memberWire four asn ∧ asn ≠ 0 ∧ (four = false → asn.toNat < 2 ^ 16) := by
  unfold encode_member memberWire
  by_cases zero : asn = 0
  · simp [zero]
  · cases four with
    | true => simp [zero,eq_comm]
    | false =>
      by_cases small : asn.toNat < 2 ^ 16
      · rw [if_neg zero,if_neg Bool.false_ne_true,if_pos small]
        simp [zero,eq_comm] at small ⊢
        simp [small]
      · rw [if_neg zero,if_neg Bool.false_ne_true,if_neg small]
        simp at small ⊢
        simp [small]

theorem encode_members_eq_ok {four : Bool} {members : List UInt32} {path next : List UInt8} :
    members.foldlM (encode_member four) path = .ok next ↔
      next = path ++ members.flatMap (memberWire four) ∧ 0 ∉ members ∧ (four = false → ∀ asn ∈ members, asn.toNat < 2 ^ 16) := by
  induction members generalizing path with
  | nil => simp [pure,Except.pure,eq_comm]
  | cons asn rest ih =>
    rw [List.foldlM_cons]
    cases written : encode_member four path asn with
    | error error =>
      constructor
      · intro impossible; cases impossible
      · rintro ⟨-,positive,narrow⟩
        have one : encode_member four path asn = .ok (path ++ memberWire four asn) :=
          encode_member_eq_ok.mpr ⟨rfl,fun zero => positive (zero ▸ List.mem_cons_self),
            fun two => narrow two asn List.mem_cons_self⟩
        rw [one] at written
        cases written
    | ok between =>
      obtain ⟨rfl,positive,narrow⟩ := encode_member_eq_ok.mp written
      show rest.foldlM (encode_member four) _ = _ ↔ _
      rw [ih,List.flatMap_cons,List.append_assoc,List.mem_cons,List.forall_mem_cons,not_or]
      constructor
      · rintro ⟨rfl,others,small⟩
        exact ⟨rfl,⟨fun zero => positive zero.symm,others⟩,fun two => ⟨narrow two,small two⟩⟩
      · rintro ⟨rfl,⟨-,others⟩,small⟩
        exact ⟨rfl,others,fun two => (small two).2⟩

theorem encode_segment_writes (four : Bool) (segment : AsPathSegment) :
    Writes (encode_segment four · segment) (segmentWire four segment) (CanonicalSegment four segment) := by
  intro out fits next
  have length := segmentWire_length four segment
  constructor
  · intro written
    unfold encode_segment at written
    simp only at written
    split at written
    · cases written
    · rename_i counted
      split at written
      · cases written
      · rename_i room
        obtain ⟨rfl,positive,narrow⟩ := encode_members_eq_ok.mp written
        simp only [Bool.or_eq_true,decide_eq_true_eq,not_or] at counted
        have nonempty : segment.members ≠ [] := by simpa using counted.1
        refine ⟨by simp [segmentWire],?_,⟨nonempty,not_lt.mp counted.2,positive,narrow⟩⟩
        rw [List.length_append,List.length_append,members_length]
        simp only [List.length_cons,List.length_nil]
        omega
  · rintro ⟨rfl,whole,canonical⟩
    exact encode_segment_eq canonical (List.length_append ▸ whole)

/-- The path is collected first and appended as one attribute. -/
theorem path_writes (four : Bool) (path : List AsPathSegment) :
    Writes (fun out => path.foldlM (encode_segment four) [] >>= fun bytes => push_attribute out 0x40 2 bytes)
      (attributeWire ⟨0x40,2,path.flatMap (segmentWire four)⟩) (∀ segment ∈ path, CanonicalSegment four segment) := by
  intro out fits next
  have collect := Writes.foldlM (fun segment (_ : segment ∈ path) => encode_segment_writes four segment) []
    (Nat.zero_le BGP_MAX_MESSAGE)
  have length := attributeWire_length ⟨0x40,2,path.flatMap (segmentWire four)⟩
  constructor
  · intro written
    cases collected : path.foldlM (encode_segment four) [] with
    | error error => rw [collected] at written; cases written
    | ok bytes =>
      rw [collected] at written
      obtain ⟨rfl,-,canonical⟩ := (collect bytes).mp collected
      obtain ⟨rfl,whole,-⟩ := (push_attribute_writes 0x40 2 _ out fits next).mp written
      exact ⟨rfl,whole,canonical⟩
  · rintro ⟨rfl,whole,canonical⟩
    have room : (path.flatMap (segmentWire four)).length ≤ BGP_MAX_MESSAGE := by
      rw [List.length_append,length] at whole
      simp only at whole
      omega
    have collected : path.foldlM (encode_segment four) [] = .ok (path.flatMap (segmentWire four)) :=
      (collect _).mpr ⟨rfl,room,canonical⟩
    show (path.foldlM (encode_segment four) []).bind _ = _
    rw [collected]
    exact (push_attribute_writes 0x40 2 _ out fits _).mpr ⟨rfl,whole,trivial⟩

/-- A cluster list that fits a message is short enough for its own check. -/
theorem clusters_writes (clusters : List Ipv4Addr) :
    Writes (fun out => if clusters.isEmpty then .ok out
        else if BGP_MAX_MESSAGE / 4 < clusters.length then .error ⟨1,2⟩
        else push_attribute out 0x80 10 (clusters.flatMap octets))
      ((if clusters.isEmpty then [] else [(⟨0x80,10,clusters.flatMap octets⟩ : BgpUnknownAttribute)]).flatMap attributeWire)
      True := by
  by_cases empty : clusters.isEmpty = true
  · simpa [empty] using Writes.nothing
  · have length : (clusters.flatMap octets).length = 4 * clusters.length := flatMap_be32_length clusters
    intro out fits next
    simp only [empty,if_false,Bool.false_eq_true,List.flatMap_singleton]
    by_cases many : BGP_MAX_MESSAGE / 4 < clusters.length
    · rw [if_pos many]
      constructor
      · intro impossible; cases impossible
      · rintro ⟨rfl,whole,-⟩
        rw [List.length_append,attributeWire_length] at whole
        simp only [length,BGP_MAX_MESSAGE] at whole many
        omega
    · rw [if_neg many]
      exact push_attribute_writes 0x80 10 _ out fits next

/-- The conditions under which the loop over unknown attributes writes one. -/
structure UnknownSound (seen : List UInt8) (unknown : List BgpUnknownAttribute) : Prop where
  transitive : ∀ raw ∈ unknown, raw.flags &&& 0xc0 = 0xc0
  fresh : ∀ raw ∈ unknown, raw.code ∉ seen
  distinct : (unknown.map (·.code)).Nodup

theorem unknownSound_cons {seen : List UInt8} {raw : BgpUnknownAttribute} {rest : List BgpUnknownAttribute} :
    UnknownSound seen (raw :: rest) ↔
      (raw.flags &&& 0xc0 = 0xc0 ∧ raw.code ∉ seen) ∧ UnknownSound (raw.code :: seen) rest := by
  constructor
  · rintro ⟨transitive,fresh,distinct⟩
    rw [List.forall_mem_cons] at transitive fresh
    rw [List.map_cons,List.nodup_cons] at distinct
    refine ⟨⟨transitive.1,fresh.1⟩,transitive.2,fun other member => ?_,distinct.2⟩
    rw [List.mem_cons,not_or]
    exact ⟨fun same => distinct.1 (same ▸ List.mem_map_of_mem member),fresh.2 other member⟩
  · rintro ⟨⟨transitive,fresh⟩,others⟩
    refine ⟨List.forall_mem_cons.mpr ⟨transitive,others.transitive⟩,List.forall_mem_cons.mpr ⟨fresh,?_⟩,?_⟩
    · exact fun other member => (not_or.mp (List.mem_cons.not.mp (others.fresh other member))).2
    · rw [List.map_cons,List.nodup_cons]
      refine ⟨fun again => ?_,others.distinct⟩
      obtain ⟨other,member,same⟩ := List.mem_map.mp again
      exact others.fresh other member (same ▸ List.mem_cons_self)

theorem encode_unknown_writes (seen : List UInt8) (unknown : List BgpUnknownAttribute) :
    Writes (fun out => BgpAttributes.encode_unknown seen out unknown) (unknown.flatMap attributeWire)
      (UnknownSound seen unknown) := by
  induction unknown generalizing seen with
  | nil => exact Writes.nothing.congr ⟨fun _ => ⟨by simp,by simp,by simp⟩,fun _ => trivial⟩
  | cons raw rest ih =>
    have pair := ((push_attribute_writes raw.flags raw.code raw.value).bind (ih (raw.code :: seen)))
    intro out fits next
    rw [unknownSound_cons]
    show (if seen.contains raw.code || decide (raw.flags &&& 0xc0 ≠ 0xc0) then _ else _) = _ ↔ _
    by_cases refused : (seen.contains raw.code || decide (raw.flags &&& 0xc0 ≠ 0xc0)) = true
    · rw [if_pos refused]
      constructor
      · intro impossible; cases impossible
      · rintro ⟨-,-,⟨transitive,fresh⟩,-⟩
        simp [transitive,fresh] at refused
    · rw [if_neg refused]
      have taken : raw.flags &&& 0xc0 = 0xc0 ∧ raw.code ∉ seen := by
        simp only [Bool.or_eq_true,decide_eq_true_eq,not_or,not_not,List.contains_iff_mem] at refused
        exact ⟨refused.2,refused.1⟩
      rw [List.flatMap_cons]
      refine (pair out fits next).trans ?_
      simp [taken]

namespace BgpAttributes

/-- Attributes that can be written towards a peer of the given width, if they fit. -/
structure Sound (four : Bool) (attributes : BgpAttributes) : Prop where
  path : ∀ segment ∈ attributes.as_path, CanonicalSegment four segment
  unknown : UnknownSound typedCodes attributes.unknown_transitive

theorem encode_writes (four : Bool) (attributes : BgpAttributes) (bytes : List UInt8) :
    attributes.encode four = .ok bytes ↔
      bytes = attributes.toPartial.wire four ∧ bytes.length ≤ BGP_MAX_MESSAGE ∧ Sound four attributes := by
  obtain ⟨origin,path,next_hop,atomic,med,preference,originator,clusters,unknown⟩ := attributes
  have chain := (push_attribute_writes 0x40 1 [origin.byte]).bind ((path_writes four path).bind
    ((push_attribute_writes 0x40 3 (octets next_hop)).bind ((present_writes atomic 0x40 6 []).bind
    ((optional_writes med 0x80 4 be32).bind ((optional_writes preference 0x40 5 be32).bind
    ((optional_writes originator 0x80 9 octets).bind ((clusters_writes clusters).bind
    (encode_unknown_writes typedCodes unknown))))))))
  have whole := chain [] (Nat.zero_le BGP_MAX_MESSAGE) bytes
  have program : (BgpAttributes.mk origin path next_hop atomic med preference originator clusters unknown).encode four =
      push_attribute [] 0x40 1 [origin.byte] >>= fun out =>
        (path.foldlM (encode_segment four) [] >>= fun bytes => push_attribute out 0x40 2 bytes) >>= fun out =>
        push_attribute out 0x40 3 (octets next_hop) >>= fun out =>
        (if atomic then push_attribute out 0x40 6 [] else .ok out) >>= fun out =>
        med.elim (.ok out) (fun med => push_attribute out 0x80 4 (be32 med)) >>= fun out =>
        preference.elim (.ok out) (fun pref => push_attribute out 0x40 5 (be32 pref)) >>= fun out =>
        originator.elim (.ok out) (fun id => push_attribute out 0x80 9 (octets id)) >>= fun out =>
        (if clusters.isEmpty then .ok out
          else if BGP_MAX_MESSAGE / 4 < clusters.length then .error ⟨1,2⟩
          else push_attribute out 0x80 10 (clusters.flatMap octets)) >>= fun out =>
        encode_unknown typedCodes out unknown := by
    simp only [bind_assoc]
    rfl
  rw [program]
  refine whole.trans ?_
  have wire : (BgpAttributes.mk origin path next_hop atomic med preference originator clusters unknown).toPartial.wire four =
      [] ++ (attributeWire ⟨0x40,1,[origin.byte]⟩ ++ (attributeWire ⟨0x40,2,path.flatMap (segmentWire four)⟩ ++
        (attributeWire ⟨0x40,3,octets next_hop⟩ ++
        ((if atomic then [(⟨0x40,6,[]⟩ : BgpUnknownAttribute)] else []).flatMap attributeWire ++
        ((med.toList.map (fun med => (⟨0x80,4,be32 med⟩ : BgpUnknownAttribute))).flatMap attributeWire ++
        ((preference.toList.map (fun pref => (⟨0x40,5,be32 pref⟩ : BgpUnknownAttribute))).flatMap attributeWire ++
        ((originator.toList.map (fun id => (⟨0x80,9,octets id⟩ : BgpUnknownAttribute))).flatMap attributeWire ++
        ((if clusters.isEmpty then [] else [(⟨0x80,10,clusters.flatMap octets⟩ : BgpUnknownAttribute)]).flatMap attributeWire ++
        unknown.flatMap attributeWire)))))))) := by
    simp only [toPartial,Partial.wire,Partial.parts,Partial.typedParts,Option.toList_some,List.map_cons,List.map_nil,
      List.flatMap_append,List.flatMap_singleton,List.append_assoc,List.nil_append]
    rfl
  rw [wire]
  constructor
  · rintro ⟨written,room,-,sound,-,-,-,-,-,-,others⟩
    exact ⟨written,room,sound,others⟩
  · rintro ⟨written,room,sound,others⟩
    exact ⟨written,room,trivial,sound,trivial,trivial,trivial,trivial,trivial,trivial,others⟩

/-- The width of a peer matters only for the size of the numbers. -/
theorem sound_iff (four : Bool) (attributes : BgpAttributes) :
    Sound four attributes ↔ Sound true attributes ∧
      (four = true ∨ ∀ segment ∈ attributes.as_path, ∀ asn ∈ segment.members, asn.toNat < 2 ^ 16) := by
  constructor
  · rintro ⟨path,unknown⟩
    refine ⟨⟨fun segment member => ?_,unknown⟩,?_⟩
    · obtain ⟨nonempty,short,positive,-⟩ := path segment member
      exact ⟨nonempty,short,positive,by simp⟩
    · cases four with
      | true => exact .inl rfl
      | false => exact .inr (fun segment member => (path segment member).narrow rfl)
  · rintro ⟨⟨path,unknown⟩,narrow⟩
    refine ⟨fun segment member => ?_,unknown⟩
    obtain ⟨nonempty,short,positive,-⟩ := path segment member
    refine ⟨nonempty,short,positive,fun two => ?_⟩
    exact narrow.resolve_left (by simp [two]) segment member

end BgpAttributes

/-! ### Announcements and withdrawals -/

/-- The UPDATE that announces one route. -/
def announcement (network : Ipv4Network) (attributes : BgpAttributes) : BgpUpdate := ⟨[],some attributes,[network]⟩
/-- The UPDATE that withdraws one route. -/
def withdrawal (network : Ipv4Network) : BgpUpdate := ⟨[network],none,[]⟩

/-- Attributes that fit one message for one prefix, with numbers of the width of the peer. -/
structure Representable (four : Bool) (network : Ipv4Network) (attributes : BgpAttributes) : Prop where
  narrow : four = true ∨ ∀ segment ∈ attributes.as_path, ∀ asn ∈ segment.members, asn.toNat < 2 ^ 16
  fits : 24 + prefix_bytes network.prefix_len + (attributes.toPartial.wire four).length ≤ BGP_MAX_MESSAGE

theorem encode_single (network : Ipv4Network) : encode_prefixes [network] = .ok (prefixWire network) := by
  have short := prefix_bytes_le network.valid
  have length := prefixWire_length network
  have written := @encode_prefixes_eq [network] (by
    rw [List.flatMap_singleton,length,BGP_MAX_MESSAGE]
    omega)
  rwa [List.flatMap_singleton] at written

theorem withdrawal_encodes (network : Ipv4Network) (four : Bool) :
    ∃ bytes, (BgpMessage.Update (withdrawal network)).encode four = .ok bytes := by
  have short := prefix_bytes_le network.valid
  have length := BgpMessage.updateWire_length (withdrawal network) four
  simp only [withdrawal,List.flatMap_singleton,prefixWire_length,List.flatMap_nil,List.length_nil,BgpMessage.attributesWire,
    Option.elim_none] at length
  have fits : 19 + (BgpMessage.updateWire (withdrawal network) four).length ≤ BGP_MAX_MESSAGE := by
    show 19 + (BgpMessage.updateWire ⟨[network],none,[]⟩ four).length ≤ BGP_MAX_MESSAGE
    rw [length,BGP_MAX_MESSAGE]
    omega
  have body := @BgpMessage.encode_update_eq (withdrawal network) four (by simp [withdrawal])
    (by simp [withdrawal]) fits
  exact ⟨_,BgpMessage.encode_frame body fits⟩

/-- An announcement is encoded exactly if its attributes can be written and the message fits. -/
theorem announcement_encodes {attributes : BgpAttributes} (sound : attributes.Sound true) (network : Ipv4Network)
    (four : Bool) :
    (∃ bytes, (BgpMessage.Update (announcement network attributes)).encode four = .ok bytes) ↔
      Representable four network attributes := by
  have short := prefix_bytes_le network.valid
  have length := prefixWire_length network
  have program : ∀ bytes, (BgpMessage.Update (announcement network attributes)).encode_body four = .ok bytes ↔
      ∃ attrs, attributes.encode four = .ok attrs ∧ bytes = (2,be16 (UInt16.ofNat 0) ++ [] ++
        be16 (UInt16.ofNat attrs.length) ++ attrs ++ prefixWire network) := by
    intro bytes
    have nothing : encode_prefixes [] = .ok [] := rfl
    rw [BgpMessage.encode_body,if_neg (by simp [announcement])]
    simp only [announcement,nothing,encode_single,Option.elim_some,bind,Except.bind]
    cases written : attributes.encode four with
    | error error => simp
    | ok attrs =>
      have room := ((BgpAttributes.encode_writes four attributes attrs).mp written).2.1
      simp only
      rw [if_neg (by rw [BGP_MAX_MESSAGE] at room; omega)]
      simp [eq_comm]
  constructor
  · rintro ⟨bytes,encoded⟩
    unfold BgpMessage.encode at encoded
    cases body : (BgpMessage.Update (announcement network attributes)).encode_body four with
    | error error => rw [body] at encoded; cases encoded
    | ok pair =>
      obtain ⟨attrs,written,rfl⟩ := (program pair).mp body
      obtain ⟨rfl,room,wide⟩ := (BgpAttributes.encode_writes four attributes attrs).mp written
      rw [body] at encoded
      simp only [bind,Except.bind] at encoded
      split at encoded
      · cases encoded
      · rename_i whole
        refine ⟨((BgpAttributes.sound_iff four attributes).mp wide).2,?_⟩
        simp only [List.length_append,be16_length,List.length_nil,length] at whole
        omega
  · rintro ⟨narrow,fits⟩
    have wide := (BgpAttributes.sound_iff four attributes).mpr ⟨sound,narrow⟩
    have written := (BgpAttributes.encode_writes four attributes _).mpr ⟨rfl,by omega,wide⟩
    have body := (program _).mpr ⟨_,written,rfl⟩
    refine ⟨_,BgpMessage.encode_frame body ?_⟩
    simp only [List.length_append,be16_length,List.length_nil,length]
    omega

/-! ### Attributes that a router can hold -/

theorem decode_update_canonical {b : List UInt8} {four : Bool} {update : BgpUpdate}
    (decoded : BgpMessage.decode_update b four = .ok (.Update update)) :
    ∀ attributes ∈ update.attributes, attributes.toPartial.Canonical four := by
  unfold BgpMessage.decode_update at decoded
  simp only [bind,Except.bind] at decoded
  split at decoded
  · cases decoded
  split at decoded
  · cases decoded
  split at decoded
  · cases decoded
  split at decoded
  · cases decoded
  split at decoded
  · cases decoded
  rename_i middle middleSliced
  split at decoded
  · cases decoded
  split at decoded
  · cases decoded
  rename_i attributes attributesRead
  split at decoded
  · cases decoded
  cases decoded
  split at attributesRead
  · cases attributesRead
    simp
  · cases read : BgpAttributes.decode middle four with
    | error error => rw [read] at attributesRead; cases attributesRead
    | ok present =>
      rw [read] at attributesRead
      cases attributesRead
      rintro _ ⟨⟩
      exact (BgpAttributes.decode_correct read).1

/-- Only the second kind of body is an UPDATE. -/
theorem update_canonical {bytes : List UInt8} {four : Bool} {update : BgpUpdate}
    (decoded : BgpMessage.decode bytes four = .ok (.Update update)) :
    ∀ attributes ∈ update.attributes, attributes.toPartial.Canonical four := by
  have body := (BgpMessage.decode_correct decoded).2.2
  unfold BgpMessage.decode_body at body
  split at body
  · unfold BgpMessage.decode_open at body
    simp only [bind,Except.bind] at body
    repeat' split at body
    all_goals cases body
  split at body
  · exact decode_update_canonical body
  split at body
  · unfold BgpMessage.decode_notification at body
    split at body <;> cases body
  split at body <;> cases body

theorem chunks_mem {α : Type} {size : Nat} (positive : 0 < size) {fuel : Nat} {values chunk : List α}
    (member : chunk ∈ chunks size fuel values) : chunk ≠ [] ∧ chunk.length ≤ size ∧ ∀ value ∈ chunk, value ∈ values := by
  induction fuel generalizing values with
  | zero => simp [chunks] at member
  | succ fuel ih =>
    cases values with
    | nil => simp [chunks] at member
    | cons head tail =>
      rw [chunks,List.mem_cons] at member
      · rcases member with rfl | later
        · refine ⟨?_,?_,fun value inside => List.mem_of_mem_take inside⟩
          · rw [Ne,List.take_eq_nil_iff]
            simp [positive.ne']
          · rw [List.length_take]
            omega
        · obtain ⟨nonempty,short,inside⟩ := ih later
          exact ⟨nonempty,short,fun value member => List.mem_of_mem_drop (inside value member)⟩
      · simp

namespace BgpAttributes

/-- Prepending keeps attributes that can be written. -/
theorem prepend_sound {attributes next : BgpAttributes} {asns : List UInt32} (sound : Sound true attributes)
    (prepended : attributes.prepend asns = .ok next) : Sound true next := by
  unfold prepend at prepended
  simp only at prepended
  split at prepended
  · cases prepended
  · rename_i allowed
    cases prepended
    simp only [Bool.or_eq_true,decide_eq_true_eq,not_or,List.contains_iff_mem] at allowed
    have old : ∀ value ∈ (split_sequence attributes.as_path).1, value ≠ 0 := by
      intro value member zero
      obtain ⟨origin,path,next_hop,atomic,med,preference,originator,clusters,unknown⟩ := attributes
      match path with
      | [] => simp [split_sequence] at member
      | .Set _ :: _ => simp [split_sequence] at member
      | .Sequence before :: rest =>
        have canonical := sound.path (.Sequence before) List.mem_cons_self
        exact canonical.positive (zero ▸ member)
    have rest : ∀ segment ∈ (split_sequence attributes.as_path).2, segment ∈ attributes.as_path := by
      intro segment member
      obtain ⟨origin,path,next_hop,atomic,med,preference,originator,clusters,unknown⟩ := attributes
      match path with
      | [] => exact member
      | .Set _ :: _ => exact member
      | .Sequence _ :: _ => exact List.mem_cons_of_mem _ member
    refine ⟨fun segment member => ?_,sound.unknown⟩
    rcases List.mem_append.mp member with new | kept
    · obtain ⟨chunk,inside,rfl⟩ := List.mem_map.mp new
      obtain ⟨nonempty,short,values⟩ := chunks_mem (by norm_num) inside
      refine ⟨nonempty,short,fun zero => ?_,by simp⟩
      rcases List.mem_append.mp (values 0 zero) with first | before
      · exact allowed.1 first
      · exact old 0 before rfl
    · exact sound.path segment (rest segment kept)

theorem set_attributes_sound {attributes next : BgpAttributes} {entry : RouteMapEntry} (sound : Sound true attributes)
    (edited : set_attributes entry attributes = some next) : Sound true next := by
  unfold set_attributes at edited
  cases prepended : { attributes with local_preference := entry.local_preference <|> attributes.local_preference,
                                      med := entry.metric <|> attributes.med }.prepend entry.as_prepend with
  | error error => rw [prepended] at edited; cases edited
  | ok value =>
    rw [prepended] at edited
    cases edited
    have kept : Sound true { attributes with local_preference := entry.local_preference <|> attributes.local_preference,
                                             med := entry.metric <|> attributes.med } := ⟨sound.path,sound.unknown⟩
    exact prepend_sound kept prepended

theorem apply_sound {config : RoutingPolicyConfig} {policy : BgpPolicy} {network : Ipv4Network}
    {attributes next : BgpAttributes} (sound : Sound true attributes)
    (edited : apply config policy network attributes = some next) : Sound true next := by
  unfold apply at edited
  split at edited
  · cases edited
  · split at edited
    · cases edited
      exact sound
    · obtain ⟨entry,-,changed⟩ := Option.bind_eq_some_iff.mp edited
      exact set_attributes_sound sound changed

theorem local_attributes_sound (next_hop : Ipv4Addr) : Sound true (local_attributes next_hop) :=
  ⟨by simp [local_attributes],by simp [local_attributes],by simp [local_attributes],by simp [local_attributes]⟩

theorem decoded_sound {bytes : List UInt8} {four : Bool} {update : BgpUpdate} {attributes : BgpAttributes}
    (decoded : BgpMessage.decode bytes four = .ok (.Update update)) (carried : update.attributes = some attributes) :
    Sound true attributes := by
  have canonical := update_canonical decoded attributes carried
  refine ((sound_iff four attributes).mp ⟨canonical.path _ rfl,fun raw member => ?_,fun raw member => ?_,canonical.distinct⟩).1
  · exact (canonical.unknown raw member).transitive
  · exact (canonical.unknown raw member).untyped

/-- The attributes that a route can have: those of an UPDATE that was decoded or those of a route of the router
    itself, with the preference of an external peer cleared and the edits of inbound policies made. -/
inductive Acquired : BgpAttributes → Prop
  | received (bytes : List UInt8) (four : Bool) (update : BgpUpdate) (attributes : BgpAttributes)
      (decoded : BgpMessage.decode bytes four = .ok (.Update update)) (carried : update.attributes = some attributes) :
      Acquired attributes
  | originated (next_hop : Ipv4Addr) : Acquired (local_attributes next_hop)
  | cleared (attributes : BgpAttributes) (acquired : Acquired attributes) :
      Acquired { attributes with local_preference := none }
  | edited (config : RoutingPolicyConfig) (policy : BgpPolicy) (network : Ipv4Network) (attributes next : BgpAttributes)
      (acquired : Acquired attributes) (changed : apply config policy network attributes = some next) : Acquired next

theorem Acquired.sound {attributes : BgpAttributes} (acquired : Acquired attributes) : Sound true attributes := by
  induction acquired with
  | received bytes four update attributes decoded carried => exact decoded_sound decoded carried
  | originated next_hop => exact local_attributes_sound next_hop
  | cleared attributes _ ih => exact ⟨ih.path,ih.unknown⟩
  | edited config policy network attributes next _ changed ih => exact apply_sound ih changed

end BgpAttributes
end Rios.Bgp
