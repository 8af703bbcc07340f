import Rios.Device
import Rios.Wire

/-!
# DNS messages

The codec of single-question messages with A records. An answer named like the
question is a pointer to it; the decoder follows pointers backwards and stops
after 128 labels and pointers.
-/

namespace Rios.Dns
open Rios.Machine Rios.Device Rios.Wire

/-- Invalid or unsupported DNS wire format. -/
structure DnsError where
deriving DecidableEq

/-- A `String` as its UTF-8 bytes. -/
abbrev Name := List UInt8

structure DnsQuestion where
  name : Name
  kind : UInt16
  «class» : UInt16
deriving DecidableEq

/-- One IN A answer. -/
structure DnsARecord where
  name : Name
  ttl : UInt32
  address : Ipv4Addr
deriving DecidableEq

/-- A single-question DNS message; only IN A answer records are retained. -/
structure DnsMessage where
  id : UInt16
  response : Bool
  authoritative : Bool
  recursion_desired : Bool
  rcode : UInt8
  question : DnsQuestion
  answers : List DnsARecord
deriving DecidableEq

/-! ### Names -/

def dot : UInt8 := 46

/-- `is_ascii_alphanumeric`, a hyphen or an underscore. -/
def host_byte (b : UInt8) : Bool :=
  (48 ≤ b && b ≤ 57) || (65 ≤ b && b ≤ 90) || (97 ≤ b && b ≤ 122) || b = 45 || b = 95

def to_ascii_lowercase (b : UInt8) : UInt8 := if 65 ≤ b ∧ b ≤ 90 then b + 32 else b

def bad_label (label : Name) : Bool := label.isEmpty || decide (63 < label.length) || !label.all host_byte

/-- Validate and canonicalize the hostname subset used by simulated DNS inventory. -/
def dns_name (name : Name) : Except DnsError Name :=
  let name := if name.getLast? = some dot then name.dropLast else name
  if name.isEmpty || decide (253 < name.length) || (name.splitOn dot).any bad_label then .error ⟨⟩
  else .ok (name.map to_ascii_lowercase)

def encode_label (label : Name) : List UInt8 := UInt8.ofNat label.length :: label

def encode_name (name : Name) : Except DnsError (List UInt8) :=
  match dns_name name with
  | .error error => .error error
  | .ok name => .ok ((name.splitOn dot).flatMap encode_label ++ [0])

/-- `slice::get` of a range. -/
def slice (bytes : List UInt8) (start count : Nat) : Option (List UInt8) :=
  if start + count ≤ bytes.length then some ((bytes.drop start).take count) else none

/-- A continuation byte of UTF-8. -/
def continues (b : UInt8) : Bool := 0x80 ≤ b && b ≤ 0xbf

/-- `str::from_utf8` accepts the bytes. -/
def utf8 : List UInt8 → Bool
  | [] => true
  | a :: rest =>
    if a < 0x80 then utf8 rest
    else
      match rest with
      | [] => false
      | b :: rest =>
        if 0xc2 ≤ a ∧ a ≤ 0xdf then continues b && utf8 rest
        else
          match rest with
          | [] => false
          | c :: rest =>
            if 0xe0 ≤ a ∧ a ≤ 0xef then
              (continues b && continues c && (a != 0xe0 || decide (0xa0 ≤ b)) && (a != 0xed || decide (b ≤ 0x9f))) && utf8 rest
            else
              match rest with
              | [] => false
              | d :: rest =>
                (decide (0xf0 ≤ a) && decide (a ≤ 0xf4) && continues b && continues c && continues d &&
                  (a != 0xf0 || decide (0x90 ≤ b)) && (a != 0xf4 || decide (b ≤ 0x8f))) && utf8 rest

/-- The loop of `name`: where it reads, where reading goes on behind the first pointer,
    the labels so far and their length. -/
def name_from (bytes : List UInt8) : Nat → Nat → Option Nat → List Name → Nat → Except DnsError (Name × Nat)
  | 0,_,_,_,_ => .error ⟨⟩
  | turns+1,start,behind,labels,length =>
    match bytes[start]? with
    | none => .error ⟨⟩
    | some size =>
      if size &&& 0xc0 = 0xc0 then
        match bytes[start + 1]? with
        | none => .error ⟨⟩
        | some low =>
          let target := (size &&& 0x3f).toNat * 256 + low.toNat
          if target < 12 ∨ start ≤ target then .error ⟨⟩
          else name_from bytes turns target (some (behind.getD (start + 2))) labels length
      else if 63 < size then .error ⟨⟩
      else if size = 0 then
        match dns_name ([dot].intercalate labels) with
        | .error error => .error error
        | .ok name => .ok (name,behind.getD (start + 1))
      else
        match slice bytes (start + 1) size.toNat with
        | none => .error ⟨⟩
        | some label =>
          if 254 < length + (label.length + 1) ∨ utf8 label = false then .error ⟨⟩
          else name_from bytes turns (start + 1 + label.length) behind (labels ++ [label]) (length + (label.length + 1))

/-- A name at a position, and the position behind it. -/
def name (bytes : List UInt8) (start : Nat) : Except DnsError (Name × Nat) := name_from bytes 128 start none [] 0

def word (bytes : List UInt8) (start : Nat) : Except DnsError (UInt16 × Nat) :=
  match slice bytes start 2 with
  | none => .error ⟨⟩
  | some b => .ok (u16_at b 0,start + 2)

/-! ### Messages -/

/-- `u16::from` of a flag. -/
def flag (set : Bool) : UInt16 := if set then 1 else 0

namespace DnsMessage

/-- The second word of a message. -/
def flags (self : DnsMessage) : UInt16 :=
  (flag self.response <<< 15) ||| (flag self.authoritative <<< 10) ||| (flag self.recursion_desired <<< 8) |||
    self.rcode.toUInt16

def encode_answer (question : Name) (answer : DnsARecord) : Except DnsError (List UInt8) := do
  let own ← dns_name answer.name
  let asked ← dns_name question
  let name ← if own = asked then .ok [0xc0,0x0c] else encode_name answer.name
  return name ++ ([0,1,0,1] ++ (be32 answer.ttl ++ ([0,4] ++ be32 answer.address)))

def encode_answers (question : Name) : List DnsARecord → Except DnsError (List UInt8)
  | [] => .ok []
  | answer :: rest => do
    let first ← encode_answer question answer
    let others ← encode_answers question rest
    return first ++ others

/-- Encode bounded classic UDP DNS (512 bytes), without EDNS. -/
def encode (self : DnsMessage) : Except DnsError (List UInt8) := do
  if 15 < self.rcode ∨ 32 < self.answers.length then throw ⟨⟩
  let header := [self.id,self.flags,1,UInt16.ofNat self.answers.length,0,0].flatMap be16
  let question ← encode_name self.question.name
  let answers ← encode_answers self.question.name self.answers
  let out := header ++ (question ++ (be16 self.question.kind ++ (be16 self.question.class ++ answers)))
  if 512 < out.length then throw ⟨⟩
  return out

/-- One record of the answer section, retained when it is an IN A record. -/
def record (bytes : List UInt8) (start : Nat) : Except DnsError (Option DnsARecord × Nat) := do
  let (owner,start) ← name bytes start
  let (kind,start) ← word bytes start
  let (group,start) ← word bytes start
  let (high,start) ← word bytes start
  let (low,start) ← word bytes start
  let (length,start) ← word bytes start
  match slice bytes start length.toNat with
  | none => .error ⟨⟩
  | some data =>
    if kind = 1 ∧ group = 1 then
      if data.length ≠ 4 then .error ⟨⟩
      else .ok (some ⟨owner,(high.toUInt32 <<< 16) ||| low.toUInt32,u32_at data 0⟩,start + length.toNat)
    else .ok (none,start + length.toNat)

def records (bytes : List UInt8) : Nat → Nat → Except DnsError (List DnsARecord × Nat)
  | 0,start => .ok ([],start)
  | count+1,start => do
    let (first,start) ← record bytes start
    let (others,start) ← records bytes count start
    return (first.toList ++ others,start)

/-- Decode a bounded classic message; pointer cycles, truncation and excess records fail. -/
def decode (bytes : List UInt8) : Except DnsError DnsMessage := do
  if 512 < bytes.length then throw ⟨⟩
  let (id,start) ← word bytes 0
  let (flags,start) ← word bytes start
  if flags &&& 0x7a40 ≠ 0 then throw ⟨⟩
  let (questions,start) ← word bytes start
  if questions ≠ 1 then throw ⟨⟩
  let (count,start) ← word bytes start
  if 32 < count then throw ⟨⟩
  let (authorities,start) ← word bytes start
  if authorities ≠ 0 then throw ⟨⟩
  let (additional,start) ← word bytes start
  if additional ≠ 0 then throw ⟨⟩
  let (asked,start) ← name bytes start
  let (kind,start) ← word bytes start
  let (group,start) ← word bytes start
  let (answers,start) ← records bytes count.toNat start
  if start ≠ bytes.length then throw ⟨⟩
  return ⟨id,flags &&& 0x8000 ≠ 0,flags &&& 0x0400 ≠ 0,flags &&& 0x0100 ≠ 0,(flags &&& 15).toUInt8,⟨asked,kind,group⟩,answers⟩

end DnsMessage

/-! ### Reading at a position -/

section
variable {bytes chunk more : List UInt8} {start : Nat}

theorem prefix_split (there : chunk ++ more <+: bytes.drop start) :
    chunk <+: bytes.drop start ∧ more <+: bytes.drop (start + chunk.length) := by
  refine ⟨(List.prefix_append chunk more).trans there,?_⟩
  obtain ⟨rest,whole⟩ := there
  refine ⟨rest,?_⟩
  rw [← List.drop_drop,← whole,List.append_assoc,List.drop_left]

theorem getElem?_of_start {b : UInt8} (there : b :: more <+: bytes.drop start) :
    bytes[start]? = some b ∧ more <+: bytes.drop (start + 1) := by
  refine ⟨?_,(@prefix_split bytes [b] more start there).2⟩
  obtain ⟨rest,whole⟩ := there
  have head : (bytes.drop start)[0]? = some b := by rw [← whole]; rfl
  simpa using head

theorem slice_of_start (there : chunk <+: bytes.drop start) (nonempty : chunk ≠ []) :
    slice bytes start chunk.length = some chunk := by
  have length := there.length_le
  have positive := List.length_pos_iff.mpr nonempty
  rw [List.length_drop] at length
  unfold slice
  rw [if_pos (by omega),← List.prefix_iff_eq_take.mp there]

theorem word_of_start {value : UInt16} (there : be16 value ++ more <+: bytes.drop start) :
    word bytes start = .ok (value,start + 2) ∧ more <+: bytes.drop (start + 2) := by
  obtain ⟨here,after⟩ := prefix_split there
  have found : slice bytes start 2 = some (be16 value) := slice_of_start here (by simp [be16])
  refine ⟨?_,after⟩
  unfold word
  rw [found]
  have read := u16_at_be16 value []
  rw [List.append_nil] at read
  simp only [read]

/-! ### Labels -/

/-- A label that a name may have. -/
def Fine (label : Name) : Prop := label ≠ [] ∧ label.length ≤ 63 ∧ label.all host_byte = true

theorem bad_label_eq_false {label : Name} : bad_label label = false ↔ Fine label := by
  unfold bad_label Fine
  simp only [Bool.or_eq_false_iff,List.isEmpty_eq_false_iff,decide_eq_false_iff_not,not_lt,Bool.not_eq_false',and_assoc]

theorem utf8_of_host {label : Name} (plain : label.all host_byte = true) : utf8 label = true := by
  induction label with
  | nil => rfl
  | cons b rest ih =>
    simp only [List.all_cons,Bool.and_eq_true] at plain
    have ascii : b < 0x80 := by
      have host := plain.1
      simp only [host_byte,Bool.or_eq_true,Bool.and_eq_true,decide_eq_true_eq,UInt8.le_iff_toNat_le] at host
      rw [UInt8.lt_iff_toNat_lt]
      rcases host with (((digit | upper) | lower) | hyphen) | underscore
      · exact lt_of_le_of_lt digit.2 (by decide)
      · exact lt_of_le_of_lt upper.2 (by decide)
      · exact lt_of_le_of_lt lower.2 (by decide)
      · rw [hyphen]; decide
      · rw [underscore]; decide
    unfold utf8
    rw [if_pos ascii]
    exact ih plain.2

/-- The bytes of some labels. -/
def labelBytes (labels : List Name) : List UInt8 := labels.flatMap encode_label

theorem labelBytes_cons (label : Name) (labels : List Name) :
    labelBytes (label :: labels) = UInt8.ofNat label.length :: (label ++ labelBytes labels) := by
  simp [labelBytes,encode_label]

theorem labelBytes_length (labels : List Name) :
    (labelBytes labels).length = (labels.map (fun label => label.length + 1)).sum := by
  induction labels with
  | nil => rfl
  | cons label labels ih =>
    rw [labelBytes_cons,List.length_cons,List.length_append,ih,List.map_cons,List.sum_cons]
    omega

theorem intercalate_length (labels : List Name) (nonempty : labels ≠ []) :
    ([dot].intercalate labels).length + 1 = (labelBytes labels).length := by
  rw [labelBytes_length]
  induction labels with
  | nil => exact absurd rfl nonempty
  | cons label labels ih =>
    cases labels with
    | nil => simp
    | cons next labels =>
      have behind := ih (by simp)
      rw [List.map_cons,List.sum_cons,← behind,List.intercalate_cons_cons]
      simp only [List.length_append,List.length_singleton]
      omega

variable {labels : List Name} {behind : Option Nat} {seen : List Name} {length turns : Nat}

/-- One label is read in one turn. -/
theorem name_from_label {label : Name} (fine : Fine label)
    (there : UInt8.ofNat label.length :: (label ++ more) <+: bytes.drop start)
    (short : length + (label.length + 1) ≤ 254) :
    name_from bytes (turns + 1) start behind seen length =
        name_from bytes turns (start + 1 + label.length) behind (seen ++ [label]) (length + (label.length + 1)) ∧
      more <+: bytes.drop (start + 1 + label.length) := by
  obtain ⟨nonempty,small,plain⟩ := fine
  have positive := List.length_pos_iff.mpr nonempty
  obtain ⟨size,content⟩ := getElem?_of_start there
  obtain ⟨here,after⟩ := prefix_split content
  have value : (UInt8.ofNat label.length).toNat = label.length := UInt8.toNat_ofNat_of_lt' (by simp [UInt8.size]; omega)
  have direct : ¬ UInt8.ofNat label.length &&& 0xc0 = 0xc0 := by
    intro pointer
    have equal := congrArg UInt8.toNat pointer
    rw [UInt8.toNat_and,value] at equal
    have below : label.length &&& (0xc0 : UInt8).toNat ≤ label.length := Nat.and_le_left
    rw [equal] at below
    exact absurd (below.trans small) (by decide)
  have fits : ¬ 63 < UInt8.ofNat label.length := by
    rw [UInt8.lt_iff_toNat_lt,value]
    exact not_lt.mpr small
  have some_ : ¬ UInt8.ofNat label.length = 0 := by
    intro zero
    have equal := congrArg UInt8.toNat zero
    rw [value] at equal
    exact absurd equal positive.ne'
  refine ⟨?_,after⟩
  conv_lhs => unfold name_from
  simp only [size,value,slice_of_start here nonempty,utf8_of_host plain]
  rw [if_neg direct,if_neg fits,if_neg some_,if_neg (by simp; omega)]

/-- Labels and the end behind them are read when there are turns for all of them. -/
theorem name_from_labels (fine : ∀ label ∈ labels, Fine label) {result : Name}
    (there : labelBytes labels ++ [0] <+: bytes.drop start) (short : length + (labelBytes labels).length ≤ 254)
    (enough : labels.length < turns) (named : dns_name ([dot].intercalate (seen ++ labels)) = .ok result) :
    name_from bytes turns start behind seen length =
      .ok (result,behind.getD (start + (labelBytes labels).length + 1)) := by
  induction labels generalizing start seen length turns with
  | nil =>
    obtain ⟨zero,-⟩ := getElem?_of_start there
    obtain ⟨rest,rfl⟩ : ∃ rest, turns = rest + 1 := ⟨turns - 1,by simp at enough; omega⟩
    rw [List.append_nil] at named
    unfold name_from
    simp only [zero,named]
    rfl
  | cons label labels ih =>
    rw [labelBytes_cons] at there short ⊢
    simp only [List.length_cons,List.length_append] at short ⊢
    obtain ⟨rest,rfl⟩ : ∃ rest, turns = rest + 1 := ⟨turns - 1,by simp at enough; omega⟩
    have there' : UInt8.ofNat label.length :: (label ++ (labelBytes labels ++ [0])) <+: bytes.drop start := by
      simpa using there
    obtain ⟨read,after⟩ := @name_from_label bytes _ start behind seen length rest label (fine label List.mem_cons_self)
      there' (by omega)
    rw [read,ih (fun other member => fine other (List.mem_cons_of_mem _ member)) after (by omega)
      (by simp at enough; omega) (by simpa using named)]
    congr 3
    omega

/-- Without a turn for the end behind the labels nothing is read. -/
theorem name_from_short (fine : ∀ label ∈ labels, Fine label) (there : labelBytes labels ++ [0] <+: bytes.drop start)
    (short : length + (labelBytes labels).length ≤ 254) (few : turns ≤ labels.length) :
    name_from bytes turns start behind seen length = .error ⟨⟩ := by
  induction labels generalizing start seen length turns with
  | nil =>
    obtain rfl : turns = 0 := by simpa using few
    rfl
  | cons label labels ih =>
    rw [labelBytes_cons] at there short
    simp only [List.length_cons,List.length_append] at short
    cases turns with
    | zero => rfl
    | succ rest =>
      have there' : UInt8.ofNat label.length :: (label ++ (labelBytes labels ++ [0])) <+: bytes.drop start := by
        simpa using there
      obtain ⟨read,after⟩ := @name_from_label bytes _ start behind seen length rest label (fine label List.mem_cons_self)
        there' (by omega)
      rw [read]
      exact ih (fun other member => fine other (List.mem_cons_of_mem _ member)) after (by omega) (by simpa using few)

/-! ### Names in canonical form -/

/-- The labels of a name. -/
def labelsOf (name : Name) : List Name := name.splitOn dot

theorem intercalate_labelsOf (name : Name) : [dot].intercalate (labelsOf name) = name := List.intercalate_splitOn dot

/-- A canonical name consists of fine labels, which fill at most 254 bytes. -/
theorem canonical_labels {name : Name} (canonical : dns_name name = .ok name) :
    (∀ label ∈ labelsOf name, Fine label) ∧ (labelBytes (labelsOf name)).length ≤ 254 := by
  unfold dns_name at canonical
  have dotless : ¬ name.getLast? = some dot := by
    intro ends
    rw [if_pos ends] at canonical
    dsimp only at canonical
    split_ifs at canonical
    have shorter := congrArg List.length (Except.ok.inj canonical)
    have nonempty : name ≠ [] := by
      rintro rfl
      cases ends
    have positive := List.length_pos_iff.mpr nonempty
    rw [List.length_map,List.length_dropLast] at shorter
    omega
  rw [if_neg dotless] at canonical
  dsimp only at canonical
  split_ifs at canonical with bad
  simp only [Bool.or_eq_true,not_or,Bool.not_eq_true,decide_eq_false_iff_not,not_lt,List.any_eq_false] at bad
  obtain ⟨⟨-,long⟩,labels⟩ := bad
  refine ⟨fun label member => bad_label_eq_false.mp (by simpa using labels label member),?_⟩
  have total := intercalate_length (labelsOf name) (List.splitOn_ne_nil dot name)
  rw [intercalate_labelsOf] at total
  omega

theorem encode_name_canonical {name : Name} (canonical : dns_name name = .ok name) :
    encode_name name = .ok (labelBytes (labelsOf name) ++ [0]) := by
  unfold encode_name
  rw [canonical]
  rfl

/-- Every label takes two bytes at least. -/
theorem labels_half (labels : List Name) (fine : ∀ label ∈ labels, Fine label) :
    2 * labels.length ≤ (labelBytes labels).length := by
  induction labels with
  | nil => exact le_rfl
  | cons label labels ih =>
    have rest := ih (fun other member => fine other (List.mem_cons_of_mem _ member))
    have positive := List.length_pos_iff.mpr (fine label List.mem_cons_self).1
    rw [labelBytes_cons,List.length_cons,List.length_cons,List.length_append]
    omega

/-- A name that is written out is read back. -/
theorem name_of_start {own : Name} (canonical : dns_name own = .ok own)
    (there : labelBytes (labelsOf own) ++ [0] <+: bytes.drop start) :
    name bytes start = .ok (own,start + (labelBytes (labelsOf own)).length + 1) := by
  obtain ⟨fine,short⟩ := canonical_labels canonical
  have half := labels_half _ fine
  exact name_from_labels fine there (by omega) (by omega) (by rw [List.nil_append,intercalate_labelsOf,canonical])

/-- A pointer to the question costs one turn. -/
theorem name_pointer (there : [0xc0,0x0c] <+: bytes.drop start) (behind : 12 < start) :
    name bytes start = name_from bytes 127 12 (some (start + 2)) [] 0 := by
  obtain ⟨high,rest⟩ := getElem?_of_start there
  obtain ⟨low,-⟩ := getElem?_of_start rest
  unfold name
  conv_lhs => unfold name_from
  simp only [high,low]
  rw [if_pos (by decide),if_neg]
  · rfl
  · change ¬ (12 < 12 ∨ start ≤ 12)
    omega

end

/-! ### Records -/

namespace DnsMessage

variable {bytes out : List UInt8} {start : Nat} {question : Name}

/-- The name of an answer as it is written. -/
def ownerBytes (question own : Name) : List UInt8 :=
  if own = question then [0xc0,0x0c] else labelBytes (labelsOf own) ++ [0]

/-- An answer as it is written. -/
def answerBytes (question : Name) (answer : DnsARecord) : List UInt8 :=
  ownerBytes question answer.name ++ ([0,1,0,1] ++ (be32 answer.ttl ++ ([0,4] ++ be32 answer.address)))

theorem encode_answer_eq {answer : DnsARecord} (asked : dns_name question = .ok question)
    (own : dns_name answer.name = .ok answer.name) : encode_answer question answer = .ok (answerBytes question answer) := by
  unfold encode_answer answerBytes ownerBytes
  rw [asked,own]
  by_cases same : answer.name = question
  · simp only [same,if_true,bind,Except.bind]
    rfl
  · simp only [same,if_false,bind,Except.bind]
    rw [encode_name_canonical own]
    rfl

theorem encode_answers_eq {answers : List DnsARecord} (asked : dns_name question = .ok question)
    (own : ∀ answer ∈ answers, dns_name answer.name = .ok answer.name) :
    encode_answers question answers = .ok (answers.flatMap (answerBytes question)) := by
  induction answers with
  | nil => rfl
  | cons answer answers ih =>
    unfold encode_answers
    rw [encode_answer_eq asked (own answer List.mem_cons_self),
      ih (fun other member => own other (List.mem_cons_of_mem _ member))]
    rfl

theorem be32_words (value : UInt32) : ∃ high low : UInt16,
    be32 value = be16 high ++ be16 low ∧ (high.toUInt32 <<< 16) ||| low.toUInt32 = value := by
  refine ⟨UInt16.ofNat (value.toNat / 65536),UInt16.ofNat value.toNat,?_,?_⟩
  · have small := value.toNat_lt
    simp only [be32,be16,List.cons_append,List.nil_append,List.cons.injEq,and_true]
    refine ⟨?_,?_,?_,?_⟩ <;> apply UInt8.toNat.inj <;>
      simp only [UInt8.toNat_ofNat',UInt16.toNat_ofNat'] <;> omega
  · have small := value.toNat_lt
    apply UInt32.toNat.inj
    rw [UInt32.toNat_or,UInt32.toNat_shiftLeft]
    have high : (UInt16.ofNat (value.toNat / 65536)).toUInt32.toNat = value.toNat / 65536 := by
      simp only [UInt16.toNat_toUInt32,UInt16.toNat_ofNat']
      omega
    have low : (UInt16.ofNat value.toNat).toUInt32.toNat = value.toNat % 65536 := by
      simp only [UInt16.toNat_toUInt32,UInt16.toNat_ofNat']
    have shift : ((16 : UInt32).toNat % 32) = 16 := rfl
    rw [high,low,shift,Nat.mod_eq_of_lt (by rw [Nat.shiftLeft_eq]; omega),
      ← Nat.shiftLeft_add_eq_or_of_lt (show value.toNat % 65536 < 2 ^ 16 by omega),Nat.shiftLeft_eq]
    omega

/-- Behind its name a record is read as it was written. -/
theorem record_eq {answer : DnsARecord} {behind : Nat} (read : name bytes start = .ok (answer.name,behind))
    (there : [0,1,0,1] ++ (be32 answer.ttl ++ ([0,4] ++ be32 answer.address)) <+: bytes.drop behind) :
    record bytes start = .ok (some answer,behind + 14) := by
  obtain ⟨high,low,split,whole⟩ := be32_words answer.ttl
  rw [split] at there
  have layout : [0,1,0,1] ++ ((be16 high ++ be16 low) ++ ([0,4] ++ be32 answer.address)) =
      be16 1 ++ (be16 1 ++ (be16 high ++ (be16 low ++ (be16 4 ++ be32 answer.address)))) := by
    simp [be16]
  rw [layout] at there
  obtain ⟨kind,there⟩ := word_of_start there
  obtain ⟨group,there⟩ := word_of_start there
  obtain ⟨first,there⟩ := word_of_start there
  obtain ⟨second,there⟩ := word_of_start there
  obtain ⟨length,there⟩ := word_of_start there
  have data : slice bytes (behind + 2 + 2 + 2 + 2 + 2) 4 = some (be32 answer.address) :=
    slice_of_start there (by simp [be32])
  have address : u32_at (be32 answer.address) 0 = answer.address := by
    have plain := u32_at_be32 answer.address []
    rwa [List.append_nil] at plain
  have four : (4 : UInt16).toNat = 4 := rfl
  unfold record
  simp only [read,kind,group,first,second,length,bind,Except.bind,four,data,address,whole]
  rfl

theorem answerBytes_length (question : Name) (answer : DnsARecord) :
    (answerBytes question answer).length = (ownerBytes question answer.name).length + 14 := by
  simp only [answerBytes,List.length_append,be32_length]
  rfl

variable (asked : dns_name question = .ok question)
    (there_question : labelBytes (labelsOf question) ++ [0] <+: bytes.drop 12)
include asked there_question

/-- The name of an answer is read, unless it is a pointer to 127 labels. -/
theorem name_of_owner {own : Name} (canonical : dns_name own = .ok own) (behind : 12 < start)
    (there : ownerBytes question own <+: bytes.drop start) :
    (own = question → (labelsOf question).length ≤ 126) →
      name bytes start = .ok (own,start + (ownerBytes question own).length) := by
  intro few
  unfold ownerBytes at there ⊢
  by_cases same : own = question
  · obtain ⟨fine,short⟩ := canonical_labels asked
    rw [if_pos same] at there ⊢
    rw [name_pointer there behind,name_from_labels fine there_question (by omega) (Nat.lt_succ_of_le (few same))
      (by rw [List.nil_append,intercalate_labelsOf,asked]),same]
    rfl
  · rw [if_neg same] at there ⊢
    rw [name_of_start canonical there,List.length_append]
    rfl

/-- A pointer to 127 labels is not read. -/
theorem name_of_long_owner (behind : 12 < start) (there : ownerBytes question question <+: bytes.drop start)
    (many : 126 < (labelsOf question).length) : name bytes start = .error ⟨⟩ := by
  obtain ⟨fine,short⟩ := canonical_labels asked
  unfold ownerBytes at there
  rw [if_pos rfl] at there
  rw [name_pointer there behind]
  exact name_from_short fine there_question (by omega) many

/-- Answers are read back, one by one. -/
theorem records_eq {answers : List DnsARecord} (own : ∀ answer ∈ answers, dns_name answer.name = .ok answer.name)
    (behind : 12 < start) (there : answers.flatMap (answerBytes question) <+: bytes.drop start)
    (few : ∀ answer ∈ answers, answer.name = question → (labelsOf question).length ≤ 126) :
    records bytes answers.length start =
      .ok (answers,start + (answers.flatMap (answerBytes question)).length) := by
  induction answers generalizing start with
  | nil => rfl
  | cons answer answers ih =>
    rw [List.flatMap_cons] at there
    obtain ⟨here,after⟩ := prefix_split there
    unfold answerBytes at here
    obtain ⟨owner,fields⟩ := prefix_split here
    have read := name_of_owner asked there_question (own answer List.mem_cons_self) behind owner
      (few answer List.mem_cons_self)
    have first := record_eq read fields
    rw [answerBytes_length,← Nat.add_assoc] at after
    have others := ih (fun other member => own other (List.mem_cons_of_mem _ member)) (by omega) after
      (fun other member => few other (List.mem_cons_of_mem _ member))
    rw [List.length_cons,records,first]
    simp only [bind,Except.bind,others]
    rw [List.flatMap_cons,List.length_append,answerBytes_length]
    change Except.ok (answer :: answers,_) = _
    congr 2
    omega

/-- An answer named like a question of 127 labels stops the decoder. -/
theorem records_refused {answers : List DnsARecord} (own : ∀ answer ∈ answers, dns_name answer.name = .ok answer.name)
    (behind : 12 < start) (there : answers.flatMap (answerBytes question) <+: bytes.drop start)
    (many : 126 < (labelsOf question).length) (pointer : ∃ answer ∈ answers, answer.name = question) :
    records bytes answers.length start = .error ⟨⟩ := by
  induction answers generalizing start with
  | nil =>
    obtain ⟨answer,member,-⟩ := pointer
    cases member
  | cons answer answers ih =>
    rw [List.flatMap_cons] at there
    obtain ⟨here,after⟩ := prefix_split there
    unfold answerBytes at here
    obtain ⟨owner,fields⟩ := prefix_split here
    by_cases same : answer.name = question
    · have stopped := name_of_long_owner asked there_question behind (same ▸ owner) many
      rw [List.length_cons,records,record,stopped]
      rfl
    · have read := name_of_owner asked there_question (own answer List.mem_cons_self) behind owner
        (fun equal => absurd equal same)
      have first := record_eq read fields
      rw [answerBytes_length,← Nat.add_assoc] at after
      have others := ih (fun other member => own other (List.mem_cons_of_mem _ member)) (by omega) after (by
        obtain ⟨other,member,equal⟩ := pointer
        rcases List.mem_cons.mp member with rfl | member
        · exact absurd equal same
        · exact ⟨other,member,equal⟩)
      rw [List.length_cons,records,first]
      simp only [bind,Except.bind,others]

omit asked there_question

/-! ### Messages -/

/-- The question and every answer have their names in canonical form. -/
structure Canonical (message : DnsMessage) : Prop where
  question : dns_name message.question.name = .ok message.question.name
  answers : ∀ answer ∈ message.answers, dns_name answer.name = .ok answer.name

/-- The six words that a message starts with. -/
def headerBytes (message : DnsMessage) : List UInt8 :=
  be16 message.id ++ (be16 message.flags ++ (be16 1 ++ (be16 (UInt16.ofNat message.answers.length) ++ (be16 0 ++ be16 0))))

/-- A message as it is written. -/
def messageBytes (message : DnsMessage) : List UInt8 :=
  headerBytes message ++ ((labelBytes (labelsOf message.question.name) ++ [0]) ++ (be16 message.question.kind ++
    (be16 message.question.class ++ message.answers.flatMap (answerBytes message.question.name))))

theorem encode_eq {message : DnsMessage} (canonical : message.Canonical) {bytes : List UInt8}
    (accepted : message.encode = .ok bytes) :
    bytes = messageBytes message ∧ message.rcode ≤ 15 ∧ message.answers.length ≤ 32 ∧ bytes.length ≤ 512 := by
  have header : [message.id,message.flags,1,UInt16.ofNat message.answers.length,0,0].flatMap be16 = headerBytes message := by
    simp [headerBytes]
  unfold encode at accepted
  simp only [header,encode_name_canonical canonical.question,encode_answers_eq canonical.question canonical.answers] at accepted
  by_cases beyond : 15 < message.rcode ∨ 32 < message.answers.length
  · rw [if_pos beyond] at accepted
    cases accepted
  · rw [if_neg beyond] at accepted
    simp only [bind,Except.bind,pure,Except.pure] at accepted
    split_ifs at accepted with long
    cases accepted
    simp only [not_or,not_lt] at beyond
    exact ⟨rfl,beyond.1,beyond.2,not_lt.mp long⟩

/-- The flags of a message in its second word. -/
theorem flags_read {message : DnsMessage} (small : message.rcode ≤ 15) :
    message.flags &&& 0x7a40 = 0 ∧ decide (message.flags &&& 0x8000 ≠ 0) = message.response ∧
      decide (message.flags &&& 0x0400 ≠ 0) = message.authoritative ∧
      decide (message.flags &&& 0x0100 ≠ 0) = message.recursion_desired ∧ (message.flags &&& 15).toUInt8 =
          message.rcode := by
  have code : message.rcode = UInt8.ofNat message.rcode.toNat := UInt8.toNat_inj.mp (by simp)
  have range : message.rcode.toNat ≤ 15 := UInt8.le_iff_toNat_le.mp small
  unfold flags
  generalize message.rcode = rcode at code range
  generalize rcode.toNat = value at code range
  subst code
  generalize message.response = response
  generalize message.authoritative = authoritative
  generalize message.recursion_desired = recursion_desired
  interval_cases value <;> revert response authoritative recursion_desired <;> decide

/-- What is left of decoding once the header, the question and the answers are read. -/
theorem decode_read {message : DnsMessage} (canonical : message.Canonical) (small : message.rcode ≤ 15)
    (many : message.answers.length ≤ 32) (fits : (messageBytes message).length ≤ 512) :
    ∃ start, 12 < start ∧ labelBytes (labelsOf message.question.name) ++ [0] <+: (messageBytes message).drop 12 ∧
      message.answers.flatMap (answerBytes message.question.name) <+: (messageBytes message).drop start ∧
      start + (message.answers.flatMap (answerBytes message.question.name)).length = (messageBytes message).length ∧
      decode (messageBytes message) = (do
        let (answers,start) ← records (messageBytes message) message.answers.length start
        if start ≠ (messageBytes message).length then throw ⟨⟩
        return { message with answers }) := by
  obtain ⟨clear,response,authoritative,recursion,code⟩ := flags_read small
  have there : messageBytes message <+: (messageBytes message).drop 0 := List.prefix_rfl
  conv at there => lhs; unfold messageBytes headerBytes
  simp only [List.append_assoc] at there
  obtain ⟨id,there⟩ := word_of_start there
  obtain ⟨flags,there⟩ := word_of_start there
  obtain ⟨questions,there⟩ := word_of_start there
  obtain ⟨count,there⟩ := word_of_start there
  obtain ⟨authorities,there⟩ := word_of_start there
  obtain ⟨additional,there⟩ := word_of_start there
  rw [← List.append_assoc (labelBytes _)] at there
  obtain ⟨question,there⟩ := prefix_split there
  have name_read := name_of_start canonical.question question
  rw [List.length_append,List.length_singleton,← Nat.add_assoc] at there
  obtain ⟨kind,there⟩ := word_of_start there
  obtain ⟨group,there⟩ := word_of_start there
  have counted : (UInt16.ofNat message.answers.length).toNat = message.answers.length :=
    UInt16.toNat_ofNat_of_lt' (by simp [UInt16.size]; omega)
  have few : ¬ 32 < UInt16.ofNat message.answers.length := by
    rw [UInt16.lt_iff_toNat_lt,counted]
    exact not_lt.mpr many
  refine ⟨_,?_,question,there,?_,?_⟩
  · omega
  · simp only [messageBytes,headerBytes,List.length_append,be16_length,List.length_singleton]
    omega
  · conv_lhs => unfold decode
    simp only [id,flags,questions,count,authorities,additional,name_read,kind,group,bind,Except.bind,pure,Except.pure,
      counted,clear,response,authoritative,recursion,code]
    rw [if_neg (not_lt.mpr fits)]
    simp only [ne_eq,not_true_eq_false,if_false,few]

theorem decode_encoded {message : DnsMessage} (canonical : message.Canonical) {bytes : List UInt8}
    (accepted : message.encode = .ok bytes)
    (few : ∀ answer ∈ message.answers, answer.name = message.question.name →
      (labelsOf message.question.name).length ≤ 126) : decode bytes = .ok message := by
  obtain ⟨rfl,small,many,fits⟩ := encode_eq canonical accepted
  obtain ⟨start,behind,question,there,whole,decoded⟩ := decode_read canonical small many fits
  rw [decoded,records_eq canonical.question question canonical.answers behind there few,whole]
  simp only [bind,Except.bind,ne_eq,not_true_eq_false,if_false]
  rfl

theorem decode_refused {message : DnsMessage} (canonical : message.Canonical) {bytes : List UInt8}
    (accepted : message.encode = .ok bytes) (pointer : ∃ answer ∈ message.answers, answer.name = message.question.name)
    (many : 126 < (labelsOf message.question.name).length) : decode bytes = .error ⟨⟩ := by
  obtain ⟨rfl,small,few,fits⟩ := encode_eq canonical accepted
  obtain ⟨start,behind,question,there,-,decoded⟩ := decode_read canonical small few fits
  rw [decoded,records_refused canonical.question question canonical.answers behind there many pointer]
  rfl

/-- Encoding and decoding give back a message, unless an answer points to a question of 127 labels. -/
theorem decode_encode_iff {message : DnsMessage} (canonical : message.Canonical) {bytes : List UInt8}
    (accepted : message.encode = .ok bytes) :
    decode bytes = .ok message ↔
      ∀ answer ∈ message.answers, answer.name = message.question.name → (labelsOf message.question.name).length ≤ 126 := by
  refine ⟨fun read answer member same => ?_,decode_encoded canonical accepted⟩
  by_contra many
  rw [decode_refused canonical accepted ⟨answer,member,same⟩ (not_le.mp many)] at read
  cases read

/-- A name of single letters. -/
def letters (count : Nat) : Name := [dot].intercalate (List.replicate count [97])

/-- A response with one address for the name it was asked for. -/
def answered (count : Nat) : DnsMessage := ⟨42,true,true,true,0,⟨letters count,1,1⟩,[⟨letters count,300,0xc0000201⟩]⟩

theorem answered_canonical {count : Nat} (canonical : dns_name (letters count) = .ok (letters count)) :
    (answered count).Canonical := by
  refine ⟨canonical,?_⟩
  intro answer member
  rw [List.mem_singleton.mp member]
  exact canonical

theorem decode_encode_iff_short : ∃ bytes, (answered 2).encode = .ok bytes ∧ decode bytes = .ok (answered 2) := by
  have canonical : dns_name (letters 2) = .ok (letters 2) := by decide +kernel
  have accepted : (answered 2).encode.toOption.isSome = true := by decide +kernel
  cases encoded : (answered 2).encode with
  | error error => rw [encoded] at accepted; cases accepted
  | ok bytes =>
    refine ⟨bytes,rfl,(decode_encode_iff (answered_canonical canonical) encoded).mpr ?_⟩
    intro answer member same
    decide +kernel

theorem decode_encode_long : ¬ ∀ (message : DnsMessage), message.Canonical → ∀ (bytes : List UInt8),
    message.encode = .ok bytes → decode bytes = .ok message := by
  intro always
  have canonical : dns_name (letters 127) = .ok (letters 127) := by decide +kernel
  have accepted : (answered 127).encode.toOption.isSome = true := by decide +kernel
  have many : 126 < (labelsOf (letters 127)).length := by decide +kernel
  cases encoded : (answered 127).encode with
  | error error => rw [encoded] at accepted; cases accepted
  | ok bytes =>
    have read := always (answered 127) (answered_canonical canonical) bytes encoded
    rw [decode_refused (answered_canonical canonical) encoded ⟨_,List.mem_singleton_self _,rfl⟩ many] at read
    cases read

end DnsMessage
end Rios.Dns
