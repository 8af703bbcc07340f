import Rios.AclGrammar

/-!
# Written rules are read back

The words of a rendered rule, and what the cursor makes of them piece by piece.
-/

namespace Rios.AccessLists
open Rios.Machine Rios.Device Rios.Wire Rios.Decimal Rios.Words
open Rios.Translation (AclId AccessListAction AddressMatch PortMatch AclProtocol)

/-! ### Octets and addresses -/

theorem parse_octet_toDigits (octet : UInt8) : parse_octet (Nat.toDigits 10 octet.toNat) = some octet := by
  have small := octet.toNat_lt
  have short : (Nat.toDigits 10 octet.toNat).length ≤ 3 :=
    (Nat.length_toDigits_le_iff (by decide) (by decide)).mpr (by omega)
  have unpadded : ¬ (1 < (Nat.toDigits 10 octet.toNat).length ∧ (Nat.toDigits 10 octet.toNat).head? = some '0') := by
    rintro ⟨long,zero⟩
    have positive : 0 < octet.toNat := by
      by_contra none_left
      rw [Nat.eq_zero_of_not_pos none_left] at long
      exact absurd long (by decide)
    exact toDigits_head positive zero
  have fine : ((Nat.toDigits 10 octet.toNat).isEmpty || !(Nat.toDigits 10 octet.toNat).all Char.isDigit ||
      decide (3 < (Nat.toDigits 10 octet.toNat).length) ||
      (decide (1 < (Nat.toDigits 10 octet.toNat).length) && decide ((Nat.toDigits 10 octet.toNat).head? = some '0'))) = false := by
    rw [List.all_eq_true.mpr (toDigits_isDigit _),List.isEmpty_eq_false_iff.mpr Nat.toDigits_ne_nil,
      decide_eq_false (Nat.not_lt.mpr short),← Bool.decide_and,decide_eq_false unpadded]
    rfl
  unfold parse_octet
  rw [fine,Nat.ofDigitChars_ten_toDigits,if_neg Bool.false_ne_true,if_pos (by omega),UInt8.ofNat_toNat]

theorem ipv4_toList (address : Ipv4Addr) : (ipv4_text address).toList =
    ['.'].intercalate ((be32 address).map (fun octet => Nat.toDigits 10 octet.toNat)) := by
  have dot : ".".toList = ['.'] := rfl
  rw [ipv4_text,String.toList_intercalate,dot,List.map_map]
  congr 1
  refine List.map_congr_left (fun octet _ => ?_)
  exact toList_toString _

theorem dot_not_digit (n : Nat) : '.' ∉ Nat.toDigits 10 n := by
  intro member
  have digit := toDigits_isDigit n '.' member
  revert digit
  decide

/-- A written address is read back. -/
theorem parse_ipv4_text (address : Ipv4Addr) : parse_ipv4 (ipv4_text address).toList = some address := by
  have undotted : ∀ text ∈ (be32 address).map (fun octet => Nat.toDigits 10 octet.toNat), '.' ∉ text := by
    intro text member
    obtain ⟨octet,-,rfl⟩ := List.mem_map.mp member
    exact dot_not_digit _
  have octets : ((be32 address).map (fun octet => Nat.toDigits 10 octet.toNat)).map parse_octet =
      (be32 address).map some := by
    rw [List.map_map]
    exact List.map_congr_left (fun octet _ => parse_octet_toDigits octet)
  unfold parse_ipv4
  rw [ipv4_toList,List.splitOn_intercalate _ undotted (by simp [be32]),octets]
  exact congrArg some (u32_at_be32 address [])

/-- The characters of an address. -/
theorem ipv4_characters {address : Ipv4Addr} {c : Char} (member : c ∈ (ipv4_text address).toList) :
    c.isDigit = true ∨ c = '.' := by
  rw [ipv4_toList] at member
  simp only [be32,List.map_cons,List.map_nil,List.intercalate,List.intersperse,List.flatten_cons,List.flatten_nil,
    List.append_nil,List.mem_append,List.mem_singleton] at member
  rcases member with a | dot | b | dot | c | dot | d
  · exact .inl (toDigits_isDigit _ _ a)
  · exact .inr dot
  · exact .inl (toDigits_isDigit _ _ b)
  · exact .inr dot
  · exact .inl (toDigits_isDigit _ _ c)
  · exact .inr dot
  · exact .inl (toDigits_isDigit _ _ d)

/-- An address begins with a digit. -/
theorem ipv4_head (address : Ipv4Addr) : ∃ d rest, (ipv4_text address).toList = d :: rest ∧ d.isDigit = true := by
  rw [ipv4_toList]
  simp only [be32,List.map_cons,List.map_nil,List.intercalate,List.intersperse,List.flatten_cons]
  cases digits : Nat.toDigits 10 (UInt8.ofNat (address.toNat / 16777216)).toNat with
  | nil => exact absurd digits Nat.toDigits_ne_nil
  | cons d rest => exact ⟨d,_,rfl,toDigits_isDigit _ d (digits ▸ List.mem_cons_self)⟩

theorem ipv4_word (address : Ipv4Addr) : Word (ipv4_text address).toList := by
  constructor
  · obtain ⟨d,rest,is,-⟩ := ipv4_head address
    rw [is]
    exact List.cons_ne_nil _ _
  · intro c member
    rcases ipv4_characters member with digit | rfl
    · exact digit_not_whitespace digit
    · decide

theorem port_word (port : UInt16) : Word (port_text port).toList := by
  rw [port_text,toList_toString]
  exact ⟨Nat.toDigits_ne_nil,fun c member => digit_not_whitespace (toDigits_isDigit _ c member)⟩

/-! ### Words of a rule -/

def address_words (self : AddressMatch) : List String :=
  if self = AddressMatch.ANY then ["any"]
  else if self.wildcard = 0 then ["host",ipv4_text self.address]
  else [ipv4_text self.address,ipv4_text self.wildcard]

def port_words : PortMatch → List String
  | .Any => []
  | .Eq value => ["eq",port_text value]
  | .Range low high => ["range",port_text low,port_text high]
  | .Lt value => ["lt",port_text value]
  | .Gt value => ["gt",port_text value]
  | .Neq value => ["neq",port_text value]

def log_words (log : Bool) : List String := if log then ["log"] else []

/-- The words behind the action. -/
def rule_words (kind : AclKind) (protocol : AclProtocol) (source : AddressMatch) (source_port : PortMatch)
    (destination : AddressMatch) (destination_port : PortMatch) (log : Bool) : List String :=
  if kind = .Standard then address_words source ++ log_words log
  else protocol_text protocol :: (address_words source ++ (port_words source_port ++
    (address_words destination ++ (port_words destination_port ++ log_words log))))

theorem spaced_address (self : AddressMatch) : spaced (address_words self) = " " ++ address_text self := by
  unfold address_words address_text
  split
  · rfl
  · split
    · simp [spaced,← String.append_assoc]
    · simp [spaced,← String.append_assoc]

theorem spaced_ports (ports : PortMatch) : spaced (port_words ports) = ports_text ports := by
  cases ports <;> simp [spaced,port_words,ports_text,← String.append_assoc]

theorem spaced_log (log : Bool) : spaced (log_words log) = if log then " log" else "" := by
  cases log <;> rfl

/-- The keywords of rules are words. -/
theorem keyword_fine : ∀ word ∈ ["any","host","eq","range","lt","gt","neq","log","ip","icmp","tcp","udp","permit","deny"],
    Word word.toList := by
  simp [Word]
  decide

theorem address_words_fine {self : AddressMatch} {word : String} (member : word ∈ address_words self) :
    Word word.toList := by
  unfold address_words at member
  split at member
  · rw [List.mem_singleton.mp member]
    exact keyword_fine _ (by decide)
  · split at member
    · rcases List.mem_cons.mp member with rfl | last
      · exact keyword_fine _ (by decide)
      · rw [List.mem_singleton.mp last]
        exact ipv4_word _
    · rcases List.mem_cons.mp member with rfl | last
      · exact ipv4_word _
      · rw [List.mem_singleton.mp last]
        exact ipv4_word _

theorem port_words_fine {ports : PortMatch} {word : String} (member : word ∈ port_words ports) : Word word.toList := by
  cases ports with
  | Any => cases member
  | Range low high =>
    simp only [port_words,List.mem_cons,List.not_mem_nil,or_false] at member
    rcases member with rfl | rfl | rfl
    · exact keyword_fine _ (by decide)
    · exact port_word _
    · exact port_word _
  | _ value =>
    simp only [port_words,List.mem_cons,List.not_mem_nil,or_false] at member
    rcases member with rfl | rfl
    · exact keyword_fine _ (by decide)
    · exact port_word _

theorem log_words_fine {log : Bool} {word : String} (member : word ∈ log_words log) : Word word.toList := by
  cases log with
  | false => cases member
  | true =>
    rw [List.mem_singleton.mp member]
    exact keyword_fine _ (by decide)

section Rules
variable (kind : AclKind) (action : AccessListAction) (protocol : AclProtocol) (source : AddressMatch)
  (source_port : PortMatch) (destination : AddressMatch) (destination_port : PortMatch) (log : Bool)

/-- A rendered rule is its action and its words. -/
theorem render_words : (AclEntry.Rule action protocol source source_port destination destination_port log).render kind =
    " ".intercalate (action_text action :: rule_words kind protocol source source_port destination destination_port log) := by
  rw [joined_spaced]
  cases kind with
  | Standard =>
    simp only [AclEntry.render,rule_words,if_true,spaced_append,spaced_address,spaced_log,String.append_assoc]
  | Extended =>
    have first : ∀ (word : String) rest, spaced (word :: rest) = " " ++ (word ++ spaced rest) := by
      intro word rest
      simp [spaced,String.append_assoc]
    have other : AclKind.Extended ≠ .Standard := by decide
    simp only [AclEntry.render,rule_words,if_neg other,first,spaced_append,spaced_address,spaced_ports,spaced_log,
      String.append_assoc]

theorem rule_words_fine {word : String}
    (member : word ∈ action_text action :: rule_words kind protocol source source_port destination destination_port log) :
    Word word.toList := by
  rcases List.mem_cons.mp member with rfl | member
  · cases action <;> exact keyword_fine _ (by decide)
  · cases kind with
    | Standard =>
      rw [rule_words,if_pos rfl] at member
      rcases List.mem_append.mp member with address | logs
      · exact address_words_fine address
      · exact log_words_fine logs
    | Extended =>
      rw [rule_words,if_neg (by decide)] at member
      simp only [List.mem_cons,List.mem_append] at member
      rcases member with rfl | address | ports | address | ports | logs
      · cases protocol <;> exact keyword_fine _ (by decide)
      · exact address_words_fine address
      · exact port_words_fine ports
      · exact address_words_fine address
      · exact port_words_fine ports
      · exact log_words_fine logs

/-- The tokens of a rendered rule. -/
theorem render_tokens : ∃ word args,
    tokens ((AclEntry.Rule action protocol source source_port destination destination_port log).render kind) = word :: args ∧
      word.text = action_text action ∧
      args.map (·.text) = rule_words kind protocol source source_port destination destination_port log := by
  have texts := tokens_joined (fun word =>
    @rule_words_fine kind action protocol source source_port destination destination_port log word)
  rw [← render_words] at texts
  cases read : tokens ((AclEntry.Rule action protocol source source_port destination destination_port log).render kind) with
  | nil =>
    rw [read] at texts
    cases texts
  | cons word args =>
    rw [read] at texts
    exact ⟨word,args,rfl,(List.cons.inj texts).1,(List.cons.inj texts).2⟩

end Rules

/-! ### Reading the words -/

theorem lowercase_digit {d : Char} (digit : d.isDigit = true) : d.toLower = d := by
  simp only [Char.isDigit,ge_iff_le,Bool.and_eq_true,decide_eq_true_eq,UInt32.le_iff_toNat_le] at digit
  have high : d.val.toNat ≤ 57 := digit.2
  unfold Char.toLower
  rw [dif_neg]
  rintro ⟨low,-⟩
  rw [ge_iff_le,UInt32.le_iff_toNat_le] at low
  have letter : 'A'.val.toNat = 65 := rfl
  omega

/-- A choice in lower case that is written out. -/
theorem unique_choice_exact {token : Token} {choices : List String} {word : String} (offered : word ∈ choices)
    (lower : lowercase word = word.toList) (is : token.text = word) : unique_choice token choices = .ok word := by
  unfold unique_choice
  rw [is,lower]
  cases found : choices.find? (fun choice => choice.toList = word.toList) with
  | none => exact absurd (by simp) (List.find?_eq_none.mp found word offered)
  | some exact =>
    have same := List.find?_some found
    rw [decide_eq_true_eq,String.toList_inj] at same
    simp only [found,same]

/-- A word that begins none of the choices. -/
theorem unique_choice_none {token : Token} {choices : List String}
    (none_begun : ∀ choice ∈ choices, (lowercase token.text).isPrefixOf choice.toList = false) :
    unique_choice token choices = .error (invalid token.offset "invalid argument") := by
  have no_exact : choices.find? (fun choice => choice.toList = lowercase token.text) = none := by
    rw [List.find?_eq_none]
    intro choice offered same
    have begun := none_begun choice offered
    rw [of_decide_eq_true same] at begun
    rw [List.isPrefixOf_iff_prefix.mpr (List.prefix_refl _)] at begun
    cases begun
  have no_match : choices.filter (fun value => (lowercase token.text).isPrefixOf value.toList) = [] := by
    rw [List.filter_eq_nil_iff]
    intro choice offered
    rw [none_begun choice offered]
    decide
  unfold unique_choice
  simp only [no_exact,no_match]

/-- A keyword of letters is not begun by a word that begins with a digit. -/
theorem digit_begins {text : String} {d : Char} {rest : List Char} (is : text.toList = d :: rest) (digit : d.isDigit = true)
    {choice : String} (letter : ∀ c ∈ choice.toList.head?, c.isDigit = false) :
    (lowercase text).isPrefixOf choice.toList = false := by
  rw [lowercase,is,List.map_cons,lowercase_digit digit]
  cases keyword : choice.toList with
  | nil => rfl
  | cons first others =>
    rw [keyword] at letter
    have other : (d == first) = false := by
      rw [beq_eq_false_iff_ne]
      rintro rfl
      rw [letter d rfl] at digit
      cases digit
    rw [List.isPrefixOf,other,Bool.false_and]

/-- An address is no keyword. -/
theorem unique_choice_ipv4 {token : Token} {address : Ipv4Addr} (is : token.text = ipv4_text address) {choices : List String}
    (letters : ∀ choice ∈ choices, ∀ c ∈ choice.toList.head?, c.isDigit = false) :
    unique_choice token choices = .error (invalid token.offset "invalid argument") := by
  obtain ⟨d,rest,text,digit⟩ := ipv4_head address
  rw [← is] at text
  exact unique_choice_none (fun choice offered => digit_begins text digit (letters choice offered))

theorem ip_text {token : Token} {address : Ipv4Addr} (is : token.text = ipv4_text address) : ip token = .ok address := by
  rw [ip,is,parse_ipv4_text]

theorem port_reads {token : Token} {value : UInt16} (is : token.text = port_text value) : port token = .ok value := by
  have small := value.toNat_lt
  rw [port,is,port_text,toList_toString,parse_unsigned_toDigits (by omega)]
  simp only [UInt16.ofNat_toNat]

section Reads
variable {args : List Token} {help : Bool} {more : List String}

theorem texts_cons {word : String} (texts : args.map (·.text) = word :: more) :
    ∃ token rest, args = token :: rest ∧ token.text = word ∧ rest.map (·.text) = more :=
  List.map_eq_cons_iff.mp texts

/-- The words of an address selection are read as the selection. -/
theorem address_reads (self : AddressMatch) (texts : args.map (·.text) = address_words self ++ more) :
    ∃ rest, rest.map (·.text) = more ∧ Cursor.address ⟨args,help⟩ = .ok (self,⟨rest,help⟩) := by
  have letters : ∀ choice ∈ ADDRESS_CHOICES, ∀ c ∈ choice.toList.head?, c.isDigit = false := by
    simp [ADDRESS_CHOICES]
  unfold address_words at texts
  split at texts
  · rename_i any
    obtain ⟨token,rest,rfl,is,texts⟩ := texts_cons texts
    have choice := @unique_choice_exact token ADDRESS_CHOICES "any" (by decide) (by decide) is
    refine ⟨rest,texts,?_⟩
    rw [any]
    simp [Cursor.address,Cursor.next,choice,bind,Except.bind]
  · split at texts
    · rename_i exact
      obtain ⟨token,rest,rfl,is,texts⟩ := texts_cons texts
      obtain ⟨host,rest,rfl,is_host,texts⟩ := texts_cons texts
      have choice := @unique_choice_exact token ADDRESS_CHOICES "host" (by decide) (by decide) is
      refine ⟨rest,texts,?_⟩
      have whole : self = ⟨self.address,0⟩ := by rw [← exact]
      rw [whole]
      simp [Cursor.address,Cursor.next,choice,ip_text is_host,bind,Except.bind]
    · obtain ⟨token,rest,rfl,is,texts⟩ := texts_cons texts
      obtain ⟨mask,rest,rfl,is_mask,texts⟩ := texts_cons texts
      refine ⟨rest,texts,?_⟩
      simp [Cursor.address,Cursor.next,unique_choice_ipv4 is letters,ip_text is,ip_text is_mask,bind,Except.bind]

/-- A word that ends a port selection: it begins no operator. -/
def Ends (word : String) : Prop := ∀ choice ∈ PORT_CHOICES, (lowercase word).isPrefixOf choice.toList = false

/-- An operator is read as such. -/
theorem operator_reads {operator : String} (offered : operator ∈ PORT_CHOICES) (lower : lowercase operator = operator.toList)
    (source : Bool) (texts : args.map (·.text) = operator :: more) :
    ∃ rest, rest.map (·.text) = more ∧ Cursor.ports ⟨args,help⟩ source = Cursor.operand ⟨rest,help⟩ operator := by
  obtain ⟨token,rest,rfl,is,texts⟩ := texts_cons texts
  refine ⟨rest,texts,?_⟩
  simp only [Cursor.ports,unique_choice_exact offered lower is]

/-- The words of a port selection are read as the selection, if no operator comes behind an open one. -/
theorem ports_read (self : PortMatch) (ascending : descending self = false) (source : Bool)
    (texts : args.map (·.text) = port_words self ++ more) (ends : ∀ word ∈ more.head?, Ends word) :
    ∃ rest, rest.map (·.text) = more ∧ Cursor.ports ⟨args,false⟩ source = .ok (self,⟨rest,false⟩) := by
  cases self with
  | Any =>
    refine ⟨args,texts,?_⟩
    cases args with
    | nil => rfl
    | cons token rest =>
      have here : ∀ choice ∈ PORT_CHOICES, (lowercase token.text).isPrefixOf choice.toList = false := by
        refine ends token.text ?_
        rw [show more = token.text :: rest.map (·.text) from texts.symm]
        rfl
      simp only [Cursor.ports,unique_choice_none here]
  | Range low high =>
    obtain ⟨rest,texts,is⟩ := operator_reads (by decide) (by decide) source texts
    obtain ⟨first,rest,rfl,is_low,texts⟩ := texts_cons texts
    obtain ⟨second,rest,rfl,is_high,texts⟩ := texts_cons texts
    have order : ¬ high < low := of_decide_eq_false ascending
    refine ⟨rest,texts,is.trans ?_⟩
    simp [Cursor.operand,Cursor.next,port_reads is_low,port_reads is_high,order,bind,Except.bind]
  | _ value =>
    obtain ⟨rest,texts,is⟩ := operator_reads (by decide) (by decide) source texts
    obtain ⟨token,rest,rfl,is_value,texts⟩ := texts_cons texts
    refine ⟨rest,texts,is.trans ?_⟩
    simp [Cursor.operand,Cursor.next,port_reads is_value,bind,Except.bind]

theorem log_reads (log : Bool) (texts : args.map (·.text) = log_words log) : Cursor.log ⟨args,false⟩ = .ok log := by
  cases log with
  | false =>
    rw [List.map_eq_nil_iff.mp texts]
    rfl
  | true =>
    obtain ⟨token,rest,rfl,is,texts⟩ := texts_cons texts
    rw [List.map_eq_nil_iff.mp texts]
    simp only [Cursor.log,@unique_choice_exact token ["log"] "log" (by decide) (by decide) is]

theorem protocol_reads (self : AclProtocol) (texts : args.map (·.text) = protocol_text self :: more) :
    ∃ rest, rest.map (·.text) = more ∧ Cursor.protocol ⟨args,help⟩ .Extended = .ok (self,⟨rest,help⟩) := by
  obtain ⟨token,rest,rfl,is,texts⟩ := texts_cons texts
  refine ⟨rest,texts,?_⟩
  cases self with
  | _ =>
    have choice := @unique_choice_exact token PROTOCOL_CHOICES _ (by decide) (by decide) is
    simp [Cursor.protocol,Cursor.next,choice,protocol_text,bind,Except.bind]

/-- What stands before the ports of the destination, or behind them, ends a port selection. -/
theorem address_ends (self : AddressMatch) : ∀ word ∈ (address_words self ++ more).head?, Ends word := by
  have letters : ∀ choice ∈ PORT_CHOICES, ∀ c ∈ choice.toList.head?, c.isDigit = false := by
    simp [PORT_CHOICES]
  unfold address_words
  intro word first
  split at first
  · cases first
    unfold Ends
    decide
  · split at first
    · cases first
      unfold Ends
      decide
    · cases first
      obtain ⟨d,rest,text,digit⟩ := ipv4_head self.address
      exact fun choice offered => digit_begins text digit (letters choice offered)

theorem log_ends (log : Bool) : ∀ word ∈ (log_words log).head?, Ends word := by
  intro word first
  cases log with
  | false => cases first
  | true =>
    cases first
    unfold Ends
    decide

end Reads

/-- A rule that a list of a kind can hold is read from its words. -/
theorem entry_reads {kind : AclKind} {action : AccessListAction} {protocol : AclProtocol} {source : AddressMatch}
    {source_port : PortMatch} {destination : AddressMatch} {destination_port : PortMatch} {log : Bool}
    (valid : (AclEntry.Rule action protocol source source_port destination destination_port log).valid kind = true)
    {args : List Token}
    (texts : args.map (·.text) = rule_words kind protocol source source_port destination destination_port log) :
    entry args kind action false = .ok (.Rule action protocol source source_port destination destination_port log) := by
  simp only [AclEntry.valid,Bool.and_eq_true,Bool.not_eq_true',Bool.or_eq_false_iff,Bool.or_eq_true,decide_eq_true_eq,
    ne_eq,decide_not,decide_eq_false_iff_not] at valid
  obtain ⟨⟨⟨ascending,ascending'⟩,with_ports⟩,standard⟩ := valid
  cases kind with
  | Standard =>
    obtain ⟨rfl,rfl⟩ : protocol = .Ip ∧ destination = AddressMatch.ANY := by simpa using standard
    obtain ⟨rfl,rfl⟩ : source_port = .Any ∧ destination_port = .Any := by simpa using with_ports
    obtain ⟨rest,texts,address⟩ := @address_reads args false _ source texts
    simp [entry,Cursor.protocol,Cursor.protocol_ports,Cursor.destination,address,transport,log_reads log texts,bind,Except.bind]
  | Extended =>
    rw [rule_words,if_neg (by decide)] at texts
    obtain ⟨rest,texts,is_protocol⟩ := @protocol_reads args false _ protocol texts
    obtain ⟨rest,texts,is_source⟩ := @address_reads rest false _ source texts
    by_cases ports : transport protocol = true
    · obtain ⟨rest,texts,is_source_port⟩ := ports_read source_port ascending true texts (address_ends destination)
      obtain ⟨rest,texts,is_destination⟩ := @address_reads rest false _ destination texts
      obtain ⟨rest,texts,is_destination_port⟩ := ports_read destination_port ascending' false texts (log_ends log)
      simp [entry,Cursor.protocol_ports,Cursor.destination,is_protocol,is_source,ports,is_source_port,is_destination,
        is_destination_port,log_reads log texts,bind,Except.bind]
    · obtain ⟨rfl,rfl⟩ : source_port = .Any ∧ destination_port = .Any := by
        simp only [transport,Bool.or_eq_true,decide_eq_true_eq] at ports
        tauto
      obtain ⟨rest,texts,is_destination⟩ := @address_reads rest false _ destination texts
      simp [entry,Cursor.protocol_ports,Cursor.destination,is_protocol,is_source,ports,is_destination,log_reads log texts,bind,
        Except.bind]

/-- A rendered rule is read back. -/
theorem parse_rendered {kind : AclKind} {action : AccessListAction} {protocol : AclProtocol} {source : AddressMatch}
    {source_port : PortMatch} {destination : AddressMatch} {destination_port : PortMatch} {log : Bool}
    (valid : (AclEntry.Rule action protocol source source_port destination destination_port log).valid kind = true) :
    ∃ word args, tokens ((AclEntry.Rule action protocol source source_port destination destination_port log).render kind) =
        word :: args ∧ word.text = action_text action ∧
      parse_entry args kind action = .ok (.Rule action protocol source source_port destination destination_port log) := by
  obtain ⟨word,args,read,is,texts⟩ :=
    render_tokens kind action protocol source source_port destination destination_port log
  refine ⟨word,args,read,is,?_⟩
  rw [parse_entry,entry_reads valid texts]

/-- Keywords can be shortened. -/
example : parse_entry (tokens "t a e 80 h 10.0.0.1 l") .Extended .Permit = .error .Incomplete ∧
    parse_entry (tokens "t a e 80 h 10.0.0.1 lo") .Extended .Permit =
      .ok (.Rule .Permit .Tcp AddressMatch.ANY (.Eq 80) ⟨0x0a000001,0⟩ .Any true) := by decide +kernel

/-! ### What is read can be written -/

theorem ports_ascending {cursor next : Cursor} {source : Bool} {ports : PortMatch}
    (read : cursor.ports source = .ok (ports,next)) : descending ports = false := by
  unfold Cursor.ports at read
  split at read
  · split at read
    · cases read
    · cases read
      rfl
  · split at read
    · cases read
      rfl
    · obtain ⟨⟨token,after⟩,-,read⟩ := bind_ok read
      obtain ⟨first,-,read⟩ := bind_ok read
      split at read
      · cases read
        rfl
      · split at read
        · cases read
          rfl
        · split at read
          · cases read
            rfl
          · split at read
            · cases read
              rfl
            · obtain ⟨⟨second,last⟩,-,read⟩ := bind_ok read
              obtain ⟨high,-,read⟩ := bind_ok read
              split at read
              · cases read
              · rename_i order
                cases read
                exact decide_eq_false order

/-- What is read is a rule that a list of the kind can hold. -/
theorem entry_valid {args : List Token} {kind : AclKind} {action : AccessListAction} {help : Bool} {rule : AclEntry}
    (read : entry args kind action help = .ok rule) :
    ∃ protocol source source_port destination destination_port log,
      rule = .Rule action protocol source source_port destination destination_port log ∧ rule.valid kind = true := by
  unfold entry at read
  obtain ⟨⟨protocol,_⟩,is_protocol,read⟩ := bind_ok read
  obtain ⟨⟨source,_⟩,-,read⟩ := bind_ok read
  obtain ⟨⟨source_port,_⟩,is_source_port,read⟩ := bind_ok read
  obtain ⟨⟨destination,_⟩,is_destination,read⟩ := bind_ok read
  obtain ⟨⟨destination_port,_⟩,is_destination_port,read⟩ := bind_ok read
  obtain ⟨log,-,read⟩ := bind_ok read
  cases read
  refine ⟨protocol,source,source_port,destination,destination_port,log,rfl,?_⟩
  have standard : kind = .Standard → protocol = .Ip ∧ destination = AddressMatch.ANY := by
    rintro rfl
    cases is_protocol
    cases is_destination
    exact ⟨rfl,rfl⟩
  have ports : ∀ {cursor next : Cursor} {side : Bool} {ports : PortMatch}, cursor.protocol_ports protocol side =
    .ok (ports,next) →
      descending ports = false ∧ (transport protocol = false → ports = .Any) := by
    intro cursor next side ports is
    unfold Cursor.protocol_ports at is
    split at is
    · rename_i carries
      exact ⟨ports_ascending is,fun none_carried => by rw [carries] at none_carried; cases none_carried⟩
    · cases is
      exact ⟨rfl,fun _ => rfl⟩
  obtain ⟨ascending,source_any⟩ := ports is_source_port
  obtain ⟨ascending',destination_any⟩ := ports is_destination_port
  simp only [AclEntry.valid,ascending,ascending',Bool.or_self,Bool.not_false,Bool.true_and,Bool.and_eq_true,Bool.or_eq_true,
    decide_eq_true_eq,ne_eq]
  constructor
  · by_cases carries : transport protocol = true
    · simp only [transport,Bool.or_eq_true,decide_eq_true_eq] at carries
      exact .inl carries
    · rw [Bool.not_eq_true] at carries
      exact .inr ⟨source_any carries,destination_any carries⟩
  · by_cases plain : kind = .Standard
    · exact .inr (standard plain)
    · exact .inl plain

end Rios.AccessLists
