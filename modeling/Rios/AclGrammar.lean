import Rios.AccessLists
import Rios.Words

/-!
# The grammar of access-list rules

One cursor reads the words of a rule for execution and for contextual help, and
one renderer writes rules. Errors carry the byte of the word they are about.
-/

namespace Rios.AccessLists
open Rios.Machine Rios.Device Rios.Wire Rios.Decimal Rios.Words
open Rios.Translation (AccessListAction AddressMatch PortMatch AclProtocol)

/-- Structured syntax failure with the original byte position. -/
inductive ParseError where
  | Ambiguous (input : String)
  | Incomplete
  | Invalid (offset : Nat) (reason : String)
deriving DecidableEq

def invalid (offset : Nat) (reason : String) : ParseError := .Invalid offset reason

/-- Help asks for more input, or the input is invalid. -/
inductive RuleError where
  | Need (choices : List String)
  | Invalid (error : ParseError)
deriving DecidableEq

/-! ### Addresses and numbers as text -/

/-- One octet of an address: up to three digits without a zero in front. -/
def parse_octet (text : List Char) : Option UInt8 :=
  if text.isEmpty || !text.all Char.isDigit || 3 < text.length || (1 < text.length && text.head? = some '0') then none
  else if Nat.ofDigitChars 10 text 0 ≤ 255 then some (UInt8.ofNat (Nat.ofDigitChars 10 text 0)) else none

/-- `str::parse::<Ipv4Addr>`. -/
def parse_ipv4 (text : List Char) : Option Ipv4Addr :=
  match (text.splitOn '.').map parse_octet with
  | [some a,some b,some c,some d] => some (u32_at [a,b,c,d] 0)
  | _ => none

/-- `Display` of an address. -/
def ipv4_text (address : Ipv4Addr) : String := ".".intercalate ((be32 address).map (fun octet => toString octet.toNat))

def port_text (port : UInt16) : String := toString port.toNat

/-! ### Reading -/

def lowercase (text : String) : List Char := text.toList.map Char.toLower

/-- The choice that a word is, or the only one that it begins. -/
def unique_choice (token : Token) (choices : List String) : Except ParseError String :=
  let input := lowercase token.text
  match choices.find? (fun choice => choice.toList = input) with
  | some exact => .ok exact
  | none =>
    match choices.filter (fun value => input.isPrefixOf value.toList) with
    | [value] => .ok value
    | _ :: _ => .error (.Ambiguous token.text)
    | [] => .error (invalid token.offset "invalid argument")

/-- The words from the position of the cursor on, and whether they are read for help. -/
structure Cursor where
  args : List Token
  help : Bool

def ip (token : Token) : Except RuleError Ipv4Addr :=
  match parse_ipv4 token.text.toList with
  | some address => .ok address
  | none => .error (.Invalid (invalid token.offset "expected IPv4 address"))

/-- `parse::<u16>` of a port. -/
def port (token : Token) : Except RuleError UInt16 :=
  match parse_unsigned 65535 token.text.toList with
  | some value => .ok (UInt16.ofNat value)
  | none => .error (.Invalid (invalid token.offset "expected port 0..65535"))

def PORT_CHOICES : List String := ["eq","range","lt","gt","neq"]
def PROTOCOL_CHOICES : List String := ["ip","icmp","tcp","udp"]
def ADDRESS_CHOICES : List String := ["any","host"]

/-- What help offers where a port selection can begin. -/
def port_help (source : Bool) : List String :=
  if source then ["eq","range","lt","gt","neq","any","host","<address>"]
  else ["eq","range","lt","gt","neq","log","<cr>"]

/-- Protocols with ports. -/
def transport (protocol : AclProtocol) : Bool := protocol = .Tcp || protocol = .Udp

namespace Cursor

def next (self : Cursor) (help : List String) : Except RuleError (Token × Cursor) :=
  match self.args with
  | [] => .error (.Need help)
  | token :: rest => .ok (token,{ self with args := rest })

def address (self : Cursor) : Except RuleError (AddressMatch × Cursor) := do
  let (token,cursor) ← self.next ["any","host","<address>"]
  match unique_choice token ADDRESS_CHOICES with
  | .ok choice =>
    if choice = "any" then .ok (AddressMatch.ANY,cursor)
    else
      let (host,cursor) ← cursor.next ["<address>"]
      let address ← ip host
      .ok (⟨address,0⟩,cursor)
  | .error _ =>
    let address ← ip token
    let (mask,cursor) ← cursor.next ["<wildcard>"]
    let wildcard ← ip mask
    .ok (⟨address,wildcard⟩,cursor)

/-- The ports behind an operator. -/
def operand (self : Cursor) (operator : String) : Except RuleError (PortMatch × Cursor) := do
  let (token,cursor) ← self.next ["<port>"]
  let first ← port token
  if operator = "eq" then .ok (.Eq first,cursor)
  else if operator = "lt" then .ok (.Lt first,cursor)
  else if operator = "gt" then .ok (.Gt first,cursor)
  else if operator = "neq" then .ok (.Neq first,cursor)
  else
    let (second,cursor) ← cursor.next ["<high-port>"]
    let high ← port second
    if high < first then .error (.Invalid (invalid second.offset "port range must be ascending"))
    else .ok (.Range first high,cursor)

def ports (self : Cursor) (source : Bool) : Except RuleError (PortMatch × Cursor) :=
  match self.args with
  | [] => if self.help then .error (.Need (port_help source)) else .ok (.Any,self)
  | token :: rest =>
    match unique_choice token PORT_CHOICES with
    | .error _ => .ok (.Any,self)
    | .ok operator => { self with args := rest }.operand operator

/-- The ports of a protocol that has ports. -/
def protocol_ports (self : Cursor) (protocol : AclProtocol) (source : Bool) : Except RuleError (PortMatch × Cursor) :=
  if transport protocol then self.ports source else .ok (.Any,self)

/-- The destination, which only extended lists name. -/
def destination (self : Cursor) (kind : AclKind) : Except RuleError (AddressMatch × Cursor) :=
  if kind = .Extended then self.address else .ok (AddressMatch.ANY,self)

/-- A protocol, which only extended lists name. -/
def protocol (self : Cursor) (kind : AclKind) : Except RuleError (AclProtocol × Cursor) :=
  if kind = .Standard then .ok (.Ip,self)
  else do
    let (token,cursor) ← self.next PROTOCOL_CHOICES
    match unique_choice token PROTOCOL_CHOICES with
    | .error error => .error (.Invalid error)
    | .ok word =>
      .ok (if word = "ip" then .Ip else if word = "icmp" then .Icmp else if word = "tcp" then .Tcp else .Udp,cursor)

/-- Whether matches are logged, and nothing behind it. -/
def log (self : Cursor) : Except RuleError Bool :=
  match self.args with
  | [] => if self.help then .error (.Need ["log","<cr>"]) else .ok false
  | token :: rest =>
    match unique_choice token ["log"] with
    | .error error => .error (.Invalid error)
    | .ok _ =>
      match rest with
      | extra :: _ => .error (.Invalid (invalid extra.offset "unexpected argument"))
      | [] => .ok true

end Cursor

def entry (args : List Token) (kind : AclKind) (action : AccessListAction) (help : Bool) : Except RuleError AclEntry := do
  let (protocol,cursor) ← Cursor.protocol ⟨args,help⟩ kind
  let (source,cursor) ← cursor.address
  let (source_port,cursor) ← cursor.protocol_ports protocol true
  let (destination,cursor) ← cursor.destination kind
  let (destination_port,cursor) ← cursor.protocol_ports protocol false
  let log ← cursor.log
  .ok (.Rule action protocol source source_port destination destination_port log)

def parse_entry (args : List Token) (kind : AclKind) (action : AccessListAction) : Except ParseError AclEntry :=
  match entry args kind action false with
  | .ok rule => .ok rule
  | .error (.Need _) => .error .Incomplete
  | .error (.Invalid error) => .error error

/-! ### Writing -/

/-- `Display` of an address selection. -/
def address_text (self : AddressMatch) : String :=
  if self = AddressMatch.ANY then "any"
  else if self.wildcard = 0 then "host " ++ ipv4_text self.address
  else ipv4_text self.address ++ " " ++ ipv4_text self.wildcard

/-- `Display` of a port selection. -/
def ports_text : PortMatch → String
  | .Any => ""
  | .Eq value => " eq " ++ port_text value
  | .Range low high => " range " ++ port_text low ++ " " ++ port_text high
  | .Lt value => " lt " ++ port_text value
  | .Gt value => " gt " ++ port_text value
  | .Neq value => " neq " ++ port_text value

/-- `Display` of a protocol. -/
def protocol_text : AclProtocol → String
  | .Ip => "ip"
  | .Icmp => "icmp"
  | .Tcp => "tcp"
  | .Udp => "udp"

def action_text (action : AccessListAction) : String := if action = .Permit then "permit" else "deny"

/-- Render one entry without its sequence number. -/
def AclEntry.render (kind : AclKind) : AclEntry → String
  | .Remark text => "remark " ++ text
  | .Rule action protocol source source_port destination destination_port log =>
    let suffix := if log then " log" else ""
    if kind = .Standard then action_text action ++ " " ++ address_text source ++ suffix
    else action_text action ++ " " ++ protocol_text protocol ++ " " ++ address_text source ++ ports_text source_port ++ " " ++
      address_text destination ++ ports_text destination_port ++ suffix

end Rios.AccessLists
