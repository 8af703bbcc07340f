import Rios.AclRoundTrip

/-!
# Help for access-list rules

Contextual help reads a rule with the same cursor as execution and stops where
words are missing. What it offers there can follow, and it offers to end the line
exactly where execution accepts it.
-/

namespace Rios.AccessLists
open Rios.Machine Rios.Device Rios.Words
open Rios.Translation (AclId AccessListAction AddressMatch PortMatch AclProtocol)

/-- Offers that are to be typed as they are; the others stand in angle brackets. -/
def literal (keyword : String) : Bool := keyword.toList.head? ≠ some '<'

/-- A result that more words can complete. -/
def Continues {α : Type} (result : Except RuleError α) : Prop := ∀ error, result ≠ .error (.Invalid error)

/-! ### Readers one after the other -/

/-- A reader of a part. -/
abbrev Reader (α : Type) := Cursor → Except RuleError (α × Cursor)
/-- A reader of the rest of a line. -/
abbrev Tail := Cursor → Except RuleError AclEntry

/-- A part and then the rest. -/
def chain {α : Type} (part : Reader α) (rest : α → Tail) : Tail := fun cursor => do
  let (value,cursor) ← part cursor
  rest value cursor

/-- A part that help has read is read in the same way before more words, and for execution. -/
def Settles {α : Type} (part : Reader α) : Prop := ∀ args value next, part ⟨args,true⟩ = .ok (value,next) →
  ∃ left, next = ⟨left,true⟩ ∧ ∀ more help, part ⟨args ++ more,help⟩ = .ok (value,⟨left ++ more,help⟩)

/-- A part that cannot be left out: without words it asks for them, an offered keyword is read or asks for more, and
execution asks where help does. -/
structure Demands {α : Type} (part : Reader α) : Prop where
  settles : Settles part
  begins : ∀ help, ∃ choices, part ⟨[],help⟩ = .error (.Need choices)
  offers : ∀ args choices, part ⟨args,true⟩ = .error (.Need choices) → ∀ keyword ∈ choices, literal keyword = true →
    ∀ offset help, (∃ more, part ⟨args ++ [⟨keyword,offset⟩],help⟩ = .error (.Need more)) ∨
      ∃ value, part ⟨args ++ [⟨keyword,offset⟩],help⟩ = .ok (value,⟨[],help⟩)
  insists : ∀ args choices, part ⟨args,true⟩ = .error (.Need choices) →
    "<cr>" ∉ choices ∧ ∃ more, part ⟨args,false⟩ = .error (.Need more)

/-- The rest of a line for which help is right: nothing that it offers makes the line invalid, and it offers the end
exactly where execution has read a rule. Nothing at all can be completed. -/
structure Prompts (rest : Tail) : Prop where
  opens : ∀ help, Continues (rest ⟨[],help⟩)
  offers : ∀ args choices, rest ⟨args,true⟩ = .error (.Need choices) → ∀ keyword ∈ choices, literal keyword = true →
    ∀ offset help, Continues (rest ⟨args ++ [⟨keyword,offset⟩],help⟩)
  ends : ∀ args choices, rest ⟨args,true⟩ = .error (.Need choices) →
    ("<cr>" ∈ choices ↔ ∃ rule, rest ⟨args,false⟩ = .ok rule)

section Chains
variable {α : Type} {part : Reader α} {rest : α → Tail}

theorem chain_ok {cursor next : Cursor} {value : α} (read : part cursor = .ok (value,next)) :
    chain part rest cursor = rest value next := by
  rw [chain,read]
  rfl

theorem chain_error {cursor : Cursor} {error : RuleError} (read : part cursor = .error error) :
    chain part rest cursor = .error error := by
  rw [chain,read]
  rfl

theorem continues_need (choices : List String) : Continues (.error (.Need choices) : Except RuleError α) := by
  intro error same
  cases same

theorem continues_ok (value : α) : Continues (.ok value : Except RuleError α) := by
  intro error same
  cases same

/-- Where help asks for words, the part asks or the rest does behind it. -/
theorem chain_need {args : List Token} {choices : List String}
    (asks : chain part rest ⟨args,true⟩ = .error (.Need choices)) :
    part ⟨args,true⟩ = .error (.Need choices) ∨
      ∃ value next, part ⟨args,true⟩ = .ok (value,next) ∧ rest value next = .error (.Need choices) := by
  cases read : part ⟨args,true⟩ with
  | error error =>
    rw [chain_error read] at asks
    cases asks
    exact .inl rfl
  | ok result =>
    obtain ⟨value,next⟩ := result
    rw [chain_ok read] at asks
    exact .inr ⟨value,next,rfl,asks⟩

/-- A part that settles before a rest with right help, if help is right where the part asks. -/
theorem Settles.prompts (settles : Settles part) (tails : ∀ value, Prompts (rest value))
    (opens : ∀ help, Continues (chain part rest ⟨[],help⟩))
    (offers : ∀ args choices, part ⟨args,true⟩ = .error (.Need choices) → ∀ keyword ∈ choices, literal keyword = true →
      ∀ offset help, Continues (chain part rest ⟨args ++ [⟨keyword,offset⟩],help⟩))
    (ends : ∀ args choices, part ⟨args,true⟩ = .error (.Need choices) →
      ("<cr>" ∈ choices ↔ ∃ rule, chain part rest ⟨args,false⟩ = .ok rule)) : Prompts (chain part rest) := by
  constructor
  · exact opens
  · intro args choices asks keyword offered typed offset help
    rcases chain_need asks with here | ⟨value,next,read,later⟩
    · exact offers args choices here keyword offered typed offset help
    · obtain ⟨left,rfl,same⟩ := settles args value next read
      rw [chain_ok (same _ help)]
      exact (tails value).offers left choices later keyword offered typed offset help
  · intro args choices asks
    rcases chain_need asks with here | ⟨value,next,read,later⟩
    · exact ends args choices here
    · obtain ⟨left,rfl,same⟩ := settles args value next read
      have executed := same [] false
      rw [List.append_nil,List.append_nil] at executed
      rw [chain_ok executed]
      exact (tails value).ends left choices later

/-- A part that cannot be left out. -/
theorem Demands.prompts (demands : Demands part) (tails : ∀ value, Prompts (rest value)) : Prompts (chain part rest) := by
  refine demands.settles.prompts tails ?_ ?_ ?_
  · intro help
    obtain ⟨choices,asks⟩ := demands.begins help
    rw [chain_error asks]
    exact continues_need choices
  · intro args choices asks keyword offered typed offset help
    rcases demands.offers args choices asks keyword offered typed offset help with ⟨more,need⟩ | ⟨value,read⟩
    · rw [chain_error need]
      exact continues_need more
    · rw [chain_ok read]
      exact (tails value).opens help
  · intro args choices asks
    obtain ⟨no_end,more,need⟩ := demands.insists args choices asks
    constructor
    · exact fun offered => absurd offered no_end
    · rintro ⟨rule,read⟩
      rw [chain_error need] at read
      cases read

end Chains

/-! ### The parts of a rule -/

/-- Where an address asks for words. -/
theorem address_asks {args : List Token} {choices : List String}
    (asks : Cursor.address ⟨args,true⟩ = .error (.Need choices)) :
    (∀ help, Cursor.address ⟨args,help⟩ = .error (.Need choices)) ∧
      (args = [] ∧ choices = ["any","host","<address>"] ∨ choices = ["<address>"] ∨ choices = ["<wildcard>"]) := by
  cases args with
  | nil =>
    cases asks
    exact ⟨fun _ => rfl,.inl ⟨rfl,rfl⟩⟩
  | cons token args =>
    simp only [Cursor.address,Cursor.next,bind,Except.bind] at asks ⊢
    cases choice : unique_choice token ADDRESS_CHOICES with
    | ok word =>
      simp only [choice] at asks ⊢
      by_cases any : word = "any"
      · rw [if_pos any] at asks
        cases asks
      · simp only [if_neg any] at asks ⊢
        cases args with
        | nil =>
          cases asks
          exact ⟨fun _ => rfl,.inr (.inl rfl)⟩
        | cons host args =>
          simp only [ip] at asks
          cases parsed : parse_ipv4 host.text.toList with
          | none =>
            rw [parsed] at asks
            cases asks
          | some address =>
            rw [parsed] at asks
            cases asks
    | error error =>
      simp only [choice,ip] at asks ⊢
      cases parsed : parse_ipv4 token.text.toList with
      | none =>
        rw [parsed] at asks
        cases asks
      | some address =>
        simp only [parsed] at asks ⊢
        cases args with
        | nil =>
          cases asks
          exact ⟨fun _ => rfl,.inr (.inr rfl)⟩
        | cons mask args =>
          simp only at asks
          cases parsed' : parse_ipv4 mask.text.toList with
          | none =>
            rw [parsed'] at asks
            cases asks
          | some wildcard =>
            rw [parsed'] at asks
            cases asks

/-- The keywords of an address are read, or ask for the host. -/
theorem address_keyword {keyword : String} (offered : keyword ∈ ["any","host"]) (offset : Nat) (help : Bool) :
    (∃ more, Cursor.address ⟨[⟨keyword,offset⟩],help⟩ = .error (.Need more)) ∨
      ∃ value, Cursor.address ⟨[⟨keyword,offset⟩],help⟩ = .ok (value,⟨[],help⟩) := by
  rcases List.mem_cons.mp offered with rfl | last
  · have choice := @unique_choice_exact ⟨"any",offset⟩ ADDRESS_CHOICES "any" (by decide) (by decide) rfl
    exact .inr ⟨AddressMatch.ANY,by simp [Cursor.address,Cursor.next,choice,bind,Except.bind]⟩
  · obtain rfl := List.mem_singleton.mp last
    have choice := @unique_choice_exact ⟨"host",offset⟩ ADDRESS_CHOICES "host" (by decide) (by decide) rfl
    exact .inl ⟨["<address>"],by simp [Cursor.address,Cursor.next,choice,bind,Except.bind]⟩

theorem address_settles : Settles Cursor.address := by
  intro args value next read
  cases args with
  | nil => cases read
  | cons token args =>
    simp only [Cursor.address,Cursor.next,bind,Except.bind] at read ⊢
    cases choice : unique_choice token ADDRESS_CHOICES with
    | ok word =>
      simp only [choice] at read
      by_cases any : word = "any"
      · rw [if_pos any] at read
        cases read
        exact ⟨args,rfl,fun more help => by simp [choice,any]⟩
      · rw [if_neg any] at read
        cases args with
        | nil => cases read
        | cons host args =>
          simp only at read
          cases parsed : ip host with
          | error error =>
            rw [parsed] at read
            cases read
          | ok address =>
            rw [parsed] at read
            cases read
            exact ⟨args,rfl,fun more help => by simp [choice,any,parsed]⟩
    | error error =>
      simp only [choice] at read
      cases parsed : ip token with
      | error error =>
        rw [parsed] at read
        cases read
      | ok address =>
        simp only [parsed] at read
        cases args with
        | nil => cases read
        | cons mask args =>
          simp only at read
          cases parsed' : ip mask with
          | error error =>
            rw [parsed'] at read
            cases read
          | ok wildcard =>
            rw [parsed'] at read
            cases read
            exact ⟨args,rfl,fun more help => by simp [choice,parsed,parsed']⟩

theorem address_demands : Demands Cursor.address := by
  constructor
  · exact address_settles
  · exact fun help => ⟨_,rfl⟩
  · intro args choices asks keyword offered typed offset help
    obtain ⟨-,⟨rfl,rfl⟩ | rfl | rfl⟩ := address_asks asks
    · refine address_keyword ?_ offset help
      simp only [List.mem_cons,List.not_mem_nil,or_false] at offered ⊢
      rcases offered with rfl | rfl | rfl
      · exact .inl rfl
      · exact .inr rfl
      · exact absurd typed (by decide)
    · rw [List.mem_singleton.mp offered] at typed
      exact absurd typed (by decide)
    · rw [List.mem_singleton.mp offered] at typed
      exact absurd typed (by decide)
  · intro args choices asks
    obtain ⟨same,which⟩ := address_asks asks
    refine ⟨?_,choices,same false⟩
    rcases which with ⟨-,rfl⟩ | rfl | rfl <;> decide

theorem protocol_demands : Demands (fun cursor => cursor.protocol .Extended) := by
  have other : AclKind.Extended ≠ .Standard := by decide
  constructor
  · intro args value next read
    cases args with
    | nil => cases read
    | cons token args =>
      simp only [Cursor.protocol,Cursor.next,if_neg other,bind,Except.bind] at read ⊢
      cases choice : unique_choice token PROTOCOL_CHOICES with
      | error error =>
        simp only [choice] at read
        cases read
      | ok word =>
        simp only [choice] at read
        cases read
        exact ⟨args,rfl,fun more help => by simp [choice]⟩
  · exact fun help => ⟨_,rfl⟩
  · intro args choices asks keyword offered typed offset help
    cases args with
    | nil =>
      cases asks
      have lower : ∀ word ∈ PROTOCOL_CHOICES, lowercase word = word.toList := by decide
      have choice := @unique_choice_exact ⟨keyword,offset⟩ PROTOCOL_CHOICES keyword offered (lower keyword offered) rfl
      refine .inr ⟨if keyword = "ip" then .Ip else if keyword = "icmp" then .Icmp else if keyword = "tcp" then .Tcp else .Udp,?_⟩
      simp only [List.nil_append,Cursor.protocol,Cursor.next,if_neg other,choice,bind,Except.bind]
    | cons token args =>
      simp only [Cursor.protocol,Cursor.next,if_neg other,bind,Except.bind] at asks
      cases choice : unique_choice token PROTOCOL_CHOICES <;> simp [choice] at asks
  · intro args choices asks
    cases args with
    | nil =>
      cases asks
      exact ⟨by decide,_,rfl⟩
    | cons token args =>
      simp only [Cursor.protocol,Cursor.next,if_neg other,bind,Except.bind] at asks
      cases choice : unique_choice token PROTOCOL_CHOICES <;> simp [choice] at asks

/-- Behind the first port, a selection is complete, or it is a range and has a second one. -/
theorem operand_first {token : Token} {first : UInt16} (parsed : port token = .ok first) (operator : String) :
    (∃ selection, ∀ args help, Cursor.operand ⟨token :: args,help⟩ operator = .ok (selection,⟨args,help⟩)) ∨
      ∀ args help, Cursor.operand ⟨token :: args,help⟩ operator = (do
        let (second,cursor) ← Cursor.next ⟨args,help⟩ ["<high-port>"]
        let high ← port second
        if high < first then .error (.Invalid (invalid second.offset "port range must be ascending"))
        else .ok (.Range first high,cursor)) := by
  by_cases eq : operator = "eq"
  · exact .inl ⟨.Eq first,fun args help => by simp [Cursor.operand,Cursor.next,parsed,eq,bind,Except.bind]⟩
  · by_cases lt : operator = "lt"
    · exact .inl ⟨.Lt first,fun args help => by simp [Cursor.operand,Cursor.next,parsed,lt,bind,Except.bind]⟩
    · by_cases gt : operator = "gt"
      · exact .inl ⟨.Gt first,fun args help => by simp [Cursor.operand,Cursor.next,parsed,gt,bind,Except.bind]⟩
      · by_cases neq : operator = "neq"
        · exact .inl ⟨.Neq first,fun args help => by simp [Cursor.operand,Cursor.next,parsed,neq,bind,Except.bind]⟩
        · refine .inr (fun args help => ?_)
          simp only [Cursor.operand,Cursor.next,parsed,if_neg eq,if_neg lt,if_neg gt,if_neg neq,bind,Except.bind]

theorem port_asks {token : Token} {error : RuleError} (refused : port token = .error error) :
    ∃ reason, error = .Invalid reason := by
  unfold port at refused
  split at refused
  · cases refused
  · cases refused
    exact ⟨_,rfl⟩

/-- Where the ports behind an operator ask for words. -/
theorem operand_asks {args : List Token} {operator : String} {choices : List String}
    (asks : Cursor.operand ⟨args,true⟩ operator = .error (.Need choices)) :
    (∀ help, Cursor.operand ⟨args,help⟩ operator = .error (.Need choices)) ∧
      (choices = ["<port>"] ∨ choices = ["<high-port>"]) := by
  cases args with
  | nil =>
    cases asks
    exact ⟨fun _ => rfl,.inl rfl⟩
  | cons token args =>
    cases parsed : port token with
    | error error =>
      obtain ⟨reason,rfl⟩ := port_asks parsed
      simp only [Cursor.operand,Cursor.next,parsed,bind,Except.bind] at asks
      cases asks
    | ok first =>
      rcases operand_first parsed operator with ⟨selection,whole⟩ | range
      · rw [whole] at asks
        cases asks
      · simp only [range] at asks ⊢
        cases args with
        | nil =>
          cases asks
          exact ⟨fun _ => rfl,.inr rfl⟩
        | cons second args =>
          simp only [Cursor.next,bind,Except.bind] at asks
          cases parsed' : port second with
          | error error =>
            obtain ⟨reason,rfl⟩ := port_asks parsed'
            simp only [parsed'] at asks
            cases asks
          | ok high =>
            simp only [parsed'] at asks
            split at asks
            · cases asks
            · cases asks

/-- The ports behind an operator have no keywords. -/
theorem operand_demands (operator : String) : Demands (fun cursor => cursor.operand operator) := by
  constructor
  · intro args value next read
    cases args with
    | nil => cases read
    | cons token args =>
      cases parsed : port token with
      | error error =>
        simp only [Cursor.operand,Cursor.next,parsed,bind,Except.bind] at read
        cases read
      | ok first =>
        simp only [List.cons_append]
        rcases operand_first parsed operator with ⟨selection,whole⟩ | range
        · simp only [whole] at read ⊢
          cases read
          exact ⟨args,rfl,fun _ _ => rfl⟩
        · simp only [range] at read ⊢
          cases args with
          | nil => cases read
          | cons second args =>
            simp only [Cursor.next,bind,Except.bind] at read
            cases parsed' : port second with
            | error error =>
              simp only [parsed'] at read
              cases read
            | ok high =>
              simp only [parsed'] at read
              split at read
              · cases read
              · rename_i order
                cases read
                exact ⟨args,rfl,fun more help => by simp [Cursor.next,parsed',order,bind,Except.bind]⟩
  · exact fun help => ⟨_,rfl⟩
  · intro args choices asks keyword offered typed
    obtain ⟨-,rfl | rfl⟩ := operand_asks asks
    · rw [List.mem_singleton.mp offered] at typed
      exact absurd typed (by decide)
    · rw [List.mem_singleton.mp offered] at typed
      exact absurd typed (by decide)
  · intro args choices asks
    obtain ⟨same,which⟩ := operand_asks asks
    refine ⟨?_,choices,same false⟩
    rcases which with rfl | rfl <;> decide

theorem ports_settle (source : Bool) : Settles (fun cursor => cursor.ports source) := by
  intro args value next read
  cases args with
  | nil => cases read
  | cons token args =>
    simp only [Cursor.ports] at read ⊢
    cases choice : unique_choice token PORT_CHOICES with
    | error error =>
      simp only [choice] at read
      cases read
      exact ⟨token :: args,rfl,fun more help => by simp [choice]⟩
    | ok operator =>
      simp only [choice] at read
      obtain ⟨left,rfl,same⟩ := (operand_demands operator).settles args value next read
      exact ⟨left,rfl,fun more help => by simpa [choice] using same more help⟩

/-- Ports before a rest with right help: what is offered behind the operators is read by the rest, and the end is offered
where it is accepted without ports. -/
theorem ports_prompts {source : Bool} {rest : PortMatch → Tail} (tails : ∀ value, Prompts (rest value))
    (skips : ∀ keyword ∈ port_help source, literal keyword = true → keyword ∉ PORT_CHOICES →
      Ends keyword ∧ ∀ offset help, Continues (rest .Any ⟨[⟨keyword,offset⟩],help⟩))
    (ends : "<cr>" ∈ port_help source ↔ ∃ rule, rest .Any ⟨[],false⟩ = .ok rule) :
    Prompts (chain (fun cursor => cursor.ports source) rest) := by
  have open_help : (Cursor.ports ⟨[],true⟩ source) = .error (.Need (port_help source)) := rfl
  have open_execution : (Cursor.ports ⟨[],false⟩ source) = .ok (.Any,⟨[],false⟩) := rfl
  -- behind an operator, help is that of its operand
  have operand : ∀ {token args choices operator}, unique_choice token PORT_CHOICES = .ok operator →
      Cursor.ports ⟨token :: args,true⟩ source = .error (.Need choices) →
      Cursor.operand ⟨args,true⟩ operator = .error (.Need choices) := by
    intro token args choices operator choice asks
    simpa only [Cursor.ports,choice] using asks
  refine (ports_settle source).prompts tails ?_ ?_ ?_
  · intro help
    cases help with
    | true =>
      rw [chain_error open_help]
      exact continues_need _
    | false =>
      rw [chain_ok open_execution]
      exact (tails .Any).opens false
  · intro args choices asks keyword offered typed offset help
    cases args with
    | nil =>
      cases asks
      by_cases operator : keyword ∈ PORT_CHOICES
      · have lower : ∀ word ∈ PORT_CHOICES, lowercase word = word.toList := by decide
        have choice := @unique_choice_exact ⟨keyword,offset⟩ PORT_CHOICES keyword operator (lower keyword operator) rfl
        obtain ⟨more,need⟩ := (operand_demands keyword).begins help
        have read : Cursor.ports ⟨[⟨keyword,offset⟩],help⟩ source = .error (.Need more) := by
          simpa only [Cursor.ports,choice] using need
        rw [List.nil_append,chain_error read]
        exact continues_need _
      · obtain ⟨none_begun,continues⟩ := skips keyword offered typed operator
        have read : Cursor.ports ⟨[⟨keyword,offset⟩],help⟩ source = .ok (.Any,⟨[⟨keyword,offset⟩],help⟩) := by
          simp only [Cursor.ports,@unique_choice_none ⟨keyword,offset⟩ PORT_CHOICES none_begun]
        rw [List.nil_append,chain_ok read]
        exact continues offset help
    | cons token args =>
      cases choice : unique_choice token PORT_CHOICES with
      | error error =>
        simp only [Cursor.ports,choice] at asks
        cases asks
      | ok operator =>
        have same : ∀ more, Cursor.ports ⟨token :: args ++ more,help⟩ source = Cursor.operand ⟨args ++ more,help⟩ operator := by
          intro more
          simp only [List.cons_append,Cursor.ports,choice]
        rcases (operand_demands operator).offers args choices (operand choice asks) keyword offered typed offset help with
          ⟨more,need⟩ | ⟨value,read⟩
        · rw [chain_error ((same _).trans need)]
          exact continues_need _
        · rw [chain_ok ((same _).trans read)]
          exact (tails value).opens help
  · intro args choices asks
    cases args with
    | nil =>
      cases asks
      rw [chain_ok open_execution]
      exact ends
    | cons token args =>
      cases choice : unique_choice token PORT_CHOICES with
      | error error =>
        simp only [Cursor.ports,choice] at asks
        cases asks
      | ok operator =>
        obtain ⟨no_end,more,need⟩ := (operand_demands operator).insists args choices (operand choice asks)
        have same : Cursor.ports ⟨token :: args,false⟩ source = .error (.Need more) := by
          simpa only [Cursor.ports,choice] using need
        constructor
        · exact fun offered => absurd offered no_end
        · rintro ⟨rule,read⟩
          rw [chain_error same] at read
          cases read

/-! ### A whole rule -/

section Tails
variable (kind : AclKind) (action : AccessListAction) (protocol : AclProtocol) (source : AddressMatch)
  (source_port : PortMatch) (destination : AddressMatch) (destination_port : PortMatch)

/-- What is behind the ports of the destination. -/
def finish : Tail := fun cursor => do
  let log ← cursor.log
  .ok (.Rule action protocol source source_port destination destination_port log)

/-- What is behind the destination. -/
def behind_destination : Tail :=
  chain (fun cursor => cursor.protocol_ports protocol false) (finish action protocol source source_port destination)

/-- What is behind the ports of the source. -/
def behind_source_port : Tail :=
  chain (fun cursor => cursor.destination kind) (behind_destination action protocol source source_port)

/-- What is behind the source. -/
def behind_source : Tail :=
  chain (fun cursor => cursor.protocol_ports protocol true) (behind_source_port kind action protocol source)

/-- What is behind the protocol. -/
def behind_protocol : Tail := chain Cursor.address (behind_source kind action protocol)

theorem entry_chain (args : List Token) (help : Bool) : entry args kind action help =
    chain (fun cursor => cursor.protocol kind) (behind_protocol kind action) ⟨args,help⟩ := rfl

theorem finish_log (offset : Nat) (help : Bool) :
    finish action protocol source source_port destination destination_port ⟨[⟨"log",offset⟩],help⟩ =
      .ok (.Rule action protocol source source_port destination destination_port true) := by
  have choice := @unique_choice_exact ⟨"log",offset⟩ ["log"] "log" (by decide) (by decide) rfl
  simp only [finish,Cursor.log,choice,bind,Except.bind]

theorem finish_prompts : Prompts (finish action protocol source source_port destination destination_port) := by
  have asks_at : ∀ {args choices}, finish action protocol source source_port destination destination_port ⟨args,true⟩ =
      .error (.Need choices) → args = [] ∧ choices = ["log","<cr>"] := by
    intro args choices asks
    cases args with
    | nil =>
      cases asks
      exact ⟨rfl,rfl⟩
    | cons token args =>
      simp only [finish,Cursor.log,bind,Except.bind] at asks
      cases choice : unique_choice token ["log"] with
      | error error =>
        simp only [choice] at asks
        cases asks
      | ok word =>
        simp only [choice] at asks
        cases args with
        | nil => cases asks
        | cons extra args => cases asks
  constructor
  · intro help
    cases help with
    | true => exact continues_need _
    | false => exact continues_ok _
  · intro args choices asks keyword offered typed offset help
    obtain ⟨rfl,rfl⟩ := asks_at asks
    simp only [List.mem_cons,List.not_mem_nil,or_false] at offered
    rcases offered with rfl | rfl
    · rw [List.nil_append,finish_log]
      exact continues_ok _
    · exact absurd typed (by decide)
  · intro args choices asks
    obtain ⟨rfl,rfl⟩ := asks_at asks
    exact ⟨fun _ => ⟨_,rfl⟩,fun _ => by decide⟩

theorem behind_destination_prompts : Prompts (behind_destination action protocol source source_port destination) := by
  unfold behind_destination Cursor.protocol_ports
  by_cases carries : transport protocol = true
  · simp only [carries,if_true]
    refine ports_prompts (finish_prompts action protocol source source_port destination) ?_ ?_
    · intro keyword offered typed other
      have log : keyword = "log" := by
        simp only [port_help,Bool.false_eq_true,if_false,List.mem_cons,List.not_mem_nil,or_false] at offered
        simp only [PORT_CHOICES,List.mem_cons,List.not_mem_nil,or_false,not_or] at other
        rcases offered with is | is | is | is | is | is | rfl
        · exact absurd is other.1
        · exact absurd is other.2.1
        · exact absurd is other.2.2.1
        · exact absurd is other.2.2.2.1
        · exact absurd is other.2.2.2.2
        · exact is
        · exact absurd typed (by decide)
      subst log
      refine ⟨log_ends true "log" rfl,fun offset help => ?_⟩
      rw [finish_log]
      exact continues_ok _
    · exact ⟨fun _ => ⟨_,rfl⟩,fun _ => by decide⟩
  · simp only [carries]
    exact finish_prompts action protocol source source_port destination .Any

theorem behind_source_port_prompts : Prompts (behind_source_port kind action protocol source source_port) := by
  unfold behind_source_port Cursor.destination
  cases kind with
  | Standard => exact behind_destination_prompts action protocol source source_port AddressMatch.ANY
  | Extended => exact address_demands.prompts (behind_destination_prompts action protocol source source_port)

/-- Only extended lists have ports, and there a destination has to follow. -/
theorem behind_source_prompts (extended : transport protocol = true → kind = .Extended) :
    Prompts (behind_source kind action protocol source) := by
  unfold behind_source Cursor.protocol_ports
  by_cases carries : transport protocol = true
  · obtain rfl := extended carries
    simp only [carries,if_true]
    refine ports_prompts (behind_source_port_prompts .Extended action protocol source) ?_ ?_
    · intro keyword offered typed other
      have address : keyword ∈ ["any","host"] := by
        simp only [port_help,if_true,List.mem_cons,List.not_mem_nil,or_false] at offered ⊢
        simp only [PORT_CHOICES,List.mem_cons,List.not_mem_nil,or_false,not_or] at other
        rcases offered with is | is | is | is | is | is | is | rfl
        · exact absurd is other.1
        · exact absurd is other.2.1
        · exact absurd is other.2.2.1
        · exact absurd is other.2.2.2.1
        · exact absurd is other.2.2.2.2
        · exact .inl is
        · exact .inr is
        · exact absurd typed (by decide)
      constructor
      · have ends : ∀ word ∈ ["any","host"], Ends word := by
          unfold Ends
          decide
        exact ends keyword address
      · intro offset help
        have behind : behind_source_port .Extended action protocol source .Any =
          chain Cursor.address (behind_destination action protocol source .Any) := rfl
        rcases address_keyword address offset help with ⟨more,need⟩ | ⟨value,read⟩
        · rw [behind,chain_error need]
          exact continues_need more
        · rw [behind,chain_ok read]
          exact (behind_destination_prompts action protocol source .Any value).opens help
    · constructor
      · exact fun offered => absurd offered (by decide)
      · rintro ⟨rule,read⟩
        cases read
  · simp only [carries]
    exact behind_source_port_prompts kind action protocol source .Any

theorem entry_prompts : Prompts (fun cursor => entry cursor.args kind action cursor.help) := by
  have whole : (fun cursor : Cursor => entry cursor.args kind action cursor.help) =
      chain (fun cursor => cursor.protocol kind) (behind_protocol kind action) := by
    funext cursor
    exact entry_chain kind action cursor.args cursor.help
  rw [whole]
  cases kind with
  | Standard =>
    exact address_demands.prompts (fun source => behind_source_prompts .Standard action .Ip source (fun carries => by cases carries))
  | Extended =>
    exact protocol_demands.prompts (fun protocol => address_demands.prompts
      (fun source => behind_source_prompts .Extended action protocol source (fun _ => rfl)))

end Tails

/-- The line is not invalid for execution: it is a rule, or more words can make it one. -/
theorem parse_continues {args : List Token} {kind : AclKind} {action : AccessListAction}
    (continues : Continues (entry args kind action false)) :
    (∃ rule, parse_entry args kind action = .ok rule) ∨ parse_entry args kind action = .error .Incomplete := by
  unfold parse_entry
  cases read : entry args kind action false with
  | ok rule => exact .inl ⟨rule,rfl⟩
  | error error =>
    cases error with
    | Need choices => exact .inr rfl
    | Invalid error => exact absurd read (continues error)

theorem parse_entry_ok {args : List Token} {kind : AclKind} {action : AccessListAction} {rule : AclEntry} :
    parse_entry args kind action = .ok rule ↔ entry args kind action false = .ok rule := by
  unfold parse_entry
  cases entry args kind action false with
  | ok rule =>
    constructor
    · intro read
      cases read
      rfl
    · intro read
      cases read
      rfl
  | error error =>
    cases error with
    | Need choices =>
      constructor
      · intro read
        cases read
      · intro read
        cases read
    | Invalid error =>
      constructor
      · intro read
        cases read
      · intro read
        cases read

/-- What a list accepts is valid for its kind. -/
theorem set_acl_entry_valid {device : Device} {id : AclId} {list : AccessList} {sequence : Option UInt32} {rule : AclEntry}
    (found : device.named_access_lists.get? id = some list) (accepted : (device.set_acl_entry id sequence rule).1 = .ok ()) :
    rule.valid list.kind = true := by
  unfold Device.set_acl_entry at accepted
  rw [found] at accepted
  dsimp only at accepted
  split at accepted
  · cases accepted
  · split at accepted
    · cases accepted
    · split at accepted
      · cases accepted
      · rename_i valid
        simpa using valid

/-- Parser, renderer and help agree: a rule that a list accepts is read back from its rendering; what is read is rendered to
text that is read as the same rule; and what help offers can be appended without making the line invalid, while it offers
to end the line exactly where it is accepted. -/
theorem acl_grammar_agrees :
    (∀ (device : Device) id list sequence action protocol source source_port destination destination_port log,
      device.named_access_lists.get? id = some list →
      (device.set_acl_entry id sequence
        (.Rule action protocol source source_port destination destination_port log)).1 = .ok () →
      ∃ word args, tokens ((AclEntry.Rule action protocol source source_port destination destination_port log).render
          list.kind) = word :: args ∧ word.text = action_text action ∧
        parse_entry args list.kind action = .ok (.Rule action protocol source source_port destination destination_port log)) ∧
      (∀ args kind action rule, parse_entry args kind action = .ok rule →
        ∃ word again, tokens (rule.render kind) = word :: again ∧ word.text = action_text action ∧
          parse_entry again kind action = .ok rule) ∧
      ∀ args kind action choices, entry args kind action true = .error (.Need choices) →
        (∀ keyword ∈ choices, literal keyword = true → ∀ offset,
          (∀ error, entry (args ++ [⟨keyword,offset⟩]) kind action true ≠ .error (.Invalid error)) ∧
            ((∃ rule, parse_entry (args ++ [⟨keyword,offset⟩]) kind action = .ok rule) ∨
              parse_entry (args ++ [⟨keyword,offset⟩]) kind action = .error .Incomplete)) ∧
          ("<cr>" ∈ choices ↔ ∃ rule, parse_entry args kind action = .ok rule) := by
  refine ⟨?_,?_,?_⟩
  · intro device id list sequence action protocol source source_port destination destination_port log found accepted
    exact parse_rendered (set_acl_entry_valid found accepted)
  · intro args kind action rule read
    obtain ⟨protocol,source,source_port,destination,destination_port,log,rfl,valid⟩ := entry_valid (parse_entry_ok.mp read)
    exact parse_rendered valid
  · intro args kind action choices asks
    have prompts := entry_prompts kind action
    constructor
    · intro keyword offered typed offset
      exact ⟨prompts.offers args choices asks keyword offered typed offset true,
        parse_continues (prompts.offers args choices asks keyword offered typed offset false)⟩
    · simp only [parse_entry_ok]
      exact prompts.ends args choices asks

end Rios.AccessLists
