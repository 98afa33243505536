import Roster.Channel.Factory
import Roster.Node
import Roster.Proofs.Text.Decimal

/-!
# The name verified when a member is dialled

A member's address is its host and its port behind a colon, with brackets around a host that has colons
itself. Reading the host back off the address gives the host of the record, so the certificate that a dialled
member shows is verified against that host. Which names can be verified at all does not matter here.
-/

namespace Roster

/-- No bracket at either end. -/
structure Bare (cs : List Char) : Prop where
  opening : cs.head? ≠ some '['
  closing : cs.getLast? ≠ some ']'

/-- The port is what stands behind the last colon, and the brackets belong to neither side. -/
theorem Node.toList_address (n : Node) : ∃ front behind, (∀ c ∈ front, c = '[') ∧ (∀ c ∈ behind, c = ']') ∧
    n.address.toList = front ++ n.host.toList ++ behind ++ ':' :: (toString n.port).toList := by
  rw [address]
  split
  · refine ⟨['['], [']'], by simp, by simp, ?_⟩
    change ("[" ++ n.host ++ "]:" ++ toString n.port).toList = _
    simp
  · refine ⟨[], [], by simp, by simp, ?_⟩
    change (n.host ++ ":" ++ toString n.port).toList = _
    simp

namespace ServerName

variable {cs front behind : List Char}

theorem splitLastColon?_of_free (front : List Char) (free : ':' ∉ behind) {s : String}
    (spelled : s.toList = front ++ ':' :: behind) :
    splitLastColon? s = some (String.ofList front, String.ofList behind) := by
  have passes : ∀ c ∈ behind.reverse, (c != ':') = true := by
    intro c mem
    refine bne_iff_ne.mpr ?_
    rintro rfl
    exact free (List.mem_reverse.mp mem)
  have back : s.toList.reverse = behind.reverse ++ ':' :: front.reverse := by
    rw [spelled, List.reverse_append, List.reverse_cons, List.append_assoc, List.singleton_append]
  have tail : s.toList.reverse.takeWhile (· != ':') = behind.reverse := by
    rw [back, List.takeWhile_append_of_pos passes, List.takeWhile_cons_of_neg (by simp), List.append_nil]
  rw [splitLastColon?, tail, back, List.drop_left]
  simp only [List.reverse_reverse]

/-- Characters in front of a text that begins otherwise are dropped, and no others. -/
theorem dropWhile_of_head (sign : Char) (signs : ∀ c ∈ front, c = sign) (head : cs.head? ≠ some sign) :
    (front ++ cs).dropWhile (· == sign) = cs := by
  rw [List.dropWhile_append_of_pos fun c mem => beq_iff_eq.mpr (signs c mem)]
  cases cs with
  | nil => rfl
  | cons c cs =>
    refine List.dropWhile_cons_of_neg fun same => head ?_
    rw [List.head?_cons, beq_iff_eq.mp same]

/-- Brackets around a bare text are taken off, and nothing else. -/
theorem unbracket (bare : Bare cs) (opened : ∀ c ∈ front, c = '[') (closed : ∀ c ∈ behind, c = ']') :
    (((front ++ cs ++ behind).dropWhile (· == '[')).reverse.dropWhile (· == ']')).reverse = cs := by
  have head : (cs ++ behind).head? ≠ some '[' := by
    cases cs with
    | cons c cs => exact bare.opening
    | nil =>
      intro first
      cases closed _ (List.mem_of_head? first)
  have last : cs.reverse.head? ≠ some ']' := by
    rw [List.head?_reverse]
    exact bare.closing
  rw [List.append_assoc, dropWhile_of_head '[' opened head, List.reverse_append,
    dropWhile_of_head ']' (fun c mem => closed c (List.mem_reverse.mp mem)) last, List.reverse_reverse]

theorem colon_not_mem_port (port : UInt16) : ':' ∉ (toString port).toList := by
  intro mem
  cases Decimal.isDigit_of_mem_repr (n := port.toNat) mem

/-- The host of a member's address is the member's host. -/
theorem hostOf_address {n : Node} (bare : Bare n.host.toList) : hostOf n.address = n.host := by
  obtain ⟨front, behind, opened, closed, spelled⟩ := n.toList_address
  rw [hostOf, splitLastColon?_of_free _ (colon_not_mem_port n.port) spelled]
  simp only [String.toList_ofList]
  rw [unbracket bare opened closed, String.ofList_toList]

/-- If a member's host has no bracket at either end, then whatever else is in it, and whatever the port, the
name that is verified when the member is dialled by its address is that host. It is returned if a certificate
can be verified against it. If not, the secure factory fails before it dials, with an error that has the
address and the host. A name that is given for the verification is taken as it is, whatever the address. -/
theorem dialled_host_is_verified {n : Node} (opening : n.host.toList.head? ≠ some '[')
    (closing : n.host.toList.getLast? ≠ some ']') :
    hostOf n.address = n.host ∧
    forAddress n.address none = (if isValid n.host then .ok n.host else .error n.host) ∧
    (∀ policy, (ChannelFactory.tls policy).connectFault? n.address none =
      if isValid n.host then (ChannelFactory.dialFault? n.address).map (.connect n.address)
      else some (.handshake n.address (refusal n.host))) ∧
    ∀ name address, forAddress address (some name) = if isValid name then .ok name else .error name := by
  have host : hostOf n.address = n.host := hostOf_address ⟨opening, closing⟩
  have dialled : forAddress n.address none = if isValid n.host then .ok n.host else .error n.host := by
    rw [forAddress, Option.getD_none, host]
  refine ⟨host, dialled, fun policy => ?_, fun name address => ?_⟩
  · simp only [ChannelFactory.connectFault?, dialled]
    cases isValid n.host <;> rfl
  · rw [forAddress, Option.getD_some]

/-- A member on an IPv6 address. -/
def distant : Node := .joining "n1" .electable "fe80::1" 5001 none

/-- A member whose host cannot be verified, and has brackets inside. -/
def unverifiable : Node := .joining "n2" .monitor "]a:[" 0 none

theorem distant_host_is_verified : distant.address = "[fe80::1]:5001" ∧
    forAddress "[fe80::1]:5001" none = .ok "fe80::1" ∧ unverifiable.address = "[]a:[]:0" ∧
    (ChannelFactory.tls none).connectFault? "[]a:[]:0" none =
      some (.handshake "[]a:[]:0" (refusal "]a:[")) := by
  have valid : isValid distant.host = true := by decide +kernel
  have invalid : isValid unverifiable.host = false := by decide +kernel
  have near : distant.address = "[fe80::1]:5001" := by decide +kernel
  have far : unverifiable.address = "[]a:[]:0" := by decide +kernel
  obtain ⟨-, given, -, -⟩ := dialled_host_is_verified (n := distant) (by decide) (by decide)
  obtain ⟨-, -, fault, -⟩ := dialled_host_is_verified (n := unverifiable) (by decide) (by decide)
  refine ⟨near, ?_, far, ?_⟩
  · rw [← near, given, if_pos valid]
    rfl
  · rw [← far, fault, if_neg (Bool.eq_false_iff.mp invalid)]
    rfl

end ServerName

end Roster
