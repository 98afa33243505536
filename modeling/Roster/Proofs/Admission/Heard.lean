import Roster.Admission.Helper
import Roster.Proofs.Admission.Reply

/-!
# What is heard of a helper

A join ends with what its reply is read as. Before there is a reply a join can fail in many ways, but
none of them is a refusal.
-/

namespace Roster

theorem LineBuffer.readLine_ne_refused (b : LineBuffer) (w : Wire) (stream : UInt32) (format : UInt16)
    (reason : String) : (b.readLine w).1 ≠ .error (.refused stream format reason) := by
  fun_induction LineBuffer.readLine b w with
  | case1 b w bytes rest step =>
    intro h
    rw [Line.text] at h
    split at h
    · cases h
    · cases h
  | case2 => exact fun h => by cases h
  | case3 => exact fun h => by cases h
  | case4 b w same step after read =>
    intro h
    split at h
    · cases h
    · cases h
  | case5 b w same step byte bs after read ih => exact ih

namespace Joiner

variable {stream : UInt32} {node : Node} {w : Wire}

theorem expectReply_ne_refused (w : Wire) (stream : UInt32) (format : UInt16) (reason : String) :
    (expectReply w).1 ≠ .error (.refused stream format reason) := by
  have heard := LineBuffer.empty.readLine_ne_refused w stream format reason
  rw [expectReply_fst]
  generalize (LineBuffer.empty.readLine w).1 = line at heard ⊢
  rcases line with e | _ | reply
  · intro h
    cases h
    exact heard rfl
  · exact fun h => by cases h
  · exact fun h => by cases h

/-- The reply to a join, before it is read. -/
def reply (stream : UInt32) (node : Node) (w : Wire) : Except AdmissionError String :=
  Request.announce stream node >>= fun request => (ask request .ok w).1

theorem ask_fst {α : Type} (request : Request) (read : String → Except AdmissionError α) (w : Wire) :
    (ask request read w).1 = (ask request .ok w).1 >>= read := by
  rw [ask, ask]
  cases request.line with
  | error e => rfl
  | ok line =>
    simp only
    rcases w.writeLine line with ⟨e | _, after⟩
    · rfl
    · simp only
      cases (expectReply after).1 <;> rfl

theorem join_fst : (join stream node w).1 = reply stream node w >>= Reply.readGroup node.name := by
  rw [join, reply, Request.announce]
  cases StreamVersion.newestFormat? stream with
  | none => rfl
  | some format => exact ask_fst (.join stream format node) _ w

theorem ask_ne_refused (request : Request) (w : Wire) (version : UInt32) (format : UInt16) (reason : String) :
    (ask request .ok w).1 ≠ .error (.refused version format reason) := by
  rw [ask]
  cases request.line with
  | error e => exact fun h => by cases h
  | ok line =>
    simp only
    rcases tried : w.writeLine line with ⟨e | _, after⟩
    · obtain ⟨cause, rfl⟩ := Wire.writeLine_eq_error tried
      exact fun h => by cases h
    · intro h
      rcases bind_eq_error_iff.mp h with unheard | ⟨reply, -, h⟩
      · exact expectReply_ne_refused after version format reason unheard
      · cases h

theorem reply_ne_refused (version : UInt32) (format : UInt16) (reason : String) :
    reply stream node w ≠ .error (.refused version format reason) := by
  rw [reply, Request.announce]
  cases StreamVersion.newestFormat? stream with
  | none => exact fun h => by cases h
  | some newest => exact ask_ne_refused (.join stream newest node) w version format reason

end Joiner

namespace Server

variable {now key : String} {trusted : Bool} {stream : UInt32} {node : Node} {s : Server}

/-- The reply to a join on a connection of its own, before it is read. -/
def reply (now key : String) (trusted : Bool) (stream : UInt32) (node : Node) (s : Server) :
    Except AdmissionError String :=
  (Request.announce stream node >>= fun request => request.line.mapError .stream) >>= fun line =>
    let opened := (s.apply now (.connect key trusted none)).2
    (Joiner.expectReply (.ofArrivals [.bytes (opened.apply now (.receive key (Line.bytes line))).1.bytes])).1

theorem join_fst : (s.join now key trusted stream node).1 =
    s.reply now key trusted stream node >>= Reply.readGroup node.name := by
  rw [join, reply]
  simp only
  cases Request.announce stream node >>= fun request => request.line.mapError AdmissionError.stream with
  | error e => rfl
  | ok line => rfl

theorem reply_ne_refused (version : UInt32) (format : UInt16) (reason : String) :
    s.reply now key trusted stream node ≠ .error (.refused version format reason) := by
  intro h
  rw [reply] at h
  rcases bind_eq_error_iff.mp h with h | ⟨line, -, h⟩
  · rcases bind_eq_error_iff.mp h with h | ⟨request, -, h⟩
    · rw [Request.announce] at h
      split at h
      · cases h
      · cases h
    · obtain ⟨e, -, same⟩ := mapError_eq_error_iff.mp h
      cases same
  · exact Joiner.expectReply_ne_refused _ version format reason h

end Server

namespace Helper

variable {now address : String} {stream : UInt32} {node : Node}

/-- What is heard of a helper that is dialed and asked to join. -/
def reply (now address : String) (stream : UInt32) (node : Node) : Helper → Except AdmissionError String
  | .unreachable => .error (.channel (.connect address "connection refused"))
  | .scripted wire _ => Joiner.reply stream node wire
  | .live server trusted => server.reply now address trusted stream node

theorem join_fst (h : Helper) :
    (h.join now address stream node).1 = h.reply now address stream node >>= Reply.readGroup node.name := by
  cases h with
  | unreachable => rfl
  | scripted wire dialed => exact Joiner.join_fst
  | live server trusted => exact Server.join_fst

theorem reply_ne_refused (h : Helper) (version : UInt32) (format : UInt16) (reason : String) :
    h.reply now address stream node ≠ .error (.refused version format reason) := by
  cases h with
  | unreachable => exact fun h => by cases h
  | scripted wire dialed => exact Joiner.reply_ne_refused version format reason
  | live server trusted => exact Server.reply_ne_refused version format reason

end Helper

namespace Helpers

variable {now address : String} {stream : UInt32} {node : Node}

/-- What is heard at an address. -/
def reply (now : String) (stream : UInt32) (node : Node) (address : String) :
    Helpers → Except AdmissionError String
  | [] => .error (.channel (.connect address "connection refused"))
  | (a, h) :: rest => if a = address then h.reply now address stream node else reply now stream node address rest

theorem ask_fst (helpers : Helpers) : (helpers.ask now stream node address).1 =
    helpers.reply now stream node address >>= Reply.readGroup node.name := by
  induction helpers with
  | nil => rfl
  | cons entry rest ih =>
    rw [ask, reply]
    split
    · exact Helper.join_fst _
    · exact ih

theorem reply_ne_refused (helpers : Helpers) (version : UInt32) (format : UInt16) (reason : String) :
    helpers.reply now stream node address ≠ .error (.refused version format reason) := by
  induction helpers with
  | nil => exact fun h => by cases h
  | cons entry rest ih =>
    rw [reply]
    split
    · exact Helper.reply_ne_refused _ version format reason
    · exact ih

theorem ask_eq_ok {helpers : Helpers} {g : Group} (asked : (helpers.ask now stream node address).1 = .ok g) :
    ∃ reply, Reply.Gives node.name reply g := by
  rw [ask_fst] at asked
  obtain ⟨reply, -, read⟩ := bind_eq_ok_iff.mp asked
  exact ⟨reply, Reply.readGroup_eq_ok_iff.mp read⟩

end Helpers

end Roster
