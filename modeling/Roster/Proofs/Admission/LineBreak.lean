import Roster.Proofs.Admission.Complaint
import Roster.Proofs.Admission.Refusal
import Roster.Proofs.Text.Json

/-!
# Line breaks in replies

Streams, verdicts, reports and complaints about requests are one line each. The refusal of a node
repeats the node's name, and perhaps the group's, as they are; it breaks exactly where they do.
-/

namespace Roster

namespace Line

def Breaks (s : String) : Prop := '\n' ∈ s.toList

instance (s : String) : Decidable (Breaks s) := List.instDecidableMemOfLawfulBEq _ _

theorem breaks_append_iff {s t : String} : Breaks (s ++ t) ↔ Breaks s ∨ Breaks t := by
  rw [Breaks, String.toList_append, List.mem_append, Breaks, Breaks]

theorem Plain.not_breaks {s : String} (plain : Plain s) : ¬ Breaks s := fun breaks => (plain _ breaks).1 rfl

theorem Plain.breaks_append_iff {s t : String} (plain : Plain s) : Breaks (s ++ t) ↔ Breaks t :=
  Line.breaks_append_iff.trans (or_iff_right plain.not_breaks)

theorem Plain.append_breaks_iff {s t : String} (plain : Plain t) : Breaks (s ++ t) ↔ Breaks s :=
  Line.breaks_append_iff.trans (or_iff_left plain.not_breaks)

theorem newline_mem_encode_iff {s : String} : newline ∈ Utf8.encode s ↔ Breaks s :=
  Utf8.mem_encode_iff (show '\n'.toNat < 128 by decide)

end Line

/-- The names that an error repeats. -/
def UpdateError.names : UpdateError → List String
  | .edit (.duplicate name group) | .edit (.notMember name group) => [name, group]
  | .edit (.active name) | .edit (.typeMismatch name _ _) => [name]
  | _ => []

theorem NodeType.plain_label (t : NodeType) : Line.Plain t.label := by
  cases t <;> decide

namespace Registry.Refuses

variable {r : Registry} {n : Node} {e : UpdateError}

theorem plain_unsaved {g : Group} {cause : StoreError} (failed : (r.store.save g).1 = .error cause) :
    Line.Plain (UpdateError.store cause).message := by
  refine Line.plain_append_iff.mpr ⟨by decide, ?_⟩
  rcases MemoryStore.save_eq_error failed with rfl | ⟨e, unwritable, rfl⟩
  · decide
  · exact Line.plain_append_iff.mpr ⟨by decide, Group.plain_stream unwritable⟩

/-- The message of a refusal breaks where a name in it does. -/
theorem breaks_message_iff (h : r.Refuses n e) :
    Line.Breaks e.message ↔ ∃ name ∈ e.names, Line.Breaks name := by
  have node : Line.Plain "node " := by decide
  cases h with
  | removed known gone =>
    have middle : Line.Plain " is not a member of group " := by decide
    change Line.Breaks ("node " ++ n.name ++ " is not a member of group " ++ r.current.name) ↔ _
    rw [Line.breaks_append_iff, middle.append_breaks_iff, node.breaks_append_iff]
    simp [UpdateError.names]
  | @retyped m known current kind =>
    have rest : Line.Plain (" is a " ++ m.kind.label ++ " member and cannot rejoin as " ++ n.kind.label) := by
      simp only [Line.plain_append_iff]
      exact ⟨⟨⟨by decide, m.kind.plain_label⟩, by decide⟩, n.kind.plain_label⟩
    have told : (UpdateError.edit (.typeMismatch n.name m.kind n.kind)).message = "node " ++ n.name ++
        (" is a " ++ m.kind.label ++ " member and cannot rejoin as " ++ n.kind.label) := by
      simp only [← String.append_assoc]
      rfl
    rw [told, rest.append_breaks_iff, node.breaks_append_iff]
    simp [UpdateError.names]
  | active known current elsewhere held =>
    have rest : Line.Plain " is still active; deactivate or remove it first" := by decide
    change Line.Breaks ("node " ++ n.name ++ " is still active; deactivate or remove it first") ↔ _
    rw [rest.append_breaks_iff, node.breaks_append_iff]
    simp [UpdateError.names]
  | secondary unknown kind old =>
    have plain :=
      StreamError.plain_secondaryUnsupported r.current.format (r.current.records.secondaryCount + 1)
    exact iff_of_false plain.not_breaks (by simp [UpdateError.names])
  | unsaved edited failed =>
    exact iff_of_false (plain_unsaved failed).not_breaks (by simp [UpdateError.names])

end Registry.Refuses

namespace Reply

theorem breaks_error_iff {code : String} (word : IsWord code) (message : String) :
    Line.Breaks (Reply.error code message).line ↔ Line.Breaks message := by
  rw [line_error, (Line.plain_of_isWord isWord_error).breaks_append_iff, Line.plain_space.breaks_append_iff,
    (Line.plain_of_isWord word).breaks_append_iff, Line.plain_space.breaks_append_iff]

theorem plain_status (report : StatusReport) : Line.Plain (Reply.status report).line :=
  Line.plain_append_iff.mpr ⟨by decide, Line.plain_of_le (Json.noControl_compact report.toJson)⟩

theorem plain_badRequest {line : String} {e : AdmissionError} (unread : Request.parse line = .error e) :
    Line.Plain (Reply.badRequest e).line := by
  have word : IsWord "bad_request" := by decide
  rw [badRequest, line_error]
  exact Line.plain_word_append isWord_error (Line.plain_word_append word (Request.plain_parse unread))

end Reply

/-- A node that is accepted is sent a group or told why it is refused. -/
theorem Turn.accept_tells {n : Node} {held : Option String} {r : Registry} {reply : Reply}
    (wf : r.current.WellFormed) (told : (accept n held r).reply = some reply) :
    (∃ g stream, Group.stream g = .ok stream ∧ reply = .group g.format stream) ∨
      ∃ e, r.Refuses n e ∧ reply = .error e.code e.message := by
  rcases registered : r.register n with ⟨result, after⟩
  cases result with
  | ok g =>
    obtain ⟨_, _, eq, -⟩ := accept_of_admitted held registered
    rw [eq, sendGroup] at told
    cases written : g.stream with
    | ok stream =>
      rw [written] at told
      exact Or.inl ⟨g, stream, written, (Option.some.inj told).symm⟩
    | error e =>
      rw [written] at told
      cases told
  | error fault =>
    obtain ⟨reason, -⟩ := Registry.register_eq_error wf registered
    rcases reason with ⟨e, rfl, refuses⟩ | ⟨rfl, -⟩
    · rw [accept_of_refused registered] at told
      exact Or.inr ⟨e, refuses, (Option.some.inj told).symm⟩
    · rw [accept_of_exhausted registered] at told
      cases told

/-- The reply refuses the node that a line announces, and repeats a name. -/
def Registry.Repeats (r : Registry) (line : String) (reply : Reply) (name : String) : Prop :=
  ∃ version format n e, Request.parse line = .ok (.join version format n) ∧ r.Refuses n e ∧
    reply = .error e.code e.message ∧ name ∈ e.names

/-- A reply breaks exactly where a name that it repeats does. -/
theorem Service.breaks_reply_iff {s : Service} {now line : String} {c : Connection} {r : Registry}
    {reply : Reply} (wf : r.current.WellFormed) (told : (s.answer now line c r).reply = some reply) :
    Line.Breaks reply.line ↔ ∃ name, r.Repeats line reply name ∧ Line.Breaks name := by
  constructor
  · intro breaks
    cases answers s now line c r with
    | barred _ eq =>
      rw [eq] at told
      obtain rfl := Option.some.inj told
      exact absurd breaks (by decide)
    | unread _ parsed eq =>
      rw [eq] at told
      obtain rfl := Option.some.inj told
      exact absurd breaks (Reply.plain_badRequest parsed).not_breaks
    | status _ _ eq =>
      rw [eq] at told
      obtain rfl := Option.some.inj told
      exact absurd breaks (Reply.plain_status _).not_breaks
    | incompatible _ _ _ eq =>
      rw [eq] at told
      obtain rfl := Option.some.inj told
      exact absurd breaks (Reply.plain_incompatible _).not_breaks
    | join _ parsed _ eq =>
      rw [eq] at told
      rcases Turn.accept_tells wf told with ⟨g, stream, written, rfl⟩ | ⟨e, refuses, rfl⟩
      · exact absurd breaks (Reply.plain_group written).not_breaks
      · rw [Reply.breaks_error_iff e.isWord_code.1, refuses.breaks_message_iff] at breaks
        obtain ⟨name, mem, broken⟩ := breaks
        exact ⟨name, ⟨_, _, _, e, parsed, refuses, rfl, mem⟩, broken⟩
  · rintro ⟨name, ⟨_, _, n, e, -, refuses, rfl, mem⟩, broken⟩
    exact (Reply.breaks_error_iff e.isWord_code.1 _).mpr (refuses.breaks_message_iff.mpr ⟨name, mem, broken⟩)

end Roster
