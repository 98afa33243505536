import Roster.Proofs.Admission.Live

/-!
# What a joiner is told

Whoever joins a group on a connection of its own is told what the group's host has done, and the
host has done what the joiner is told.
-/

namespace Roster

namespace Server

/-- Let a server be in use, its group be one that can be written, and neither of its counters be at
its end. A join that is served in one go is an exchange on a connection of its own. In every such
exchange, however the bytes of both sides are cut, a peer that is not barred is left with what the
server has made of the join. A stream version that is not known, or a node that cannot be written at
the newest format that version reads, is an error of the joiner's own: nothing is written and the
server is as it was. A stream version that the gate rejects is a refusal with both versions and the
reason. A node that is not registered, or a group that is not saved, is an error with the server's own
code. Otherwise the server's group is then the one that the joiner gets, as long as the reply that
sends it is no longer than a line may be. -/
theorem join_outcome_agrees {s : Server} (used : s.InUse)
    (writable : ∃ stream, s.registry.current.stream = .ok stream)
    (change : s.registry.current.change ≠ Counter.last)
    (sequence : s.registry.current.sequence ≠ Counter.last) {key : String}
    (fresh : s.connections.lookup key = none) :
    (∀ now trusted version node, ∃ e : Exchange s key,
      e.trusted = trusted ∧ e.version = version ∧ e.node = node ∧
        s.join now key trusted version node = (e.result, e.after)) ∧
    ∀ e : Exchange s key, (s.service.requireTrusted = true → e.trusted = true) →
      (StreamVersion.newestFormat? e.version = none →
        e.result = .error (.protocol (.unknownStream e.version)) ∧ e.written = [] ∧ e.after = s) ∧
      ∀ format, StreamVersion.newestFormat? e.version = some format →
        (∀ cause, e.node.toToken format = .error cause →
          e.result = .error (.stream cause) ∧ e.written = [] ∧ e.after = s) ∧
        ∀ token, e.node.toToken format = .ok token →
          (∀ verdict, Gate.check s.registry.current.format e.version = .error verdict →
            e.result = .error (.refused e.version s.registry.current.format.code verdict.reason.text) ∧
              e.after = s) ∧
          (Gate.check s.registry.current.format e.version = .ok () →
            (∀ fault r, s.registry.register e.node = (.error fault, r) →
              ∃ cause, fault = .refused cause ∧
                e.result = .error (.remote cause.code (Line.heard cause.message)) ∧
                s.registry.Same e.after.registry) ∧
            ∀ g r, s.registry.register e.node = (.ok g, r) →
              e.after.registry.current = g ∧ ∃ stream, g.stream = .ok stream ∧
                ((Line.bytes (Reply.group g.format stream).line).length ≤ Line.limit →
                  e.result = .ok g)) := by
  obtain ⟨stream, writable⟩ := writable
  refine ⟨fun now trusted version node => ?_, fun e heard => ?_⟩
  · exact ⟨.direct s now key trusted version node, rfl, rfl, rfl, join_eq_direct ..⟩
  refine ⟨Exchange.of_unknown fresh, fun format known => ⟨?_, fun token announced => ⟨?_, ?_⟩⟩⟩
  · intro cause failed
    exact Exchange.of_unwritable fresh known failed
  · intro verdict incompatible
    exact Exchange.of_incompatible fresh heard known announced incompatible
  · intro compatible
    refine ⟨fun fault r failed => ?_, fun g r registered => ?_⟩
    · obtain ⟨reason, current, holds, stored⟩ :=
        Registry.register_eq_error used.reachable.wellFormed failed
      rcases reason with ⟨cause, rfl, refuses⟩ | ⟨-, atEnd⟩
      · obtain ⟨told, after⟩ :=
          Exchange.of_refused fresh heard known announced compatible used writable refuses failed
        exact ⟨cause, rfl, told, after ▸ ⟨current, stored, holds⟩⟩
      · exact absurd atEnd (not_or.mpr ⟨change, sequence⟩)
    · exact Exchange.of_registered fresh heard known announced compatible used writable registered

/-- A server of the sample that requires trusted peers. -/
def strict : Server := make ⟨true, ""⟩ (.make Group.sample .empty)

/-- A join whose request arrives in two pieces and whose reply comes in two chunks. -/
def strictExchange : Exchange strict "k" where
  trusted := true
  peer := none
  version := 5
  node := .joining "n2" .electable "h" 9 none
  wire := ⟨[.bytes (Line.bytes ("GROUP 2 " ++ joinedStream) |>.take 5),
    .bytes (Line.bytes ("GROUP 2 " ++ joinedStream) |>.drop 5)], [.upTo 9], [], []⟩
  start := ""
  pieces := [("", (Line.bytes joinLine).take 6), ("", (Line.bytes joinLine).drop 6)]
  chunks := [(Line.bytes ("GROUP 2 " ++ joinedStream)).take 5,
    (Line.bytes ("GROUP 2 " ++ joinedStream)).drop 5]
  finish := ""
  unused := rfl
  willing := ⟨List.forall_mem_singleton.mpr ⟨8, rfl⟩, List.forall_mem_nil _⟩
  gives := ⟨rfl, by decide +kernel⟩
  cut := by decide +kernel
  delivered := by decide +kernel
  answered := by decide +kernel

theorem strict_join_outcome :
    strict.InUse ∧ (∃ stream, strict.registry.current.stream = .ok stream) ∧
      strict.registry.current.change ≠ Counter.last ∧
      strict.registry.current.sequence ≠ Counter.last ∧ strict.connections.lookup "k" = none ∧
      strictExchange.after.registry.current ≠ strict.registry.current ∧
      strictExchange.result = .ok strictExchange.after.registry.current := by
  have used : strict.InUse := ⟨_, _, _, [], .read Group.read_sample, rfl⟩
  have writable : ∃ stream, strict.registry.current.stream = .ok stream :=
    ⟨_, (Group.ofStream_eq_ok_iff.mp Group.read_sample).2⟩
  have registered : strict.registry.register strictExchange.node =
      (.ok (strict.registry.register strictExchange.node).2.current,
        (strict.registry.register strictExchange.node).2) := by decide +kernel
  have sends : (strict.registry.register strictExchange.node).2.current.stream = .ok joinedStream := by
    decide +kernel
  have announced : strictExchange.node.toToken .v2 =
      .ok "00026e3200000000000001680009000000000000" := by decide +kernel
  have fresh : strict.connections.lookup "k" = none := rfl
  obtain ⟨-, agrees⟩ := join_outcome_agrees used writable (by decide) (by decide) fresh
  obtain ⟨-, known⟩ := agrees strictExchange fun _ => rfl
  obtain ⟨-, admitted⟩ := ((known .v2 rfl).2 _ announced).2 rfl
  obtain ⟨current, stream, written, received⟩ := admitted _ _ registered
  obtain rfl : joinedStream = stream := Except.ok.inj (sends.symm.trans written)
  refine ⟨used, writable, by decide, by decide, fresh, ?_, ?_⟩
  · rw [current]
    decide +kernel
  · rw [current]
    exact received (by decide +kernel)

end Server

end Roster
