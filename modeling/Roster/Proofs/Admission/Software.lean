import Roster.Proofs.Admission.Join

/-!
# Software versions of nodes that join

A node announces its software version with everything else when it joins. A record that is made for it
takes the version over. A record that is there already keeps the one it has, whatever is announced and
wherever the node has moved.
-/

namespace Roster

theorem Group.software_enrol {g : Group} (carries : g.format.carriesSoftware = true) (n : Node) :
    (g.enrol n).software = n.software := by
  rw [enrol, Node.restrict_software, if_pos carries]

/-- The record of a registered node has the announced software version if it is new, and otherwise the
one that it had. -/
theorem Registry.register_software {r r' : Registry} {g : Group} {n : Node}
    (h : r.register n = (.ok g, r')) : ∃ m, g.find? n.name = some m ∧
      (r.current.find? n.name = none → g.format.carriesSoftware = true → m.software = n.software) ∧
      ∀ old, r.current.find? n.name = some old → m.software = old.software := by
  cases registering n r with
  | new absent eq =>
    obtain ⟨rfl, updated⟩ := update_eq_ok_iff.mp (eq.symm.trans h)
    obtain ⟨free, -, -, -, next⟩ := Group.add_eq_ok_iff.mp updated.edited
    have known : r'.current.find? n.name = some (r.current.enrol n) := by
      rw [next, ← Group.enrol_name r.current n]
      exact Records.find?_insert_self (by rwa [Group.enrol_name])
    have format : r'.current.format = r.current.format := by rw [next]
    refine ⟨_, known, fun _ carries => Group.software_enrol (format ▸ carries) n, fun old was => ?_⟩
    cases absent.symm.trans was
  | refused _ _ eq => cases h.symm.trans eq
  | back known _ _ _ eq =>
    cases h.symm.trans eq
    refine ⟨_, known, fun absent => ?_, fun old was => ?_⟩
    · cases absent.symm.trans known
    · cases known.symm.trans was
      rfl
  | moved known _ _ _ _ eq =>
    obtain ⟨rfl, updated⟩ := update_eq_ok_iff.mp (eq.symm.trans h)
    obtain ⟨-, -, next⟩ := Group.move_eq_ok_iff.mp updated.edited
    have stays := Records.find?_move_self known n.host n.port (r.current.change + 1)
    rw [next]
    refine ⟨_, stays, fun absent => ?_, fun old was => ?_⟩
    · cases absent.symm.trans known
    · cases known.symm.trans was
      rfl

namespace Server

/-- Whatever has been done to a server and whatever lines have been taken before, let a line be answered
by a group. The line is a join. The record that is sent under the joining name has the software version
that the join announces, or none if it announces none, where the group knew no such name before and has a
format that carries software versions. Where it knew the name, the record has the version that it had. -/
theorem sent_software_is_announced_or_kept {s : Server} (used : s.InUse) {now key line : String}
    {taken rest : List (Except AdmissionError String)} {log : List Group} {session : Session}
    (midway : s.Midway now key taken (.ok line :: rest) log session) {format : FormatVersion}
    {stream : String} (answered : (session.take s.service now (.ok line)).replies =
      .group format stream :: session.replies) :
    ∃ version written n g m, Request.parse line = .ok (.join version written n) ∧
      Group.ofStream stream = .ok g ∧ g.format = format ∧ g.find? n.name = some m ∧
      (session.registry.current.find? n.name = none → .v2 ≤ format → m.software = n.software) ∧
      ∀ old, session.registry.current.find? n.name = some old → m.software = old.software := by
  obtain ⟨version, written, n, g, after, parsed, registered, same, sent, current⟩ :=
    Session.registered_of_group answered
  obtain ⟨m, known, fresh, kept⟩ := Registry.register_software registered
  have follows := midway.follows.trans (Session.take_follows s.service now session (.ok line))
  have wf := (follows.reachable used.reachable).wellFormed
  rw [current] at wf
  refine ⟨version, written, n, g, m, parsed, Group.ofStream_eq_ok_iff.mpr ⟨wf, sent⟩, same, known, ?_, kept⟩
  intro absent carries
  exact fresh absent (by rw [same]; exact decide_eq_true carries)

/-- A new node with the software version "x". -/
def versionedLine : String := "JOIN 5 2 00026e3200000000000001680009000000000001000178"

theorem new_node_is_sent_its_software :
    let after := (asking versionedLine).take joining.service "" (.ok versionedLine)
    joining.InUse ∧ joining.Midway "" "k" [] [.ok versionedLine] [] (asking versionedLine) ∧
      ∃ stream g m, after.replies = [.group .v2 stream] ∧ Group.ofStream stream = .ok g ∧
        g.find? "n2" = some m ∧ m.software = some "x" := by
  intro after
  have used : joining.InUse := ⟨_, _, _, _, .read Group.read_sample, rfl⟩
  have midway : joining.Midway "" "k" [] [.ok versionedLine] [] (asking versionedLine) :=
    ⟨.make true none, Line.bytes versionedLine, rfl, by decide +kernel, rfl, rfl⟩
  have answered : after.replies = .group .v2
      ("000200066f726465727300000000000000000000000000000000000000020000000200000002|" ++
        "00026e3100000001010002646200070000000001010002c3a9|" ++
        "00026e3200000002000001680009000000000201000178") :: (asking versionedLine).replies := by decide +kernel
  obtain ⟨_, _, n, g, m, parsed, read, -, known, fresh, -⟩ :=
    sent_software_is_announced_or_kept used midway answered
  have joiner : Request.parse versionedLine = .ok (.join 5 .v2 (.joining "n2" .electable "h" 9 (some "x"))) := by
    decide +kernel
  cases joiner.symm.trans parsed
  exact ⟨used, midway, _, g, m, answered, read, known, fresh (by decide +kernel) (by decide)⟩

/-- The sample's member with the software version "x", at its own address and at another port. -/
def upgradedLine : String := "JOIN 5 2 00026e310000000001000264620007000000000001000178"

def upgradedElsewhereLine : String := "JOIN 5 2 00026e310000000001000264620008000000000001000178"

/-- Both are answered by the group, in which the member has the software version from before. -/
theorem rejoining_node_is_sent_old_software :
    joining.InUse ∧ ∀ line ∈ [upgradedLine, upgradedElsewhereLine],
      joining.Midway "" "k" [] [.ok line] [] (asking line) ∧
      (∃ n, Request.parse line = .ok (.join 5 .v2 n) ∧ n.name = "n1" ∧ n.software = some "x") ∧
      ∃ stream g m, ((asking line).take joining.service "" (.ok line)).replies = [.group .v2 stream] ∧
        Group.ofStream stream = .ok g ∧ g.find? "n1" = some m ∧ m.software = some "é" := by
  refine ⟨⟨_, _, _, _, .read Group.read_sample, rfl⟩, fun line either => ?_⟩
  rcases List.mem_pair.mp either with rfl | rfl
  · exact ⟨⟨.make true none, Line.bytes upgradedLine, rfl, by decide +kernel, rfl, rfl⟩,
      ⟨.joining "n1" .monitor "db" 7 (some "x"), by decide +kernel, rfl, rfl⟩,
      Group.sampleStream, Group.sample, _, by decide +kernel, Group.read_sample, rfl, rfl⟩
  · let moved : Group := { Group.sample with
      change := 2, records := Records.empty.insert ⟨"n1", 1, .monitor, "db", 8, some "é", false, 2⟩ }
    have read : Group.ofStream ("000200066f726465727300000000000000000000000000000000000000020000000100000001|" ++
        "00026e3100000001010002646200080000000002010002c3a9") = .ok moved := by decide +kernel
    exact ⟨⟨.make true none, Line.bytes upgradedElsewhereLine, rfl, by decide +kernel, rfl, rfl⟩,
      ⟨.joining "n1" .monitor "db" 8 (some "x"), by decide +kernel, rfl, rfl⟩,
      _, moved, _, by decide +kernel, read, rfl, rfl⟩

end Server

end Roster
