import Roster.Command.Output
import Roster.Proofs.Group.RoundTrip

/-!
# Ways of bringing a stream to another format

A stream can be read and declared at another format in one go, or be read first and declared
afterwards, or be read and then written at the other format without being declared at it. All of these
come to the same, in what they give and in what they complain of.
-/

namespace Roster

namespace Group

variable {g g' : Group} {stream : String} {target : FormatVersion} {e : StreamError}

theorem checkFormat_eq_error_iff : g.checkFormat target = .error e ↔
    ¬ g.Carries target ∧ e = .secondaryUnsupported target g.records.secondaryCount := by
  rw [← checkFormat_eq_ok_iff, checkFormat]
  split
  · simp
  · simp [eq_comm]

/-- A declaration fails for secondary records only. -/
theorem convert_eq_error_iff : g.convert target = .error e ↔
    ¬ g.Carries target ∧ e = .secondaryUnsupported target g.records.secondaryCount := by
  rw [← checkFormat_eq_error_iff, convert]
  cases g.checkFormat target <;> simp [Except.map]

/-- Writing at a format looks at the secondary records first, as a declaration does. -/
theorem streamAt_eq_error (unfit : g.checkFormat target = .error e) : g.streamAt target = .error e := by
  rw [streamAt, tokens, unfit]
  rfl

theorem convert_bind_stream (g : Group) (target : FormatVersion) :
    (g.convert target >>= Group.stream) = g.streamAt target := by
  cases declared : g.convert target with
  | ok g' => exact (streamAt_eq_of_convert declared).symm
  | error e =>
    have unfit := checkFormat_eq_error_iff.mpr (convert_eq_error_iff.mp declared)
    exact (streamAt_eq_error unfit).symm

/-- A group that is read at its own format is not declared anew, and need not be. -/
theorem ofStreamAt_eq (stream : String) (target : FormatVersion) :
    ofStreamAt stream target = (ofStream stream >>= fun g => g.convert target) := by
  rw [ofStreamAt]
  cases read : ofStream stream with
  | error e => rfl
  | ok g =>
    change (if g.format = target then Except.ok g else g.convert target) = g.convert target
    by_cases same : g.format = target
    · subst same
      rw [if_pos rfl, (ofStream_eq_ok_iff.mp read).1.convert_self]
    · rw [if_neg same]

theorem format_of_ofStreamAt (read : ofStreamAt stream target = .ok g) : g.format = target := by
  rw [ofStreamAt_eq] at read
  obtain ⟨first, -, declared⟩ := bind_eq_ok_iff.mp read
  obtain ⟨-, rfl⟩ := convert_eq_ok_iff.mp declared
  rfl

/-- What has been read can be written at every format that carries it. -/
theorem streamAt_of_read (read : ofStream stream = .ok g) (carries : g.Carries target) :
    ∃ written, g.streamAt target = .ok written := by
  obtain ⟨wf, own⟩ := ofStream_eq_ok_iff.mp read
  obtain ⟨writable, -⟩ := streamAt_eq_ok_iff.mp own
  have declared := convert_eq_ok_iff.mpr ⟨carries, rfl⟩
  rw [streamAt_eq_of_convert declared]
  exact exists_streamAt_iff.mpr (writable.convert wf declared)

theorem streamAt_eq_error_iff (read : ofStream stream = .ok g) : g.streamAt target = .error e ↔
    ¬ g.Carries target ∧ e = .secondaryUnsupported target g.records.secondaryCount := by
  constructor
  · intro failed
    by_cases carries : g.Carries target
    · obtain ⟨written, done⟩ := streamAt_of_read read carries
      cases failed.symm.trans done
    · have unfit := checkFormat_eq_error_iff.mpr ⟨carries, rfl⟩
      cases failed.symm.trans (streamAt_eq_error unfit)
      exact ⟨carries, rfl⟩
  · intro unfit
    exact streamAt_eq_error (checkFormat_eq_error_iff.mpr unfit)

end Group

namespace Command

/-- The command that converts a stream says at which of its two steps it has failed. It does not fail
at a third one, since what it has declared can be written. -/
theorem convert_output (typed : String) (target : FormatVersion) :
    (Command.convert typed target.code).output =
      ((Group.ofStream (trim typed)).mapError .undecodable >>= fun g =>
        (g.streamAt target).mapError .inconvertible) := by
  have known : formatOf target.code = .ok target :=
    mapError_eq_ok_iff.mpr (FormatVersion.ofCode_eq_ok_iff.mpr rfl)
  rw [output, read]
  cases read : Group.ofStream (trim typed) with
  | error e => rfl
  | ok g =>
    change (formatOf target.code >>= fun format => (g.convert format).mapError .inconvertible >>= fun g' =>
      g'.stream.mapError .unwritable) = (g.streamAt target).mapError .inconvertible
    rw [known]
    change ((g.convert target).mapError CommandError.inconvertible >>= fun g' =>
      g'.stream.mapError CommandError.unwritable) = _
    cases declared : g.convert target with
    | error e =>
      rw [(Group.streamAt_eq_error_iff read).mpr (Group.convert_eq_error_iff.mp declared)]
      rfl
    | ok g' =>
      obtain ⟨carries, -⟩ := Group.convert_eq_ok_iff.mp declared
      obtain ⟨written, done⟩ := Group.streamAt_of_read read carries
      rw [done]
      rw [Group.streamAt_eq_of_convert declared] at done
      change g'.stream.mapError CommandError.unwritable = _
      rw [done]
      rfl

end Command

namespace Group

/-- A stream is brought to another format in any of four ways with the same result: it is declared at
the format as it is read, or read and then declared, or read and then written at the format, or the
command does it. Reading and declaring in one go gives the group that the two steps give. A stream that
comes of it names the format. None does if the stream is not accepted, or if it has secondary records
and the format carries none; all ways then give that error. -/
theorem conversions_agree (stream : String) (target : FormatVersion) :
    let result := ofStream stream >>= fun g => g.streamAt target
    ofStreamAt stream target = (ofStream stream >>= fun g => g.convert target) ∧
      (ofStreamAt stream target >>= Group.stream) = result ∧
      ((ofStream stream >>= fun g => g.convert target) >>= Group.stream) = result ∧
      (∀ typed, trim typed = stream → (Command.convert typed target.code).output =
        ((ofStream stream).mapError .undecodable >>= fun g => (g.streamAt target).mapError .inconvertible)) ∧
      (∀ written, result = .ok written → streamFormat written = .ok target) ∧
      ((∃ written, result = .ok written) ↔ ∃ g, ofStream stream = .ok g ∧ g.Carries target) ∧
      ∀ e, result = .error e ↔ ofStream stream = .error e ∨ ∃ g, ofStream stream = .ok g ∧
        ¬ g.Carries target ∧ e = .secondaryUnsupported target g.records.secondaryCount := by
  intro result
  have separately : ((ofStream stream >>= fun g => g.convert target) >>= Group.stream) = result := by
    rw [bind_assoc]
    simp only [convert_bind_stream]
    rfl
  refine ⟨ofStreamAt_eq stream target, (ofStreamAt_eq stream target).symm ▸ separately, separately,
    ?_, ?_, ?_, ?_⟩
  · rintro typed rfl
    exact Command.convert_output typed target
  · intro written done
    obtain ⟨g', declared, own⟩ := bind_eq_ok_iff.mp (separately.trans done)
    obtain ⟨g, -, declared⟩ := bind_eq_ok_iff.mp declared
    obtain ⟨-, rfl⟩ := convert_eq_ok_iff.mp declared
    exact streamFormat_eq own rfl
  · constructor
    · rintro ⟨written, done⟩
      obtain ⟨g, read, own⟩ := bind_eq_ok_iff.mp done
      exact ⟨g, read, (streamAt_eq_ok_iff.mp own).1.carries⟩
    · rintro ⟨g, read, carries⟩
      obtain ⟨written, own⟩ := streamAt_of_read read carries
      exact ⟨written, bind_eq_ok_iff.mpr ⟨g, read, own⟩⟩
  · intro e
    rw [bind_eq_error_iff]
    refine or_congr_right (exists_congr fun g => and_congr_right fun read => ?_)
    exact streamAt_eq_error_iff read

/-- The sample's stream without what the first format cannot carry. -/
def loweredStream : String :=
  "000100066f726465727300000000000000000000000000000000000000010000000100000001|" ++
    "00026e3100000001010002646200070000000001"

/-- All ways lead from the sample's stream to the same stream of the first format. -/
theorem sample_conversions_agree :
    (ofStreamAt sampleStream .v1 >>= Group.stream) = .ok loweredStream ∧
      ((ofStream sampleStream >>= fun g => g.convert .v1) >>= Group.stream) = .ok loweredStream ∧
      streamFormat loweredStream = .ok .v1 ∧
      trim (" " ++ sampleStream) = sampleStream ∧
      (Command.convert (" " ++ sampleStream) 1).output = .ok loweredStream := by
  obtain ⟨-, atOnce, separately, typed, format, -⟩ := conversions_agree sampleStream .v1
  have written : (ofStream sampleStream >>= fun g => g.streamAt .v1) = .ok loweredStream := by
    decide +kernel
  have trimmed : trim (" " ++ sampleStream) = sampleStream := by decide +kernel
  refine ⟨atOnce.trans written, separately.trans written, format _ written, trimmed, ?_⟩
  refine (typed _ trimmed).trans ?_
  obtain ⟨g, read, own⟩ := bind_eq_ok_iff.mp written
  rw [read]
  exact mapError_eq_ok_iff.mpr own

end Group

end Roster
